import Mathlib.Data.List.Basic

/-!
# Paths and symbolic links

A path is followed part by part from a location in a tree of directories, and a
symbolic link on the way is replaced by its target, up to a number of links.
Beside this stands a walk that knows its way only below a directory and stops
where it would leave it.
-/

namespace ScorbitSdk

/-- The names on the way from the root. -/
abbrev Location := List (List Char)

structure Path where
  absolute : Bool := false
  parts : List (List Char)
  deriving DecidableEq

def dotDot : List Char :=
  ['.', '.']

namespace Path

/-- Empty parts and single dots lead nowhere else. -/
def ofText (text : List Char) : Path where
  absolute := text.head? = some '/'
  parts := (text.splitOn '/').filter fun part => part ≠ [] ∧ part ≠ ['.']

/-- Where a path begins, in a directory that relative paths are relative to. -/
def start (path : Path) (directory : Location) : Location :=
  if path.absolute then [] else directory

end Path

/-- The targets of the symbolic links, by their locations. -/
abbrev Links := Location → Option Path

/-- How far a path leads without a link. -/
inductive Advance
  | reached (location : Location)
  | met (directory : Location) (target : Path) (rest : List (List Char))

/-- How far a path leads below a directory, without a link or with links, of which
`left` more may be followed. -/
inductive Walk
  | inside (below : Location) (left : Nat)
  | outside (location : Location) (rest : List (List Char)) (left : Nat)
  | met (below : Location) (target : Path) (rest : List (List Char)) (left : Nat)
  | tooMany

/-- The location is below the directory, and not that of the directory. -/
def StrictlyBelow (directory location : Location) : Prop :=
  ∃ below, below ≠ [] ∧ location = directory ++ below

section Following

variable (links : Links)

def advance : Location → List (List Char) → Advance
  | location, [] => .reached location
  | location, part :: rest =>
      if part = dotDot then advance location.dropLast rest
      else
        match links (location ++ [part]) with
        | none => advance (location ++ [part]) rest
        | some target => .met location target rest

/-- The directory that a path leads to, and how many links may be followed yet. -/
def follow : Nat → Location → List (List Char) → Option (Location × Nat)
  | 0, location, parts =>
      match advance links location parts with
      | .reached directory => some (directory, 0)
      | .met _ _ _ => none
  | left + 1, location, parts =>
      match advance links location parts with
      | .reached directory => some (directory, left + 1)
      | .met directory target rest =>
          follow left (target.start directory) (target.parts ++ rest)

/-- The location with the given name in a directory. -/
def place (directory : Location) (last : List Char) : Location :=
  if last = dotDot then directory.dropLast else directory ++ [last]

/-- The location that a path names; its last part is not followed. -/
def locate (left : Nat) (directory : Location) (path : Path) : Option Location :=
  match path.parts.getLast? with
  | none => some (path.start directory)
  | some last =>
      (follow links left (path.start directory) path.parts.dropLast).map
        fun (parent, _) => place parent last

/-- The way below the directory up to the first link, or until it is left. -/
def advanceBelow (directory : Location) (left : Nat) :
    Location → List (List Char) → Walk
  | below, [] => .inside below left
  | below, part :: rest =>
      if part = dotDot then
        if below = [] then .outside directory.dropLast rest left
        else advanceBelow directory left below.dropLast rest
      else
        match links (directory ++ below ++ [part]) with
        | none => advanceBelow directory left (below ++ [part]) rest
        | some target => .met below target rest left

/-- The way below the directory, until it is left by `..` or a link. -/
def walkBelow (directory : Location) : Nat → Location → List (List Char) → Walk
  | 0, below, parts =>
      match advanceBelow links directory 0 below parts with
      | .met _ _ _ _ => .tooMany
      | walk => walk
  | left + 1, below, parts =>
      match advanceBelow links directory (left + 1) below parts with
      | .met below target rest _ =>
          if target.absolute then .outside [] (target.parts ++ rest) left
          else walkBelow directory left below (target.parts ++ rest)
      | walk => walk

/-- The parts lead to a location below the directory, without leaving it or after
having come back. -/
def LeadsBelow (left : Nat) (directory : Location) (parts : List (List Char)) :
    Prop :=
  match parts.getLast? with
  | none => False
  | some last =>
      match walkBelow links directory left [] parts.dropLast with
      | .inside below _ => last = dotDot → 2 ≤ below.length
      | .outside location rest left =>
          ∀ parent left', follow links left location rest = some (parent, left') →
            StrictlyBelow directory (place parent last)
      | _ => True

end Following

variable {links : Links}

theorem advance_cons (location : Location) (part : List Char)
    (rest : List (List Char)) :
    advance links location (part :: rest) =
      if part = dotDot then advance links location.dropLast rest
      else
        match links (location ++ [part]) with
        | none => advance links (location ++ [part]) rest
        | some target => .met location target rest :=
  rfl

theorem advance_append (location : Location) (first second : List (List Char)) :
    advance links location (first ++ second) =
      match advance links location first with
      | .reached directory => advance links directory second
      | .met directory target rest => .met directory target (rest ++ second) := by
  induction first generalizing location with
  | nil => rfl
  | cons part first ih =>
      simp only [List.cons_append, advance]
      split_ifs with up
      · exact ih _
      · cases links (location ++ [part]) with
        | none => exact ih _
        | some target => rfl

/-- What is behind a directory is followed from it. -/
theorem follow_append (left : Nat) (location : Location)
    (first second : List (List Char)) :
    follow links left location (first ++ second) =
      (follow links left location first).bind
        fun (directory, left') => follow links left' directory second := by
  induction left generalizing location first with
  | zero =>
      rw [follow, follow, advance_append]
      cases isFirst : advance links location first with
      | reached directory => simp [follow]
      | met directory target rest => rfl
  | succ left ih =>
      rw [follow, follow, advance_append]
      cases isFirst : advance links location first with
      | reached directory => simp [follow]
      | met directory target rest =>
          simp only
          rw [← List.append_assoc, ih]

/-- How far a path leads decides where it is followed to. -/
theorem follow_congr {location other : Location} {parts rest : List (List Char)}
    (same : advance links location parts = advance links other rest)
    (left : Nat) :
    follow links left location parts = follow links left other rest := by
  cases left <;> rw [follow, follow, same]

/-- The walk below a directory is the way from the root, as far as it goes. -/
theorem advance_below (directory : Location) (left : Nat) (below : Location)
    (parts : List (List Char)) :
    match advanceBelow links directory left below parts with
    | .inside inner left' => left' = left ∧
        advance links (directory ++ below) parts = .reached (directory ++ inner)
    | .outside location rest left' => left' = left ∧
        advance links (directory ++ below) parts = advance links location rest
    | .met inner target rest left' => left' = left ∧
        advance links (directory ++ below) parts =
          .met (directory ++ inner) target rest
    | .tooMany => False := by
  induction parts generalizing below with
  | nil => exact ⟨rfl, rfl⟩
  | cons part rest ih =>
      unfold advanceBelow
      rw [advance_cons]
      by_cases up : part = dotDot
      · rw [if_pos up, if_pos up]
        by_cases top : below = []
        · subst top
          rw [if_pos rfl, List.append_nil]
          exact ⟨rfl, rfl⟩
        · rw [if_neg top, List.dropLast_append_of_ne_nil top]
          exact ih below.dropLast
      · rw [if_neg up, if_neg up]
        cases isLink : links (directory ++ below ++ [part]) with
        | none =>
            have later := ih (below ++ [part])
            simp only [← List.append_assoc] at later
            exact later
        | some target => exact ⟨rfl, rfl⟩

/-- Where the walk stays below the directory it leads there, and where it leaves
the directory the rest of the path is followed from outside. -/
theorem follow_below (directory : Location) (left : Nat) (below : Location)
    (parts : List (List Char)) :
    follow links left (directory ++ below) parts =
      match walkBelow links directory left below parts with
      | .inside inner left' => some (directory ++ inner, left')
      | .outside location rest left' => follow links left' location rest
      | _ => none := by
  induction left generalizing below parts with
  | zero =>
      have way := @advance_below links directory 0 below parts
      unfold walkBelow
      cases isWay : advanceBelow links directory 0 below parts with
      | inside inner left' =>
          simp only [isWay] at way ⊢
          rw [follow, way.2, way.1]
      | outside location rest left' =>
          simp only [isWay] at way ⊢
          rw [way.1, follow_congr way.2]
      | met inner target rest left' =>
          simp only [isWay] at way ⊢
          rw [follow, way.2]
      | tooMany => simp only [isWay] at way
  | succ left ih =>
      have way := @advance_below links directory (left + 1) below parts
      unfold walkBelow
      cases isWay : advanceBelow links directory (left + 1) below parts with
      | inside inner left' =>
          simp only [isWay] at way ⊢
          rw [follow, way.2, way.1]
      | outside location rest left' =>
          simp only [isWay] at way ⊢
          rw [way.1, follow_congr way.2]
      | met inner target rest left' =>
          simp only [isWay] at way ⊢
          rw [follow, way.2]
          dsimp only
          split_ifs with absolute
          · rw [Path.start, if_pos absolute]
          · rw [Path.start, if_neg absolute]
            exact ih inner (target.parts ++ rest)
      | tooMany => simp only [isWay] at way

theorem strictlyBelow_place_iff (directory below : Location) (last : List Char) :
    StrictlyBelow directory (place (directory ++ below) last) ↔
      (last = dotDot → 2 ≤ below.length) := by
  unfold place StrictlyBelow
  split_ifs with up
  · rw [forall_prop_of_true up]
    constructor
    · rintro ⟨inner, nonempty, same⟩
      have length := congrArg List.length same
      have positive := List.length_pos_iff.mpr nonempty
      simp only [List.length_dropLast, List.length_append] at length
      omega
    · intro atLeast
      have nonempty : below ≠ [] := List.length_pos_iff.mp (by omega)
      refine ⟨below.dropLast, ?_, List.dropLast_append_of_ne_nil nonempty⟩
      apply List.length_pos_iff.mp
      rw [List.length_dropLast]
      omega
  · exact iff_of_true ⟨below ++ [last], by simp, by simp⟩ (fun isUp => absurd isUp up)

/-- What a path behind that of a directory names is below the directory exactly
if the parts behind lead below it. -/
theorem strictlyBelow_locate_iff {limit left : Nat} {cwd directory : Location}
    {path : Path}
    (found : follow links limit (path.start cwd) path.parts =
      some (directory, left))
    {parts : List (List Char)} (nonempty : parts ≠ []) :
    (∀ location, locate links limit cwd
        { absolute := path.absolute, parts := path.parts ++ parts } =
          some location → StrictlyBelow directory location) ↔
      LeadsBelow links left directory parts := by
  obtain ⟨before, last, rfl⟩ : ∃ before last, parts = before ++ [last] :=
    ⟨_, _, (List.dropLast_append_getLast nonempty).symm⟩
  have located : locate links limit cwd
      { absolute := path.absolute, parts := path.parts ++ (before ++ [last]) } =
        (follow links left directory before).map
          fun (parent, _) => place parent last := by
    have followed := @follow_append links limit (path.start cwd)
      path.parts before
    rw [found, Option.bind_some] at followed
    unfold locate
    rw [← List.append_assoc, List.getLast?_concat, List.dropLast_concat]
    exact congrArg (Option.map fun (parent, _) => place parent last) followed
  rw [located]
  unfold LeadsBelow
  rw [List.getLast?_concat, List.dropLast_concat]
  have way := @follow_below links directory left [] before
  rw [List.append_nil] at way
  rw [way]
  cases walkBelow links directory left [] before with
  | inside below left' =>
      simp only [Option.map_some, Option.some.injEq, forall_eq']
      exact strictlyBelow_place_iff directory below last
  | outside location rest left' =>
      simp only [Option.map_eq_some_iff, Prod.exists]
      constructor
      · exact fun holds parent more isParent =>
          holds _ ⟨parent, more, isParent, rfl⟩
      · rintro holds _ ⟨parent, more, isParent, rfl⟩
        exact holds parent more isParent
  | met => simp
  | tooMany => simp

/-! ## Paths without links on the way -/

/-- None of the parts goes up, and there is no link on the way. -/
def PlainWay (links : Links) (location : Location) (parts : List (List Char)) :
    Prop :=
  dotDot ∉ parts ∧
    ∀ way, way ≠ [] → way <+: parts → links (location ++ way) = none

theorem PlainWay.cons {location : Location} {part : List Char}
    {rest : List (List Char)} (plain : PlainWay links location (part :: rest)) :
    part ≠ dotDot ∧ links (location ++ [part]) = none ∧
      PlainWay links (location ++ [part]) rest := by
  obtain ⟨notUp, noLinks⟩ := plain
  rw [List.mem_cons, not_or] at notUp
  refine ⟨Ne.symm notUp.1, noLinks [part] (by simp) (by simp), notUp.2, ?_⟩
  intro way _ isWay
  rw [List.append_assoc]
  exact noLinks ([part] ++ way) (by simp) (List.cons_prefix_cons.mpr ⟨rfl, isWay⟩)

theorem advance_plain {location : Location} {parts : List (List Char)}
    (plain : PlainWay links location parts) :
    advance links location parts = .reached (location ++ parts) := by
  induction parts generalizing location with
  | nil => simp [advance]
  | cons part rest ih =>
      obtain ⟨notUp, noLink, later⟩ := plain.cons
      rw [advance_cons, if_neg notUp, noLink]
      simp [ih later]

theorem follow_plain {location : Location} {parts : List (List Char)}
    (plain : PlainWay links location parts) (left : Nat) :
    follow links left location parts = some (location ++ parts, left) := by
  cases left <;> rw [follow, advance_plain plain]

theorem advanceBelow_plain {directory : Location} (left : Nat) {below : Location}
    {parts : List (List Char)} (plain : PlainWay links (directory ++ below) parts) :
    advanceBelow links directory left below parts =
      .inside (below ++ parts) left := by
  induction parts generalizing below with
  | nil => simp [advanceBelow]
  | cons part rest ih =>
      obtain ⟨notUp, noLink, later⟩ := plain.cons
      rw [List.append_assoc] at later
      rw [advanceBelow, if_neg notUp, noLink]
      simp [ih later]

/-- A name that does not go up, without links on the way, leads below. -/
theorem leadsBelow_of_plain {directory : Location} (left : Nat)
    {parts : List (List Char)} (nonempty : parts ≠ []) (notUp : dotDot ∉ parts)
    (plain : PlainWay links directory parts.dropLast) :
    LeadsBelow links left directory parts := by
  unfold LeadsBelow
  rw [List.getLast?_eq_some_getLast nonempty]
  have plainBelow : PlainWay links (directory ++ []) parts.dropLast := by
    rwa [List.append_nil]
  have walked : walkBelow links directory left [] parts.dropLast =
      .inside parts.dropLast left := by
    cases left <;> rw [walkBelow, advanceBelow_plain _ plainBelow,
      List.nil_append]
  rw [walked]
  intro isUp
  exact absurd (isUp ▸ List.getLast_mem nonempty) notUp

end ScorbitSdk
