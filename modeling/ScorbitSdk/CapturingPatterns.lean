import Mathlib.Data.List.Basic

/-!
# Regular expressions with groups

A beginning of a text is matched in several ways, which are tried one after
another: alternatives from the left, a repetition as often as it goes.  The text
that a group has matched is kept under the number of the group.
-/

namespace ScorbitSdk

inductive Pattern
  | empty
  | one (accepts : Char → Bool)
  | seq (first second : Pattern)
  | alt (first second : Pattern)
  | star (repeated : Pattern)
  | group (number : Nat) (inner : Pattern)

/-- What the groups have matched, the latest first. -/
abbrev Captures := List (Nat × List Char)

namespace Pattern

def literal : List Char → Pattern
  | [] => empty
  | c :: text => seq (one (· = c)) (literal text)

def inOrder : List Pattern → Pattern
  | [] => empty
  | first :: others => seq first (inOrder others)

def plus (repeated : Pattern) : Pattern :=
  seq repeated (star repeated)

def optional (inner : Pattern) : Pattern :=
  alt inner empty

/-- `\d` -/
def digit : Pattern :=
  one Char.isDigit

/-- `\w` -/
def wordChar : Pattern :=
  one fun c => c.isAlphanum || c = '_'

/-- `.` -/
def anyChar : Pattern :=
  one fun c => c ≠ '\n' && c ≠ '\r'

/-- A repetition, each pass of which has to get further. -/
def repeats (attempt : List Char → Captures → List (List Char × Captures)) :
    Nat → List Char → Captures → List (List Char × Captures)
  | 0, text, before => [(text, before)]
  | left + 1, text, before =>
      ((attempt text before).filter fun way => way.1.length < text.length).flatMap
        (fun way => repeats attempt left way.1 way.2) ++ [(text, before)]

/-- What is left of the text, and the groups then. -/
def attempts : Pattern → List Char → Captures → List (List Char × Captures)
  | empty, text, before => [(text, before)]
  | one accepts, text, before =>
      match text with
      | [] => []
      | c :: rest => if accepts c then [(rest, before)] else []
  | seq first second, text, before =>
      (attempts first text before).flatMap fun way => attempts second way.1 way.2
  | alt first second, text, before =>
      attempts first text before ++ attempts second text before
  | star repeated, text, before =>
      repeats (attempts repeated) text.length text before
  | group number inner, text, before =>
      (attempts inner text before).map fun way =>
        (way.1, (number, text.take (text.length - way.1.length)) :: way.2)

/-- `regex_match` -/
def fullMatch (pattern : Pattern) (text : List Char) : Option Captures :=
  ((pattern.attempts text []).find? (·.1 = [])).map Prod.snd

/-- A text is matched, and the groups are as they are then. -/
inductive Matches : Pattern → List Char → Captures → Captures → Prop
  | empty (groups : Captures) : Matches .empty [] groups groups
  | one {accepts : Char → Bool} {c : Char} (groups : Captures) :
      accepts c = true → Matches (.one accepts) [c] groups groups
  | seq {first second : Pattern} {left right : List Char}
      {before between after : Captures} :
      Matches first left before between → Matches second right between after →
        Matches (.seq first second) (left ++ right) before after
  | left {first second : Pattern} {text : List Char} {before after : Captures} :
      Matches first text before after → Matches (.alt first second) text before after
  | right {first second : Pattern} {text : List Char} {before after : Captures} :
      Matches second text before after →
        Matches (.alt first second) text before after
  | stop {repeated : Pattern} (groups : Captures) :
      Matches (.star repeated) [] groups groups
  | again {repeated : Pattern} {left right : List Char}
      {before between after : Captures} :
      Matches repeated left before between →
        Matches (.star repeated) right between after →
          Matches (.star repeated) (left ++ right) before after
  | group {number : Nat} {inner : Pattern} {text : List Char}
      {before after : Captures} :
      Matches inner text before after →
        Matches (.group number inner) text before ((number, text) :: after)

/-- There is no group in the pattern. -/
def GroupFree : Pattern → Prop
  | empty => True
  | one _ => True
  | seq first second => GroupFree first ∧ GroupFree second
  | alt first second => GroupFree first ∧ GroupFree second
  | star repeated => GroupFree repeated
  | group _ _ => False

/-- Every way that is tried is a match of what it has used. -/
def Sound (pattern : Pattern)
    (attempt : List Char → Captures → List (List Char × Captures)) : Prop :=
  ∀ text before rest after, (rest, after) ∈ attempt text before →
    ∃ used, text = used ++ rest ∧ pattern.Matches used before after

theorem sound_repeats {repeated : Pattern}
    {attempt : List Char → Captures → List (List Char × Captures)}
    (sound : repeated.Sound attempt) (left : Nat) :
    (star repeated).Sound (repeats attempt left) := by
  induction left with
  | zero =>
      intro text before rest after way
      obtain ⟨rfl, rfl⟩ := Prod.mk.inj (List.mem_singleton.mp way)
      exact ⟨[], rfl, .stop _⟩
  | succ left ih =>
      intro text before rest after way
      rw [repeats] at way
      rcases List.mem_append.mp way with again | stops
      · obtain ⟨⟨between, groups⟩, first, next⟩ := List.mem_flatMap.mp again
        obtain ⟨used, rfl, isMatch⟩ :=
          sound text before between groups (List.mem_of_mem_filter first)
        obtain ⟨more, rfl, others⟩ := ih between groups rest after next
        exact ⟨used ++ more, (List.append_assoc _ _ _).symm,
          .again isMatch others⟩
      · obtain ⟨rfl, rfl⟩ := Prod.mk.inj (List.mem_singleton.mp stops)
        exact ⟨[], rfl, .stop _⟩

theorem sound_attempts (pattern : Pattern) : pattern.Sound pattern.attempts := by
  induction pattern with
  | empty =>
      intro text before rest after way
      obtain ⟨rfl, rfl⟩ := Prod.mk.inj (List.mem_singleton.mp way)
      exact ⟨[], rfl, .empty _⟩
  | one accepts =>
      intro text before rest after way
      cases text with
      | nil => cases way
      | cons c text =>
          rw [attempts] at way
          split at way
          · next accepted =>
              obtain ⟨rfl, rfl⟩ := Prod.mk.inj (List.mem_singleton.mp way)
              exact ⟨[c], rfl, .one _ accepted⟩
          · cases way
  | seq first second firstSound secondSound =>
      intro text before rest after way
      obtain ⟨⟨between, groups⟩, firstWay, secondWay⟩ := List.mem_flatMap.mp way
      obtain ⟨used, rfl, isMatch⟩ := firstSound _ _ _ _ firstWay
      obtain ⟨more, rfl, others⟩ := secondSound _ _ _ _ secondWay
      exact ⟨used ++ more, (List.append_assoc _ _ _).symm, .seq isMatch others⟩
  | alt first second firstSound secondSound =>
      intro text before rest after way
      rcases List.mem_append.mp way with firstWay | secondWay
      · obtain ⟨used, isText, isMatch⟩ := firstSound _ _ _ _ firstWay
        exact ⟨used, isText, .left isMatch⟩
      · obtain ⟨used, isText, isMatch⟩ := secondSound _ _ _ _ secondWay
        exact ⟨used, isText, .right isMatch⟩
  | star repeated sound =>
      intro text before rest after way
      exact sound_repeats sound text.length text before rest after way
  | group number inner sound =>
      intro text before rest after way
      obtain ⟨⟨innerRest, groups⟩, innerWay, isWay⟩ := List.mem_map.mp way
      obtain ⟨rfl, rfl⟩ := Prod.mk.inj isWay
      obtain ⟨used, rfl, isMatch⟩ := sound _ _ _ _ innerWay
      have isUsed : (used ++ innerRest).take
          ((used ++ innerRest).length - innerRest.length) = used := by
        rw [List.length_append, Nat.add_sub_cancel, List.take_left]
      dsimp only
      rw [isUsed]
      exact ⟨used, rfl, .group isMatch⟩

theorem matches_of_fullMatch {pattern : Pattern} {text : List Char}
    {groups : Captures} (found : pattern.fullMatch text = some groups) :
    pattern.Matches text [] groups := by
  obtain ⟨⟨rest, after⟩, isFound, rfl⟩ := Option.map_eq_some_iff.mp found
  have isEnd : rest = [] := by
    simpa using List.find?_some isFound
  obtain ⟨used, isText, isMatch⟩ :=
    sound_attempts pattern _ _ _ _ (List.mem_of_find?_eq_some isFound)
  rw [isEnd, List.append_nil] at isText
  rwa [isText]

variable {text : List Char} {before after : Captures}

theorem Matches.literal {letters : List Char}
    (isMatch : (literal letters).Matches text before after) :
    text = letters ∧ after = before := by
  induction letters generalizing text before with
  | nil =>
      cases isMatch
      exact ⟨rfl, rfl⟩
  | cons c letters ih =>
      obtain _ | _ | ⟨first, others⟩ := isMatch
      obtain _ | ⟨_, same⟩ := first
      obtain ⟨rfl, rfl⟩ := ih others
      exact ⟨by rw [of_decide_eq_true same]; rfl, rfl⟩

theorem Matches.inOrder_cons {first : Pattern} {others : List Pattern}
    (isMatch : (inOrder (first :: others)).Matches text before after) :
    ∃ used rest between, text = used ++ rest ∧
      first.Matches used before between ∧
        (inOrder others).Matches rest between after := by
  obtain _ | _ | ⟨first, others⟩ := isMatch
  exact ⟨_, _, _, rfl, first, others⟩

theorem Matches.inOrder_nil (isMatch : (inOrder []).Matches text before after) :
    text = [] ∧ after = before := by
  cases isMatch
  exact ⟨rfl, rfl⟩

theorem Matches.of_group {number : Nat} {inner : Pattern}
    (isMatch : (Pattern.group number inner).Matches text before after) :
    ∃ groups, inner.Matches text before groups ∧
      after = (number, text) :: groups := by
  cases isMatch with
  | group inside => exact ⟨_, inside, rfl⟩

theorem Matches.of_alt {first second : Pattern}
    (isMatch : (alt first second).Matches text before after) :
    first.Matches text before after ∨ second.Matches text before after := by
  cases isMatch with
  | left isMatch => exact .inl isMatch
  | right isMatch => exact .inr isMatch

theorem Matches.of_groupFree {pattern : Pattern}
    (isMatch : pattern.Matches text before after) (free : pattern.GroupFree) :
    after = before := by
  induction isMatch with
  | empty groups => rfl
  | one groups accepted => rfl
  | seq _ _ first second => rw [second free.2, first free.1]
  | left _ first => exact first free.1
  | right _ second => exact second free.2
  | stop groups => rfl
  | again _ _ pass others => rw [others free, pass free]
  | group _ _ => exact absurd free id

end Pattern

end ScorbitSdk
