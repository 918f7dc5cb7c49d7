import ScorbitSdk.PlayerProfiles
import ScorbitSdk.LastWrites

/-!
# What the elements write

The fields of the profiles are cells, each with an index and the name of a field.
The loop over the elements writes one cell after another, and it does nothing else
but lengthen the vector.
-/

namespace ScorbitSdk

open JsonOutcome JsonNode LastWrite

namespace PlayerProfilesManager

/-! ## Fields -/

inductive ProfileField
  | player
  | preferInitials
  | id
  | username
  | name
  | initials
  | pictureUrl
  | url
  | claimDeeplink
  deriving DecidableEq

inductive FieldValue
  | number (value : Nat)
  | flag (value : Bool)
  | text (value : List Char)

def PlayerProfile.field (profile : PlayerProfile) : ProfileField → FieldValue
  | .player => .number profile.player
  | .preferInitials => .flag profile.preferInitials
  | .id => .text profile.id
  | .username => .text profile.username
  | .name => .text profile.name
  | .initials => .text profile.initials
  | .pictureUrl => .text profile.pictureUrl
  | .url => .text profile.url
  | .claimDeeplink => .text profile.claimDeeplink

def Assignment.write : Assignment → ProfileField × FieldValue
  | player number => (.player, .number number)
  | preferInitials preferred => (.preferInitials, .flag preferred)
  | id text => (.id, .text text)
  | username text => (.username, .text text)
  | name text => (.name, .text text)
  | initials text => (.initials, .text text)
  | pictureUrl text => (.pictureUrl, .text text)
  | url text => (.url, .text text)
  | claimDeeplink text => (.claimDeeplink, .text text)

theorem PlayerProfile.eq_of_field_eq {profile other : PlayerProfile}
    (same : profile.field = other.field) : profile = other := by
  have each : ∀ field, profile.field field = other.field field := congrFun same
  obtain ⟨player, preferInitials, id, username, name, initials, pictureUrl, url,
    claimDeeplink⟩ := profile
  obtain rfl := FieldValue.number.inj (each .player)
  obtain rfl := FieldValue.flag.inj (each .preferInitials)
  obtain rfl := FieldValue.text.inj (each .id)
  obtain rfl := FieldValue.text.inj (each .username)
  obtain rfl := FieldValue.text.inj (each .name)
  obtain rfl := FieldValue.text.inj (each .initials)
  obtain rfl := FieldValue.text.inj (each .pictureUrl)
  obtain rfl := FieldValue.text.inj (each .url)
  obtain rfl := FieldValue.text.inj (each .claimDeeplink)
  rfl

theorem field_apply (assignment : Assignment) (profile : PlayerProfile) :
    (assignment.apply profile).field =
      Function.update profile.field assignment.write.1 assignment.write.2 := by
  funext field
  cases assignment <;> cases field <;> rfl

/-- The fields of the profile with the index. -/
def cells (profiles : List PlayerProfile) (key : Nat × ProfileField) : FieldValue :=
  ((profiles[key.1]?).getD {}).field key.2

theorem eq_of_cells_eq {profiles others : List PlayerProfile}
    (sameLength : profiles.length = others.length)
    (same : cells profiles = cells others) : profiles = others := by
  apply List.ext_getElem sameLength
  intro index inside insideOther
  apply PlayerProfile.eq_of_field_eq
  funext field
  have sameField := congrFun same (index, field)
  simpa [cells, inside, insideOther] using sameField

/-- The profiles that a vector is lengthened by have the fields they are declared
with. -/
theorem getD_rightpad (profiles : List PlayerProfile) (size index : Nat) :
    ((profiles.rightpad size {})[index]?).getD {} = (profiles[index]?).getD {} := by
  rw [List.rightpad]
  by_cases inside : index < profiles.length
  · rw [List.getElem?_append_left inside]
  · rw [List.getElem?_append_right (Nat.not_lt.mp inside),
      List.getElem?_eq_none (Nat.not_lt.mp inside), List.getElem?_replicate]
    split <;> rfl

theorem getD_set {profiles : List PlayerProfile} {place : Nat}
    (inside : place < profiles.length) (profile : PlayerProfile) (index : Nat) :
    ((profiles.set place profile)[index]?).getD {} =
      if index = place then profile else (profiles[index]?).getD {} := by
  rw [List.getElem?_set]
  by_cases same : place = index
  · rw [if_pos same, if_pos (same ▸ inside), if_pos same.symm]
    rfl
  · rw [if_neg same, if_neg (Ne.symm same)]

theorem cells_rightpad (profiles : List PlayerProfile) (size : Nat) :
    cells (profiles.rightpad size {}) = cells profiles := by
  funext key
  rw [cells, getD_rightpad]
  rfl

theorem cells_set {profiles : List PlayerProfile} {index : Nat}
    (inside : index < profiles.length) (profile : PlayerProfile)
    (key : Nat × ProfileField) :
    cells (profiles.set index profile) key =
      if key.1 = index then profile.field key.2 else cells profiles key := by
  rw [cells, getD_set inside, apply_ite fun found => PlayerProfile.field found key.2]
  rfl

/-- The fields that assignments at an index write. -/
def writesAt (index : Nat) (assignments : List Assignment) :
    List ((Nat × ProfileField) × FieldValue) :=
  assignments.map fun assignment =>
    ((index, assignment.write.1), assignment.write.2)

theorem cells_set_foldl {profiles : List PlayerProfile} {index : Nat}
    (inside : index < profiles.length) (assignments : List Assignment)
    (profile : PlayerProfile) :
    cells (profiles.set index
        (assignments.foldl Assignment.apply profile)) =
      writeAll (cells (profiles.set index profile))
        (writesAt index assignments) := by
  induction assignments generalizing profile with
  | nil => rfl
  | cons assignment assignments ih =>
      rw [List.foldl_cons, ih]
      have first : cells (profiles.set index (assignment.apply profile)) =
          Function.update (cells (profiles.set index profile))
            (index, assignment.write.1) assignment.write.2 := by
        funext key
        rw [cells_set inside, Function.update_apply, cells_set inside, field_apply,
          Function.update_apply]
        by_cases here : key.1 = index
        · by_cases isField : key.2 = assignment.write.1
          · rw [if_pos here, if_pos isField, if_pos (Prod.ext here isField)]
          · rw [if_pos here, if_neg isField, if_pos here,
              if_neg fun same => isField (congrArg Prod.snd same)]
        · rw [if_neg here, if_neg here,
            if_neg fun same => here (congrArg Prod.fst same)]
      rw [first]
      rfl

theorem set_getD {profiles : List PlayerProfile} {index : Nat}
    (inside : index < profiles.length) :
    profiles.set index ((profiles[index]?).getD {}) = profiles := by
  rw [List.getElem?_eq_getElem inside]
  exact List.set_getElem_self inside

/-! ## What an element writes -/

/-- What is written, up to the first field that throws. -/
def written : List (JsonOutcome Assignment) → List Assignment
  | .value assignment :: reads => assignment :: written reads
  | _ => []

/-- No member that is missing is read without a check. -/
def Reached : List (JsonOutcome Assignment) → Prop
  | .value _ :: reads => Reached reads
  | .undefined :: _ => False
  | _ => True

theorem carryOut_of_reached {reads : List (JsonOutcome Assignment)}
    (reached : Reached reads) (profile : PlayerProfile) :
    carryOut profile reads =
      value ((written reads).foldl Assignment.apply profile) := by
  induction reads generalizing profile with
  | nil => rfl
  | cons read reads ih =>
      cases read with
      | value assignment => exact ih reached _
      | throws => rfl
      | undefined => exact reached.elim

theorem carryOut_of_not_reached {reads : List (JsonOutcome Assignment)}
    (notReached : ¬Reached reads) (profile : PlayerProfile) :
    carryOut profile reads = .undefined := by
  induction reads generalizing profile with
  | nil => exact absurd trivial notReached
  | cons read reads ih =>
      cases read with
      | value assignment => exact ih notReached _
      | throws => exact absurd trivial notReached
      | undefined => rfl

section Elements

variable (limit : Nat) (machineUuid : List Char)

/-- The position at which an element is entered. -/
def entered? (obj : JsonNode) : Option Nat :=
  match obj.indexAs "position" getUnsigned32 with
  | .value playerNum =>
      if 1 ≤ playerNum.toNat ∧ playerNum.toNat ≤ limit then some playerNum.toNat
      else none
  | _ => none

def elementWrites (obj : JsonNode) : List ((Nat × ProfileField) × FieldValue) :=
  match entered? limit obj with
  | some position =>
      writesAt (position - 1)
        (.player position :: written (elementReads machineUuid obj))
  | none => []

/-- The members of the element that are read without a check are there, as far as
the reading gets. -/
structure MembersPresent (obj : JsonNode) : Prop where
  position : obj.isObject = true → (obj.find? "position").isSome = true
  fields : (entered? limit obj).isSome = true →
    Reached (elementReads machineUuid obj)

end Elements

section Loop

variable {limit : Nat} {machineUuid : List Char} {obj : JsonNode}
  {profiles : List PlayerProfile}

theorem indexAs_of_not_object {Value : Type} {get : JsonNode → Option Value}
    (notObject : obj.isObject = false) (key : String) :
    obj.indexAs key get = .throws := by
  cases obj with
  | object members => cases notObject
  | _ => rfl

theorem one_le_toNat {playerNum : BitVec 32} (positive : playerNum ≠ 0) :
    1 ≤ playerNum.toNat := by
  apply Nat.one_le_iff_ne_zero.mpr
  intro isZero
  exact positive (BitVec.eq_of_toNat_eq isZero)

theorem entered?_eq_some {playerNum : BitVec 32}
    (isPosition : obj.indexAs "position" getUnsigned32 = value playerNum)
    (positive : playerNum ≠ 0) (fits : playerNum.toNat ≤ limit) :
    entered? limit obj = some playerNum.toNat := by
  rw [entered?, isPosition]
  exact if_pos ⟨one_le_toNat positive, fits⟩

theorem setProfile_of_missing (isObject : obj.isObject = true)
    (missing : obj.find? "position" = none) :
    setProfile limit machineUuid profiles obj = .undefined := by
  cases obj with
  | object members =>
      have isUndefined :
          (object members).indexAs "position" getUnsigned32 = .undefined := by
        simp only [find?] at missing
        rw [indexAs, index, missing]
        rfl
      have notSkipped : ¬(!(object members).isObject) = true := by
        rw [isObject]
        decide
      rw [setProfile, if_neg notSkipped, isUndefined]
  | _ => cases isObject

/-- The body of the loop: an element is passed over, or it is entered. -/
theorem setProfile_cases (bounded : profiles.length ≤ limit)
    (hasPosition : obj.isObject = true → (obj.find? "position").isSome = true) :
    (entered? limit obj = none ∧
      setProfile limit machineUuid profiles obj = value profiles) ∨
    ∃ position, entered? limit obj = some position ∧ 1 ≤ position ∧
      position ≤ limit ∧
      setProfile limit machineUuid profiles obj =
        (carryOut (((profiles.rightpad position {})[position - 1]?).getD {})
          (value (.player position) :: elementReads machineUuid obj)).bind
            fun profile =>
              value ((profiles.rightpad position {}).set (position - 1) profile) := by
  have isDefined : (obj.indexAs "position" getUnsigned32).IsDefined :=
    isDefined_indexAs.mpr hasPosition
  unfold setProfile
  cases isObject : obj.isObject with
  | false =>
      refine .inl ⟨?_, rfl⟩
      rw [entered?, indexAs_of_not_object isObject]
  | true =>
      have notSkipped : ¬(!true) = true := by decide
      rw [if_neg notSkipped]
      cases isPosition : obj.indexAs "position" getUnsigned32 with
      | undefined =>
          rw [isPosition] at isDefined
          exact isDefined.elim
      | throws =>
          refine .inl ⟨?_, rfl⟩
          rw [entered?, isPosition]
      | value playerNum =>
          dsimp only
          by_cases isZero : playerNum = 0
          · refine .inl ⟨?_, if_pos isZero⟩
            rw [entered?, isPosition, isZero]
            exact if_neg fun inside => Nat.not_succ_le_zero 0 inside.1
          · rw [if_neg isZero]
            by_cases tooLarge : limit < playerNum.toNat
            · refine .inl ⟨?_, if_pos ⟨bounded.trans_lt tooLarge, tooLarge⟩⟩
              rw [entered?, isPosition]
              exact if_neg fun inside => Nat.not_le_of_lt tooLarge inside.2
            · have fits := Nat.not_lt.mp tooLarge
              refine .inr ⟨playerNum.toNat,
                entered?_eq_some isPosition isZero fits,
                one_le_toNat isZero, fits, ?_⟩
              exact if_neg fun both => tooLarge both.2

theorem entered?_bounds {position : Nat}
    (isEntered : entered? limit obj = some position) :
    1 ≤ position ∧ position ≤ limit := by
  unfold entered? at isEntered
  split at isEntered
  · split at isEntered
    · next inside =>
        obtain rfl := Option.some.inj isEntered
        exact inside
    · cases isEntered
  · cases isEntered

/-- An element whose members are there: what it writes is written. -/
theorem setProfile_of_present (bounded : profiles.length ≤ limit)
    (present : MembersPresent limit machineUuid obj) :
    ∃ next, setProfile limit machineUuid profiles obj = value next ∧
      cells next = writeAll (cells profiles) (elementWrites limit machineUuid obj) ∧
      next.length = max profiles.length ((entered? limit obj).getD 0) := by
  obtain ⟨passedOver, isSame⟩ | ⟨position, isEntered, positive, fits, isNext⟩ :=
    setProfile_cases bounded present.position
  · refine ⟨profiles, isSame, ?_, ?_⟩
    · rw [elementWrites, passedOver]
      rfl
    · rw [passedOver, Option.getD_none, Nat.max_zero]
  · have reached : Reached
        (value (.player position) :: elementReads machineUuid obj) :=
      present.fields (by rw [isEntered]; rfl)
    have lengthened : (profiles.rightpad position {}).length =
        max position profiles.length :=
      List.length_rightpad ..
    have inside : position - 1 < (profiles.rightpad position {}).length := by
      rw [lengthened]
      omega
    rw [carryOut_of_reached reached] at isNext
    refine ⟨_, isNext, ?_, ?_⟩
    · rw [cells_set_foldl inside, set_getD inside, cells_rightpad, elementWrites,
        isEntered]
      rfl
    · rw [List.length_set, lengthened, isEntered, Option.getD_some, Nat.max_comm]

theorem setProfile_of_not_present (bounded : profiles.length ≤ limit)
    (notPresent : ¬MembersPresent limit machineUuid obj) :
    setProfile limit machineUuid profiles obj = .undefined := by
  by_cases hasPosition : obj.isObject = true → (obj.find? "position").isSome = true
  · obtain ⟨passedOver, _⟩ | ⟨position, isEntered, _, _, isNext⟩ :=
      @setProfile_cases limit machineUuid obj profiles bounded hasPosition
    · refine absurd ⟨hasPosition, fun isEntered => ?_⟩ notPresent
      rw [passedOver] at isEntered
      cases isEntered
    · have notReached : ¬Reached
          (value (.player position) :: elementReads machineUuid obj) :=
        fun reached => notPresent ⟨hasPosition, fun _ => reached⟩
      rw [isNext, carryOut_of_not_reached notReached]
      rfl
  · rw [Classical.not_imp, Bool.not_eq_true, Option.isSome_eq_false_iff,
      Option.isNone_iff_eq_none] at hasPosition
    exact setProfile_of_missing hasPosition.1 hasPosition.2

/-- All the elements, where none reads a member that is missing. -/
theorem setProfilesFrom_of_present {objects : List JsonNode}
    (bounded : profiles.length ≤ limit)
    (present : ∀ obj ∈ objects, MembersPresent limit machineUuid obj) :
    ∃ final, setProfilesFrom limit machineUuid profiles objects = value final ∧
      cells final = writeAll (cells profiles)
        (objects.flatMap (elementWrites limit machineUuid)) ∧
      ∀ size, final.length ≤ size ↔ profiles.length ≤ size ∧
        ∀ obj ∈ objects, ∀ position, entered? limit obj = some position →
          position ≤ size := by
  induction objects generalizing profiles with
  | nil => exact ⟨profiles, rfl, rfl, by simp⟩
  | cons obj objects ih =>
      rw [List.forall_mem_cons] at present
      obtain ⟨next, isNext, nextCells, nextLength⟩ :=
        setProfile_of_present bounded present.1
      have nextLength_le : ∀ size, next.length ≤ size ↔ profiles.length ≤ size ∧
          ∀ position, entered? limit obj = some position → position ≤ size := by
        intro size
        rw [nextLength, Nat.max_le]
        cases entered? limit obj <;> simp
      have nextBounded : next.length ≤ limit :=
        (nextLength_le limit).mpr
          ⟨bounded, fun _ isEntered => (entered?_bounds isEntered).2⟩
      obtain ⟨final, isFinal, finalCells, finalLength⟩ := ih nextBounded present.2
      refine ⟨final, ?_, ?_, ?_⟩
      · rw [setProfilesFrom, isNext]
        exact isFinal
      · rw [finalCells, nextCells, List.flatMap_cons, writeAll_append]
      · intro size
        rw [finalLength, nextLength_le, List.forall_mem_cons, and_assoc]

theorem setProfilesFrom_of_not_present {objects : List JsonNode}
    (bounded : profiles.length ≤ limit)
    (notPresent : ∃ obj ∈ objects, ¬MembersPresent limit machineUuid obj) :
    setProfilesFrom limit machineUuid profiles objects = .undefined := by
  induction objects generalizing profiles with
  | nil =>
      obtain ⟨_, member, _⟩ := notPresent
      cases member
  | cons obj objects ih =>
      rw [setProfilesFrom]
      by_cases present : MembersPresent limit machineUuid obj
      · obtain ⟨next, isNext, _, nextLength⟩ := setProfile_of_present bounded present
        have nextBounded : next.length ≤ limit := by
          rw [nextLength]
          apply Nat.max_le.mpr
          refine ⟨bounded, ?_⟩
          cases isEntered : entered? limit obj with
          | none => exact Nat.zero_le limit
          | some position => exact (entered?_bounds isEntered).2
        have later : ∃ obj ∈ objects, ¬MembersPresent limit machineUuid obj := by
          rw [List.exists_mem_cons_iff] at notPresent
          exact notPresent.resolve_left fun notHere => notHere present
        rw [isNext]
        exact ih nextBounded later
      · rw [setProfile_of_not_present bounded present]
        rfl

end Loop

end PlayerProfilesManager

end ScorbitSdk
