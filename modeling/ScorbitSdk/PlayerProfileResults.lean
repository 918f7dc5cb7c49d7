import ScorbitSdk.PlayerProfileWrites

/-!
# When the profiles are those of the well-formed elements

An element that is well-formed writes all of its own fields and no others.  What
goes wrong comes from the other elements, which write some fields before they are
found to be malformed, and from elements that are at a position in turn.
-/

namespace ScorbitSdk

open JsonOutcome JsonNode LastWrite

namespace PlayerProfilesManager

/-! ## The elements that are well-formed -/

theorem position?_bounds {obj : JsonNode} {position : Nat}
    (isPosition : position? obj = some position) :
    1 ≤ position ∧ position < 2 ^ 32 := by
  rw [position?, Option.filter_eq_some_iff] at isPosition
  simpa using isPosition.2

theorem indexAs_of_position? {obj : JsonNode} {position : Nat}
    (isPosition : position? obj = some position) :
    ∃ playerNum : BitVec 32, playerNum.toNat = position ∧
      obj.indexAs "position" getUnsigned32 = value playerNum := by
  have bounds := position?_bounds isPosition
  rw [position?, Option.filter_eq_some_iff, Option.bind_eq_some_iff] at isPosition
  obtain ⟨⟨found, isFound, isNatural⟩, _⟩ := isPosition
  obtain ⟨bits, isBits, _, narrowed⟩ := natural?_bits isNatural
  refine ⟨bits.setWidth 32, ?_, ?_⟩
  · rw [BitVec.toNat_setWidth, isBits, Nat.mod_eq_of_lt bounds.2]
  · rw [indexAs_eq_value_iff, isFound, Option.bind_some, narrowed]

theorem entered?_of_position? {limit : Nat} {obj : JsonNode} {position : Nat}
    (isPosition : position? obj = some position) (fits : position ≤ limit) :
    entered? limit obj = some position := by
  obtain ⟨playerNum, rfl, isRead⟩ := indexAs_of_position? isPosition
  rw [entered?, isRead]
  exact if_pos ⟨(position?_bounds isPosition).1, fits⟩

theorem readText_of_textOf {player : JsonNode} {key : String} {text : List Char}
    (isText : textOf player key = some text) (field : List Char → Assignment) :
    readText player key field = value (field text) := by
  rw [readText, indexAs_eq_value_iff.mpr isText]
  rfl

theorem readPreferInitials_of {player : JsonNode} {preferred : Bool}
    (isPreferred : preferInitials? player = some preferred) :
    readPreferInitials player = value (.preferInitials preferred) := by
  unfold preferInitials? at isPreferred
  unfold readPreferInitials
  cases isFound : player.find? "prefer_initials" with
  | none =>
      rw [isFound] at isPreferred
      obtain rfl := Option.some.inj isPreferred
      rfl
  | some found =>
      rw [isFound] at isPreferred
      dsimp only at isPreferred ⊢
      rw [isPreferred]
      rfl

/-- A profile that assignments make up, of which none at a position is missed. -/
def MadeOf (profile : PlayerProfile) (position : Nat)
    (assignments : List Assignment) : Prop :=
  assignments.foldl Assignment.apply { player := position } = profile

theorem claimedProfile?_made {player : JsonNode} {position : Nat}
    {profile : PlayerProfile}
    (isProfile : claimedProfile? player position = some profile) :
    MadeOf profile position (written (playerReads player)) := by
  simp only [claimedProfile?, Option.bind_eq_bind, Option.bind_eq_some_iff]
    at isProfile
  obtain ⟨id, isId, preferInitials, isPreferred, username, isUsername, name, isName,
    initials, isInitials, url, isUrl, isProfile⟩ := isProfile
  obtain rfl := Option.some.inj isProfile
  rw [MadeOf, playerReads, readText_of_textOf isId, readPreferInitials_of isPreferred,
    readText_of_textOf isUsername, readText_of_textOf isName,
    readText_of_textOf isInitials, readText_of_textOf isUrl, readAvatar]
  rw [textOf]
  cases (player.find? "avatar").bind getString <;> rfl

theorem unclaimedProfile?_made {machineUuid : List Char} {obj : JsonNode}
    {position : Nat} {profile : PlayerProfile}
    (isProfile : unclaimedProfile? machineUuid obj position = some profile) :
    MadeOf profile position (written (scoreIdReads machineUuid obj)) := by
  simp only [unclaimedProfile?, Option.bind_eq_bind, Option.bind_eq_some_iff]
    at isProfile
  obtain ⟨scoreId, ⟨found, isFound, isNatural⟩, isProfile⟩ := isProfile
  obtain rfl := Option.some.inj isProfile
  obtain ⟨bits, rfl, isBits, _⟩ := natural?_bits isNatural
  have isRead : obj.indexAs "id" getUnsigned64 = value bits := by
    rw [indexAs_eq_value_iff, isFound, Option.bind_some, isBits]
  rw [scoreIdReads, isRead]
  rfl

theorem ownProfile?_made {machineUuid : List Char} {obj : JsonNode}
    {own : Nat × PlayerProfile} (isOwn : ownProfile? machineUuid obj = some own) :
    position? obj = some own.1 ∧
      MadeOf own.2 own.1 (written (elementReads machineUuid obj)) := by
  unfold ownProfile? at isOwn
  unfold elementReads
  cases isPlayer : playerOf obj with
  | none =>
      simp only [isPlayer, Option.bind_eq_bind, Option.bind_eq_some_iff] at isOwn
      obtain ⟨position, isPosition, profile, isProfile, isOwn⟩ := isOwn
      obtain rfl := Option.some.inj isOwn
      exact ⟨isPosition, unclaimedProfile?_made isProfile⟩
  | some player =>
      simp only [isPlayer, Option.bind_eq_bind, Option.bind_eq_some_iff] at isOwn
      obtain ⟨position, isPosition, profile, isProfile, isOwn⟩ := isOwn
      obtain rfl := Option.some.inj isOwn
      exact ⟨isPosition, claimedProfile?_made isProfile⟩

/-! ## The profiles that are expected -/

/-- The fields at a position, if only the well-formed elements count. -/
def ownAt (owns : List (Nat × PlayerProfile)) (position : Nat) : PlayerProfile :=
  writeAll (fun _ => {}) owns position

theorem getD_place {profiles : List PlayerProfile} {own : Nat × PlayerProfile}
    (positive : 1 ≤ own.1) (index : Nat) :
    ((place profiles own)[index]?).getD {} =
      if index + 1 = own.1 then own.2 else (profiles[index]?).getD {} := by
  have inside : own.1 - 1 < (profiles.rightpad own.1 {}).length := by
    rw [List.length_rightpad]
    omega
  have sameIndex : index = own.1 - 1 ↔ index + 1 = own.1 := by omega
  rw [place, getD_set inside, getD_rightpad]
  exact if_congr sameIndex rfl rfl

/-- The profiles with the indices are those with the positions. -/
theorem getD_foldl_place {owns : List (Nat × PlayerProfile)}
    (positive : ∀ own ∈ owns, 1 ≤ own.1) {profiles : List PlayerProfile}
    {before : Nat → PlayerProfile}
    (same : ∀ index, (profiles[index]?).getD {} = before (index + 1)) (index : Nat) :
    ((owns.foldl place profiles)[index]?).getD {} =
      writeAll before owns (index + 1) := by
  induction owns generalizing profiles before with
  | nil => exact same index
  | cons own owns ih =>
      rw [List.forall_mem_cons] at positive
      rw [List.foldl_cons, writeAll_cons]
      apply ih positive.2
      intro index
      rw [getD_place positive.1, Function.update_apply, same]

theorem length_foldl_place_le {owns : List (Nat × PlayerProfile)}
    {profiles : List PlayerProfile} (size : Nat) :
    (owns.foldl place profiles).length ≤ size ↔
      profiles.length ≤ size ∧ ∀ own ∈ owns, own.1 ≤ size := by
  induction owns generalizing profiles with
  | nil => simp
  | cons own owns ih =>
      rw [List.foldl_cons, ih, List.forall_mem_cons, place, List.length_set,
        List.length_rightpad, Nat.max_le]
      tauto

theorem field_foldl_of_unwritten {assignments : List Assignment}
    {field : ProfileField}
    (unwritten : ∀ assignment ∈ assignments, assignment.write.1 ≠ field)
    (profile : PlayerProfile) :
    (assignments.foldl Assignment.apply profile).field field =
      profile.field field := by
  induction assignments generalizing profile with
  | nil => rfl
  | cons assignment assignments ih =>
      rw [List.forall_mem_cons] at unwritten
      rw [List.foldl_cons, ih unwritten.2, field_apply,
        Function.update_of_ne unwritten.1.symm]

section Result

variable (limit : Nat) (machineUuid : List Char) (objects : List JsonNode)

/-- No element makes the vector longer than a well-formed one does, and what is
written last to a field is what the last well-formed element at the position has
there, or what the field is declared with if there is none. -/
structure WritesOwnFields : Prop where
  present : ∀ obj ∈ objects, MembersPresent limit machineUuid obj
  fits : ∀ own ∈ objects.filterMap (ownProfile? machineUuid), own.1 ≤ limit
  within : ∀ obj ∈ objects, ∀ position, entered? limit obj = some position →
    ∃ own ∈ objects.filterMap (ownProfile? machineUuid), position ≤ own.1
  lasting : ∀ write,
    IsLast (objects.flatMap (elementWrites limit machineUuid)) write →
      write.2 = (ownAt (objects.filterMap (ownProfile? machineUuid))
        (write.1.1 + 1)).field write.1.2

end Result

section Proof

variable {limit : Nat} {machineUuid : List Char} {objects : List JsonNode}

theorem position?_of_mem {own : Nat × PlayerProfile}
    (member : own ∈ objects.filterMap (ownProfile? machineUuid)) :
    ∃ obj ∈ objects, position? obj = some own.1 ∧
      MadeOf own.2 own.1 (written (elementReads machineUuid obj)) := by
  obtain ⟨obj, isObject, isOwn⟩ := List.mem_filterMap.mp member
  exact ⟨obj, isObject, ownProfile?_made isOwn⟩

theorem cells_expected (key : Nat × ProfileField) :
    cells (expected machineUuid objects) key =
      (ownAt (objects.filterMap (ownProfile? machineUuid)) (key.1 + 1)).field
        key.2 := by
  have positive : ∀ own ∈ objects.filterMap (ownProfile? machineUuid),
      1 ≤ own.1 := by
    intro own member
    obtain ⟨_, _, isPosition, _⟩ := position?_of_mem member
    exact (position?_bounds isPosition).1
  have placed := @getD_foldl_place _ positive [] (fun _ => {}) fun _ => rfl
  rw [cells, expected, placed]
  rfl

/-- A field that no element writes is as it is declared. -/
theorem ownAt_of_unwritten
    (fits : ∀ own ∈ objects.filterMap (ownProfile? machineUuid), own.1 ≤ limit)
    {key : Nat × ProfileField}
    (unwritten : ∀ write ∈ objects.flatMap (elementWrites limit machineUuid),
      write.1 ≠ key) :
    (ownAt (objects.filterMap (ownProfile? machineUuid)) (key.1 + 1)).field key.2 =
      ({} : PlayerProfile).field key.2 := by
  by_cases isOwned : ∃ own ∈ objects.filterMap (ownProfile? machineUuid),
      own.1 = key.1 + 1
  · obtain ⟨own, isLast, isHere⟩ := exists_isLast isOwned
    obtain ⟨obj, member, isPosition, isMade⟩ := position?_of_mem isLast.mem
    have isEntered := entered?_of_position? isPosition (fits own isLast.mem)
    have unwrittenHere : ∀ assignment ∈
        Assignment.player own.1 :: written (elementReads machineUuid obj),
        assignment.write.1 ≠ key.2 := by
      intro assignment isAssignment isField
      apply unwritten ((own.1 - 1, assignment.write.1), assignment.write.2)
      · apply List.mem_flatMap.mpr
        refine ⟨obj, member, ?_⟩
        rw [elementWrites, isEntered]
        exact List.mem_map_of_mem isAssignment
      · rw [isHere, isField]
        rfl
    rw [ownAt, ← isHere, writeAll_of_isLast isLast, ← isMade]
    exact field_foldl_of_unwritten unwrittenHere {}
  · rw [ownAt, writeAll_of_ne fun own member isHere => isOwned ⟨own, member, isHere⟩]

theorem length_expected_le (size : Nat) :
    (expected machineUuid objects).length ≤ size ↔
      ∀ own ∈ objects.filterMap (ownProfile? machineUuid), own.1 ≤ size := by
  rw [expected, length_foldl_place_le]
  exact and_iff_right (Nat.zero_le size)

section Final

variable {final : List PlayerProfile}
  (finalCells : cells final = writeAll (cells [])
    (objects.flatMap (elementWrites limit machineUuid)))
  (finalLength : ∀ size, final.length ≤ size ↔
    ∀ obj ∈ objects, ∀ position, entered? limit obj = some position →
      position ≤ size)
include finalCells finalLength

/-- Elements that give what is expected write their own fields. -/
theorem writesOwnFields_of_eq (isExpected : final = expected machineUuid objects)
    (present : ∀ obj ∈ objects, MembersPresent limit machineUuid obj) :
    WritesOwnFields limit machineUuid objects := by
  rw [isExpected] at finalCells finalLength
  refine ⟨present, ?_, ?_, ?_⟩
  · apply (length_expected_le limit).mp
    apply (finalLength limit).mpr
    exact fun _ _ _ isEntered => (entered?_bounds isEntered).2
  · intro obj member position isEntered
    by_contra none
    have shorter : ∀ own ∈ objects.filterMap (ownProfile? machineUuid),
        own.1 ≤ position - 1 := by
      intro own isOwn
      have notLonger : ¬position ≤ own.1 := fun longer => none ⟨own, isOwn, longer⟩
      omega
    have notLonger := (finalLength (position - 1)).mp
      ((length_expected_le (position - 1)).mpr shorter) obj member position isEntered
    have positive := (entered?_bounds isEntered).1
    omega
  · intro write isLast
    rw [← cells_expected]
    exact (writeAll_eq_iff.mp finalCells.symm).1 write isLast

/-- Elements that write their own fields give what is expected. -/
theorem eq_expected_of_writesOwnFields
    (writes : WritesOwnFields limit machineUuid objects) :
    final = expected machineUuid objects := by
  apply eq_of_cells_eq
  · apply eq_of_forall_ge_iff
    intro size
    rw [finalLength, length_expected_le]
    constructor
    · intro enteredInside own member
      obtain ⟨obj, isObject, isPosition, _⟩ := position?_of_mem member
      exact enteredInside obj isObject own.1
        (entered?_of_position? isPosition (writes.fits own member))
    · intro ownInside obj member position isEntered
      obtain ⟨own, isOwn, longer⟩ := writes.within obj member position isEntered
      exact longer.trans (ownInside own isOwn)
  · rw [finalCells]
    apply writeAll_eq_iff.mpr
    constructor
    · intro write isLast
      rw [cells_expected]
      exact writes.lasting write isLast
    · intro key unwritten
      rw [cells_expected, ownAt_of_unwritten writes.fits unwritten]
      rfl

end Final

/-- The vector of the loop is what is returned and stored, unless it is stored
already. -/
theorem settles_iff_of_value {m_profiles final : List PlayerProfile}
    (isFinal : setProfilesFrom limit machineUuid [] objects = value final) :
    Settles limit machineUuid m_profiles objects ↔
      final = expected machineUuid objects := by
  rw [Settles, setProfiles, isFinal]
  simp only [JsonOutcome.bind, JsonOutcome.value.injEq]
  constructor
  · intro isSame
    by_cases isStored : final = m_profiles
    · by_cases isExpected : expected machineUuid objects = m_profiles
      · rw [isStored, isExpected]
      · rw [if_neg (not_not.mpr isStored), if_neg isExpected] at isSame
        cases congrArg Prod.fst isSame
    · by_cases isExpected : expected machineUuid objects = m_profiles
      · rw [if_pos isStored, if_pos isExpected] at isSame
        cases congrArg Prod.fst isSame
      · rw [if_pos isStored, if_neg isExpected] at isSame
        exact congrArg Prod.snd isSame
  · rintro rfl
    rw [ite_not]

end Proof

/-- The profiles are those of the well-formed elements exactly if the elements
write their own fields. -/
theorem settlesProfiles_iff (limit : Nat) (machineUuid : List Char)
    (m_profiles : List PlayerProfile) (objects : List JsonNode) :
    Settles limit machineUuid m_profiles objects ↔
      WritesOwnFields limit machineUuid objects := by
  have bounded : ([] : List PlayerProfile).length ≤ limit := Nat.zero_le limit
  by_cases present : ∀ obj ∈ objects, MembersPresent limit machineUuid obj
  · obtain ⟨final, isFinal, finalCells, finalLength⟩ :=
      setProfilesFrom_of_present bounded present
    have positions : ∀ size, final.length ≤ size ↔
        ∀ obj ∈ objects, ∀ position, entered? limit obj = some position →
          position ≤ size := by
      intro size
      rw [finalLength]
      exact and_iff_right (Nat.zero_le size)
    rw [settles_iff_of_value isFinal]
    exact ⟨fun isExpected =>
        writesOwnFields_of_eq finalCells positions isExpected present,
      eq_expected_of_writesOwnFields finalCells positions⟩
  · have notPresent : ∃ obj ∈ objects, ¬MembersPresent limit machineUuid obj := by
      simpa using present
    have isUndefined := setProfilesFrom_of_not_present bounded notPresent
    constructor
    · intro settles
      rw [Settles, setProfiles, isUndefined] at settles
      cases settles
    · intro writes
      exact absurd writes.present present

/-- A player without a name. -/
def namelessPlayer : JsonNode :=
  object [("id", string ['7']), ("username", null), ("display_name", null),
    ("initials", string ['A']), ("url", string ['u'])]

def namelessElement : JsonNode :=
  object [("id", unsigned 5), ("position", unsigned 1), ("player", namelessPlayer)]

/-- The identifier of the player is stored and returned. -/
theorem not_settles_nameless : ¬Settles 4 ['m'] [] [namelessElement] := by
  have isStored : setProfiles 4 ['m'] [] (array [namelessElement]) =
      value (some [{ player := 1, id := ['7'] }], [{ player := 1, id := ['7'] }]) :=
    rfl
  have noneExpected : expected ['m'] [namelessElement] = [] := rfl
  intro settles
  rw [Settles, isStored, noneExpected, if_pos rfl] at settles
  cases settles

end PlayerProfilesManager

end ScorbitSdk
