import Mathlib.Logic.Function.Basic

/-!
# Values that are written one after another

Of the values that are written at a key the last one counts.
-/

namespace ScorbitSdk

namespace LastWrite

variable {Key Value : Type*}

/-- The write is there, and there is none at its key after it. -/
def IsLast (writes : List (Key × Value)) (write : Key × Value) : Prop :=
  ∃ before after, writes = before ++ write :: after ∧
    ∀ later ∈ after, later.1 ≠ write.1

theorem isLast_cons_iff {first write : Key × Value} {writes : List (Key × Value)} :
    IsLast (first :: writes) write ↔
      IsLast writes write ∨
        write = first ∧ ∀ later ∈ writes, later.1 ≠ first.1 := by
  constructor
  · rintro ⟨before, after, isSplit, noLater⟩
    cases before with
    | nil =>
        obtain ⟨rfl, rfl⟩ := List.cons.inj isSplit
        exact .inr ⟨rfl, noLater⟩
    | cons other before =>
        obtain ⟨rfl, rfl⟩ := List.cons.inj isSplit
        exact .inl ⟨before, after, rfl, noLater⟩
  · rintro (⟨before, after, rfl, noLater⟩ | ⟨rfl, noLater⟩)
    · exact ⟨first :: before, after, rfl, noLater⟩
    · exact ⟨[], writes, rfl, noLater⟩

theorem IsLast.mem {writes : List (Key × Value)} {write : Key × Value}
    (isLast : IsLast writes write) : write ∈ writes := by
  obtain ⟨before, after, rfl, _⟩ := isLast
  exact List.mem_append_right before List.mem_cons_self

/-- Where every key is written once, each write is the last one at its key. -/
theorem isLast_of_nodup {writes : List (Key × Value)} {write : Key × Value}
    (once : (writes.map Prod.fst).Nodup) (member : write ∈ writes) :
    IsLast writes write := by
  obtain ⟨before, after, rfl⟩ := List.append_of_mem member
  refine ⟨before, after, rfl, fun later isLater same => ?_⟩
  rw [List.map_append, List.map_cons, List.nodup_append, List.nodup_cons] at once
  exact once.2.1.1 (List.mem_map.mpr ⟨later, isLater, same⟩)

variable [DecidableEq Key]

def writeAll (start : Key → Value) (writes : List (Key × Value)) : Key → Value :=
  writes.foldl (fun values write => Function.update values write.1 write.2) start

theorem writeAll_cons (start : Key → Value) (write : Key × Value)
    (writes : List (Key × Value)) :
    writeAll start (write :: writes) =
      writeAll (Function.update start write.1 write.2) writes :=
  rfl

theorem writeAll_append (start : Key → Value) (writes others : List (Key × Value)) :
    writeAll start (writes ++ others) = writeAll (writeAll start writes) others :=
  List.foldl_append

/-- A key at which nothing is written keeps its value. -/
theorem writeAll_of_ne {start : Key → Value} {writes : List (Key × Value)} {key : Key}
    (unwritten : ∀ write ∈ writes, write.1 ≠ key) :
    writeAll start writes key = start key := by
  induction writes generalizing start with
  | nil => rfl
  | cons write writes ih =>
      rw [List.forall_mem_cons] at unwritten
      rw [writeAll_cons, ih unwritten.2,
        Function.update_of_ne unwritten.1.symm]

/-- The last write at a key gives the value there. -/
theorem writeAll_of_isLast {start : Key → Value} {writes : List (Key × Value)}
    {write : Key × Value} (isLast : IsLast writes write) :
    writeAll start writes write.1 = write.2 := by
  obtain ⟨before, after, rfl, noLater⟩ := isLast
  rw [writeAll_append, writeAll_cons, writeAll_of_ne noLater, Function.update_self]

/-- There is a last write where there is one at all. -/
theorem exists_isLast {writes : List (Key × Value)} {key : Key}
    (written : ∃ write ∈ writes, write.1 = key) :
    ∃ write, IsLast writes write ∧ write.1 = key := by
  induction writes with
  | nil =>
      obtain ⟨_, member, _⟩ := written
      cases member
  | cons first writes ih =>
      by_cases later : ∃ write ∈ writes, write.1 = key
      · obtain ⟨write, isLast, isKey⟩ := ih later
        exact ⟨write, isLast_cons_iff.mpr (.inl isLast), isKey⟩
      · obtain ⟨write, member, isKey⟩ := written
        rcases List.mem_cons.mp member with rfl | isLater
        · refine ⟨write, isLast_cons_iff.mpr (.inr ⟨rfl, ?_⟩), isKey⟩
          intro other isOther same
          exact later ⟨other, isOther, same.trans isKey⟩
        · exact absurd ⟨write, isLater, isKey⟩ later

/-- What is written is what is wanted exactly if the last writes are, and what is
not written has been there. -/
theorem writeAll_eq_iff {start target : Key → Value} {writes : List (Key × Value)} :
    writeAll start writes = target ↔
      (∀ write, IsLast writes write → write.2 = target write.1) ∧
      ∀ key, (∀ write ∈ writes, write.1 ≠ key) → start key = target key := by
  constructor
  · rintro rfl
    exact ⟨fun write isLast => (writeAll_of_isLast isLast).symm,
      fun key unwritten => (writeAll_of_ne unwritten).symm⟩
  · rintro ⟨lastWrites, unwritten⟩
    funext key
    by_cases written : ∃ write ∈ writes, write.1 = key
    · obtain ⟨write, isLast, rfl⟩ := exists_isLast written
      rw [writeAll_of_isLast isLast, lastWrites write isLast]
    · have none : ∀ write ∈ writes, write.1 ≠ key := by
        intro write member same
        exact written ⟨write, member, same⟩
      rw [writeAll_of_ne none, unwritten key none]

end LastWrite

end ScorbitSdk
