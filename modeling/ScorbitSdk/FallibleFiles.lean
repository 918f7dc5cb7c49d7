import Mathlib.Logic.Function.Basic

/-!
# Files that are renamed and removed

The files of a directory by their paths, and two calls that either do all they
are to do or throw and change nothing.
-/

namespace ScorbitSdk

/-- What the files hold; `none` where there is no file. -/
abbrev FileStore (Path Content : Type*) := Path → Option Content

namespace FileStore

variable {Path Content : Type*} [DecidableEq Path]

/-- A file that is removed although it is not there is no failure. -/
def remove (succeeds : Bool) (path : Path) (files : FileStore Path Content) :
    Option (FileStore Path Content) :=
  if succeeds then some (Function.update files path none) else none

/-- A file with the new name is replaced, and one that is not there cannot be
renamed. -/
def rename (succeeds : Bool) (source target : Path)
    (files : FileStore Path Content) : Option (FileStore Path Content) :=
  if succeeds then
    (files source).map fun content =>
      Function.update (Function.update files source none) target (some content)
  else none

variable {files next : FileStore Path Content} {succeeds : Bool}
  {path source target : Path}

theorem remove_eq_some_iff :
    files.remove succeeds path = some next ↔
      succeeds = true ∧ next = Function.update files path none := by
  simp [remove, eq_comm]

theorem remove_eq_none_iff :
    files.remove succeeds path = none ↔ succeeds = false := by
  simp [remove]

theorem rename_eq_none_iff :
    files.rename succeeds source target = none ↔
      (succeeds = true → files source = none) := by
  simp [rename]

/-- Where a renamed file is, and where it is no longer. -/
theorem rename_eq_some_iff :
    files.rename succeeds source target = some next ↔
      succeeds = true ∧ (files source).isSome = true ∧
        next = Function.update (Function.update files source none) target
          (files source) := by
  cases succeeds with
  | false => simp [rename]
  | true =>
      cases isSource : files source with
      | none => simp [rename, isSource]
      | some content => simp [rename, isSource, eq_comm]

/-- A file that is renamed has its new name. -/
theorem rename_target (renamed : files.rename succeeds source target = some next) :
    next target = files source := by
  obtain ⟨_, _, rfl⟩ := rename_eq_some_iff.mp renamed
  exact Function.update_self ..

theorem rename_source (renamed : files.rename succeeds source target = some next)
    (differs : source ≠ target) : next source = none := by
  obtain ⟨_, _, rfl⟩ := rename_eq_some_iff.mp renamed
  rw [Function.update_of_ne differs, Function.update_self]

theorem rename_other (renamed : files.rename succeeds source target = some next)
    (notSource : path ≠ source) (notTarget : path ≠ target) :
    next path = files path := by
  obtain ⟨_, _, rfl⟩ := rename_eq_some_iff.mp renamed
  rw [Function.update_of_ne notTarget, Function.update_of_ne notSource]

end FileStore

end ScorbitSdk
