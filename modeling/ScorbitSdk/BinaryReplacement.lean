import ScorbitSdk.FallibleFiles

/-!
# Replacing a binary

`replaceBinary` moves the current binary out of the way, renames the new one and
puts the current one back where that fails.  On Windows, where the backup of an
earlier update may be locked, it does so in another order.
-/

namespace ScorbitSdk

inductive Platform
  | windows
  | posix
  deriving DecidableEq

/-- Which calls on the file system succeed; the others throw and change nothing. -/
structure FileCalls where
  examinesBackup : Bool := true
  examinesLib : Bool := true
  removesBackup : Bool := true
  removesLib : Bool := true
  renamesLib : Bool := true
  renamesNewLib : Bool := true
  restores : Bool := true

/-- The result of a call, or whether it has not thrown, and the files after it. -/
structure Replacement (Content : Type*) where
  result : Bool
  files : FileStore (List Char) Content

def backupPath (libPath : List Char) : List Char :=
  libPath ++ ".old".toList

theorem backupPath_ne (libPath : List Char) : backupPath libPath ≠ libPath := by
  simp [backupPath]

namespace Replacement

variable {Content : Type*}

/-- The last call of a block. -/
def attempt (files : FileStore (List Char) Content)
    (outcome : Option (FileStore (List Char) Content)) : Replacement Content :=
  match outcome with
  | some next => ⟨true, next⟩
  | none => ⟨false, files⟩

section Source

variable (calls : FileCalls) (libPath newLibPath : List Char)
  (files : FileStore (List Char) Content)

/-- What is done on Windows before the new binary is renamed. -/
def makeRoom : Replacement Content :=
  if !calls.examinesBackup then ⟨false, files⟩
  else if (files (backupPath libPath)).isSome then
    match files.remove calls.removesBackup (backupPath libPath) with
    -- the backup is still locked, so that the current binary is removed itself
    | none => attempt files (files.remove calls.removesLib libPath)
    | some removed =>
        attempt removed
          (removed.rename calls.renamesLib libPath (backupPath libPath))
  else if !calls.examinesLib then ⟨false, files⟩
  else if (files libPath).isSome then
    attempt files (files.rename calls.renamesLib libPath (backupPath libPath))
  else ⟨true, files⟩

def replaceOnWindows : Replacement Content :=
  let room := makeRoom calls libPath files
  if !room.result then room
  else attempt room.files (room.files.rename calls.renamesNewLib newLibPath libPath)

/-- The handler of the inner block. -/
def restore : Replacement Content :=
  ⟨false, (files.rename calls.restores (backupPath libPath) libPath).getD files⟩

def replaceOnPosix : Replacement Content :=
  if !calls.examinesLib then ⟨false, files⟩
  else if (files libPath).isSome then
    match files.rename calls.renamesLib libPath (backupPath libPath) with
    | none => ⟨false, files⟩
    | some backedUp =>
        match backedUp.rename calls.renamesNewLib newLibPath libPath with
        | none => restore calls libPath backedUp
        | some replaced =>
            match replaced.remove calls.removesBackup (backupPath libPath) with
            | none => restore calls libPath replaced
            | some cleaned => ⟨true, cleaned⟩
  else attempt files (files.rename calls.renamesNewLib newLibPath libPath)

/-- `Updater::replaceBinary` -/
def replace (platform : Platform) : Replacement Content :=
  match platform with
  | .windows => replaceOnWindows calls libPath newLibPath files
  | .posix => replaceOnPosix calls libPath newLibPath files

/-! ## When the original is kept -/

/-- What is promised of the outcome. -/
structure OriginalKept (platform : Platform) (outcome : Replacement Content) :
    Prop where
  installed : outcome.result = true →
    (files newLibPath).isSome = true ∧ outcome.files libPath = files newLibPath
  kept : outcome.result = false → (files libPath).isSome = true →
    outcome.files libPath = files libPath ∨
      outcome.files (backupPath libPath) = files libPath
  restored : platform = .posix → calls.restores = true →
    outcome.result = false → (files libPath).isSome = true →
      outcome.files libPath = files libPath

/-- On Windows, a locked backup has the current binary removed, and then the new
one is not renamed. -/
structure RemovesOriginal : Prop where
  examined : calls.examinesBackup = true
  backup : (files (backupPath libPath)).isSome = true
  locked : calls.removesBackup = false
  removed : calls.removesLib = true
  original : (files libPath).isSome = true
  notRenamed : calls.renamesNewLib = true →
    newLibPath = libPath ∨ files newLibPath = none
  older : files (backupPath libPath) ≠ files libPath

/-- The new binary lies where the backup is made: the backup takes its place and
is renamed back. -/
structure ReplacesItself (platform : Platform) : Prop where
  isBackup : newLibPath = backupPath libPath
  original : (files libPath).isSome = true
  differs : files newLibPath ≠ files libPath
  renamed : calls.renamesLib = true ∧ calls.renamesNewLib = true
  reached : match platform with
    | .windows => calls.examinesBackup = true ∧
        if (files (backupPath libPath)).isSome then calls.removesBackup = true
        else calls.examinesLib = true
    | .posix => calls.examinesLib = true ∧ calls.removesBackup = true

end Source

section Proofs

variable {calls : FileCalls} {libPath newLibPath : List Char}
  {files : FileStore (List Char) Content} {platform : Platform}

/-- What stays as it is keeps the original. -/
theorem OriginalKept.unchanged :
    OriginalKept calls libPath newLibPath files platform ⟨false, files⟩ where
  installed := nofun
  kept := fun _ _ => Or.inl rfl
  restored := fun _ _ _ _ => rfl

/-- Without an original, only what is installed matters. -/
theorem OriginalKept.of_none {outcome : Replacement Content}
    (noOriginal : (files libPath).isSome = false)
    (installed : outcome.result = true →
      (files newLibPath).isSome = true ∧
        outcome.files libPath = files newLibPath) :
    OriginalKept calls libPath newLibPath files platform outcome where
  installed := installed
  kept := fun _ isSome => absurd (noOriginal.symm.trans isSome) nofun
  restored := fun _ _ _ isSome => absurd (noOriginal.symm.trans isSome) nofun

/-- A new binary that is renamed where nothing else has moved is installed. -/
theorem installed_attempt {current : FileStore (List Char) Content}
    (sameNew : current newLibPath = files newLibPath)
    (done : (attempt current (current.rename calls.renamesNewLib newLibPath
      libPath)).result = true) :
    (files newLibPath).isSome = true ∧
      (attempt current (current.rename calls.renamesNewLib newLibPath
        libPath)).files libPath = files newLibPath := by
  cases renamed : current.rename calls.renamesNewLib newLibPath libPath with
  | none =>
      rw [renamed] at done
      cases done
  | some next =>
      obtain ⟨_, isSome, _⟩ := FileStore.rename_eq_some_iff.mp renamed
      rw [sameNew] at isSome
      exact ⟨isSome, (FileStore.rename_target renamed).trans sameNew⟩

/-- The backup is renamed back, or it stays where it is. -/
theorem restore_backup {current : FileStore (List Char) Content}
    (isOriginal : current (backupPath libPath) = files libPath)
    (original : (files libPath).isSome = true) :
    OriginalKept calls libPath newLibPath files platform
      (restore calls libPath current) := by
  cases renamed :
      current.rename calls.restores (backupPath libPath) libPath with
  | none =>
      have fails : calls.restores ≠ true := fun restores => by
        have absent := FileStore.rename_eq_none_iff.mp renamed restores
        rw [← isOriginal, absent] at original
        cases original
      have same : (restore calls libPath current).files = current := by
        rw [restore, renamed, Option.getD_none]
      exact
        { installed := nofun
          kept := fun _ _ => Or.inr (by rw [same, isOriginal])
          restored := fun _ restores => absurd restores fails }
  | some next =>
      have back : (restore calls libPath current).files libPath =
          files libPath := by
        rw [restore, renamed, Option.getD_some]
        exact (FileStore.rename_target renamed).trans isOriginal
      exact
        { installed := nofun
          kept := fun _ _ => Or.inl back
          restored := fun _ _ _ _ => back }

/-! ## POSIX systems -/

/-- The backup is not removed: it is renamed back, if the new binary was not the
backup itself. -/
theorem restore_replaced {backedUp replaced : FileStore (List Char) Content}
    (original : (files libPath).isSome = true) (notLib : newLibPath ≠ libPath)
    (isBackup : backedUp (backupPath libPath) = files libPath)
    (replace : backedUp.rename calls.renamesNewLib newLibPath libPath =
      some replaced) :
    OriginalKept calls libPath newLibPath files .posix
      (restore calls libPath replaced) := by
  by_cases isOld : newLibPath = backupPath libPath
  · -- the backup has been renamed back by the new name already
    have back : replaced libPath = files libPath := by
      rw [FileStore.rename_target replace, isOld, isBackup]
    have gone : replaced (backupPath libPath) = none := by
      rw [← isOld]
      exact FileStore.rename_source replace notLib
    have same : (restore calls libPath replaced).files = replaced := by
      rw [restore, FileStore.rename_eq_none_iff.mpr fun _ => gone, Option.getD_none]
    exact
      { installed := nofun
        kept := fun _ _ => Or.inl (by rw [same, back])
        restored := fun _ _ _ _ => by rw [same, back] }
  · have stays := FileStore.rename_other replace (Ne.symm isOld)
      (backupPath_ne libPath)
    exact restore_backup (stays.trans isBackup) original

/-- The backup is removed: the new binary is in place, unless it was the backup
itself. -/
theorem originalKept_cleaned_iff {backedUp replaced : FileStore (List Char) Content}
    (original : (files libPath).isSome = true) (notLib : newLibPath ≠ libPath)
    (backup : files.rename calls.renamesLib libPath (backupPath libPath) =
      some backedUp)
    (replace : backedUp.rename calls.renamesNewLib newLibPath libPath =
      some replaced) :
    OriginalKept calls libPath newLibPath files .posix
        ⟨true, Function.update replaced (backupPath libPath) none⟩ ↔
      ¬(newLibPath = backupPath libPath ∧ files newLibPath ≠ files libPath) := by
  have inPlace : Function.update replaced (backupPath libPath) none libPath =
      backedUp newLibPath := by
    rw [Function.update_of_ne (backupPath_ne libPath).symm,
      FileStore.rename_target replace]
  by_cases isOld : newLibPath = backupPath libPath
  · have isLib : backedUp newLibPath = files libPath := by
      rw [isOld, FileStore.rename_target backup]
    rw [isLib] at inPlace
    constructor
    · intro keeps lost
      exact lost.2 ((keeps.installed rfl).2.symm.trans inPlace)
    · intro notLost
      have same : files newLibPath = files libPath := by
        by_contra differs
        exact notLost ⟨isOld, differs⟩
      exact
        { installed := fun _ => ⟨same ▸ original, inPlace.trans same.symm⟩
          kept := nofun
          restored := fun _ _ => nofun }
  · obtain ⟨_, isSome, _⟩ := FileStore.rename_eq_some_iff.mp replace
    rw [FileStore.rename_other backup notLib isOld] at isSome inPlace
    refine iff_of_true ?_ fun lost => isOld lost.1
    exact
      { installed := fun _ => ⟨isSome, inPlace⟩
        kept := nofun
        restored := fun _ _ => nofun }

theorem originalKept_posix_iff :
    OriginalKept calls libPath newLibPath files .posix
        (replaceOnPosix calls libPath newLibPath files) ↔
      ¬ReplacesItself calls libPath newLibPath files .posix := by
  unfold replaceOnPosix
  cases examined : calls.examinesLib with
  | false =>
      refine iff_of_true OriginalKept.unchanged fun itself => ?_
      exact absurd (examined.symm.trans itself.reached.1) nofun
  | true =>
  cases original : (files libPath).isSome with
  | false =>
      apply iff_of_true (OriginalKept.of_none original (installed_attempt rfl))
      intro itself
      exact absurd (original.symm.trans itself.original) nofun
  | true =>
  simp only [Bool.not_true, Bool.false_eq_true, if_false, if_true]
  cases backup : files.rename calls.renamesLib libPath (backupPath libPath) with
  | none =>
      refine iff_of_true OriginalKept.unchanged fun itself => ?_
      have absent := FileStore.rename_eq_none_iff.mp backup itself.renamed.1
      rw [absent] at original
      cases original
  | some backedUp =>
  dsimp only
  have isBackup := FileStore.rename_target backup
  cases replace : backedUp.rename calls.renamesNewLib newLibPath libPath with
  | none =>
      refine iff_of_true (restore_backup isBackup original) fun itself => ?_
      have absent := FileStore.rename_eq_none_iff.mp replace itself.renamed.2
      rw [itself.isBackup, isBackup] at absent
      rw [absent] at original
      cases original
  | some replaced =>
  dsimp only
  obtain ⟨renames, isSome, _⟩ := FileStore.rename_eq_some_iff.mp replace
  have notLib : newLibPath ≠ libPath := by
    rintro rfl
    rw [FileStore.rename_source backup (backupPath_ne newLibPath).symm] at isSome
    cases isSome
  cases cleanUp : replaced.remove calls.removesBackup (backupPath libPath) with
  | none =>
      have fails := FileStore.remove_eq_none_iff.mp cleanUp
      exact iff_of_true (restore_replaced original notLib isBackup replace)
        fun itself => absurd (fails.symm.trans itself.reached.2) nofun
  | some cleaned =>
      obtain ⟨removes, rfl⟩ := FileStore.remove_eq_some_iff.mp cleanUp
      have makesBackup := (FileStore.rename_eq_some_iff.mp backup).1
      refine (originalKept_cleaned_iff original notLib backup replace).trans
        (not_congr ?_)
      constructor
      · rintro ⟨isOld, differs⟩
        exact ⟨isOld, original, differs, ⟨makesBackup, renames⟩, examined, removes⟩
      · intro itself
        exact ⟨itself.isBackup, itself.differs⟩

/-! ## Windows -/

/-- The backup has been made, and the new binary is renamed. -/
theorem originalKept_backedUp {before backedUp : FileStore (List Char) Content}
    (original : (files libPath).isSome = true)
    (sameLib : before libPath = files libPath)
    (sameOther : ∀ path, path ≠ backupPath libPath → before path = files path)
    (backup : before.rename calls.renamesLib libPath (backupPath libPath) =
      some backedUp) :
    OriginalKept calls libPath newLibPath files .windows
        (attempt backedUp
          (backedUp.rename calls.renamesNewLib newLibPath libPath)) ↔
      ¬(newLibPath = backupPath libPath ∧ calls.renamesNewLib = true ∧
        files newLibPath ≠ files libPath) := by
  have isBackup := (FileStore.rename_target backup).trans sameLib
  have moved := FileStore.rename_source backup (backupPath_ne libPath).symm
  cases replace : backedUp.rename calls.renamesNewLib newLibPath libPath with
  | none =>
      apply iff_of_true
      · exact
          { installed := nofun
            kept := fun _ _ => Or.inr isBackup
            restored := nofun }
      · rintro ⟨rfl, renames, _⟩
        rw [← isBackup, FileStore.rename_eq_none_iff.mp replace renames] at original
        cases original
  | some replaced =>
      have isNew := FileStore.rename_target replace
      obtain ⟨renames, isSome, _⟩ := FileStore.rename_eq_some_iff.mp replace
      have notLib : newLibPath ≠ libPath := by
        rintro rfl
        rw [moved] at isSome
        cases isSome
      by_cases isOld : newLibPath = backupPath libPath
      · have isLib : replaced libPath = files libPath := by
          rw [isNew, isOld, isBackup]
        constructor
        · rintro keeps ⟨_, _, differs⟩
          exact differs ((keeps.installed rfl).2.symm.trans isLib)
        · intro notItself
          have same : files newLibPath = files libPath := by
            by_contra differs
            exact notItself ⟨isOld, renames, differs⟩
          exact
            { installed := fun _ => ⟨same ▸ original, isLib.trans same.symm⟩
              kept := nofun
              restored := nofun }
      · have sameNew := (FileStore.rename_other backup notLib isOld).trans
          (sameOther newLibPath isOld)
        rw [sameNew] at isSome isNew
        refine iff_of_true ?_ fun itself => isOld itself.1
        exact
          { installed := fun _ => ⟨isSome, isNew⟩
            kept := nofun
            restored := nofun }

/-- Where there is an original, the backup is made or nothing is lost. -/
theorem originalKept_backup {before : FileStore (List Char) Content}
    (original : (files libPath).isSome = true)
    (sameOther : ∀ path, path ≠ backupPath libPath → before path = files path) :
    OriginalKept calls libPath newLibPath files .windows
        (let room := attempt before
          (before.rename calls.renamesLib libPath (backupPath libPath))
        if !room.result then room
        else attempt room.files
          (room.files.rename calls.renamesNewLib newLibPath libPath)) ↔
      ¬(newLibPath = backupPath libPath ∧ calls.renamesLib = true ∧
        calls.renamesNewLib = true ∧ files newLibPath ≠ files libPath) := by
  have sameLib := sameOther libPath (backupPath_ne libPath).symm
  cases backup : before.rename calls.renamesLib libPath (backupPath libPath) with
  | none =>
      apply iff_of_true
      · exact
          { installed := nofun
            kept := fun _ _ => Or.inl sameLib
            restored := nofun }
      · rintro ⟨_, renames, _⟩
        have absent := FileStore.rename_eq_none_iff.mp backup renames
        rw [← sameLib, absent] at original
        cases original
  | some backedUp =>
      have makesBackup := (FileStore.rename_eq_some_iff.mp backup).1
      apply (originalKept_backedUp original sameLib sameOther backup).trans
      simp [makesBackup]

/-- The backup is locked, and the current binary has been removed. -/
theorem originalKept_locked (original : (files libPath).isSome = true) :
    let removed := Function.update files libPath none
    OriginalKept calls libPath newLibPath files .windows
        (attempt removed
          (FileStore.rename calls.renamesNewLib newLibPath libPath removed)) ↔
      ((calls.renamesNewLib = true →
          newLibPath = libPath ∨ files newLibPath = none) →
        files (backupPath libPath) = files libPath) := by
  intro removed
  have gone : removed libPath = none := Function.update_self ..
  have stays : ∀ path, path ≠ libPath → removed path = files path :=
    fun path differs => Function.update_of_ne differs ..
  cases replace : FileStore.rename calls.renamesNewLib newLibPath libPath removed with
  | none =>
      have absent := FileStore.rename_eq_none_iff.mp replace
      have notRenamed : calls.renamesNewLib = true →
          newLibPath = libPath ∨ files newLibPath = none := by
        intro renames
        rw [or_iff_not_imp_left]
        intro notLib
        exact (stays newLibPath notLib).symm.trans (absent renames)
      rw [forall_prop_of_true notRenamed]
      constructor
      · intro keeps
        rcases keeps.kept rfl original with inPlace | isOld
        · rw [← inPlace] at original
          exact absurd (original.symm.trans (congrArg Option.isSome gone)) nofun
        · exact (stays _ (backupPath_ne libPath)).symm.trans isOld
      · intro isOld
        exact
          { installed := nofun
            kept := fun _ _ =>
              Or.inr ((stays _ (backupPath_ne libPath)).trans isOld)
            restored := nofun }
  | some replaced =>
      obtain ⟨renames, isSome, _⟩ := FileStore.rename_eq_some_iff.mp replace
      have notLib : newLibPath ≠ libPath := by
        rintro rfl
        rw [gone] at isSome
        cases isSome
      have isNew := FileStore.rename_target replace
      rw [stays newLibPath notLib] at isSome isNew
      refine iff_of_true ?_ fun notRenamed => ?_
      · exact
          { installed := fun _ => ⟨isSome, isNew⟩
            kept := nofun
            restored := nofun }
      · rcases notRenamed renames with isLib | absent
        · exact absurd isLib notLib
        · rw [absent] at isSome
          cases isSome

/-- Without an original there is nothing to move. -/
theorem makeRoom_of_none (noOriginal : files libPath = none) :
    (makeRoom calls libPath files).result = true →
      (makeRoom calls libPath files).files = files := by
  unfold makeRoom
  rw [noOriginal]
  cases calls.examinesBackup with
  | false => exact fun _ => rfl
  | true =>
  simp only [Bool.not_true, Bool.false_eq_true, if_false]
  cases (files (backupPath libPath)).isSome with
  | false =>
      cases calls.examinesLib <;> exact fun _ => rfl
  | true =>
  simp only [if_true]
  cases unlock : files.remove calls.removesBackup (backupPath libPath) with
  | none =>
      dsimp only
      cases clear : files.remove calls.removesLib libPath with
      | none => exact fun _ => rfl
      | some removed =>
          obtain ⟨_, rfl⟩ := FileStore.remove_eq_some_iff.mp clear
          intro _
          exact (congrArg (Function.update files libPath) noOriginal.symm).trans
            (Function.update_eq_self libPath files)
  | some removed =>
      obtain ⟨_, rfl⟩ := FileStore.remove_eq_some_iff.mp unlock
      have absent : Function.update files (backupPath libPath) none libPath =
          none := by
        rw [Function.update_of_ne (backupPath_ne libPath).symm, noOriginal]
      dsimp only
      rw [FileStore.rename_eq_none_iff.mpr fun _ => absent]
      exact nofun

theorem originalKept_windows_of_none
    (noOriginal : (files libPath).isSome = false) :
    OriginalKept calls libPath newLibPath files .windows
      (replaceOnWindows calls libPath newLibPath files) := by
  refine OriginalKept.of_none noOriginal fun done => ?_
  rw [Option.isSome_eq_false_iff, Option.isNone_iff_eq_none] at noOriginal
  unfold replaceOnWindows at done ⊢
  cases made : (makeRoom calls libPath files).result with
  | false =>
      simp only [made, Bool.not_false, if_true] at done
      cases done
  | true =>
      simp only [made, Bool.not_true, Bool.false_eq_true, if_false,
        makeRoom_of_none noOriginal made] at done ⊢
      exact installed_attempt rfl done

/-- Where the backup is made, the new binary is lost if it is the backup. -/
theorem replacesItself_windows_iff (original : (files libPath).isSome = true)
    (examined : calls.examinesBackup = true)
    (reached : if (files (backupPath libPath)).isSome then calls.removesBackup = true
      else calls.examinesLib = true) :
    (newLibPath = backupPath libPath ∧ calls.renamesLib = true ∧
        calls.renamesNewLib = true ∧ files newLibPath ≠ files libPath) ↔
      ReplacesItself calls libPath newLibPath files .windows := by
  constructor
  · rintro ⟨isOld, makesBackup, renames, differs⟩
    exact ⟨isOld, original, differs, ⟨makesBackup, renames⟩, examined, reached⟩
  · rintro ⟨isOld, _, differs, ⟨makesBackup, renames⟩, _⟩
    exact ⟨isOld, makesBackup, renames, differs⟩

theorem originalKept_windows_iff :
    OriginalKept calls libPath newLibPath files .windows
        (replaceOnWindows calls libPath newLibPath files) ↔
      ¬RemovesOriginal calls libPath newLibPath files ∧
        ¬ReplacesItself calls libPath newLibPath files .windows := by
  cases original : (files libPath).isSome with
  | false =>
      refine iff_of_true (originalKept_windows_of_none original)
        ⟨fun removes => ?_, fun itself => ?_⟩
      · exact absurd (original.symm.trans removes.original) nofun
      · exact absurd (original.symm.trans itself.original) nofun
  | true =>
  unfold replaceOnWindows makeRoom
  cases examined : calls.examinesBackup with
  | false =>
      refine iff_of_true OriginalKept.unchanged ⟨fun removes => ?_, fun itself => ?_⟩
      · exact absurd (examined.symm.trans removes.examined) nofun
      · exact absurd (examined.symm.trans itself.reached.1) nofun
  | true =>
  simp only [Bool.not_true, Bool.false_eq_true, if_false, original, if_true]
  cases hasBackup : (files (backupPath libPath)).isSome with
  | false =>
      have notRemoved : ¬RemovesOriginal calls libPath newLibPath files :=
        fun removes => absurd (hasBackup.symm.trans removes.backup) nofun
      rw [and_iff_right notRemoved]
      cases examinedLib : calls.examinesLib with
      | false =>
          refine iff_of_true OriginalKept.unchanged fun itself => ?_
          have examines := itself.reached.2
          rw [hasBackup, examinedLib] at examines
          cases examines
      | true =>
          refine (originalKept_backup original fun _ _ => rfl).trans (not_congr ?_)
          apply replacesItself_windows_iff original examined
          rw [hasBackup, examinedLib]
          trivial
  | true =>
  simp only [if_true]
  cases unlock : files.remove calls.removesBackup (backupPath libPath) with
  | none =>
      have locked := FileStore.remove_eq_none_iff.mp unlock
      have notItself : ¬ReplacesItself calls libPath newLibPath files .windows := by
        intro itself
        have unlocks := itself.reached.2
        rw [hasBackup, locked] at unlocks
        cases unlocks
      rw [and_iff_left notItself]
      dsimp only
      cases clear : files.remove calls.removesLib libPath with
      | none =>
          have fails := FileStore.remove_eq_none_iff.mp clear
          refine iff_of_true OriginalKept.unchanged fun removes => ?_
          exact absurd (fails.symm.trans removes.removed) nofun
      | some removed =>
          obtain ⟨removes, rfl⟩ := FileStore.remove_eq_some_iff.mp clear
          apply (originalKept_locked original).trans
          constructor
          · intro kept lost
            exact lost.older (kept lost.notRenamed)
          · intro notRemoved notRenamed
            by_contra older
            exact notRemoved
              ⟨examined, hasBackup, locked, removes, original, notRenamed, older⟩
  | some removed =>
      obtain ⟨unlocks, rfl⟩ := FileStore.remove_eq_some_iff.mp unlock
      have notRemoved : ¬RemovesOriginal calls libPath newLibPath files :=
        fun lost => absurd (unlocks.symm.trans lost.locked) nofun
      rw [and_iff_right notRemoved]
      refine (originalKept_backup original fun path differs =>
        Function.update_of_ne differs ..).trans (not_congr ?_)
      apply replacesItself_windows_iff original examined
      rw [hasBackup]
      exact unlocks

/-- The original is kept and the new binary installed as promised, except where a
locked backup has the original removed on Windows and the new binary is not
renamed then, or the new binary is the backup. -/
theorem originalKept_iff (calls : FileCalls) (libPath newLibPath : List Char)
    (files : FileStore (List Char) Content) (platform : Platform) :
    OriginalKept calls libPath newLibPath files platform
        (replace calls libPath newLibPath files platform) ↔
      ¬(platform = .windows ∧ RemovesOriginal calls libPath newLibPath files) ∧
        ¬ReplacesItself calls libPath newLibPath files platform := by
  cases platform with
  | windows =>
      refine originalKept_windows_iff.trans (and_congr_left' (not_congr ?_))
      exact (and_iff_right rfl).symm
  | posix =>
      refine originalKept_posix_iff.trans (and_iff_right ?_).symm
      rintro ⟨isWindows, _⟩
      cases isWindows

end Proofs

namespace Sample

/-- A library, the backup of an earlier update and the new library. -/
def files : FileStore (List Char) String := fun path =>
  if path = "scorbit_sdk.dll".toList then some "1.0"
  else if path = "scorbit_sdk.dll.old".toList then some "0.9"
  else if path = "scorbit_update/scorbit_sdk.dll".toList then some "1.1"
  else none

/-- The backup is locked, and the new library cannot be renamed. -/
def calls : FileCalls where
  removesBackup := false
  renamesNewLib := false

end Sample

/-- The original is neither in its place nor in that of the backup. -/
theorem not_originalKept_lockedBackup :
    ¬OriginalKept Sample.calls "scorbit_sdk.dll".toList
      "scorbit_update/scorbit_sdk.dll".toList Sample.files .windows
      (replace Sample.calls "scorbit_sdk.dll".toList
        "scorbit_update/scorbit_sdk.dll".toList Sample.files .windows) := by
  intro keeps
  refine (originalKept_windows_iff.mp keeps).1 ⟨rfl, ?_, rfl, rfl, ?_, nofun, ?_⟩
  · decide +kernel
  · decide +kernel
  · decide +kernel

end Replacement

end ScorbitSdk
