import ScorbitSdk.LongestPrefixes
import ScorbitSdk.PathResolution
import ScorbitSdk.TextStreams

/-!
# Mount tables

`/proc/self/mountinfo` has a line for each mount, whose fields are separated by
single blanks; the program reads it by words.  Where a file lies, and whether it
can be written there, is found out by texts: the mount point as the longest
beginning of the path, `ro` anywhere in the options.  The directory that a mount
is at is written with octal escapes.
-/

namespace ScorbitSdk

open TextStream LongestPrefix

structure MountInfo where
  mountPoint : List Char
  readOnly : Bool
  deriving DecidableEq

structure MakeWritableResult where
  ok : Bool
  mountPoint : List Char

namespace MountInfo

/-! ## What the program reads -/

/-- The fifth word of a line. -/
def mountPointOf (line : List Char) : List Char :=
  ((words line)[4]?).getD []

/-- The third word after the separator. -/
def superblockOptions (line : List Char) : List Char :=
  ((((words line).drop 5).dropWhile (· ≠ ['-']))[3]?).getD []

def ofLine (line : List Char) : MountInfo where
  mountPoint := mountPointOf line
  readOnly := "ro".toList <:+: superblockOptions line

def parseMountInfo (content : List Char) : List MountInfo :=
  (lines '\n' content).map ofLine

def findMountPoint (content path : List Char) : Option (List Char) :=
  let bestMatch :=
    ((parseMountInfo content).map mountPoint).foldl (better path) []
  if bestMatch = [] then none else some bestMatch

def isReadOnly (content mountPoint : List Char) : Option Bool :=
  ((parseMountInfo content).find? (·.mountPoint = mountPoint)).map readOnly

/-- A remount changes the mount that was mounted last at its place. -/
def remount (readOnly : Bool) (mountPoint : List Char) :
    List MountInfo → List MountInfo
  | [] => []
  | mount :: later =>
      if mount.mountPoint = mountPoint ∧
          ∀ other ∈ later, other.mountPoint ≠ mountPoint then
        { mount with readOnly } :: later
      else mount :: remount readOnly mountPoint later

/-- The result and the mounts after it; nothing where no mount is found. -/
def fsMakeWritable (remounts : Bool) (content path : List Char)
    (mounts : List MountInfo) : Option (MakeWritableResult × List MountInfo) := do
  let mountPoint ← findMountPoint content path
  let isReadOnly ← isReadOnly content mountPoint
  if !isReadOnly then some (⟨true, []⟩, mounts)
  else if !remounts then some (⟨false, mountPoint⟩, mounts)
  else some (⟨true, mountPoint⟩, remount false mountPoint mounts)

def fsRemountReadOnly (mountPoint : List Char) (mounts : List MountInfo) :
    List MountInfo :=
  if mountPoint = [] then mounts else remount true mountPoint mounts

/-! ## What the table says -/

/-- What stands between single blanks. -/
def fields (line : List Char) : List (List Char) :=
  line.splitOn ' '

/-- The fifth field. -/
def mountPointField (line : List Char) : List Char :=
  ((fields line)[4]?).getD []

/-- The third field after the separator. -/
def optionsField (line : List Char) : List Char :=
  ((((fields line).drop 5).dropWhile (· ≠ ['-']))[3]?).getD []

def octalDigit? (c : Char) : Option Nat :=
  if '0' ≤ c ∧ c ≤ '7' then some (c.toNat - '0'.toNat) else none

/-- The character that three octal digits stand for. -/
def octal? (first second third : Char) : Option Char := do
  let high ← octalDigit? first
  let middle ← octalDigit? second
  let low ← octalDigit? third
  return Char.ofNat ((high * 8 + middle) * 8 + low)

/-- White space and backslashes in names are written as octal numbers. -/
def unescape : List Char → List Char
  | '\\' :: first :: second :: third :: rest =>
      match octal? first second third with
      | some c => c :: unescape rest
      | none => '\\' :: unescape (first :: second :: third :: rest)
  | c :: rest => c :: unescape rest
  | [] => []

/-- `ro` among the options. -/
def HasRo (line : List Char) : Prop :=
  "ro".toList ∈ (optionsField line).splitOn ','

theorem lawfulBEq_text : LawfulBEq (List Char) :=
  inferInstance

instance (line : List Char) : Decidable (HasRo line) :=
  @List.instDecidableMemOfLawfulBEq _ _ lawfulBEq_text _ _

/-- The mounts as they are. -/
def mounts (content : List Char) : List MountInfo :=
  (lines '\n' content).map fun line =>
    ⟨unescape (mountPointField line), HasRo line⟩

/-- A mount is reported read-only exactly if it is. -/
def ReportsReadOnly (content : List Char) : Prop :=
  ∀ line ∈ lines '\n' content, (ofLine line).readOnly = true ↔ HasRo line

/-- With remounts that succeed, all mounts are as before in the end. -/
def Restores (content path : List Char) : Prop :=
  ∀ result changed,
    fsMakeWritable true content path (mounts content) = some (result, changed) →
      fsRemountReadOnly result.mountPoint changed = mounts content

/-- No field is empty, nor has white space in it. -/
structure Aligned (line : List Char) : Prop where
  blanks : ∀ c ∈ line, isSpace c = true → c = ' '
  noneEmpty : [] ∉ fields line

/-- No line has `ro` in its options but as an option of its own.  Where a field is
empty, as the source of a mount may be, or has white space in it, other words are
read in the place of the fields: the one in the place of the options has `ro` in
it exactly if it is one of them. -/
def RoOnlyAsOption (content : List Char) : Prop :=
  ∀ line ∈ lines '\n' content,
    (Aligned line → "ro".toList <:+: optionsField line → HasRo line) ∧
      (¬Aligned line →
        ("ro".toList <:+: superblockOptions line ↔ HasRo line))

/-- The mount on top at a place. -/
def topMount (mountPoint : List Char) (mounts : List MountInfo) :
    Option MountInfo :=
  mounts.reverse.find? (·.mountPoint = mountPoint)

/-- Of several mounts that lie one on another, the one whose line is read first is
not read-only unless the one on top is. -/
def TopIsFirst (content mountPoint : List Char) : Prop :=
  ∀ first top,
    (lines '\n' content).find? (mountPointOf · = mountPoint) = some first →
      topMount mountPoint (mounts content) = some top →
        HasRo first → top.readOnly = true

variable {content path mountPoint line : List Char}

/-- The words of a line are its fields. -/
theorem superblockOptions_of_aligned (aligned : Aligned line) :
    superblockOptions line = optionsField line := by
  rw [superblockOptions, optionsField, fields,
    words_eq_splitOn aligned.blanks aligned.noneEmpty]

theorem infix_of_hasRo (hasRo : HasRo line) :
    "ro".toList <:+: optionsField line :=
  infix_of_mem_splitOn hasRo

theorem reportsReadOnly_iff : ReportsReadOnly content ↔ RoOnlyAsOption content := by
  apply forall₂_congr
  intro line _
  rw [ofLine, decide_eq_true_eq]
  by_cases aligned : Aligned line
  · rw [superblockOptions_of_aligned aligned]
    constructor
    · intro reported
      exact ⟨fun _ => reported.mp, absurd aligned⟩
    · intro asOption
      exact ⟨asOption.1 aligned, infix_of_hasRo⟩
  · constructor
    · intro reported
      exact ⟨fun isAligned => absurd isAligned aligned, fun _ => reported⟩
    · intro asOption
      exact asOption.2 aligned

/-- A mount with an empty source that is reported writable, and is not. -/
example :
    let line := "30 25 0:30 / /mnt rw - tmpfs  ro".toList
    (ofLine line).readOnly = false ∧ HasRo line := by
  decide +kernel

/-! ## Remounts -/

theorem mountPoint_remount (flag : Bool) (mountPoint : List Char)
    (mounts : List MountInfo) :
    (remount flag mountPoint mounts).map MountInfo.mountPoint =
      mounts.map MountInfo.mountPoint := by
  induction mounts with
  | nil => rfl
  | cons mount later ih =>
      unfold remount
      split
      · rfl
      · rw [List.map_cons, List.map_cons, ih]

theorem forall_mountPoint_remount (flag : Bool) (mountPoint : List Char)
    (mounts : List MountInfo) :
    (∀ other ∈ remount flag mountPoint mounts, other.mountPoint ≠ mountPoint) ↔
      ∀ other ∈ mounts, other.mountPoint ≠ mountPoint := by
  have same := mountPoint_remount flag mountPoint mounts
  have all : ∀ list : List MountInfo,
      (∀ other ∈ list, other.mountPoint ≠ mountPoint) ↔
        mountPoint ∉ list.map MountInfo.mountPoint := by
    simp [List.mem_map]
  rw [all, all, same]

/-- Of two remounts the last one counts. -/
theorem remount_remount (first second : Bool) (mountPoint : List Char)
    (mounts : List MountInfo) :
    remount second mountPoint (remount first mountPoint mounts) =
      remount second mountPoint mounts := by
  induction mounts with
  | nil => rfl
  | cons mount later ih =>
      by_cases isTop : mount.mountPoint = mountPoint ∧
          ∀ other ∈ later, other.mountPoint ≠ mountPoint
      · rw [remount, if_pos isTop, remount, if_pos isTop, remount, if_pos isTop]
      · have stillNot : ¬(mount.mountPoint = mountPoint ∧
            ∀ other ∈ remount first mountPoint later,
              other.mountPoint ≠ mountPoint) := by
          rwa [forall_mountPoint_remount]
        rw [remount, if_neg isTop, remount, if_neg stillNot, remount, if_neg isTop,
          ih]

theorem topMount_cons (mount : MountInfo) (later : List MountInfo) :
    topMount mountPoint (mount :: later) =
      (topMount mountPoint later).or
        (if mount.mountPoint = mountPoint then some mount else none) := by
  simp [topMount, List.find?_append, List.find?_cons]
  split <;> simp_all

theorem topMount_eq_none_iff {mounts : List MountInfo} :
    topMount mountPoint mounts = none ↔
      ∀ other ∈ mounts, other.mountPoint ≠ mountPoint := by
  simp [topMount]

/-- A remount changes nothing exactly if the mount on top is as it is to be. -/
theorem remount_eq_self_iff {flag : Bool} {mounts : List MountInfo} :
    remount flag mountPoint mounts = mounts ↔
      ∀ top, topMount mountPoint mounts = some top → top.readOnly = flag := by
  induction mounts with
  | nil => simp [remount, topMount]
  | cons mount later ih =>
      rw [topMount_cons]
      by_cases noneLater : ∀ other ∈ later, other.mountPoint ≠ mountPoint
      · rw [topMount_eq_none_iff.mpr noneLater, Option.none_or]
        by_cases isHere : mount.mountPoint = mountPoint
        · rw [remount, if_pos ⟨isHere, noneLater⟩, if_pos isHere]
          simp only [List.cons.injEq, and_true, Option.some.injEq,
            forall_eq']
          constructor
          · intro same
            exact (congrArg MountInfo.readOnly same).symm
          · rintro rfl
            rfl
        · rw [remount, if_neg fun isTop => isHere isTop.1, if_neg isHere]
          rw [List.cons.injEq, ih, topMount_eq_none_iff.mpr noneLater]
          simp
      · obtain ⟨top, isTop⟩ := Option.ne_none_iff_exists'.mp
          (mt topMount_eq_none_iff.mp noneLater)
        rw [remount, if_neg fun isTop => noneLater isTop.2, List.cons.injEq, ih,
          isTop]
        simp

/-! ## When the mounts are restored -/

theorem findMountPoint_ne_nil
    (found : findMountPoint content path = some mountPoint) : mountPoint ≠ [] := by
  unfold findMountPoint at found
  dsimp only at found
  split at found
  · cases found
  · next notEmpty =>
      obtain rfl := Option.some.inj found
      exact notEmpty

/-- What was remounted read-write is remounted read-only, whatever it was. -/
theorem restores_iff_of_found
    (found : findMountPoint content path = some mountPoint) :
    Restores content path ↔
      (isReadOnly content mountPoint = some true →
        ∀ top, topMount mountPoint (mounts content) = some top →
          top.readOnly = true) := by
  unfold Restores fsMakeWritable
  rw [found, Option.bind_eq_bind, Option.bind_some]
  cases isReadOnly content mountPoint with
  | none => simp
  | some readOnly =>
  cases readOnly with
  | false =>
      apply iff_of_true
      · rintro result changed ⟨⟩
        rfl
      · exact nofun
  | true =>
      rw [forall_prop_of_true rfl, ← remount_eq_self_iff]
      constructor
      · intro restores
        have restored := restores _ _ rfl
        rwa [fsRemountReadOnly, if_neg (findMountPoint_ne_nil found),
          remount_remount] at restored
      · rintro same result changed ⟨⟩
        rw [fsRemountReadOnly, if_neg (findMountPoint_ne_nil found),
          remount_remount, same]

theorem isReadOnly_eq_some_true (reports : ReportsReadOnly content) :
    isReadOnly content mountPoint = some true ↔
      ∃ first, (lines '\n' content).find? (mountPointOf · = mountPoint) =
        some first ∧ HasRo first := by
  rw [isReadOnly, parseMountInfo, List.find?_map, Option.map_map,
    Option.map_eq_some_iff]
  apply exists_congr
  intro first
  apply and_congr_right
  intro isFirst
  exact reports first (List.mem_of_find?_eq_some isFirst)

/-- Mounts are reported as they are and restored exactly if `ro` is nowhere in the
options but as an option, and the mount that the path is on does not hide behind
another one at the same place. -/
theorem reports_and_restores_iff (content path : List Char) :
    ReportsReadOnly content ∧ Restores content path ↔
      RoOnlyAsOption content ∧
        ∀ mountPoint, findMountPoint content path = some mountPoint →
          TopIsFirst content mountPoint := by
  rw [reportsReadOnly_iff]
  apply and_congr_right
  intro asOption
  have reports := reportsReadOnly_iff.mpr asOption
  cases found : findMountPoint content path with
  | none =>
      apply iff_of_true
      · intro result changed made
        rw [fsMakeWritable, found] at made
        cases made
      · exact nofun
  | some mountPoint =>
      rw [restores_iff_of_found found, isReadOnly_eq_some_true reports]
      simp only [Option.some.injEq, forall_eq', TopIsFirst]
      constructor
      · intro restored first top isFirst isTop readOnly
        exact restored ⟨first, isFirst, readOnly⟩ top isTop
      · rintro topIsFirst ⟨first, isFirst, readOnly⟩ top isTop
        exact topIsFirst first top isFirst isTop readOnly

/-- A file system that is to be remounted read-only when an error occurs, and is
writable. -/
def remountOnErrors : List Char :=
  "39 25 8:1 / / rw,relatime shared:1 - ext4 /dev/sda1 rw,errors=remount-ro\n".toList

theorem read_remountOnErrors :
    parseMountInfo remountOnErrors = [⟨['/'], true⟩] ∧
      mounts remountOnErrors = [⟨['/'], false⟩] := by
  have text : remountOnErrors = _ := String.toList_ofList
  rw [text]
  decide +kernel

/-- It is reported read-only, and it is so after an update. -/
theorem not_reports_remountOnErrors :
    ¬ReportsReadOnly remountOnErrors ∧
      ¬Restores remountOnErrors "/usr/lib".toList := by
  obtain ⟨parsed, isMounted⟩ := read_remountOnErrors
  constructor
  · intro reports
    obtain ⟨line, isLine, parsed⟩ := List.map_eq_singleton_iff.mp parsed
    rw [mounts, isLine, List.map_singleton, List.singleton_inj] at isMounted
    have hasNoRo : ¬HasRo line :=
      of_decide_eq_false (congrArg MountInfo.readOnly isMounted)
    apply hasNoRo
    apply (reports line (by simp [isLine])).mp
    rw [parsed]
  · intro restores
    have found : findMountPoint remountOnErrors "/usr/lib".toList = some ['/'] := by
      rw [findMountPoint, parsed]
      decide +kernel
    have reported : isReadOnly remountOnErrors ['/'] = some true := by
      rw [isReadOnly, parsed]
      rfl
    have isTop : topMount ['/'] (mounts remountOnErrors) = some ⟨['/'], false⟩ := by
      rw [isMounted]
      rfl
    exact nomatch (restores_iff_of_found found).mp restores reported _ isTop

/-! ## Where a file lies -/

/-- The mount points as they are read, escapes and all. -/
def written (content : List Char) : List (List Char) :=
  (parseMountInfo content).map MountInfo.mountPoint

/-- The directories that mounts are at. -/
def mounted (content : List Char) : List (List Char) :=
  (mounts content).map MountInfo.mountPoint

end MountInfo

/-- The text of an absolute path. -/
def locationText (location : Location) : List Char :=
  if location = [] then ['/'] else location.flatMap ('/' :: ·)

/-- The names on the way from the root, none of which leads elsewhere. -/
structure CanonicalPath where
  names : Location
  valid : ∀ name ∈ names, name ≠ [] ∧ '/' ∉ name ∧ name ≠ ['.'] ∧ name ≠ dotDot

namespace CanonicalPath

def text (path : CanonicalPath) : List Char :=
  locationText path.names

/-- A directory that is the path itself or one above it. -/
def IsWithin (path : CanonicalPath) (directory : List Char) : Prop :=
  ∃ above, above <+: path.names ∧ directory = locationText above

theorem isWithin_iff {path : CanonicalPath} {directory : List Char} :
    path.IsWithin directory ↔ directory ∈ path.names.inits.map locationText := by
  simp only [IsWithin, List.mem_map, List.mem_inits, eq_comm]

instance (path : CanonicalPath) (directory : List Char) :
    Decidable (path.IsWithin directory) :=
  @decidable_of_iff _ _ isWithin_iff.symm
    (@List.instDecidableMemOfLawfulBEq _ _ MountInfo.lawfulBEq_text _ _)

theorem IsWithin.isPrefix {path : CanonicalPath} {directory : List Char}
    (isWithin : path.IsWithin directory) : directory <+: path.text := by
  obtain ⟨above, ⟨below, isNames⟩, rfl⟩ := isWithin
  rw [text, ← isNames, locationText, locationText]
  by_cases isRoot : above = []
  · rw [if_pos isRoot]
    split
    · exact List.prefix_refl _
    · next notEmpty =>
        rw [isRoot, List.nil_append] at notEmpty ⊢
        obtain ⟨name, names, rfl⟩ := List.exists_cons_of_ne_nil notEmpty
        exact ⟨name ++ names.flatMap ('/' :: ·), rfl⟩
  · rw [if_neg isRoot, if_neg fun isEmpty =>
      isRoot (List.append_eq_nil_iff.mp isEmpty).1, List.flatMap_append]
    exact List.prefix_append _ _

end CanonicalPath

namespace MountInfo

variable {content : List Char} {path : CanonicalPath}

/-- The longest mount point that the path is within. -/
def IsMountOf (content : List Char) (path : CanonicalPath)
    (directory : List Char) : Prop :=
  IsLongest (fun other => other ∈ mounted content ∧ path.IsWithin other)
    path.text directory

/-- The mount point that is found is the one that the path is on. -/
def FindsMount (content : List Char) (path : CanonicalPath) : Prop :=
  ∃ directory, IsMountOf content path directory ∧
    findMountPoint content path.text = some directory

/-- The mount that the path is on is written as it is, and no mount point that is
written as a longer beginning of the path lies elsewhere. -/
structure FoundByText (content : List Char) (path : CanonicalPath) : Prop where
  verbatim : ∀ directory, IsMountOf content path directory →
    directory ∈ written content
  noNamesake : ∀ other ∈ written content, other <+: path.text →
    ∀ directory, IsMountOf content path directory →
      other.length ≤ directory.length

theorem findMountPoint_eq_some_iff {text directory : List Char}
    (notEmpty : directory ≠ []) :
    findMountPoint content text = some directory ↔
      IsLongest (· ∈ written content) text directory := by
  change (if (written content).foldl (better text) [] = [] then none
    else some ((written content).foldl (better text) [])) = _ ↔ _
  constructor
  · intro found
    split at found
    · cases found
    · next isSome =>
        obtain rfl := Option.some.inj found
        exact isLongest_foldl isSome
  · intro isLongest
    have isSome : (written content).foldl (better text) [] ≠ [] := by
      intro isEmpty
      obtain ⟨_, _, noLonger⟩ := foldl_better isEmpty
      have length := noLonger directory isLongest.candidate isLongest.isPrefix
      exact notEmpty (List.eq_nil_of_length_eq_zero (Nat.le_zero.mp length))
    rw [if_neg isSome, Option.some.injEq]
    exact (isLongest_foldl isSome).unique isLongest

theorem exists_isMountOf (rootMounted : ['/'] ∈ mounted content) :
    ∃ directory, IsMountOf content path directory := by
  have isWithin : path.IsWithin ['/'] := ⟨[], List.nil_prefix, rfl⟩
  have isCandidate : ['/'] ∈ mounted content ∧ path.IsWithin ['/'] :=
    ⟨rootMounted, isWithin⟩
  unfold IsMountOf
  apply exists_isLongest _ isWithin.isPrefix
  exact isCandidate

theorem ne_nil_of_isWithin {directory : List Char}
    (isWithin : path.IsWithin directory) : directory ≠ [] := by
  obtain ⟨above, _, rfl⟩ := isWithin
  unfold locationText
  split
  · exact nofun
  · next notEmpty =>
      obtain ⟨name, names, rfl⟩ := List.exists_cons_of_ne_nil notEmpty
      exact nofun

/-- The mount that a path is on is found exactly if it is written as it is, and no
mount point elsewhere is written as a longer beginning of the path. -/
theorem findsMount_iff (path : CanonicalPath)
    (rootMounted : ['/'] ∈ mounted content) :
    FindsMount content path ↔ FoundByText content path := by
  constructor
  · rintro ⟨directory, isMount, found⟩
    have isLongest := (findMountPoint_eq_some_iff
      (ne_nil_of_isWithin isMount.candidate.2)).mp found
    constructor
    · intro other isOther
      rw [isOther.unique isMount]
      exact isLongest.candidate
    · intro other isWritten begins own isOwn
      rw [isOwn.unique isMount]
      exact isLongest.longest other isWritten begins
  · rintro ⟨verbatim, noNamesake⟩
    obtain ⟨directory, isMount⟩ := @exists_isMountOf content path rootMounted
    refine ⟨directory, isMount, (findMountPoint_eq_some_iff
      (ne_nil_of_isWithin isMount.candidate.2)).mpr ?_⟩
    exact
      { candidate := verbatim directory isMount
        isPrefix := isMount.isPrefix
        longest := fun other isWritten begins =>
          noNamesake other isWritten begins directory isMount }

/-- `/mnt/data` is mounted, and `/mnt/data2` is not. -/
def siblings : List Char :=
  ("1 0 8:1 / / rw - ext4 /dev/sda1 rw\n" ++
    "2 1 8:2 / /mnt/data rw - ext4 /dev/sda2 rw\n").toList

theorem read_siblings :
    parseMountInfo siblings =
        [⟨"/".toList, false⟩, ⟨"/mnt/data".toList, false⟩] ∧
      mounts siblings =
        [⟨"/".toList, false⟩, ⟨"/mnt/data".toList, false⟩] := by
  have text : siblings = _ ++ _ := String.toList_append.trans
    (congrArg₂ (· ++ ·) String.toList_ofList String.toList_ofList)
  rw [text]
  decide +kernel

theorem mounted_siblings :
    mounted siblings = ["/".toList, "/mnt/data".toList] := by
  rw [mounted, read_siblings.2]
  rfl

/-- A path on the second mount is found there. -/
theorem foundByText_inside :
    FoundByText siblings
      ⟨["mnt".toList, "data".toList, "lib".toList], by decide +kernel⟩ := by
  have rootMounted : ['/'] ∈ mounted siblings := by
    rw [mounted_siblings]
    exact List.mem_cons_self
  refine (findsMount_iff _ rootMounted).mp ⟨"/mnt/data".toList, ?_, ?_⟩
  · unfold IsMountOf
    rw [mounted_siblings]
    have shorter : ∀ other ∈ ["/".toList, "/mnt/data".toList],
        other.length ≤ "/mnt/data".toList.length := by
      decide +kernel
    exact
      { candidate := by decide +kernel
        isPrefix := by decide +kernel
        longest := fun other candidate _ => shorter other candidate.1 }
  · rw [findMountPoint, read_siblings.1]
    decide +kernel

/-- A path whose name goes on after the mount point is found there too, although
it is on the first mount. -/
theorem not_findsMount_beside :
    ¬FindsMount siblings
      ⟨["mnt".toList, "data2".toList, "lib".toList], by decide +kernel⟩ := by
  rintro ⟨directory, isMount, found⟩
  have elsewhere : findMountPoint siblings "/mnt/data2/lib".toList =
      some "/mnt/data".toList := by
    rw [findMountPoint, read_siblings.1]
    decide +kernel
  obtain rfl := Option.some.inj (elsewhere.symm.trans found)
  exact absurd isMount.candidate.2 (by decide +kernel)

end MountInfo

end ScorbitSdk
