import ScorbitSdk.ArchiveExtraction
import ScorbitSdk.BoundedMemory
import ScorbitSdk.LastWrites
import Mathlib.Data.List.Nodup

/-!
# Archives of diagnostics

`uploadDiagnostics` puts log files, recordings and a text into an archive, each
under a prefix and the last part of its path.  Files that are missing, too large
or too many are left out, and of a text that is too long the end.
-/

namespace ScorbitSdk

open BoundedMemory

namespace DiagnosticArchive

/-! ## Archives -/

structure ArchiveFileEntry where
  archivePath : List Char
  sourcePath : List Char
deriving DecidableEq

structure ArchiveMemoryEntry where
  archivePath : List Char
  data : List Byte
deriving DecidableEq

/-- A name in the archive, and what is stored under it. -/
abbrev Entry := List Char × List Byte

/-- What `fs::exists` and `fs::file_size` return, or that they throw, what can be
read of the files that can be opened, and the last parts of paths. -/
structure Disk where
  fileExists : List Char → Option Bool
  file_size : List Char → Option Nat
  content : List Char → Option (List Byte)
  filename : List Char → List Char

/-- The results of the calls for an entry. -/
structure WriteCalls where
  allocated : Bool := true
  write_header : Int := ARCHIVE_OK
  write_data : Nat → Int := fun size => size

/-- The results of the calls for an archive, and what there is of it where it
cannot be closed. -/
structure TarCalls where
  allocated : Bool := true
  open_filename : Int := ARCHIVE_OK
  entry : Nat → WriteCalls := fun _ => {}
  write_close : Int := ARCHIVE_OK
  unclosed : List Entry := []

/-- A string up to its `NUL`, as `c_str` hands it over. -/
def cString (text : List Char) : List Char :=
  text.takeWhile (· ≠ '\x00')

/-- The buffer of a file, of the size that the file has. -/
def Disk.read (disk : Disk) (path : List Char) : Option (List Byte) :=
  match disk.fileExists path, disk.file_size path, disk.content path with
  | some true, some fileSize, some bytes =>
      some ((bytes ++ List.replicate fileSize 0).take fileSize)
  | _, _, _ => none

def TarCalls.writeEntry (calls : TarCalls) (written : List Entry)
    (archivePath : List Char) (data : List Byte) : Option (List Entry) :=
  let call := calls.entry written.length
  if !call.allocated then none
  else if call.write_header ≠ ARCHIVE_OK then none
  else if 0 < data.length ∧ call.write_data data.length < data.length then none
  else some (written ++ [(cString archivePath, data)])

/-- A file that cannot be read is passed over. -/
def TarCalls.writeFile (calls : TarCalls) (disk : Disk) (written : List Entry)
    (file : ArchiveFileEntry) : Option (List Entry) :=
  match disk.read file.sourcePath with
  | none => some written
  | some buffer => calls.writeEntry written file.archivePath buffer

def TarCalls.writeMemory (calls : TarCalls) (written : List Entry)
    (memory : ArchiveMemoryEntry) : Option (List Entry) :=
  calls.writeEntry written memory.archivePath memory.data

/-- The archive that `createTarGz` leaves where it returns true.  Whether it has
been closed without an error is not looked at. -/
def createTarGz (calls : TarCalls) (disk : Disk) (files : List ArchiveFileEntry)
    (memoryEntries : List ArchiveMemoryEntry) : Option (List Entry) :=
  if files.isEmpty && memoryEntries.isEmpty then none
  else if !calls.allocated then none
  else if calls.open_filename ≠ ARCHIVE_OK then none
  else do
    let written ← files.foldlM (calls.writeFile disk) []
    let written ← memoryEntries.foldlM calls.writeMemory written
    some (if calls.write_close = ARCHIVE_OK then written else calls.unclosed)

/-! ## Diagnostics -/

def DIAG_MAX_LOGS : Nat := 5
def DIAG_MAX_RECORDINGS : Nat := 2
def DIAG_MAX_LOG_SIZE : Nat := 10 * 1024 * 1024 + 100
def DIAG_MAX_RECORDING_SIZE : Nat := 20 * 1024 * 1024 + 100
def DIAG_MAX_LOG_STRING_SIZE : Nat := 10 * 1024 * 1024 + 100

/-- The file is there, and its size is known and not too large. -/
def Disk.keeps (disk : Disk) (maxSize : Nat) (path : List Char) : Bool :=
  match disk.fileExists path, disk.file_size path with
  | some true, some size => !(maxSize < size)
  | _, _ => false

def filterPaths (disk : Disk) (maxCount maxSize : Nat)
    (paths : List (List Char)) : List (List Char) :=
  let paths := if maxCount < paths.length then paths.take maxCount else paths
  paths.filter (disk.keeps maxSize)

def filterLogs (disk : Disk) : List (List Char) → List (List Char) :=
  filterPaths disk DIAG_MAX_LOGS DIAG_MAX_LOG_SIZE

def filterRecordings (disk : Disk) : List (List Char) → List (List Char) :=
  filterPaths disk DIAG_MAX_RECORDINGS DIAG_MAX_RECORDING_SIZE

def logsPrefix : List Char :=
  "logs/".toList

def recordingsPrefix : List Char :=
  "recordings/".toList

def extraLog : List Char :=
  "extra.log".toList

def archiveFiles (disk : Disk) (logPaths recordingPaths : List (List Char)) :
    List ArchiveFileEntry :=
  (filterLogs disk logPaths).map
      (fun path => ⟨logsPrefix ++ disk.filename path, path⟩) ++
    (filterRecordings disk recordingPaths).map
      fun path => ⟨recordingsPrefix ++ disk.filename path, path⟩

/-- `logString.resize` where it is too long. -/
def truncated (logString : List Byte) : List Byte :=
  if DIAG_MAX_LOG_STRING_SIZE < logString.length then
    logString.take DIAG_MAX_LOG_STRING_SIZE
  else logString

def archiveMemory (logString : List Byte) : List ArchiveMemoryEntry :=
  if logString.isEmpty then []
  else [⟨logsPrefix ++ extraLog, truncated logString⟩]

/-- The archive that is uploaded, where there is one. -/
def uploadDiagnostics (calls : TarCalls) (disk : Disk)
    (logPaths recordingPaths : List (List Char)) (logString : List Byte) :
    Option (List Entry) :=
  if (archiveFiles disk logPaths recordingPaths).isEmpty &&
      (archiveMemory logString).isEmpty then none
  else
    createTarGz calls disk (archiveFiles disk logPaths recordingPaths)
      (archiveMemory logString)

/-! ## What is expected of an archive -/

/-- The file can be opened, and is as long as its size says. -/
def Disk.Readable (disk : Disk) (path : List Char) : Prop :=
  ∃ bytes, disk.content path = some bytes ∧
    disk.file_size path = some bytes.length

/-- The entry of a file. -/
def Stores (disk : Disk) (archivePrefix path : List Char) (archive : List Entry) :
    Prop :=
  ∀ bytes, disk.content path = some bytes →
    (cString (archivePrefix ++ disk.filename path), bytes) ∈ archive

/-- The files by their names after the archive has been unpacked; of several entries
with one name the last remains. -/
def unpacked (archive : List Entry) : List Char → Option (List Byte) :=
  LastWrite.writeAll (fun _ => none)
    (archive.map fun entry => (entry.1, some entry.2))

/-- The names are different, and nothing is lost. -/
def LosesNone (archive : List Entry) : Prop :=
  (archive.map Prod.fst).Nodup ∧
    ∀ entry ∈ archive, unpacked archive entry.1 = some entry.2

/-- All of the files that have been kept are there, and the text as `kept` leaves
it. -/
structure StoresAll (disk : Disk) (logPaths recordingPaths : List (List Char))
    (logString : List Byte) (kept : List Byte → List Byte)
    (archive : List Entry) : Prop where
  logs : ∀ path ∈ filterLogs disk logPaths, Stores disk logsPrefix path archive
  recordings : ∀ path ∈ filterRecordings disk recordingPaths,
    Stores disk recordingsPrefix path archive
  logString : logString ≠ [] →
    (logsPrefix ++ extraLog, kept logString) ∈ archive

/-- No two of the kept files have the same last part of their paths, and no log has
that of the text. -/
structure NamesApart (disk : Disk) (logPaths recordingPaths : List (List Char))
    (logString : List Byte) : Prop where
  logs : ((filterLogs disk logPaths).map fun path =>
    cString (disk.filename path)).Nodup
  recordings : ((filterRecordings disk recordingPaths).map fun path =>
    cString (disk.filename path)).Nodup
  extra : logString ≠ [] →
    ∀ path ∈ filterLogs disk logPaths, cString (disk.filename path) ≠ extraLog

/-! ## What is written -/

theorem writeEntry_eq {calls : TarCalls} {written next : List Entry}
    {archivePath : List Char} {data : List Byte}
    (wrote : calls.writeEntry written archivePath data = some next) :
    next = written ++ [(cString archivePath, data)] := by
  simp only [TarCalls.writeEntry] at wrote
  split at wrote
  · exact absurd wrote (by simp)
  · split at wrote
    · exact absurd wrote (by simp)
    · split at wrote
      · exact absurd wrote (by simp)
      · exact (Option.some.inj wrote).symm

/-- A loop that appends in each step has appended everything. -/
theorem foldlM_appends {α β : Type} {step : List β → α → Option (List β)}
    {entryOf : α → β} {items : List α} {start result : List β}
    (appends : ∀ item ∈ items, ∀ written next, step written item = some next →
      next = written ++ [entryOf item])
    (looped : items.foldlM step start = some result) :
    result = start ++ items.map entryOf := by
  induction items generalizing start with
  | nil =>
      obtain rfl := Option.some.inj looped
      simp
  | cons item items ih =>
      rw [List.foldlM_cons] at looped
      obtain ⟨next, stepped, later⟩ := Option.bind_eq_some_iff.mp looped
      have head := appends item List.mem_cons_self start next stepped
      have tail := ih (fun other member => appends other (List.mem_cons_of_mem _ member))
        later
      rw [tail, head, List.append_assoc, List.map_cons, List.singleton_append]

/-- A file that has been kept and can be read is read in full. -/
theorem Disk.read_of_keeps {disk : Disk} {maxSize : Nat} {path : List Char}
    (kept : disk.keeps maxSize path = true) (readable : disk.Readable path) :
    disk.read path = disk.content path := by
  obtain ⟨bytes, content, size⟩ := readable
  rw [Disk.keeps, size] at kept
  split at kept
  · next _ found _ => simp [Disk.read, found, size, content]
  · exact absurd kept Bool.false_ne_true

theorem keeps_of_mem_filterPaths {disk : Disk} {maxCount maxSize : Nat}
    {paths : List (List Char)} {path : List Char}
    (member : path ∈ filterPaths disk maxCount maxSize paths) :
    disk.keeps maxSize path = true :=
  (List.mem_filter.mp member).2

/-- The entry of a file in the archive. -/
def fileEntry (disk : Disk) (archivePrefix path : List Char) : Entry :=
  (cString (archivePrefix ++ disk.filename path), (disk.content path).getD [])

/-- The entry of the text, where there is one. -/
def textEntries (logString : List Byte) : List Entry :=
  if logString.isEmpty then [] else [(logsPrefix ++ extraLog, truncated logString)]

theorem archiveFiles_readable {disk : Disk} {logPaths recordingPaths : List (List Char)}
    (readable : ∀ path ∈ filterLogs disk logPaths ++
      filterRecordings disk recordingPaths, disk.Readable path) :
    ∀ file ∈ archiveFiles disk logPaths recordingPaths,
      ∃ bytes, disk.content file.sourcePath = some bytes ∧
        disk.read file.sourcePath = some bytes := by
  intro file member
  have kept : disk.Readable file.sourcePath ∧
      disk.read file.sourcePath = disk.content file.sourcePath := by
    rcases List.mem_append.mp member with log | recording
    · obtain ⟨path, isLog, rfl⟩ := List.mem_map.mp log
      have can := readable path (List.mem_append_left _ isLog)
      exact ⟨can, Disk.read_of_keeps (keeps_of_mem_filterPaths isLog) can⟩
    · obtain ⟨path, isRecording, rfl⟩ := List.mem_map.mp recording
      have can := readable path (List.mem_append_right _ isRecording)
      exact ⟨can, Disk.read_of_keeps (keeps_of_mem_filterPaths isRecording) can⟩
  obtain ⟨⟨bytes, content, -⟩, read⟩ := kept
  exact ⟨bytes, content, read.trans content⟩

/-- The archive is made of the files that have been kept and the text. -/
theorem uploadDiagnostics_eq {calls : TarCalls} {disk : Disk}
    {logPaths recordingPaths : List (List Char)} {logString : List Byte}
    {archive : List Entry}
    (readable : ∀ path ∈ filterLogs disk logPaths ++
      filterRecordings disk recordingPaths, disk.Readable path)
    (closed : calls.write_close = ARCHIVE_OK)
    (archived : uploadDiagnostics calls disk logPaths recordingPaths logString =
      some archive) :
    archive = (filterLogs disk logPaths).map (fileEntry disk logsPrefix) ++
      ((filterRecordings disk recordingPaths).map (fileEntry disk recordingsPrefix) ++
        textEntries logString) := by
  have files : (archiveFiles disk logPaths recordingPaths).map (fun file =>
      (cString file.archivePath, (disk.content file.sourcePath).getD [])) =
        (filterLogs disk logPaths).map (fileEntry disk logsPrefix) ++
          (filterRecordings disk recordingPaths).map
            (fileEntry disk recordingsPrefix) := by
    rw [archiveFiles, List.map_append, List.map_map, List.map_map]
    rfl
  have memory : (archiveMemory logString).map (fun memory =>
      (cString memory.archivePath, memory.data)) = textEntries logString := by
    unfold archiveMemory textEntries
    split <;> rfl
  have appendsFile : ∀ file ∈ archiveFiles disk logPaths recordingPaths,
      ∀ written next, calls.writeFile disk written file = some next →
        next = written ++
          [(cString file.archivePath, (disk.content file.sourcePath).getD [])] := by
    intro file member written next wrote
    obtain ⟨bytes, content, read⟩ := archiveFiles_readable readable file member
    simp only [TarCalls.writeFile, read] at wrote
    rw [writeEntry_eq wrote, content, Option.getD_some]
  have appendsMemory : ∀ memory ∈ archiveMemory logString,
      ∀ written next, calls.writeMemory written memory = some next →
        next = written ++ [(cString memory.archivePath, memory.data)] :=
    fun memory _ written next wrote => writeEntry_eq wrote
  simp only [uploadDiagnostics, createTarGz, if_pos closed] at archived
  split at archived
  · exact absurd archived (by simp)
  · split at archived
    · exact absurd archived (by simp)
    · split at archived
      · exact absurd archived (by simp)
      · obtain ⟨written, wroteFiles, archived⟩ := Option.bind_eq_some_iff.mp archived
        obtain ⟨whole, wroteMemory, archived⟩ := Option.bind_eq_some_iff.mp archived
        obtain rfl := Option.some.inj archived
        rw [foldlM_appends appendsMemory wroteMemory,
          foldlM_appends appendsFile wroteFiles, List.nil_append, files, memory,
          List.append_assoc]

/-! ## Names -/

theorem cString_append {archivePrefix name : List Char}
    (solid : '\x00' ∉ archivePrefix) :
    cString (archivePrefix ++ name) = archivePrefix ++ cString name := by
  rw [cString, List.takeWhile_append_of_pos]
  · rfl
  · intro c member
    have isOther : c ≠ '\x00' := fun same => solid (same ▸ member)
    simpa using isOther

theorem logsPrefix_solid : '\x00' ∉ logsPrefix := by decide

theorem recordingsPrefix_solid : '\x00' ∉ recordingsPrefix := by decide

/-- Names behind one prefix are as different as they are without it. -/
theorem nodup_fileEntry_names {disk : Disk} {archivePrefix : List Char}
    {paths : List (List Char)} (solid : '\x00' ∉ archivePrefix)
    (apart : (paths.map fun path => cString (disk.filename path)).Nodup) :
    ((paths.map (fileEntry disk archivePrefix)).map Prod.fst).Nodup := by
  have names : (paths.map (fileEntry disk archivePrefix)).map Prod.fst =
      (paths.map fun path => cString (disk.filename path)).map
        (archivePrefix ++ ·) := by
    simp [fileEntry, cString_append solid]
  rw [names]
  exact apart.map (List.append_right_injective archivePrefix)

theorem LosesNone.of_nodup {archive : List Entry}
    (apart : (archive.map Prod.fst).Nodup) : LosesNone archive := by
  refine ⟨apart, fun entry member => ?_⟩
  have once : ((archive.map fun entry => (entry.1, some entry.2)).map
      Prod.fst).Nodup := by
    rw [List.map_map]
    exact apart
  have written : (entry.1, some entry.2) ∈
      archive.map fun entry => (entry.1, some entry.2) :=
    List.mem_map.mpr ⟨entry, member, rfl⟩
  exact LastWrite.writeAll_of_isLast (LastWrite.isLast_of_nodup once written)

/-- The prefixes keep the logs and the recordings apart. -/
theorem logsPrefix_ne_recordingsPrefix (first second : List Char) :
    logsPrefix ++ first ≠ recordingsPrefix ++ second := by
  intro same
  exact absurd (List.cons.inj same).1 (by decide)

theorem fst_of_mem_files {disk : Disk} {archivePrefix name : List Char}
    {paths : List (List Char)} (solid : '\x00' ∉ archivePrefix)
    (member : name ∈ (paths.map (fileEntry disk archivePrefix)).map Prod.fst) :
    ∃ path ∈ paths, name = archivePrefix ++ cString (disk.filename path) := by
  rw [List.map_map] at member
  obtain ⟨path, isPath, rfl⟩ := List.mem_map.mp member
  exact ⟨path, isPath, cString_append solid⟩

theorem fst_of_mem_text {logString : List Byte} {name : List Char}
    (member : name ∈ (textEntries logString).map Prod.fst) :
    logString ≠ [] ∧ name = logsPrefix ++ extraLog := by
  cases logString with
  | nil => simp [textEntries] at member
  | cons byte bytes => exact ⟨List.cons_ne_nil byte bytes, by simpa [textEntries] using member⟩

/-- The names of the archive are different where the files' own names are. -/
theorem NamesApart.nodup {disk : Disk} {logPaths recordingPaths : List (List Char)}
    {logString : List Byte}
    (apart : NamesApart disk logPaths recordingPaths logString) :
    (((filterLogs disk logPaths).map (fileEntry disk logsPrefix) ++
      ((filterRecordings disk recordingPaths).map (fileEntry disk recordingsPrefix) ++
        textEntries logString)).map Prod.fst).Nodup := by
  rw [List.map_append, List.map_append]
  apply List.Nodup.append
  · exact nodup_fileEntry_names logsPrefix_solid apart.logs
  · apply List.Nodup.append
    · exact nodup_fileEntry_names recordingsPrefix_solid apart.recordings
    · cases logString <;> simp [textEntries]
    · intro name isRecording isText
      obtain ⟨path, -, rfl⟩ := fst_of_mem_files recordingsPrefix_solid isRecording
      exact logsPrefix_ne_recordingsPrefix _ _ (fst_of_mem_text isText).2.symm
  · intro name isLog isOther
    obtain ⟨path, member, rfl⟩ := fst_of_mem_files logsPrefix_solid isLog
    rcases List.mem_append.mp isOther with isRecording | isText
    · obtain ⟨other, -, same⟩ := fst_of_mem_files recordingsPrefix_solid isRecording
      exact logsPrefix_ne_recordingsPrefix _ _ same
    · obtain ⟨some_, same⟩ := fst_of_mem_text isText
      exact apart.extra some_ path member (List.append_cancel_left same)

/-- What the archive of the diagnostics has: the files that have been kept, the text
up to the limit, and names that are different where the files' own names are. -/
theorem uploadDiagnostics_stores (calls : TarCalls) (disk : Disk)
    (logPaths recordingPaths : List (List Char)) (logString : List Byte)
    (archive : List Entry)
    (readable : ∀ path ∈ filterLogs disk logPaths ++
      filterRecordings disk recordingPaths, disk.Readable path)
    (closed : calls.write_close = ARCHIVE_OK)
    (archived : uploadDiagnostics calls disk logPaths recordingPaths logString =
      some archive) :
    StoresAll disk logPaths recordingPaths logString truncated archive ∧
      (NamesApart disk logPaths recordingPaths logString → LosesNone archive) := by
  obtain rfl := uploadDiagnostics_eq readable closed archived
  constructor
  · constructor
    · intro path member bytes content
      have entry : fileEntry disk logsPrefix path =
          (cString (logsPrefix ++ disk.filename path), bytes) := by
        simp [fileEntry, content]
      rw [← entry]
      exact List.mem_append_left _ (List.mem_map_of_mem member)
    · intro path member bytes content
      have entry : fileEntry disk recordingsPrefix path =
          (cString (recordingsPrefix ++ disk.filename path), bytes) := by
        simp [fileEntry, content]
      rw [← entry]
      exact List.mem_append_right _ (List.mem_append_left _ (List.mem_map_of_mem member))
    · intro some_
      have entry : textEntries logString =
          [(logsPrefix ++ extraLog, truncated logString)] := by
        simp [textEntries, some_]
      rw [entry]
      simp
  · exact fun apart => LosesNone.of_nodup apart.nodup

/-! ## Names that are alike, and a text that is too long -/

/-- The last part of a path, of one that does not end with a separator. -/
def baseName (path : List Char) : List Char :=
  (path.reverse.takeWhile (· ≠ '/')).reverse

/-- Every path leads to a file with the path for its content. -/
def sampleDisk : Disk where
  fileExists := fun _ => some true
  file_size := fun path => some path.length
  content := fun path => some (path.map fun c => BitVec.ofNat 8 c.toNat)
  filename := baseName

def sampleLogs : List (List Char) :=
  ["/a/x.log".toList, "/b/x.log".toList]

theorem sampleDisk_readable (path : List Char) : sampleDisk.Readable path :=
  ⟨_, rfl, by simp [sampleDisk]⟩

theorem uploadDiagnostics_stores_sample :
    (∀ path ∈ filterLogs sampleDisk ["/a/x.log".toList] ++
        filterRecordings sampleDisk [], sampleDisk.Readable path) ∧
      ∃ archive, uploadDiagnostics {} sampleDisk ["/a/x.log".toList] [] [7] =
        some archive ∧
      StoresAll sampleDisk ["/a/x.log".toList] [] [7] truncated archive ∧
      LosesNone archive := by
  have readable : ∀ path ∈ filterLogs sampleDisk ["/a/x.log".toList] ++
      filterRecordings sampleDisk [], sampleDisk.Readable path :=
    fun path _ => sampleDisk_readable path
  have apart : NamesApart sampleDisk ["/a/x.log".toList] [] [7] := by
    refine ⟨by decide, by decide, fun _ path member => ?_⟩
    have isPath : path ∈ ["/a/x.log".toList] := (List.mem_filter.mp member).1
    obtain rfl := List.mem_singleton.mp isPath
    decide
  obtain ⟨archive, archived⟩ : ∃ archive, uploadDiagnostics {} sampleDisk
      ["/a/x.log".toList] [] [7] = some archive :=
    Option.isSome_iff_exists.mp (by decide)
  have stores := uploadDiagnostics_stores {} sampleDisk ["/a/x.log".toList] [] [7]
    archive readable rfl archived
  exact ⟨readable, archive, archived, stores.1, stores.2 apart⟩

/-- A text alone becomes an archive of its own. -/
theorem uploadDiagnostics_text (disk : Disk) {logString : List Byte}
    (some_ : logString ≠ []) :
    uploadDiagnostics {} disk [] [] logString =
      some [(cString (logsPrefix ++ extraLog), truncated logString)] := by
  simp [uploadDiagnostics, createTarGz, archiveFiles, filterLogs, filterRecordings,
    filterPaths, archiveMemory, some_, TarCalls.writeMemory, TarCalls.writeEntry]

/-- The disk is full when the archive is closed. -/
def unclosedCalls : TarCalls where
  write_close := ARCHIVE_FATAL

/-- Of two logs with one name the first is lost, so is the end of a text that is
too long, and all that an archive had if it could not be closed. -/
theorem not_storesAll_sameName :
    (∃ archive, uploadDiagnostics {} sampleDisk sampleLogs [] [] = some archive ∧
      archive.map Prod.fst = ["logs/x.log".toList, "logs/x.log".toList] ∧
      ¬(StoresAll sampleDisk sampleLogs [] [] id archive ∧ LosesNone archive)) ∧
    (∃ archive, uploadDiagnostics {} sampleDisk [] []
        (List.replicate (DIAG_MAX_LOG_STRING_SIZE + 1) 0) = some archive ∧
      ¬(StoresAll sampleDisk [] []
        (List.replicate (DIAG_MAX_LOG_STRING_SIZE + 1) 0) id archive ∧
          LosesNone archive)) ∧
    ∃ archive, uploadDiagnostics unclosedCalls sampleDisk ["/a/x.log".toList] []
        [] = some archive ∧
      ¬(StoresAll sampleDisk ["/a/x.log".toList] [] [] id archive ∧
        LosesNone archive) := by
  refine ⟨?_, ?_, ?_⟩
  · refine ⟨_, rfl, by decide, fun all => ?_⟩
    exact absurd all.2.1 (by decide)
  · have some_ : List.replicate (DIAG_MAX_LOG_STRING_SIZE + 1) (0 : Byte) ≠ [] :=
      List.cons_ne_nil _ _
    refine ⟨_, uploadDiagnostics_text sampleDisk some_, fun all => ?_⟩
    have whole := all.1.logString some_
    rw [List.mem_singleton, Prod.mk.injEq] at whole
    have length := congrArg List.length whole.2
    rw [truncated, if_pos (by simp)] at length
    simp at length
  · refine ⟨[], by decide, fun all => ?_⟩
    have kept : "/a/x.log".toList ∈ filterLogs sampleDisk ["/a/x.log".toList] := by
      decide
    exact absurd (all.1.logs _ kept _ rfl) List.not_mem_nil

end DiagnosticArchive

end ScorbitSdk
