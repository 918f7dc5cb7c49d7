import ScorbitSdk.BinaryReplacement
import ScorbitSdk.PathResolution
import ScorbitSdk.TransitionRuns
import Mathlib.Logic.Function.Basic

/-!
# Extracting an archive

`extract` goes through the entries of an archive and has libarchive write each of
them to its path behind the output directory.  What libarchive returns is
arbitrary; what it writes, it writes to the path that it is given, through the
symbolic links on the way.
-/

namespace ScorbitSdk

def ARCHIVE_EOF : Int := 1
def ARCHIVE_OK : Int := 0
def ARCHIVE_FATAL : Int := -30

/-- How many symbolic links are followed in one path. -/
def linkLimit : Nat := 40

/-- The versions of `fs::path`: in the later one an absolute path replaces what it
is appended to. -/
inductive PathVersion
  | v3
  | v4
  deriving DecidableEq

inductive EntryKind
  | file
  /-- A directory, with whether it replaces a link that leads to none. -/
  | directory (replacesLink : Bool)
  | symlink (target : List Char)
  | hardlink
  deriving DecidableEq

/-- A block of data, with the results of the calls that read and write it. -/
structure DataBlock where
  read_data_block : Int
  write_data_block : Int
  isBlock : read_data_block ≠ ARCHIVE_EOF

/-- An entry, with the results of the calls for it. -/
structure EntryCalls where
  pathname : List Char
  kind : EntryKind := .file
  /-- The size, or 0 where the archive does not tell it. -/
  size : Int := 0
  /-- Whether the entry comes to be on the disk. -/
  creates : Bool := true
  write_header : Int := ARCHIVE_OK
  blocks : List DataBlock := []
  finish_entry : Int := ARCHIVE_OK

structure ExtractCalls where
  /-- The output directory exists or can be created. -/
  directory : Bool := true
  allocated : Bool := true
  open_filename : Int := ARCHIVE_OK
  entries : List EntryCalls
  /-- What `archive_read_next_header` returns behind the entries. -/
  next_header : Int := ARCHIVE_EOF

inductive ExtractError
  | writeHeader
  | dataCopy
  | finishEntry
  | archiveRead
  deriving DecidableEq

/-- Where an archive is extracted to. -/
structure ExtractTarget where
  version : PathVersion
  /-- The current directory. -/
  cwd : Location
  outputDir : List Char

/-- A file or a link, with the output directory of then. -/
structure CreatedObject where
  location : Location
  outputDir : Option (Location × Nat)
  deriving DecidableEq

/-- What was written of an entry. -/
structure WrittenEntry where
  header : Bool
  blocks : Nat
  deriving DecidableEq

/-- What the loop over the entries changes; `r` is the status variable.  The lists
begin with the latest. -/
structure Extraction where
  links : Links
  r : Int := ARCHIVE_OK
  created : List CreatedObject := []
  written : List WrittenEntry := []
  errors : List ExtractError := []

namespace ExtractTarget

variable (target : ExtractTarget)

/-- `fs::path(outputDir) / entryPath` -/
def fullPath (entryPath : List Char) : Path :=
  let directory := Path.ofText target.outputDir
  let name := Path.ofText entryPath
  if target.outputDir = [] ∨ (target.version = .v4 ∧ name.absolute = true) then
    name
  else
    { absolute := directory.absolute, parts := directory.parts ++ name.parts }

/-- The directory that the output directory's path leads to. -/
def directory (links : Links) : Option (Location × Nat) :=
  let path := Path.ofText target.outputDir
  follow links linkLimit (path.start target.cwd) path.parts

def location (links : Links) (entryPath : List Char) : Option Location :=
  locate links linkLimit target.cwd (target.fullPath entryPath)

end ExtractTarget

/-- The result, and how many blocks have been written. -/
def copy_data : List DataBlock → Int × Nat
  | [] => (ARCHIVE_OK, 0)
  | block :: blocks =>
      if block.read_data_block < ARCHIVE_OK then (block.read_data_block, 0)
      else if block.write_data_block < ARCHIVE_OK then (block.write_data_block, 0)
      else ((copy_data blocks).1, (copy_data blocks).2 + 1)

namespace Extraction

def report (state : Extraction) (error : ExtractError) : Extraction :=
  { state with errors := error :: state.errors }

/-- What libarchive puts on the disk; whatever is in a link's place replaces it. -/
def create (state : Extraction) (target : ExtractTarget) (entry : EntryCalls) :
    Extraction :=
  match target.location state.links entry.pathname with
  | none => state
  | some location =>
      let object : CreatedObject := ⟨location, target.directory state.links⟩
      match entry.kind with
      | .directory replacesLink =>
          if replacesLink then
            { state with links := Function.update state.links location none }
          else state
      | .symlink text =>
          { state with
            links := Function.update state.links location (some (Path.ofText text))
            created := object :: state.created }
      | _ =>
          { state with
            links := Function.update state.links location none
            created := object :: state.created }

/-- The header of an entry and its content; `r` is the result of the last call. -/
def writeContent (state : Extraction) (entry : EntryCalls) : Extraction :=
  let state := { state with r := entry.write_header }
  if state.r < ARCHIVE_OK then
    { state.report .writeHeader with written := ⟨false, 0⟩ :: state.written }
  else if 0 < entry.size then
    let (r, blocks) := copy_data entry.blocks
    let state := { state with r, written := ⟨true, blocks⟩ :: state.written }
    if state.r < ARCHIVE_OK then state.report .dataCopy else state
  else { state with written := ⟨true, 0⟩ :: state.written }

/-- One pass of the loop, which a failure to finish an entry breaks. -/
def extractEntry (target : ExtractTarget) (state : Extraction)
    (entry : EntryCalls) : Option Extraction :=
  if state.r < ARCHIVE_OK then none
  else
    let state := if entry.creates then state.create target entry else state
    let state := { state.writeContent entry with r := entry.finish_entry }
    some (if state.r < ARCHIVE_OK then state.report .finishEntry else state)

/-- The loop over the entries. -/
def extractEntries (target : ExtractTarget) :
    Extraction → List EntryCalls → Extraction
  | state, [] => state
  | state, entry :: entries =>
      match state.extractEntry target entry with
      | none => state
      | some next => next.extractEntries target entries

end Extraction

structure ExtractOutcome where
  result : Bool
  created : List CreatedObject := []
  /-- The entries in the order of the archive. -/
  written : List WrittenEntry := []
  errors : List ExtractError := []

def extract (target : ExtractTarget) (links : Links) (calls : ExtractCalls) :
    ExtractOutcome :=
  if !calls.directory then { result := false }
  else if !calls.allocated then { result := false }
  else if calls.open_filename ≠ ARCHIVE_OK then { result := false }
  else
    let state := Extraction.extractEntries target { links } calls.entries
    let r := if state.r < ARCHIVE_OK then state.r else calls.next_header
    { result := r = ARCHIVE_EOF
      created := state.created
      written := state.written.reverse
      errors :=
        if r ≠ ARCHIVE_EOF then .archiveRead :: state.errors else state.errors }

/-! ## Updates -/

/-- The files that `replaceBinary` finds, where `true` stands for what has been
extracted, and which of its calls succeed. -/
structure ReplaceCalls where
  platform : Platform := .posix
  calls : FileCalls := {}
  libPath : List Char := "/opt/scorbit/libscorbit.so".toList
  newLibPath : List Char := "/opt/scorbit/update/libscorbit.so".toList
  files : FileStore (List Char) Bool :=
    fun path =>
      if path = newLibPath then some true
      else if path = libPath then some false
      else none

/-- The result of `replaceBinary`, and whether the new binary is in place. -/
def replaceBinary (calls : ReplaceCalls) : Bool × Bool :=
  let replaced := Replacement.replace calls.calls calls.libPath calls.newLibPath
    calls.files calls.platform
  (replaced.result, replaced.files calls.libPath = some true)

structure UpdateCalls extends ExtractCalls where
  /-- `findFile` finds a file whose name matches. -/
  candidate : Bool := true
  /-- `fs::canonical` does not throw. -/
  canonical : Bool := true
  replace : ReplaceCalls := {}

structure UpdateOutcome where
  result : Bool
  installed : Bool := false
  extracted : ExtractOutcome

/-- `Updater::update` -/
def update (target : ExtractTarget) (links : Links) (calls : UpdateCalls) :
    UpdateOutcome :=
  let extracted := extract target links calls.toExtractCalls
  if !extracted.result then { result := false, extracted }
  else if !calls.candidate then { result := false, extracted }
  else if !calls.canonical then { result := false, extracted }
  else
    let (result, installed) := replaceBinary calls.replace
    { result, installed, extracted }

/-! ## Damaged extractions -/

/-- What is recorded of an entry all of whose content has been written. -/
def EntryCalls.complete (entry : EntryCalls) : WrittenEntry :=
  ⟨true, entry.blocks.length⟩

/-- What the loop records of an entry. -/
def EntryCalls.result (entry : EntryCalls) : WrittenEntry :=
  if entry.write_header < ARCHIVE_OK then ⟨false, 0⟩
  else if 0 < entry.size then ⟨true, (copy_data entry.blocks).2⟩
  else ⟨true, 0⟩

/-- No call for the header or the data of the entry fails, and the size is told
where there are data. -/
def EntryCalls.Succeeds (entry : EntryCalls) : Prop :=
  ARCHIVE_OK ≤ entry.write_header ∧ (entry.blocks ≠ [] → 0 < entry.size) ∧
  ∀ block ∈ entry.blocks, ARCHIVE_OK ≤ block.read_data_block ∧
    ARCHIVE_OK ≤ block.write_data_block

/-- The archive is opened, every entry is finished and the end is reached. -/
def ExtractCalls.Completes (calls : ExtractCalls) : Prop :=
  calls.directory = true ∧ calls.allocated = true ∧
  calls.open_filename = ARCHIVE_OK ∧
  (∀ entry ∈ calls.entries, ARCHIVE_OK ≤ entry.finish_entry) ∧
  calls.next_header = ARCHIVE_EOF

/-- Every entry has been written with all of its content. -/
def ExtractOutcome.Undamaged (outcome : ExtractOutcome) (calls : ExtractCalls) :
    Prop :=
  outcome.written = calls.entries.map EntryCalls.complete

theorem copy_data_complete_iff (blocks : List DataBlock) :
    (copy_data blocks).2 = blocks.length ↔
      ∀ block ∈ blocks, ARCHIVE_OK ≤ block.read_data_block ∧
        ARCHIVE_OK ≤ block.write_data_block := by
  induction blocks with
  | nil => simp [copy_data]
  | cons block blocks ih =>
      rw [List.forall_mem_cons, ← ih, copy_data, List.length_cons]
      split_ifs with unread unwritten
      · exact iff_of_false (by simp)
          fun holds => absurd unread (Int.not_lt.mpr holds.1.1)
      · exact iff_of_false (by simp)
          fun holds => absurd unwritten (Int.not_lt.mpr holds.1.2)
      · simp [Int.not_lt.mp unread, Int.not_lt.mp unwritten]

theorem EntryCalls.result_eq_complete_iff (entry : EntryCalls) :
    entry.result = entry.complete ↔ entry.Succeeds := by
  unfold EntryCalls.result EntryCalls.complete EntryCalls.Succeeds
  rw [← copy_data_complete_iff]
  split_ifs with failed sized
  · exact iff_of_false (by simp) fun holds => absurd failed (Int.not_lt.mpr holds.1)
  · simp [Int.not_lt.mp failed, sized]
  · have header := Int.not_lt.mp failed
    simp only [WrittenEntry.mk.injEq, true_and, header, sized, imp_false,
      not_not]
    constructor
    · intro noBlocks
      have empty := List.length_eq_zero_iff.mp noBlocks.symm
      exact ⟨empty, by simp [empty, copy_data]⟩
    · exact fun holds => by simp [holds.1]

namespace Extraction

variable {target : ExtractTarget} {state next : Extraction} {entry : EntryCalls}

theorem create_written : (state.create target entry).written = state.written := by
  unfold create
  split
  · rfl
  · split
    · split <;> rfl
    · rfl
    · rfl

theorem writeContent_written :
    (state.writeContent entry).written = entry.result :: state.written := by
  unfold writeContent EntryCalls.result
  dsimp only
  split_ifs <;> rfl

/-- What one pass leaves in the status variable and in the record. -/
theorem extractEntry_spec (isOk : ARCHIVE_OK ≤ state.r) :
    ∃ next, state.extractEntry target entry = some next ∧
      next.r = entry.finish_entry ∧
      next.written = entry.result :: state.written := by
  unfold extractEntry
  rw [if_neg (Int.not_lt.mpr isOk)]
  refine ⟨_, rfl, ?_, ?_⟩
  · dsimp only
    split_ifs <;> rfl
  · have written : (if entry.creates then state.create target entry
        else state).written = state.written := by
      split
      · exact create_written
      · rfl
    rw [← written]
    dsimp only
    split_ifs <;> simp only [report, writeContent_written]

/-- The loop reaches the end of the archive exactly if every entry is finished,
and then it has recorded all of them. -/
theorem extractEntries_spec (entries : List EntryCalls)
    (isOk : ARCHIVE_OK ≤ state.r) :
    (ARCHIVE_OK ≤ (extractEntries target state entries).r ↔
      ∀ entry ∈ entries, ARCHIVE_OK ≤ entry.finish_entry) ∧
    ((∀ entry ∈ entries, ARCHIVE_OK ≤ entry.finish_entry) →
      (extractEntries target state entries).written =
        (entries.map EntryCalls.result).reverse ++ state.written) := by
  induction entries generalizing state with
  | nil => exact ⟨iff_of_true isOk (by simp), fun _ => rfl⟩
  | cons entry entries ih =>
      obtain ⟨next, taken, status, written⟩ :=
        @extractEntry_spec target state entry isOk
      have goesOn : extractEntries target state (entry :: entries) =
          extractEntries target next entries := by
        rw [extractEntries, taken]
      rw [goesOn, List.forall_mem_cons]
      by_cases finished : ARCHIVE_OK ≤ entry.finish_entry
      · obtain ⟨reaches, records⟩ := ih (status ▸ finished)
        refine ⟨by rw [reaches, and_iff_right finished], fun all => ?_⟩
        rw [records all.2, written, List.map_cons, List.reverse_cons,
          List.append_assoc]
        rfl
      · have stopped : extractEntries target next entries = next := by
          cases entries with
          | nil => rfl
          | cons other entries =>
              rw [extractEntries, extractEntry, if_pos]
              rw [status]
              exact Int.not_le.mp finished
        rw [stopped, status]
        exact ⟨iff_of_false finished fun all => finished all.1,
          fun all => absurd all.1 finished⟩

end Extraction

section Damage

variable (target : ExtractTarget) (links : Links)

theorem extract_result_iff (calls : ExtractCalls) :
    (extract target links calls).result = true ↔ calls.Completes := by
  unfold extract ExtractCalls.Completes
  cases calls.directory with
  | false => simp
  | true =>
  cases calls.allocated with
  | false => simp
  | true =>
  by_cases opened : calls.open_filename = ARCHIVE_OK
  · have loop := (@Extraction.extractEntries_spec target { links }
      calls.entries (Int.le_refl ARCHIVE_OK)).1
    simp only [opened, Bool.not_true, Bool.false_eq_true, if_false, ne_eq,
      not_true_eq_false, decide_eq_true_eq, true_and, ← loop]
    split_ifs with failed
    · refine iff_of_false (fun isEnd => ?_) fun holds => ?_
      · rw [isEnd] at failed
        exact absurd failed (by decide)
      · exact absurd failed (Int.not_lt.mpr holds.1)
    · rw [and_iff_right (Int.not_lt.mp failed)]
  · simp [opened]

/-- An extraction that completes has written what the calls let it write. -/
theorem undamaged_iff_of_completes {calls : ExtractCalls}
    (completes : calls.Completes) :
    (extract target links calls).Undamaged calls ↔
      ∀ entry ∈ calls.entries, entry.Succeeds := by
  obtain ⟨directory, allocated, opened, finished, -⟩ := completes
  have records := (@Extraction.extractEntries_spec target { links }
    calls.entries (Int.le_refl ARCHIVE_OK)).2 finished
  have written : (extract target links calls).written =
      calls.entries.map EntryCalls.result := by
    unfold extract
    simp only [directory, allocated, opened, Bool.not_true, Bool.false_eq_true,
      if_false, ne_eq, not_true_eq_false]
    rw [records, List.append_nil, List.reverse_reverse]
  unfold ExtractOutcome.Undamaged
  rw [written, List.map_inj_left]
  exact forall₂_congr fun entry _ => entry.result_eq_complete_iff

/-- What it takes that `update` puts a binary in place. -/
def UpdateCalls.Installs (calls : UpdateCalls) : Prop :=
  calls.Completes ∧ calls.candidate = true ∧ calls.canonical = true ∧
    (replaceBinary calls.replace).2 = true

theorem update_installed_iff (calls : UpdateCalls) :
    (update target links calls).installed = true ↔ calls.Installs := by
  unfold update UpdateCalls.Installs
  rw [← extract_result_iff target links]
  dsimp only
  cases (extract target links calls.toExtractCalls).result with
  | false => simp
  | true =>
  cases calls.candidate with
  | false => simp
  | true => cases calls.canonical <;> simp

/-- `extract` reports success for undamaged extractions only, and `update` installs
a binary from such only, exactly if no header and no data are lost in an archive
whose entries are all finished and whose end is reached. -/
theorem undamaged_iff (calls : UpdateCalls) :
    (((extract target links calls.toExtractCalls).result = true →
        (extract target links calls.toExtractCalls).Undamaged
          calls.toExtractCalls) ↔
      (calls.Completes → ∀ entry ∈ calls.entries, entry.Succeeds)) ∧
    (((update target links calls).installed = true →
        (update target links calls).extracted.Undamaged calls.toExtractCalls) ↔
      (calls.Installs → ∀ entry ∈ calls.entries, entry.Succeeds)) := by
  rw [extract_result_iff, update_installed_iff]
  have extracted : (update target links calls).extracted =
      extract target links calls.toExtractCalls := by
    unfold update
    dsimp only
    split_ifs <;> rfl
  rw [extracted]
  refine ⟨forall_congr' fun completes => ?_, forall_congr' fun installs => ?_⟩
  · exact undamaged_iff_of_completes target links completes
  · exact undamaged_iff_of_completes target links installs.1

end Damage

/-- The disk is full: a part of the binary is not written, the entry is finished
all the same, and the update installs what is there. -/
theorem installed_damaged :
    let calls : UpdateCalls :=
      { entries :=
          [{ pathname := "libscorbit.so".toList
             size := 4
             blocks := [⟨0, -20, by decide⟩] }] }
    let target : ExtractTarget := ⟨.v3, [], "/opt/scorbit/update".toList⟩
    ¬ ((extract target (fun _ => none) calls.toExtractCalls).result = true →
        (extract target (fun _ => none) calls.toExtractCalls).Undamaged
          calls.toExtractCalls) ∧
    ¬ ((update target (fun _ => none) calls).installed = true →
        (update target (fun _ => none) calls).extracted.Undamaged
          calls.toExtractCalls) := by
  intro calls target
  have damaged : (extract target (fun _ => none) calls.toExtractCalls).written ≠
      calls.toExtractCalls.entries.map EntryCalls.complete := by
    decide +kernel
  have succeeds : (extract target (fun _ => none) calls.toExtractCalls).result =
      true := by
    decide +kernel
  have installs : (update target (fun _ => none) calls).installed = true := by
    decide +kernel
  exact ⟨fun undamaged => damaged (undamaged succeeds),
    fun undamaged => damaged (undamaged installs)⟩

/-! ## Objects outside of the output directory -/

def EntryKind.isDirectory : EntryKind → Bool
  | .directory _ => true
  | _ => false

/-- The object is below the directory that was the output directory when it was
created. -/
def CreatedObject.Inside (object : CreatedObject) : Prop :=
  ∃ directory left, object.outputDir = some (directory, left) ∧
    StrictlyBelow directory object.location

namespace ExtractTarget

variable (target : ExtractTarget) (links : Links)

/-- The file or link that is created for an entry. -/
def object (entry : EntryCalls) : Option CreatedObject :=
  if entry.kind.isDirectory then none
  else (target.location links entry.pathname).map (⟨·, target.directory links⟩)

/-- The name is appended to the output directory, and has parts. -/
def Appends (entryPath : List Char) : Prop :=
  ¬ (target.outputDir = [] ∨
    (target.version = .v4 ∧ (Path.ofText entryPath).absolute = true)) ∧
  (Path.ofText entryPath).parts ≠ []

/-- Where the name is appended to the output directory, it leads below it, without
leaving it or after having come back; otherwise what the path names is below it. -/
def Harmless (entryPath : List Char) : Prop :=
  (target.Appends entryPath → ∀ directory left,
    target.directory links = some (directory, left) →
      LeadsBelow links left directory (Path.ofText entryPath).parts) ∧
  (¬ target.Appends entryPath → ∀ location,
    target.location links entryPath = some location →
      CreatedObject.Inside ⟨location, target.directory links⟩)

variable {target links}

theorem location_of_appends {entryPath : List Char}
    (appends : target.Appends entryPath) :
    target.location links entryPath =
      locate links linkLimit target.cwd
        { absolute := (Path.ofText target.outputDir).absolute
          parts := (Path.ofText target.outputDir).parts ++
            (Path.ofText entryPath).parts } := by
  unfold location fullPath
  rw [if_neg appends.1]

/-- No file is below a directory that is not there. -/
theorem location_eq_none {entryPath : List Char}
    (appends : target.Appends entryPath) (missing : target.directory links = none) :
    target.location links entryPath = none := by
  obtain ⟨before, last, isParts⟩ : ∃ before last,
      (Path.ofText entryPath).parts = before ++ [last] :=
    ⟨_, _, (List.dropLast_append_getLast appends.2).symm⟩
  have followed := @follow_append links linkLimit
    ((Path.ofText target.outputDir).start target.cwd)
    (Path.ofText target.outputDir).parts before
  unfold directory at missing
  rw [missing, Option.bind_none] at followed
  rw [location_of_appends appends, locate, isParts, ← List.append_assoc,
    List.getLast?_concat, List.dropLast_concat]
  simp only
  exact congrArg (Option.map fun way => place way.1 last) followed

theorem inside_iff_harmless (entryPath : List Char) :
    (∀ location, target.location links entryPath = some location →
      CreatedObject.Inside ⟨location, target.directory links⟩) ↔
      target.Harmless links entryPath := by
  unfold Harmless
  by_cases appends : target.Appends entryPath
  · simp only [appends, not_true_eq_false, forall_const, false_imp_iff, and_true]
    cases found : target.directory links with
    | none => simp [location_eq_none appends found]
    | some way =>
        obtain ⟨directory, left⟩ := way
        have leads := strictlyBelow_locate_iff found appends.2
        rw [← location_of_appends appends] at leads
        simp only [CreatedObject.Inside, Option.some.injEq, Prod.mk.injEq,
          and_imp]
        constructor
        · rintro inside _ _ rfl rfl
          refine leads.mp fun location isLocation => ?_
          obtain ⟨_, _, ⟨rfl, rfl⟩, below⟩ := inside location isLocation
          exact below
        · intro below location isLocation
          exact ⟨directory, left, ⟨rfl, rfl⟩,
            leads.mpr (below _ _ rfl rfl) location isLocation⟩
  · simp [appends]

end ExtractTarget

namespace Extraction

variable (target : ExtractTarget) {state : Extraction} {entry : EntryCalls}

/-- What is harmful of an entry is where its file or link goes. -/
def EntryHarmless (state : Extraction) (entry : EntryCalls) : Prop :=
  entry.creates = true → entry.kind.isDirectory = false →
    target.Harmless state.links entry.pathname

theorem inside_object_iff :
    (∀ object ∈ (if entry.creates then
        (target.object state.links entry).toList else []), object.Inside) ↔
      EntryHarmless target state entry := by
  unfold EntryHarmless ExtractTarget.object
  rw [← ExtractTarget.inside_iff_harmless]
  cases entry.creates with
  | false => simp
  | true =>
      cases entry.kind.isDirectory with
      | true => simp
      | false =>
          cases target.location state.links entry.pathname <;> simp

end Extraction

namespace ExtractTarget

variable {target : ExtractTarget} {links : Links}

/-- A relative name without `..` is harmless where there are no links on the way. -/
theorem harmless_of_plain {entryPath : List Char}
    (appends : target.Appends entryPath)
    (notUp : dotDot ∉ (Path.ofText entryPath).parts)
    (plain : ∀ directory left,
      target.directory links = some (directory, left) →
        PlainWay links directory (Path.ofText entryPath).parts.dropLast) :
    target.Harmless links entryPath :=
  ⟨fun _ directory left found =>
    leadsBelow_of_plain left appends.2 notUp (plain directory left found),
    fun notAppends => absurd appends notAppends⟩

variable (target links) in
/-- The output directory is given by the way from the root to it. -/
def Canonical : Prop :=
  (Path.ofText target.outputDir).absolute = true ∧
    PlainWay links [] (Path.ofText target.outputDir).parts

theorem directory_of_canonical (canonical : target.Canonical links) :
    target.directory links =
      some ((Path.ofText target.outputDir).parts, linkLimit) := by
  unfold directory Path.start
  dsimp only
  rw [if_pos canonical.1]
  exact follow_plain canonical.2 linkLimit

/-- What is put below the output directory does not change where that is. -/
theorem canonical_update {location : Location} {path : Option Path}
    (canonical : target.Canonical links)
    (below : path = none ∨
      StrictlyBelow (Path.ofText target.outputDir).parts location) :
    target.Canonical (Function.update links location path) := by
  refine ⟨canonical.1, canonical.2.1, fun way nonempty isWay => ?_⟩
  have noLink := canonical.2.2 way nonempty isWay
  rw [List.nil_append] at noLink ⊢
  by_cases same : way = location
  · subst same
    rcases below with rfl | ⟨below, isBelow, longer⟩
    · exact Function.update_self ..
    · have positive := List.length_pos_iff.mpr isBelow
      have length := congrArg List.length longer
      rw [List.length_append] at length
      have shorter := isWay.length_le
      omega
  · rwa [Function.update_of_ne same]

end ExtractTarget

namespace Extraction

variable {target : ExtractTarget} {state next : Extraction} {entry : EntryCalls}

theorem create_links (canonical : target.Canonical state.links)
    (harmless : ∀ object ∈ target.object state.links entry, object.Inside) :
    target.Canonical (state.create target entry).links := by
  have found := ExtractTarget.directory_of_canonical canonical
  unfold create
  unfold ExtractTarget.object at harmless
  cases located : target.location state.links entry.pathname with
  | none => exact canonical
  | some location =>
      dsimp only
      cases kind : entry.kind with
      | directory replacesLink =>
          cases replacesLink with
          | false => exact canonical
          | true => exact ExtractTarget.canonical_update canonical (Or.inl rfl)
      | symlink text =>
          simp only [kind, EntryKind.isDirectory, located, Option.map_some,
            Option.mem_some_iff, forall_eq', Bool.false_eq_true, if_false]
            at harmless
          obtain ⟨directory, left, isDirectory, below⟩ := harmless
          rw [found, Option.some.injEq, Prod.mk.injEq] at isDirectory
          refine ExtractTarget.canonical_update canonical (Or.inr ?_)
          rwa [isDirectory.1]
      | _ => exact ExtractTarget.canonical_update canonical (Or.inl rfl)

/-- As long as the entries are harmless, the output directory stays where it is. -/
theorem canonical_extractEntry (canonical : target.Canonical state.links)
    (harmless : EntryHarmless target state entry)
    (taken : state.extractEntry target entry = some next) :
    target.Canonical next.links := by
  have links : ∀ state : Extraction,
      (state.writeContent entry).links = state.links := by
    intro state
    unfold writeContent
    dsimp only
    split_ifs <;> rfl
  unfold extractEntry at taken
  split at taken
  · exact nomatch taken
  · obtain rfl := Option.some.inj taken
    dsimp only
    have created : target.Canonical
        (if entry.creates then state.create target entry else state).links := by
      split_ifs with creates
      · refine create_links canonical fun object member => ?_
        have inside := (inside_object_iff target).mpr harmless
        rw [if_pos creates] at inside
        exact inside object (Option.mem_toList.mpr member)
      · exact canonical
    split_ifs at created ⊢ <;> simpa only [report, links] using created

/-- The output directory stays where it is while the entries are harmless. -/
theorem canonical_extractEntries (entries : List EntryCalls)
    (canonical : target.Canonical state.links)
    (harmless : Transition.HoldsAlong (extractEntry target)
      (EntryHarmless target) state entries) :
    target.directory (extractEntries target state entries).links =
      some ((Path.ofText target.outputDir).parts, linkLimit) := by
  induction entries generalizing state with
  | nil => exact ExtractTarget.directory_of_canonical canonical
  | cons entry entries ih =>
      unfold extractEntries
      cases taken : state.extractEntry target entry with
      | none => exact ExtractTarget.directory_of_canonical canonical
      | some next =>
          obtain ⟨now, later⟩ := harmless next taken
          exact ih (canonical_extractEntry canonical now taken) later

end Extraction

end ScorbitSdk
