import ScorbitSdk.UpdaterOutcomes

/-!
# How an update is left

The report on the library is made of a result and of feedback that the program's
update goes on to use.  The flag against a second update and the remounts are
undone at the end only, which an exception does not reach.
-/

namespace ScorbitSdk

open JsonOutcome JsonNode Pattern Checked

namespace Updater

/-! ## The report -/

section Reports

variable (updater : Updater) (calls : UpdaterCalls) (json : JsonNode)

def OutcomeOf (component : Component) (outcome : ComponentOutcome) : Prop :=
  match component with
  | .sdk => updater.SdkOutcome calls json outcome
  | .scorbitd => updater.ScorbitdOutcome calls json outcome

/-- One report at most, which says that the library has been updated exactly if it
has, with sections for components that have something to tell. -/
structure ReportsRightly (reports : List ConfigUpdate) : Prop where
  once : reports.length ≤ 1
  identity : ∀ report ∈ reports,
    report.type = "sdk".toList ∧ report.version = updater.sdkVersion
  installed : ∀ report ∈ reports,
    report.installed = true ↔ updater.SdkOutcome calls json .succeeded
  sections : ∀ report ∈ reports, ∀ part ∈ report.log,
    ∃ outcome, updater.OutcomeOf calls json part.component outcome ∧ outcome.Tells

/-- Every exit from the call leaves such reports. -/
def ExitsReported (inProgress : Bool) (feedback : List Char) : Prop :=
  Exits (updater.checkNewVersionAndUpdate calls json)
    (fun _ after => updater.ReportsRightly calls json after.updateConfigs)
    (fun after => updater.ReportsRightly calls json after.updateConfigs)
    (started inProgress feedback)

/-- The program does not come between the library and its report: it has feedback
of its own, or it is updated as the library is, or there is nothing to report of
the library either. -/
def ComponentOutcome.Agrees (scorbitd sdk : ComponentOutcome) : Prop :=
  match scorbitd with
  | absent => True
  | refused => True
  | notApplicable => sdk ≠ succeeded
  | failed => sdk ≠ succeeded
  | succeeded => sdk = succeeded

variable {updater calls json} {sdk scorbitd : ComponentOutcome}

theorem reportsRightly_nil : updater.ReportsRightly calls json [] :=
  ⟨Nat.zero_le _, nofun, nofun, nofun⟩

/-- The result that is reported is that of the library. -/
theorem installed_iff_of_agrees (agrees : scorbitd.Agrees sdk) :
    scorbitd.success (sdk.success false) = true ↔ sdk = .succeeded := by
  cases scorbitd with
  | absent => exact sdk.success_false
  | notApplicable => exact sdk.success_false
  | refused => exact sdk.success_false
  | failed => exact iff_of_false Bool.false_ne_true agrees
  | succeeded => exact iff_of_true rfl agrees

theorem tells_of_logs (agrees : scorbitd.Agrees sdk)
    (logs : scorbitd.Logs (sdk.success false)) : scorbitd.Tells := by
  cases scorbitd with
  | absent => exact logs
  | notApplicable => exact absurd (sdk.success_false.mp logs) agrees
  | refused => trivial
  | failed => trivial
  | succeeded => trivial

theorem reportsRightly_of_outcomes {after : UpdateRun}
    (isSdk : updater.SdkOutcome calls json sdk)
    (isScorbitd : updater.ScorbitdOutcome calls json scorbitd)
    (isAfter : AfterBoth sdk scorbitd after) :
    updater.ReportsRightly calls json
        [⟨"sdk".toList, updater.sdkVersion, scorbitd.success (sdk.success false),
          after.logs⟩] ↔
      scorbitd.Agrees sdk := by
  have succeeded : updater.SdkOutcome calls json .succeeded ↔ sdk = .succeeded :=
    ⟨outcomeAt_unique isSdk, fun same => same ▸ isSdk⟩
  obtain ⟨first, second, isLogs, firstTells, secondLogs, ofSdk, ofScorbitd⟩ :=
    isAfter.logs
  constructor
  · intro rightly
    have installed := (rightly.installed _ (List.mem_singleton_self _)).trans
      succeeded
    cases scorbitd with
    | absent => trivial
    | refused => trivial
    | failed => exact fun same => Bool.false_ne_true (installed.mpr same)
    | succeeded => exact installed.mp rfl
    | notApplicable =>
        intro same
        obtain ⟨part, member⟩ := List.exists_mem_of_ne_nil second
          (secondLogs.mpr (sdk.success_false.mpr same))
        have inLogs : part ∈ after.logs := by
          rw [isLogs]
          exact List.mem_append_right _ member
        obtain ⟨outcome, isOutcome, tells⟩ :=
          rightly.sections _ (List.mem_singleton_self _) part inLogs
        rw [ofScorbitd part member] at isOutcome
        rw [outcomeAt_unique isOutcome isScorbitd] at tells
        exact tells
  · intro agrees
    constructor
    · exact Nat.le_refl 1
    · rintro report member
      obtain rfl := List.mem_singleton.mp member
      exact ⟨rfl, rfl⟩
    · rintro report member
      obtain rfl := List.mem_singleton.mp member
      exact (installed_iff_of_agrees agrees).trans succeeded.symm
    · rintro report member part inLogs
      obtain rfl := List.mem_singleton.mp member
      rw [isLogs] at inLogs
      rcases List.mem_append.mp inLogs with inFirst | inSecond
      · rw [ofSdk part inFirst]
        exact ⟨sdk, isSdk, firstTells.mp (List.ne_nil_of_mem inFirst)⟩
      · rw [ofScorbitd part inSecond]
        exact ⟨scorbitd, isScorbitd,
          tells_of_logs agrees (secondLogs.mp (List.ne_nil_of_mem inSecond))⟩

theorem agrees_of_not_tells (sdkSilent : ¬sdk.Tells) (silent : ¬scorbitd.Tells) :
    scorbitd.Agrees sdk := by
  cases scorbitd with
  | absent => trivial
  | notApplicable =>
      rintro rfl
      exact sdkSilent trivial
  | refused => trivial
  | failed => exact absurd trivial silent
  | succeeded => exact absurd trivial silent

theorem exitsReported_of_outcomes {feedback : List Char} {after : UpdateRun}
    (isSdk : updater.SdkOutcome calls json sdk)
    (isScorbitd : updater.ScorbitdOutcome calls json scorbitd)
    (isRun : updater.checkNewVersionAndUpdate calls json (started false feedback) =
      (updater.report calls (scorbitd.success (sdk.success false)) >>= fun _ =>
        setInProgress false) after)
    (isAfter : AfterBoth sdk scorbitd after) :
    updater.ExitsReported calls json false feedback ↔ scorbitd.Agrees sdk := by
  have rightly := reportsRightly_of_outcomes isSdk isScorbitd isAfter
  rw [ExitsReported, exits_report isRun, isAfter.updateConfigs, List.nil_append]
  by_cases isEmpty : after.logs = []
  · rw [if_pos isEmpty]
    have silent := mt isAfter.logs_ne_nil_iff.mpr (absurd isEmpty)
    rw [not_or] at silent
    exact iff_of_true reportsRightly_nil (agrees_of_not_tells silent.1 silent.2)
  · rw [if_neg isEmpty]
    cases calls.updateConfig <;> exact rightly

/-- Every exit leaves right reports exactly if the program does not come between
the library and its report, or an update is in progress and nothing is done. -/
theorem exitsReported_iff (updater : Updater) (calls : UpdaterCalls)
    (json : JsonNode) (inProgress : Bool) (feedback : List Char) :
    updater.ExitsReported calls json inProgress feedback ↔
      inProgress = true ∨ ∀ sdk scorbitd, updater.SdkOutcome calls json sdk →
        updater.ScorbitdOutcome calls json scorbitd → scorbitd.Agrees sdk := by
  cases inProgress with
  | true => exact iff_of_true reportsRightly_nil (.inl rfl)
  | false =>
      rw [or_iff_right Bool.false_ne_true]
      cases callEnds updater calls json feedback with
      | undefined isUndefined _ noOutcomes =>
          apply iff_of_true (exits_of_undefined isUndefined)
          exact fun sdk scorbitd isSdk isScorbitd =>
            absurd isScorbitd (noOutcomes sdk scorbitd isSdk)
      | throws isThrown isAfter notReturning =>
          apply iff_of_true
          · apply (exits_of_error isThrown).mpr
            rw [isAfter.updateConfigs]
            exact reportsRightly_nil
          · exact fun sdk scorbitd isSdk isScorbitd =>
              absurd (callsReturn_of_outcomes isSdk isScorbitd) notReturning
      | outcomes isSdk isScorbitd isRun isAfter =>
          rw [exitsReported_of_outcomes isSdk isScorbitd isRun isAfter]
          constructor
          · intro agrees otherSdk otherScorbitd isOtherSdk isOtherScorbitd
            rwa [outcomeAt_unique isOtherSdk isSdk,
              outcomeAt_unique isOtherScorbitd isScorbitd]
          · exact fun agrees => agrees _ _ isSdk isScorbitd

end Reports

/-- A file system that is mounted read-only and can be remounted. -/
def readOnlyRoot : MountCalls where
  canonical := .ok "/usr/bin".toList
  mountInfo := some "25 1 8:1 / / rw,relatime - ext4 /dev/sda1 ro\n".toList
  mountInfoLater := some "25 1 8:1 / / rw,relatime - ext4 /dev/sda1 ro\n".toList
  remounts := true

/-- A download and an update without errors. -/
def successful : AttemptCalls where
  mount := readOnlyRoot
  tempFile := .ok "/tmp/a.tar.gz".toList
  download := fun _ _ => .ok (.success, [])
  install :=
    { target := ⟨.v4, [], "/usr/bin/scorbit_update".toList⟩
      links := fun _ => none
      calls := { entries := [] } }

def sdkLibrary : CanonicalPath where
  names := ["usr".toList, "lib".toList, "libscorbit_sdk.so".toList]
  valid := by decide

def program : CanonicalPath where
  names := ["usr".toList, "bin".toList, "scorbitd".toList]
  valid := by decide

def successfulCalls : UpdaterCalls where
  sdk := { successful with path := .ok sdkLibrary }
  scorbitd := { successful with path := .ok program }
  programPath := .ok program

/-- There is no library for the device, but a program. -/
def programOnly : JsonNode :=
  object
    [("scorbitd", release),
      ("sdk", object
        [("assets_json", array []), ("version", string "1.0.2".toList)])]

def u18Device : Updater :=
  { device with
    sdkPlatformId := "arm64_u18".toList
    m_scorbitdPlatformId := "arm64_u18".toList }

theorem parseUrls_release :
    u18Device.parseUrls release =
      .value
        ({ url := "https://scorbit/scorbitd".toList
           version := "1.0.2".toList
           contentType := "application/gzip".toList
           size := 1000
           asset := some u18Asset }, none) := by
  have accepted : u18Device.isScorbitdAsset "1.0.2".toList
      "scorbitd-1.0.2-arm64_u18.tgz".toList = true := by
    decide +kernel
  have isRun : u18Device.parseAssets release {} =
      u18Device.chooseAsset "1.0.2".toList [u18Asset]
        { version := "1.0.2".toList } :=
    rfl
  rw [parseUrls, isRun, u18Asset, chooseAsset_of_accepted rfl accepted]
  rfl

theorem makeWritable_readOnlyRoot :
    readOnlyRoot.makeWritable = .ok ⟨true, ['/']⟩ := by
  have reads : readOnlyRoot.Reads
      "25 1 8:1 / / rw,relatime - ext4 /dev/sda1 ro\n".toList
      "/usr/bin".toList :=
    ⟨rfl, rfl, rfl, rfl⟩
  have found : MountInfo.findMountPoint
      "25 1 8:1 / / rw,relatime - ext4 /dev/sda1 ro\n".toList "/usr/bin".toList =
        some ['/'] := by
    decide +kernel
  have readOnly : MountInfo.isReadOnly
      "25 1 8:1 / / rw,relatime - ext4 /dev/sda1 ro\n".toList ['/'] =
        some true := by
    decide +kernel
  apply MountCalls.makeWritable_of_reads reads []
  rw [MountInfo.fsMakeWritable, found, Option.bind_eq_bind, Option.bind_some,
    readOnly]
  rfl

theorem sdkOutcome_programOnly :
    u18Device.SdkOutcome successfulCalls programOnly .refused := by
  refine ⟨{ version := "1.0.2".toList }, none, rfl, sdkLibrary, rfl, .inl
    ⟨"Couldn't find update file in assets for the platform: arm64_u18".toList, ?_⟩⟩
  decide +kernel

theorem scorbitdOutcome_programOnly :
    u18Device.ScorbitdOutcome successfulCalls programOnly .succeeded := by
  refine ⟨_, _, parseUrls_release, program, rfl, ?_, ⟨true, ['/']⟩,
    makeWritable_readOnlyRoot, rfl, "/tmp/a.tar.gz".toList, [], rfl, rfl, rfl, ?_⟩
  · decide +kernel
  · rfl

/-- The report says that the library has been updated, which it has not. -/
theorem not_exitsReported_programOnly :
    ¬u18Device.ExitsReported successfulCalls programOnly false [] := by
  obtain ⟨after, isAfter, isRun⟩ :=
    run_of_outcomes sdkOutcome_programOnly scorbitdOutcome_programOnly []
  rw [exitsReported_of_outcomes sdkOutcome_programOnly scorbitdOutcome_programOnly
    isRun isAfter]
  exact nofun

/-! ## The flag and the file systems -/

section Exits

variable {updater : Updater} {calls : UpdaterCalls} {json : JsonNode}
  {sdk scorbitd : ComponentOutcome}

/-- The next update can be made, and every file system is restored. -/
structure Clean (after : UpdateRun) : Prop where
  inProgress : after.m_updateInProgress = false
  restored : Restored after.mounts

/-- Every exit from the call, normal or by an exception, is clean. -/
def ExitsClean (updater : Updater) (calls : UpdaterCalls) (json : JsonNode)
    (inProgress : Bool) (feedback : List Char) : Prop :=
  Exits (updater.checkNewVersionAndUpdate calls json) (fun _ => Clean) Clean
    (started inProgress feedback)

/-- No call that is reached throws. -/
structure NothingThrows (updater : Updater) (calls : UpdaterCalls)
    (json : JsonNode) : Prop where
  components : updater.CallsReturn calls json
  updateConfig : ∀ sdk scorbitd, updater.SdkOutcome calls json sdk →
    updater.ScorbitdOutcome calls json scorbitd → sdk.Tells ∨ scorbitd.Tells →
      calls.updateConfig = .ok ()

theorem exitsClean_of_outcomes {feedback : List Char} {after : UpdateRun}
    (isRun : updater.checkNewVersionAndUpdate calls json (started false feedback) =
      (updater.report calls (scorbitd.success (sdk.success false)) >>= fun _ =>
        setInProgress false) after)
    (isAfter : AfterBoth sdk scorbitd after) :
    updater.ExitsClean calls json false feedback ↔
      (sdk.Tells ∨ scorbitd.Tells → calls.updateConfig = .ok ()) := by
  rw [ExitsClean, exits_report isRun, ← isAfter.logs_ne_nil_iff]
  by_cases isEmpty : after.logs = []
  · rw [if_pos isEmpty]
    exact iff_of_true ⟨rfl, isAfter.restored⟩ fun notEmpty => absurd isEmpty notEmpty
  · rw [if_neg isEmpty]
    rcases returns_or_throws calls.updateConfig with ⟨_, isOk⟩ | ⟨what, isError⟩
    · rw [isOk]
      exact iff_of_true ⟨rfl, isAfter.restored⟩ fun _ => rfl
    · rw [isError]
      apply iff_of_false
      · intro clean
        cases isAfter.inProgress.symm.trans clean.inProgress
      · intro isOk
        cases isOk isEmpty

/-- A call that throws leaves the flag set. -/
theorem not_exitsClean_of_throws (throws : ¬updater.CallsReturn calls json)
    (feedback : List Char) : ¬updater.ExitsClean calls json false feedback := by
  intro clean
  cases callEnds updater calls json feedback with
  | undefined _ returns _ => exact throws returns
  | throws isThrown isAfter _ =>
      have isClean := (exits_of_error isThrown).mp clean
      cases isAfter.inProgress.symm.trans isClean.inProgress
  | outcomes isSdk isScorbitd _ _ =>
      exact throws (callsReturn_of_outcomes isSdk isScorbitd)

/-- Where no update is in progress, every exit is clean exactly if no call that is
reached throws. -/
theorem exitsClean_iff (updater : Updater) (calls : UpdaterCalls) (json : JsonNode)
    (inProgress : Bool) (feedback : List Char) :
    updater.ExitsClean calls json inProgress feedback ↔
      inProgress = false ∧ updater.NothingThrows calls json := by
  cases inProgress with
  | true =>
      apply iff_of_false
      · intro clean
        cases clean.inProgress
      · rintro ⟨⟨⟩, _⟩
  | false =>
      rw [and_iff_right rfl]
      cases callEnds updater calls json feedback with
      | undefined isUndefined returns noOutcomes =>
          exact iff_of_true (exits_of_undefined isUndefined)
            ⟨returns, fun sdk scorbitd isSdk isScorbitd =>
              absurd isScorbitd (noOutcomes sdk scorbitd isSdk)⟩
      | throws _ _ notReturning =>
          exact iff_of_false (not_exitsClean_of_throws notReturning feedback)
            fun nothing => notReturning nothing.components
      | outcomes isSdk isScorbitd isRun isAfter =>
          rw [exitsClean_of_outcomes isRun isAfter]
          constructor
          · intro isOk
            refine ⟨callsReturn_of_outcomes isSdk isScorbitd, ?_⟩
            intro otherSdk otherScorbitd isOtherSdk isOtherScorbitd tells
            rw [outcomeAt_unique isOtherSdk isSdk,
              outcomeAt_unique isOtherScorbitd isScorbitd] at tells
            exact isOk tells
          · exact fun nothing => nothing.updateConfig _ _ isSdk isScorbitd

end Exits

/-- There is no directory for the archive. -/
def noTempFile : UpdaterCalls :=
  { successfulCalls with
    scorbitd :=
      { successful with
        path := .ok program
        tempFile := .error "boost::filesystem::temp_directory_path".toList } }

/-- The file system has been remounted, and no update can be made any more. -/
theorem not_exitsClean_noTempFile :
    ¬u18Device.ExitsClean noTempFile programOnly false [] := by
  apply not_exitsClean_of_throws
  intro returns
  have isRefused : u18Device.SdkOutcome noTempFile programOnly .refused :=
    sdkOutcome_programOnly
  obtain ⟨path, isPath, attempted⟩ :=
    returns.scorbitd _ isRefused release _ _ rfl parseUrls_release
  obtain rfl := Except.ok.inj isPath
  have applicable : u18Device.scorbitdDecision
      { url := "https://scorbit/scorbitd".toList
        version := "1.0.2".toList
        contentType := "application/gzip".toList
        size := 1000
        asset := some u18Asset } program = .applicable := by
    decide +kernel
  obtain ⟨result, made, downloaded⟩ := attempted applicable
  have isResult : MakeWritableResult.mk true ['/'] = result :=
    Except.ok.inj (makeWritable_readOnlyRoot.symm.trans made)
  obtain ⟨_, _, _, isFile, _⟩ := downloaded (isResult ▸ rfl)
  cases isFile

end Updater

end ScorbitSdk
