import ScorbitSdk.ArchiveExtraction
import ScorbitSdk.DownloadTasks
import ScorbitSdk.MountTables
import ScorbitSdk.UpdateAssets

/-!
# Updates of the library and of the program

`checkNewVersionAndUpdate` updates the library and then the program.  For either
one it remounts a file system, downloads an archive and replaces a file, with
calls that throw on the way.  The flag against a second update, the remount, the
feedback and the result are undone and reset by the code that follows.
-/

namespace ScorbitSdk

open JsonOutcome JsonNode Pattern Checked

namespace Updater

/-- `^(lib)?scorbit_sdk\.(so(\.\d+)*|(\d+\.)*dylib|dll)$` -/
def SDK_LIBRARY_PATTERN : Pattern :=
  inOrder
    [optional (group 1 (literal "lib".toList)), literal "scorbit_sdk.".toList,
      group 2 (alt
        (inOrder [literal "so".toList,
          star (group 3 (seq (literal ['.']) (plus digit)))])
        (alt
          (inOrder [star (group 4 (seq (plus digit) (literal ['.']))),
            literal "dylib".toList])
          (literal "dll".toList)))]

/-- `^scorbitd(\.exe)?$` -/
def SCORBITD_PATTERN : Pattern :=
  inOrder
    [literal "scorbitd".toList, optional (group 1 (literal ".exe".toList))]

inductive Component
  | sdk
  | scorbitd
  deriving DecidableEq

/-- A part of the logs. -/
structure LogSection where
  component : Component
  timestamp : List Char
  feedback : List Char

def LogSection.text (part : LogSection) : List Char :=
  let title :=
    match part.component with
    | .sdk => "----- SDK ----- "
    | .scorbitd => "----- scorbitd ----- "
  title.toList ++ part.timestamp ++ "\n\n".toList ++ part.feedback

/-- A remount that has succeeded, or a call of `fsRemountReadOnly`. -/
inductive MountEvent
  | readWrite (mountPoint : List Char)
  | readOnly (mountPoint : List Char)

/-- A call of `updateConfig`; the log is the texts of its sections. -/
structure ConfigUpdate where
  type : List Char
  version : List Char
  installed : Bool
  log : List LogSection

/-- What a call of `checkNewVersionAndUpdate` changes. -/
structure UpdateRun where
  m_updateInProgress : Bool := false
  m_feedback : List Char := []
  logs : List LogSection := []
  mounts : List MountEvent := []
  updateConfigs : List ConfigUpdate := []
  /-- The events that are pushed: the version and the path. -/
  events : List (List Char × List Char) := []

abbrev Updating (Value : Type) := Checked UpdateRun Value

/-! ## What the calls do -/

/-- The calls of `fsMakeWritable`. -/
structure MountCalls where
  onLinux : Bool := true
  canonical : Except (List Char) (List Char)
  /-- `/proc/self/mountinfo`, if it can be opened, and once more. -/
  mountInfo : Option (List Char)
  mountInfoLater : Option (List Char)
  remounts : Bool

/-- The calls of `update`; an exception may be none of the file system. -/
structure InstallCalls where
  target : ExtractTarget
  links : Links
  calls : UpdateCalls
  filesystemError : List Char := []
  restoreError : List Char := []
  otherError : Option (List Char) := none

structure AttemptCalls where
  mount : MountCalls
  tempFile : Except (List Char) (List Char)
  download : List Char → List Char →
    Except (List Char) (DownloadError × List Char)
  install : InstallCalls

structure ComponentCalls extends AttemptCalls where
  path : Except (List Char) CanonicalPath
  timestamp : List Char := []

structure UpdaterCalls where
  sdk : ComponentCalls
  scorbitd : ComponentCalls
  /-- The path of the program when it is compared with that of the library. -/
  programPath : Except (List Char) CanonicalPath
  hasEventManager : Bool := true
  updateConfig : Except (List Char) Unit := .ok ()

/-! ## Feedback -/

def feedback (out : List Char) : Updating Unit :=
  modify fun run =>
    { run with
      m_feedback :=
        if run.m_feedback = [] then out
        else run.m_feedback ++ "\n\n".toList ++ out }

def tell : Option (List Char) → Updating Unit
  | some message => feedback message
  | none => pure ()

/-- A condition of an update, with the feedback where it does not hold. -/
structure Check where
  holds : Bool
  message : Option (List Char)

/-- One condition after another, up to the first one that does not hold. -/
def allHold : List Check → Updating Bool
  | [] => pure true
  | check :: checks =>
      if check.holds then allHold checks
      else do
        tell check.message
        pure false

section Checks

variable (updater : Updater) (urlInfo : UrlInfo) (path : CanonicalPath)

def isPlatformIdValid (platformId : List Char) : Check where
  holds := platformId ≠ [] && !("unknown".toList <:+: platformId)
  message := some ("Invalid platform ID: ".toList ++ platformId)

def isUrlFound (platformId : List Char) : Check where
  holds := urlInfo.url ≠ []
  message := some
    ("Couldn't find update file in assets for the platform: ".toList ++ platformId)

def isBinaryObjectValid (re : Pattern) : Check where
  holds := (re.fullMatch (path.names.getLast?.getD [])).isSome
  message := some
    ("Binary path doesn't match the pattern, path: ".toList ++ path.text)

def isEncryptedKeyValid : Check where
  holds := !(updater.m_useEncryptedKey &&
    updater.thisKeyHash ≠ updater.productionKeyHash)
  message := some
    ("Using encrypted key, production key hash mismatch: expected ".toList ++
      updater.productionKeyHash ++ ", found ".toList ++ updater.thisKeyHash)

def isNewVersion (newVersion : List Char) : Check where
  holds := newVersion ≠ updater.sdkVersion
  message := none

def majorMinor : List Char :=
  (toString updater.sdkVersionMajor).toList ++ '.' ::
    (toString updater.sdkVersionMinor).toList ++ ['.']

def isSameMajorMinor (newVersion : List Char) : Check where
  holds := updater.majorMinor.isPrefixOf newVersion
  message := some
    ("Version mismatch: can only update by ".toList ++ updater.majorMinor ++
      "x, found: ".toList ++ newVersion)

def isSdkVersionCompatible (newVersion : List Char) : List Check :=
  [updater.isNewVersion newVersion, updater.isSameMajorMinor newVersion]

def isScorbitdVersionCompatible (newVersion : List Char) : Check where
  holds := updater.m_scorbitdVersion ≠ [] && newVersion ≠ updater.m_scorbitdVersion
  message := none

/-- The library is not part of the program. -/
def isOwnFile (program : CanonicalPath) : Check where
  holds := path.names ≠ program.names
  message := none

def sdkChecks (program : CanonicalPath) : List Check :=
  [isOwnFile path program, isPlatformIdValid updater.sdkPlatformId,
    isUrlFound urlInfo updater.sdkPlatformId,
    isBinaryObjectValid path SDK_LIBRARY_PATTERN,
    updater.isEncryptedKeyValid] ++ updater.isSdkVersionCompatible urlInfo.version

def canUpdateSdk (programPath : Except (List Char) CanonicalPath) :
    Updating Bool :=
  catching (call programPath >>= fun program =>
      allHold (updater.sdkChecks urlInfo path program))
    fun what => do
      feedback ("Error in 'sdk': ".toList ++ what)
      pure false

def scorbitdChecks : List Check :=
  [updater.isScorbitdVersionCompatible urlInfo.version,
    isBinaryObjectValid path SCORBITD_PATTERN,
    isPlatformIdValid updater.m_scorbitdPlatformId,
    isUrlFound urlInfo updater.m_scorbitdPlatformId]

def canUpdateScorbitd : Updating Bool :=
  allHold (updater.scorbitdChecks urlInfo path)

end Checks

/-! ## An attempt -/

namespace MountCalls

variable (calls : MountCalls)

def parseMountInfo : Option (List Char) → Except (List Char) (List Char)
  | some content => .ok content
  | none => .error "Cannot open /proc/self/mountinfo".toList

def findMountPoint (path : List Char) : Except (List Char) (List Char) := do
  let content ← parseMountInfo calls.mountInfo
  match MountInfo.findMountPoint content path with
  | some mountPoint => .ok mountPoint
  | none => .error ("No mount point found for ".toList ++ path)

def isReadOnly (mountPoint : List Char) : Except (List Char) Bool := do
  let content ← parseMountInfo calls.mountInfoLater
  match MountInfo.isReadOnly content mountPoint with
  | some readOnly => .ok readOnly
  | none => .error ("Mountpoint not found: ".toList ++ mountPoint)

/-- What `fsMakeWritable` returns or throws. -/
def makeWritable : Except (List Char) MakeWritableResult := do
  if !calls.onLinux then return ⟨true, []⟩
  let path ← calls.canonical
  let mountPoint ← calls.findMountPoint path
  let isReadOnly ← calls.isReadOnly mountPoint
  if !isReadOnly then return ⟨true, []⟩
  if !calls.remounts then return ⟨false, mountPoint⟩
  return ⟨true, mountPoint⟩

/-- The two readings of the table see the same. -/
structure Reads (content path : List Char) : Prop where
  onLinux : calls.onLinux = true
  isPath : calls.canonical = .ok path
  isContent : calls.mountInfo = some content
  isUnchanged : calls.mountInfoLater = some content

/-- What is returned is what is returned for the table and the mounts. -/
theorem makeWritable_of_reads {calls : MountCalls} {content path : List Char}
    (reads : calls.Reads content path) (mounts : List MountInfo)
    {changed : List MountInfo} {result : MakeWritableResult}
    (made : MountInfo.fsMakeWritable calls.remounts content path mounts =
      some (result, changed)) : calls.makeWritable = .ok result := by
  unfold MountInfo.fsMakeWritable at made
  simp only [Option.bind_eq_bind, Option.bind_eq_some_iff] at made
  obtain ⟨mountPoint, isFound, readOnly, isReadOnly, isResult⟩ := made
  have found : calls.findMountPoint path = .ok mountPoint := by
    rw [findMountPoint, reads.isContent]
    change (match MountInfo.findMountPoint content path with
      | some mountPoint => Except.ok mountPoint
      | none => _) = _
    rw [isFound]
  have reported : calls.isReadOnly mountPoint = .ok readOnly := by
    rw [MountCalls.isReadOnly, reads.isUnchanged]
    change (match MountInfo.isReadOnly content mountPoint with
      | some readOnly => Except.ok readOnly
      | none => _) = _
    rw [isReadOnly]
  have isRun : calls.makeWritable =
      if !readOnly then .ok ⟨true, []⟩
      else if !calls.remounts then .ok ⟨false, mountPoint⟩
      else .ok ⟨true, mountPoint⟩ := by
    unfold makeWritable
    rw [reads.onLinux, reads.isPath]
    change (calls.findMountPoint path).bind _ = _
    rw [found]
    change (calls.isReadOnly mountPoint).bind _ = _
    rw [reported]
    cases readOnly <;> cases calls.remounts <;> rfl
  rw [isRun]
  split_ifs at isResult ⊢ <;> simp_all

end MountCalls

/-- A mount point is returned with a success where it has been remounted. -/
def fsMakeWritable (calls : MountCalls) : Updating MakeWritableResult := do
  let result ← call calls.makeWritable
  if result.ok && result.mountPoint ≠ [] then
    modify fun run =>
      { run with mounts := run.mounts ++ [.readWrite result.mountPoint] }
  pure result

def fsRemountReadOnly (mountPoint : List Char) : Updating Unit :=
  modify fun run => { run with mounts := run.mounts ++ [.readOnly mountPoint] }

/-- The old binary is put back where it had been renamed, and that throws too. -/
def InstallCalls.throwsTwice (install : InstallCalls) : Bool :=
  let ⟨platform, calls, libPath, newLibPath, files⟩ := install.calls.replace
  match platform with
  | .windows => false
  | .posix =>
      calls.examinesLib && (files libPath).isSome &&
        match files.rename calls.renamesLib libPath (backupPath libPath) with
        | none => false
        | some backedUp =>
            let replaced :=
              (backedUp.rename calls.renamesNewLib newLibPath libPath).getD backedUp
            (replaced.rename calls.restores (backupPath libPath) libPath).isNone

/-- `replaceBinary`, with the feedback of its handlers. -/
def replaceBinary (install : InstallCalls) : Updating Bool := do
  if (ScorbitSdk.replaceBinary install.calls.replace).1 then pure true
  else if install.throwsTwice then do
    feedback ("Error occurred while replacing library: ".toList ++
      install.filesystemError)
    feedback ("Error occurred while replacing library: ".toList ++
      install.restoreError)
    pure false
  else do
    feedback ("Error occurred while replacing library: ".toList ++
      install.filesystemError)
    pure false

def update (install : InstallCalls) (archive : List Char) : Updating Bool := do
  match install.otherError with
  | some what => throw (.exception what)
  | none =>
      if !(extract install.target install.links install.calls.toExtractCalls).result
      then do
        feedback ("Failed to extract archive: ".toList ++ archive)
        pure false
      else if !install.calls.candidate then do
        feedback "File is not found in the archive".toList
        pure false
      else if !install.calls.canonical then do
        feedback ("Error occurred while updating library: ".toList ++
          install.filesystemError)
        pure false
      else replaceBinary install

/-- `static_cast<int>(error)` -/
def errorCode : DownloadError → Nat
  | .success => 0
  | .apiError => 4
  | .fileError => 5

section Attempt

variable (calls : AttemptCalls) (urlInfo : UrlInfo)

/-- The callback of the download. -/
def downloaded (filename : List Char) (error : DownloadError)
    (message : List Char) : Updating Bool := do
  if error = .success then
    let success ← update calls.install filename
    if success then
      feedback ("Updated successfully, ver: ".toList ++ urlInfo.version)
    pure success
  else do
    feedback ("Updater: download failed: ".toList ++
      (toString (errorCode error)).toList ++ ", ".toList ++ message)
    pure false

def downloadAndupdateTgz : Updating Bool := do
  let tempFile ← call calls.tempFile
  let (error, message) ← call (calls.download urlInfo.url tempFile)
  downloaded calls urlInfo tempFile error message

def tryToRemountAndUpdate : Updating Bool := do
  let mountResult ← fsMakeWritable calls.mount
  if !mountResult.ok then
    feedback ("Failed to make filesystem writable: ".toList ++ mountResult.mountPoint)
    pure false
  else
    let ok ← downloadAndupdateTgz calls urlInfo
    fsRemountReadOnly mountResult.mountPoint
    pure ok

end Attempt

/-! ## Both updates -/

/-- `parseUrls` with its feedback. -/
def parse (updater : Updater) (obj : JsonNode) : Updating UrlInfo :=
  match updater.parseUrls obj with
  | .value (urlInfo, message) => do
      tell message
      pure urlInfo
  | .throws => throw (.exception updater.jsonError)
  | .undefined => throw .undefined

/-- The update of a component that may be updated. -/
def attempt (calls : AttemptCalls) (urlInfo : UrlInfo) (succeeded : Updating Unit)
    (applicable success : Bool) : Updating Bool :=
  if applicable then do
    let updated ← tryToRemountAndUpdate calls urlInfo
    if updated then succeeded
    pure updated
  else pure success

def appendLogs (component : Component) (timestamp : List Char) (success : Bool) :
    Updating Unit :=
  modify fun run =>
    if run.m_feedback ≠ [] || success then
      { run with logs := run.logs ++ [⟨component, timestamp, run.m_feedback⟩] }
    else run

/-- The block for a component; `success` is what the block before has left. -/
def updateComponent (component : Component) (calls : ComponentCalls)
    (urlInfos : Updating UrlInfo)
    (canUpdate : UrlInfo → CanonicalPath → Updating Bool)
    (succeeded : UrlInfo → CanonicalPath → Updating Unit) (success : Bool) :
    Updating Bool := do
  let urlInfo ← urlInfos
  let path ← call calls.path
  let applicable ← canUpdate urlInfo path
  let success ← attempt calls.toAttemptCalls urlInfo (succeeded urlInfo path)
    applicable success
  appendLogs component calls.timestamp success
  pure success

def objectAt (json : JsonNode) (key : String) : Option JsonNode :=
  (json.find? key).filter JsonNode.isObject

section Source

variable (updater : Updater) (calls : UpdaterCalls) (json : JsonNode)

/-- The block for a component, if the document has an object for it. -/
def checkComponent (key : String) (component : Component) (calls : ComponentCalls)
    (canUpdate : UrlInfo → CanonicalPath → Updating Bool)
    (succeeded : UrlInfo → CanonicalPath → Updating Unit) (success : Bool) :
    Updating Bool :=
  match objectAt json key with
  | none => pure success
  | some obj =>
      updateComponent component calls (updater.parse obj) canUpdate succeeded success

def checkSdk : Updating Bool :=
  updater.checkComponent json "sdk" .sdk calls.sdk
    (fun urlInfo path => updater.canUpdateSdk urlInfo path calls.programPath)
    (fun _ _ => pure ()) false

def pushUpdated (urlInfo : UrlInfo) (path : CanonicalPath) : Updating Unit :=
  modify fun run =>
    if calls.hasEventManager then
      { run with events := run.events ++ [(urlInfo.version, path.text)] }
    else run

def checkScorbitd (success : Bool) : Updating Bool :=
  updater.checkComponent json "scorbitd" .scorbitd calls.scorbitd
    updater.canUpdateScorbitd (pushUpdated calls) success

def updateConfig (success : Bool) : Updating Unit := do
  modify fun run =>
    { run with
      updateConfigs := run.updateConfigs ++
        [⟨"sdk".toList, updater.sdkVersion, success, run.logs⟩] }
  call calls.updateConfig

def report (success : Bool) : Updating Unit := do
  let run ← get
  if run.logs ≠ [] then updater.updateConfig calls success else pure ()

def clearFeedback : Updating Unit :=
  modify fun run => { run with m_feedback := [] }

def setInProgress (inProgress : Bool) : Updating Unit :=
  modify fun run => { run with m_updateInProgress := inProgress }

def checkNewVersionAndUpdate : Updating Unit := do
  let run ← get
  if run.m_updateInProgress then pure ()
  else
    setInProgress true
    clearFeedback
    let success ← updater.checkSdk calls json
    clearFeedback
    let success ← updater.checkScorbitd calls json success
    updater.report calls success
    setInProgress false

end Source

/-! ## Checks -/

/-- What the checks come to. -/
inductive Decision
  | applicable
  | notApplicable
  | refused (message : List Char)
  deriving DecidableEq

def Decision.message : Decision → Option (List Char)
  | refused message => some message
  | _ => none

/-- The first check that does not hold decides. -/
def decision : List Check → Decision
  | [] => .applicable
  | check :: checks =>
      if check.holds then decision checks
      else
        match check.message with
        | some message => .refused message
        | none => .notApplicable

def sdkDecision (updater : Updater) (calls : UpdaterCalls) (urlInfo : UrlInfo)
    (path : CanonicalPath) : Decision :=
  match calls.programPath with
  | .ok program => decision (updater.sdkChecks urlInfo path program)
  | .error what => .refused ("Error in 'sdk': ".toList ++ what)

def scorbitdDecision (updater : Updater) (urlInfo : UrlInfo)
    (path : CanonicalPath) : Decision :=
  decision (updater.scorbitdChecks urlInfo path)

/-- The run with one more feedback. -/
def UpdateRun.told (run : UpdateRun) (message : Option (List Char)) : UpdateRun :=
  match message with
  | some out =>
      { run with
        m_feedback :=
          if run.m_feedback = [] then out
          else run.m_feedback ++ "\n\n".toList ++ out }
  | none => run

theorem tell_eq (message : Option (List Char)) (run : UpdateRun) :
    tell message run = .ok () (run.told message) := by
  cases message <;> rfl

theorem allHold_eq (checks : List Check) (run : UpdateRun) :
    allHold checks run =
      .ok (decision checks = .applicable) (run.told (decision checks).message) := by
  induction checks with
  | nil => rfl
  | cons check checks ih =>
      rw [allHold, decision]
      cases check.holds with
      | true => exact ih
      | false =>
          change (EStateM.bind (tell check.message) fun _ => pure false) run = _
          rw [EStateM.bind, tell_eq]
          cases check.message <;> rfl

theorem canUpdateSdk_eq (updater : Updater) (calls : UpdaterCalls)
    (urlInfo : UrlInfo) (path : CanonicalPath) (run : UpdateRun) :
    updater.canUpdateSdk urlInfo path calls.programPath run =
      .ok (updater.sdkDecision calls urlInfo path = .applicable)
        (run.told (updater.sdkDecision calls urlInfo path).message) := by
  unfold canUpdateSdk sdkDecision
  cases calls.programPath with
  | error what => rfl
  | ok program => exact catching_of_ok (allHold_eq _ run)

/-- There is a text where there is feedback. -/
def IsTelling (message : Option (List Char)) : Prop :=
  ∀ out, message = some out → out ≠ []

theorem UpdateRun.told_eq_nil_iff {run : UpdateRun} {message : Option (List Char)}
    (telling : IsTelling message) :
    (run.told message).m_feedback = [] ↔ run.m_feedback = [] ∧ message = none := by
  cases message with
  | none => simp [told]
  | some out =>
      have notEmpty := telling out rfl
      by_cases isFirst : run.m_feedback = []
      · simp [told, isFirst, notEmpty]
      · simp [told, isFirst]

theorem isTelling_decision {checks : List Check}
    (telling : ∀ check ∈ checks, IsTelling check.message) :
    IsTelling (decision checks).message := by
  induction checks with
  | nil => exact nofun
  | cons check checks ih =>
      rw [List.forall_mem_cons] at telling
      obtain ⟨first, others⟩ := telling
      rw [decision]
      split
      · exact ih others
      · cases isMessage : check.message with
        | none => exact nofun
        | some message =>
            rintro out ⟨⟩
            exact first message isMessage

theorem toList_ne_nil {c : Char} {text : List Char} :
    (String.ofList (c :: text)).toList ≠ [] := by
  rw [String.toList_ofList]
  exact List.cons_ne_nil c text

theorem isTelling_append {start rest : List Char} (notEmpty : start ≠ []) :
    IsTelling (some (start ++ rest)) := by
  rintro out ⟨⟩ isEmpty
  exact notEmpty (List.append_eq_nil_iff.mp isEmpty).1

theorem isTelling_sdkDecision (updater : Updater) (calls : UpdaterCalls)
    (urlInfo : UrlInfo) (path : CanonicalPath) :
    IsTelling (updater.sdkDecision calls urlInfo path).message := by
  unfold sdkDecision
  cases calls.programPath with
  | error what => exact isTelling_append toList_ne_nil
  | ok program =>
      apply isTelling_decision
      simp only [sdkChecks, isSdkVersionCompatible, List.cons_append,
        List.nil_append, List.forall_mem_cons, List.not_mem_nil,
        IsEmpty.forall_iff, implies_true, and_true]
      refine ⟨nofun, ?_, ?_, ?_, ?_, nofun, ?_⟩
      · exact isTelling_append toList_ne_nil
      · exact isTelling_append toList_ne_nil
      · exact isTelling_append toList_ne_nil
      · exact isTelling_append (by simp)
      · exact isTelling_append (by simp)

theorem isTelling_scorbitdDecision (updater : Updater) (urlInfo : UrlInfo)
    (path : CanonicalPath) :
    IsTelling (updater.scorbitdDecision urlInfo path).message := by
  apply isTelling_decision
  simp only [scorbitdChecks, List.forall_mem_cons, List.not_mem_nil,
    IsEmpty.forall_iff, implies_true, and_true]
  refine ⟨?_, ?_, ?_, ?_⟩
  · exact nofun
  · exact isTelling_append toList_ne_nil
  · exact isTelling_append toList_ne_nil
  · exact isTelling_append toList_ne_nil

/-! ## What an attempt comes to -/

/-- Every file system that has been remounted has been passed to
`fsRemountReadOnly` after it. -/
def Restored (mounts : List MountEvent) : Prop :=
  ∀ before mountPoint after, mounts = before ++ .readWrite mountPoint :: after →
    .readOnly mountPoint ∈ after

theorem restored_nil : Restored [] := by
  intro before mountPoint after isEmpty
  exact absurd isEmpty.symm (by simp)

theorem Restored.append {first second : List MountEvent}
    (firstRestored : Restored first) (secondRestored : Restored second) :
    Restored (first ++ second) := by
  intro before mountPoint after isSplit
  rcases List.append_eq_append_iff.mp isSplit with
    ⟨between, rfl, isSecond⟩ | ⟨between, isFirst, isAfter⟩
  · exact secondRestored between mountPoint after isSecond
  · cases between with
    | nil =>
        exact secondRestored [] mountPoint after isAfter.symm
    | cons event between =>
        obtain ⟨rfl, rfl⟩ := List.cons.inj isAfter
        exact List.mem_append_left _ (firstRestored before mountPoint between isFirst)

theorem restored_readOnly (mountPoint : List Char) :
    Restored [.readOnly mountPoint] := by
  rintro (_ | ⟨event, before⟩) other after isSplit
  · cases isSplit
  · cases before <;> cases isSplit

theorem restored_pair (mountPoint : List Char) :
    Restored [.readWrite mountPoint, .readOnly mountPoint] := by
  rintro (_ | ⟨event, before⟩) other after isSplit
  · cases isSplit
    exact List.mem_singleton_self _
  · obtain ⟨_, rest⟩ := List.cons.inj isSplit
    exact absurd rest (by cases before <;> simp)

/-- The new file is put in place. -/
def InstallCalls.installs (install : InstallCalls) : Bool :=
  (ScorbitSdk.update install.target install.links install.calls).result

/-- The program returns and changes the feedback only; a failure has some. -/
def EndsWith (program : Updating Bool) (result : Bool) : Prop :=
  ∀ run, ∃ text, program run = .ok result { run with m_feedback := text } ∧
    (result = false → text ≠ [])

theorem UpdateRun.told_some (run : UpdateRun) {start : List Char}
    (notEmpty : start ≠ []) (rest : List Char) :
    ∃ text, run.told (some (start ++ rest)) = { run with m_feedback := text } ∧
      text ≠ [] := by
  refine ⟨_, rfl, fun isEmpty => ?_⟩
  have none := (told_eq_nil_iff (isTelling_append notEmpty)).mp isEmpty
  cases none.2

theorem endsWith_refusal {start : List Char} (notEmpty : start ≠ [])
    (rest : List Char) :
    EndsWith (do feedback (start ++ rest); pure false) false := by
  intro run
  obtain ⟨text, isTold, said⟩ := run.told_some notEmpty rest
  refine ⟨text, ?_, fun _ => said⟩
  change EStateM.Result.ok false (run.told (some (start ++ rest))) = _
  rw [isTold]

theorem EndsWith.after_feedback {program : Updating Bool} {result : Bool}
    (ends : EndsWith program result) (out : List Char) :
    EndsWith (do feedback out; program) result := by
  intro run
  exact ends (run.told (some out))

theorem endsWith_true : EndsWith (pure true) true :=
  fun run => ⟨run.m_feedback, rfl, nofun⟩

theorem endsWith_replaceBinary (install : InstallCalls) :
    EndsWith (replaceBinary install)
      (ScorbitSdk.replaceBinary install.calls.replace).1 := by
  have said : "Error occurred while replacing library: ".toList ≠ [] :=
    toList_ne_nil
  unfold replaceBinary
  cases (ScorbitSdk.replaceBinary install.calls.replace).1 with
  | true => exact endsWith_true
  | false =>
      cases install.throwsTwice with
      | true => exact (endsWith_refusal said _).after_feedback _
      | false => exact endsWith_refusal said _

/-- The result is that of the update. -/
theorem endsWith_update {install : InstallCalls} (noOther : install.otherError = none)
    (archive : List Char) :
    EndsWith (update install archive) install.installs := by
  unfold update InstallCalls.installs ScorbitSdk.update
  rw [noOther]
  dsimp only
  cases (extract install.target install.links install.calls.toExtractCalls).result with
  | false => exact endsWith_refusal toList_ne_nil archive
  | true =>
      cases install.calls.candidate with
      | false =>
          have said : "File is not found in the archive".toList ≠ [] :=
            toList_ne_nil
          have ends := endsWith_refusal said []
          rwa [List.append_nil] at ends
      | true =>
          cases install.calls.canonical with
          | false => exact endsWith_refusal toList_ne_nil install.filesystemError
          | true => exact endsWith_replaceBinary install

namespace AttemptCalls

variable (calls : AttemptCalls) (urlInfo : UrlInfo)

/-- No call that is reached throws. -/
def Returns : Prop :=
  ∃ result, calls.mount.makeWritable = .ok result ∧ (result.ok = true →
    ∃ tempFile error message, calls.tempFile = .ok tempFile ∧
      calls.download urlInfo.url tempFile = .ok (error, message) ∧
      (error = .success → calls.install.otherError = none))

/-- The new file is put in place, and nothing throws. -/
def Installs : Prop :=
  ∃ result, calls.mount.makeWritable = .ok result ∧ result.ok = true ∧
    ∃ tempFile message, calls.tempFile = .ok tempFile ∧
      calls.download urlInfo.url tempFile = .ok (.success, message) ∧
      calls.install.otherError = none ∧ calls.install.installs = true

end AttemptCalls

section Attempts

variable {calls : AttemptCalls} {urlInfo : UrlInfo}

theorem endsWith_downloaded {error : DownloadError}
    (noOther : error = .success → calls.install.otherError = none)
    (filename message : List Char) :
    EndsWith (downloaded calls urlInfo filename error message)
      (error = .success && calls.install.installs) := by
  unfold downloaded
  by_cases isSuccess : error = .success
  · rw [if_pos isSuccess, decide_eq_true isSuccess, Bool.true_and]
    intro run
    obtain ⟨text, isUpdated, said⟩ := endsWith_update (noOther isSuccess) filename run
    rw [bind_of_ok isUpdated]
    cases isInstalled : calls.install.installs with
    | false => exact ⟨text, rfl, fun _ => said isInstalled⟩
    | true => exact ⟨_, rfl, nofun⟩
  · rw [if_neg isSuccess, decide_eq_false isSuccess, Bool.false_and]
    have said : "Updater: download failed: ".toList ≠ [] :=
      toList_ne_nil
    have refused := endsWith_refusal said
      ((toString (errorCode error)).toList ++ ", ".toList ++ message)
    simpa only [List.append_assoc] using refused

theorem fsMakeWritable_of_ok {result : MakeWritableResult}
    (made : calls.mount.makeWritable = .ok result) (run : UpdateRun) :
    fsMakeWritable calls.mount run =
      .ok result
        { run with
          mounts := run.mounts ++
            if result.ok && result.mountPoint ≠ [] then
              [.readWrite result.mountPoint]
            else [] } := by
  unfold fsMakeWritable
  rw [made]
  change (if (_ : Bool) = true then _ else _ : Updating MakeWritableResult) run = _
  split
  · rfl
  · rw [List.append_nil]
    rfl

theorem call_of_ok {Value : Type} {outcome : Except (List Char) Value}
    {result : Value} (isOk : outcome = .ok result) (run : UpdateRun) :
    call outcome run = .ok result run := by
  rw [isOk]
  rfl

theorem call_of_error {Value : Type} {outcome : Except (List Char) Value}
    {what : List Char} (isError : outcome = .error what) (run : UpdateRun) :
    call outcome run = .error (.exception what) run := by
  rw [isError]
  rfl

/-- The download of an attempt whose calls return. -/
theorem endsWith_downloadAndupdateTgz {tempFile message : List Char}
    {error : DownloadError} (isFile : calls.tempFile = .ok tempFile)
    (isDownload : calls.download urlInfo.url tempFile = .ok (error, message))
    (noOther : error = .success → calls.install.otherError = none) :
    EndsWith (downloadAndupdateTgz calls urlInfo)
      (error = .success && calls.install.installs) := by
  intro run
  unfold downloadAndupdateTgz
  rw [bind_of_ok (call_of_ok isFile run), bind_of_ok (call_of_ok isDownload run)]
  exact endsWith_downloaded noOther tempFile message run

theorem restored_remounts (mountPoint : List Char) (isMounted : Bool) :
    Restored ((if isMounted then [.readWrite mountPoint] else []) ++
      [.readOnly mountPoint]) := by
  cases isMounted with
  | true => exact restored_pair mountPoint
  | false => exact restored_readOnly mountPoint

/-- An attempt without exceptions: the file systems are restored, and a failure has
feedback. -/
theorem tryToRemountAndUpdate_of_returns (returns : calls.Returns urlInfo)
    (run : UpdateRun) :
    ∃ ok text added, tryToRemountAndUpdate calls urlInfo run =
        .ok ok { run with m_feedback := text, mounts := run.mounts ++ added } ∧
      (ok = true ↔ calls.Installs urlInfo) ∧ Restored added ∧
      (ok = false → text ≠ []) := by
  obtain ⟨result, made, attempted⟩ := returns
  have isResult : ∀ {other}, calls.mount.makeWritable = .ok other →
      other = result := by
    intro other isOther
    rw [made] at isOther
    exact (Except.ok.inj isOther).symm
  unfold tryToRemountAndUpdate
  rw [bind_of_ok (fsMakeWritable_of_ok made run)]
  cases isOk : result.ok with
  | false =>
      have said : "Failed to make filesystem writable: ".toList ≠ [] :=
        toList_ne_nil
      obtain ⟨text, isRefused, told⟩ := endsWith_refusal said result.mountPoint
        { run with mounts := run.mounts ++ [] }
      refine ⟨false, text, [], isRefused, ?_, restored_nil, told⟩
      apply iff_of_false Bool.false_ne_true
      rintro ⟨other, isOther, otherOk, _⟩
      rw [isResult isOther, isOk] at otherOk
      cases otherOk
  | true =>
      obtain ⟨tempFile, error, message, isFile, isDownload, noOther⟩ := attempted isOk
      have notRefused : ¬(!true) = true := by decide
      rw [if_neg notRefused]
      obtain ⟨text, isRun, told⟩ := endsWith_downloadAndupdateTgz isFile isDownload
        noOther { run with
          mounts := run.mounts ++
            if true && result.mountPoint ≠ [] then [.readWrite result.mountPoint]
            else [] }
      refine ⟨error = .success && calls.install.installs, text, _, ?_, ?_,
        restored_remounts result.mountPoint (true && result.mountPoint ≠ []), told⟩
      · rw [bind_of_ok isRun, ← List.append_assoc]
        rfl
      · rw [Bool.and_eq_true, decide_eq_true_eq]
        constructor
        · rintro ⟨rfl, installs⟩
          exact ⟨result, made, isOk, tempFile, message, isFile, isDownload,
            noOther rfl, installs⟩
        · rintro ⟨_, _, _, otherFile, otherMessage, isOtherFile, isOther, _,
            installs⟩
          rw [isFile] at isOtherFile
          obtain rfl := Except.ok.inj isOtherFile
          rw [isDownload] at isOther
          exact ⟨(Prod.mk.inj (Except.ok.inj isOther)).1, installs⟩

theorem returns_or_throws {Value : Type} (outcome : Except (List Char) Value) :
    (∃ result, outcome = .ok result) ∨ ∃ what, outcome = .error what := by
  cases outcome with
  | ok result => exact .inl ⟨result, rfl⟩
  | error what => exact .inr ⟨what, rfl⟩

/-- A download that throws leaves all but the feedback. -/
theorem downloadAndupdateTgz_of_throws
    (throws : ¬∃ tempFile error message, calls.tempFile = .ok tempFile ∧
      calls.download urlInfo.url tempFile = .ok (error, message) ∧
      (error = .success → calls.install.otherError = none)) (run : UpdateRun) :
    ∃ what, downloadAndupdateTgz calls urlInfo run =
      .error (.exception what) run := by
  unfold downloadAndupdateTgz
  rcases returns_or_throws calls.tempFile with ⟨tempFile, isFile⟩ | ⟨what, isError⟩
  · rw [bind_of_ok (call_of_ok isFile run)]
    rcases returns_or_throws (calls.download urlInfo.url tempFile) with
      ⟨⟨error, message⟩, isDownload⟩ | ⟨what, isError⟩
    · rw [bind_of_ok (call_of_ok isDownload run)]
      have isOther : error = .success ∧ calls.install.otherError ≠ none := by
        by_contra noOther
        rw [not_and, ne_eq, not_not] at noOther
        exact throws ⟨tempFile, error, message, isFile, isDownload, noOther⟩
      obtain ⟨rfl, isOther⟩ := isOther
      obtain ⟨what, isWhat⟩ := Option.ne_none_iff_exists'.mp isOther
      have isUpdate : update calls.install tempFile run =
          .error (.exception what) run := by
        rw [update, isWhat]
        rfl
      refine ⟨what, ?_⟩
      dsimp only
      rw [downloaded, if_pos rfl, bind_of_error isUpdate]
    · exact ⟨what, bind_of_error (call_of_error isError run)⟩
  · exact ⟨what, bind_of_error (call_of_error isError run)⟩

/-- An attempt that throws leaves all but the mounts. -/
theorem tryToRemountAndUpdate_of_not_returns (throws : ¬calls.Returns urlInfo)
    (run : UpdateRun) :
    ∃ what mounts, tryToRemountAndUpdate calls urlInfo run =
      .error (.exception what) { run with mounts } := by
  unfold tryToRemountAndUpdate
  rcases returns_or_throws calls.mount.makeWritable with ⟨result, made⟩ | ⟨what, isError⟩
  · have attempted : result.ok = true ∧ ¬∃ tempFile error message,
        calls.tempFile = .ok tempFile ∧
        calls.download urlInfo.url tempFile = .ok (error, message) ∧
        (error = .success → calls.install.otherError = none) := by
      by_contra returns
      rw [not_and, not_not] at returns
      exact throws ⟨result, made, returns⟩
    obtain ⟨isOk, throws⟩ := attempted
    rw [bind_of_ok (fsMakeWritable_of_ok made run)]
    have notRefused : ¬(!result.ok) = true := by
      rw [isOk]
      decide
    rw [if_neg notRefused]
    obtain ⟨what, thrown⟩ := downloadAndupdateTgz_of_throws throws _
    exact ⟨what, _, bind_of_error thrown⟩
  · have isThrown : fsMakeWritable calls.mount run =
        .error (.exception what) run := by
      rw [fsMakeWritable, bind_of_error (call_of_error isError run)]
    exact ⟨what, run.mounts, bind_of_error isThrown⟩

end Attempts

end Updater

end ScorbitSdk
