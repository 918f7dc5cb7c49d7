import ScorbitSdk.UpdaterRuns

/-!
# What an update comes to

A component is absent from the document, does not apply, is refused with
feedback, or is attempted and fails or succeeds.  The blocks of
`checkNewVersionAndUpdate` end by these outcomes, unless a call throws or a
member that is read is missing.
-/

namespace ScorbitSdk

open JsonOutcome JsonNode Pattern Checked

namespace Updater

/-! ## What a component comes to -/

inductive ComponentOutcome
  /-- The document has no object for it. -/
  | absent
  | notApplicable
  | refused
  | failed
  | succeeded
  deriving DecidableEq

namespace ComponentOutcome

/-- There is feedback, or the component has been updated. -/
def Tells : ComponentOutcome → Prop
  | absent => False
  | notApplicable => False
  | refused => True
  | failed => True
  | succeeded => True

/-- The result, for the result that is there before. -/
def success (before : Bool) : ComponentOutcome → Bool
  | failed => false
  | succeeded => true
  | _ => before

/-- There is a section in the logs, for the result that is there before. -/
def Logs (before : Bool) : ComponentOutcome → Prop
  | absent => False
  | notApplicable => before = true
  | _ => True

end ComponentOutcome

namespace ComponentCalls

variable (calls : ComponentCalls) (verdict : UrlInfo → CanonicalPath → Decision)

/-- No call that is reached throws. -/
def ReturnsFor (urlInfo : UrlInfo) : Prop :=
  ∃ path, calls.path = .ok path ∧
    (verdict urlInfo path = .applicable → calls.Returns urlInfo)

/-- What comes of a component for what has been parsed. -/
def HasOutcome (urlInfo : UrlInfo) (message : Option (List Char))
    (outcome : ComponentOutcome) : Prop :=
  ∃ path, calls.path = .ok path ∧
    match outcome with
    | .absent => False
    | .notApplicable => verdict urlInfo path = .notApplicable ∧ message = none
    | .refused => (∃ text, verdict urlInfo path = .refused text) ∨
        verdict urlInfo path = .notApplicable ∧ message ≠ none
    | .failed => verdict urlInfo path = .applicable ∧ calls.Returns urlInfo ∧
        ¬calls.Installs urlInfo
    | .succeeded => verdict urlInfo path = .applicable ∧ calls.Installs urlInfo

variable {calls verdict} {urlInfo : UrlInfo} {message : Option (List Char)}

theorem returns_of_installs (installs : calls.Installs urlInfo) :
    calls.Returns urlInfo := by
  obtain ⟨result, made, _, tempFile, message, isFile, isDownload, noOther, _⟩ :=
    installs
  exact ⟨result, made, fun _ =>
    ⟨tempFile, .success, message, isFile, isDownload, fun _ => noOther⟩⟩

theorem returnsFor_iff (message : Option (List Char)) :
    calls.ReturnsFor verdict urlInfo ↔
      ∃ outcome, calls.HasOutcome verdict urlInfo message outcome := by
  constructor
  · rintro ⟨path, isPath, returns⟩
    cases isDecided : verdict urlInfo path with
    | applicable =>
        by_cases installs : calls.Installs urlInfo
        · exact ⟨.succeeded, path, isPath, isDecided, installs⟩
        · exact ⟨.failed, path, isPath, isDecided, returns isDecided, installs⟩
    | refused text => exact ⟨.refused, path, isPath, .inl ⟨text, isDecided⟩⟩
    | notApplicable =>
        by_cases isNone : message = none
        · exact ⟨.notApplicable, path, isPath, isDecided, isNone⟩
        · exact ⟨.refused, path, isPath, .inr ⟨isDecided, isNone⟩⟩
  · rintro ⟨outcome, path, isPath, hasOutcome⟩
    refine ⟨path, isPath, fun applicable => ?_⟩
    cases outcome with
    | absent => exact hasOutcome.elim
    | notApplicable => cases applicable.symm.trans hasOutcome.1
    | refused =>
        rcases hasOutcome with ⟨text, refused⟩ | ⟨notApplicable, _⟩
        · cases applicable.symm.trans refused
        · cases applicable.symm.trans notApplicable
    | failed => exact hasOutcome.2.1
    | succeeded => exact returns_of_installs hasOutcome.2

/-- A component comes to one outcome. -/
theorem HasOutcome.unique {first second : ComponentOutcome}
    (isFirst : calls.HasOutcome verdict urlInfo message first)
    (isSecond : calls.HasOutcome verdict urlInfo message second) :
    first = second := by
  obtain ⟨path, isPath, isFirst⟩ := isFirst
  obtain ⟨other, isOther, isSecond⟩ := isSecond
  obtain rfl : path = other := Except.ok.inj (isPath.symm.trans isOther)
  cases isVerdict : verdict urlInfo path with
  | applicable =>
      by_cases installs : calls.Installs urlInfo
      · cases first <;> cases second <;> simp_all
      · cases first <;> cases second <;> simp_all
  | refused text => cases first <;> cases second <;> simp_all
  | notApplicable =>
      by_cases isNone : message = none
      · cases first <;> cases second <;> simp_all
      · cases first <;> cases second <;> simp_all

end ComponentCalls

/-- What a block leaves as it is, and what it adds. -/
structure AfterComponent (component : Component) (outcome : ComponentOutcome)
    (before : Bool) (run after : UpdateRun) : Prop where
  inProgress : after.m_updateInProgress = run.m_updateInProgress
  updateConfigs : after.updateConfigs = run.updateConfigs
  mounts : ∃ added, after.mounts = run.mounts ++ added ∧ Restored added
  logs : ∃ parts, after.logs = run.logs ++ parts ∧
    (parts ≠ [] ↔ outcome.Logs before) ∧
      ∀ part ∈ parts, part.component = component

/-- A block that throws leaves the flag as it is and reports nothing. -/
structure AfterThrow (run after : UpdateRun) : Prop where
  inProgress : after.m_updateInProgress = run.m_updateInProgress
  updateConfigs : after.updateConfigs = run.updateConfigs

section Components

variable {updater : Updater} {obj : JsonNode} {calls : ComponentCalls}
  {urlInfo : UrlInfo} {message : Option (List Char)} {run : UpdateRun}
  {component : Component} {success : Bool}

theorem parse_eq (parsed : updater.parseUrls obj = .value (urlInfo, message))
    (run : UpdateRun) : updater.parse obj run = .ok urlInfo (run.told message) := by
  rw [parse, parsed]
  change (tell message >>= fun _ => pure urlInfo) run = _
  rw [bind_of_ok (tell_eq message run)]
  rfl

theorem parse_of_undefined (parsed : updater.parseUrls obj = .undefined)
    (run : UpdateRun) : updater.parse obj run = .error .undefined run := by
  rw [parse, parsed]
  rfl

theorem parseUrls_ne_throws : updater.parseUrls obj ≠ .throws := by
  unfold parseUrls
  intro throws
  split at throws <;> cases throws

theorem isTelling_message (parsed : updater.parseUrls obj = .value (urlInfo, message)) :
    IsTelling message := by
  unfold parseUrls at parsed
  split at parsed
  · cases parsed
    exact nofun
  · cases parsed
    exact isTelling_append (by simp)
  · cases parsed

/-- The logs get a section where there is feedback or a result. -/
theorem appendLogs_eq (component : Component) (timestamp : List Char)
    (success : Bool) (run : UpdateRun) :
    ∃ parts, appendLogs component timestamp success run =
        .ok () { run with logs := run.logs ++ parts } ∧
      (parts ≠ [] ↔ run.m_feedback ≠ [] ∨ success = true) ∧
        ∀ part ∈ parts, part.component = component := by
  unfold appendLogs
  by_cases tells : run.m_feedback ≠ [] ∨ success = true
  · refine ⟨[⟨component, timestamp, run.m_feedback⟩], ?_, ?_, ?_⟩
    · change EStateM.Result.ok () (if _ then _ else _) = _
      rw [if_pos (by simpa using tells)]
    · exact iff_of_true (List.cons_ne_nil _ _) tells
    · simp
  · refine ⟨[], ?_, iff_of_false (absurd rfl) tells, List.forall_mem_nil _⟩
    change EStateM.Result.ok () (if _ then _ else _) = _
    rw [if_neg (by simpa using tells), List.append_nil]

/-- The feedback is all that is told. -/
theorem told_eq (run : UpdateRun) (message : Option (List Char)) :
    run.told message =
      { run with m_feedback := (run.told message).m_feedback } := by
  cases message <;> rfl

theorem told_told_eq_nil_iff {decided : Option (List Char)}
    (cleared : run.m_feedback = []) (telling : IsTelling message)
    (decidedTelling : IsTelling decided) :
    ((run.told message).told decided).m_feedback = [] ↔
      message = none ∧ decided = none := by
  rw [UpdateRun.told_eq_nil_iff decidedTelling, UpdateRun.told_eq_nil_iff telling,
    cleared, and_assoc]
  exact and_iff_right rfl

/-- The program that decides does what the decision tells. -/
def Decides (canUpdate : UrlInfo → CanonicalPath → Updating Bool)
    (verdict : UrlInfo → CanonicalPath → Decision) : Prop :=
  ∀ urlInfo path, IsTelling (verdict urlInfo path).message ∧ ∀ run,
    canUpdate urlInfo path run =
      .ok (verdict urlInfo path = .applicable : Bool)
        (run.told (verdict urlInfo path).message)

/-- What is done after a success pushes events only. -/
def PushesOnly (succeeded : UrlInfo → CanonicalPath → Updating Unit) : Prop :=
  ∀ urlInfo path run, ∃ events,
    succeeded urlInfo path run = .ok () { run with events }

section Blocks

variable {canUpdate : UrlInfo → CanonicalPath → Updating Bool}
  {verdict : UrlInfo → CanonicalPath → Decision}
  {succeeded : UrlInfo → CanonicalPath → Updating Unit}
  {outcome : ComponentOutcome}

/-- What an attempt leaves: a result, and feedback where there is something to
tell. -/
structure AfterAttempt (run after : UpdateRun) : Prop where
  inProgress : after.m_updateInProgress = run.m_updateInProgress
  updateConfigs : after.updateConfigs = run.updateConfigs
  logs : after.logs = run.logs
  mounts : ∃ added, after.mounts = run.mounts ++ added ∧ Restored added

theorem attempt_of_returns {path : CanonicalPath}
    (pushes : PushesOnly succeeded) (returns : calls.Returns urlInfo)
    (run : UpdateRun) :
    ∃ ok after, attempt calls.toAttemptCalls urlInfo (succeeded urlInfo path) true
        success run = .ok ok after ∧
      AfterAttempt run after ∧ (ok = true ↔ calls.Installs urlInfo) ∧
        (ok = false → after.m_feedback ≠ []) := by
  obtain ⟨ok, text, added, isRun, installs, restored, told⟩ :=
    tryToRemountAndUpdate_of_returns returns run
  unfold attempt
  rw [if_pos rfl, bind_of_ok isRun]
  cases ok with
  | false =>
      exact ⟨false, _, rfl, ⟨rfl, rfl, rfl, added, rfl, restored⟩, installs, told⟩
  | true =>
      obtain ⟨events, isPushed⟩ := pushes urlInfo path
        { run with m_feedback := text, mounts := run.mounts ++ added }
      refine ⟨true,
        { run with m_feedback := text, mounts := run.mounts ++ added, events },
        ?_, ⟨rfl, rfl, rfl, added, rfl, restored⟩, installs, nofun⟩
      rw [if_pos rfl]
      exact bind_of_ok isPushed

theorem attempt_of_not_returns (throws : ¬calls.Returns urlInfo)
    (after : Updating Unit) (success : Bool) (run : UpdateRun) :
    ∃ what mounts, attempt calls.toAttemptCalls urlInfo after true success run =
      .error (.exception what) { run with mounts } := by
  obtain ⟨what, mounts, isThrown⟩ := tryToRemountAndUpdate_of_not_returns throws run
  unfold attempt
  rw [if_pos rfl]
  exact ⟨what, mounts, bind_of_error isThrown⟩

/-- The part of a block in front of the logs ends with the result of the outcome,
and with feedback or a result where there is a section. -/
def AttemptEnds (program : Updating Bool) (run start : UpdateRun)
    (outcome : ComponentOutcome) (success : Bool) : Prop :=
  ∃ after, program start = .ok (outcome.success success) after ∧
    AfterAttempt run after ∧
    (after.m_feedback ≠ [] ∨ outcome.success success = true ↔
      outcome.Logs success)

/-- Nothing is attempted, and the result is the one before. -/
theorem attemptEnds_of_refusal {decided : Option (List Char)} {next : Updating Unit}
    (telling : IsTelling message) (decidedTelling : IsTelling decided)
    (cleared : run.m_feedback = []) (same : outcome.success success = success)
    (logs : message ≠ none ∨ decided ≠ none ∨ success = true ↔
      outcome.Logs success) :
    AttemptEnds (attempt calls.toAttemptCalls urlInfo next false success) run
      ((run.told message).told decided) outcome success := by
  refine ⟨(run.told message).told decided, ?_, ?_, ?_⟩
  · rw [same]
    rfl
  · rw [told_eq (run.told message), told_eq run]
    exact ⟨rfl, rfl, rfl, [], (List.append_nil _).symm, restored_nil⟩
  · rw [ne_eq, told_told_eq_nil_iff cleared telling decidedTelling, not_and_or,
      or_assoc, same]
    exact logs

theorem attemptEnds_of_returns {decided : Option (List Char)} {path : CanonicalPath}
    (pushes : PushesOnly succeeded) (returns : calls.Returns urlInfo)
    (isResult : ∀ ok, (ok = true ↔ calls.Installs urlInfo) →
      outcome.success success = ok) (logs : outcome.Logs success) :
    AttemptEnds
      (attempt calls.toAttemptCalls urlInfo (succeeded urlInfo path) true success)
      run ((run.told message).told decided) outcome success := by
  rw [told_eq (run.told message), told_eq run]
  obtain ⟨ok, after, isRun, isAfter, installs, told⟩ :=
    attempt_of_returns pushes returns _
  rw [AttemptEnds, isResult ok installs]
  refine ⟨after, isRun, ⟨isAfter.inProgress, isAfter.updateConfigs, isAfter.logs,
    isAfter.mounts⟩, iff_of_true ?_ logs⟩
  cases ok with
  | false => exact .inl (told rfl)
  | true => exact .inr rfl

theorem attemptEnds_of_outcome {path : CanonicalPath}
    (decides : Decides canUpdate verdict) (pushes : PushesOnly succeeded)
    (telling : IsTelling message) (cleared : run.m_feedback = [])
    (isPath : calls.path = .ok path)
    (hasOutcome : calls.HasOutcome verdict urlInfo message outcome) :
    AttemptEnds
      (canUpdate urlInfo path >>= fun applicable =>
        attempt calls.toAttemptCalls urlInfo (succeeded urlInfo path) applicable
          success) run (run.told message) outcome success := by
  obtain ⟨other, isOther, hasOutcome⟩ := hasOutcome
  obtain rfl : path = other := Except.ok.inj (isPath.symm.trans isOther)
  obtain ⟨decidedTelling, isDecided⟩ := decides urlInfo path
  rw [AttemptEnds, bind_of_ok (isDecided _)]
  cases outcome with
  | absent => exact hasOutcome.elim
  | notApplicable =>
      obtain ⟨notApplicable, rfl⟩ := hasOutcome
      rw [notApplicable] at decidedTelling ⊢
      exact attemptEnds_of_refusal telling decidedTelling cleared rfl
        (by simp [Decision.message, ComponentOutcome.Logs])
  | refused =>
      rcases hasOutcome with ⟨text, refused⟩ | ⟨notApplicable, said⟩
      · rw [refused] at decidedTelling ⊢
        exact attemptEnds_of_refusal telling decidedTelling cleared rfl
          (by simp [Decision.message, ComponentOutcome.Logs])
      · rw [notApplicable] at decidedTelling ⊢
        exact attemptEnds_of_refusal telling decidedTelling cleared rfl
          (iff_of_true (.inl said) trivial)
  | failed =>
      obtain ⟨applicable, returns, notInstalled⟩ := hasOutcome
      rw [applicable]
      apply attemptEnds_of_returns pushes returns
      · intro ok installs
        cases ok with
        | false => rfl
        | true => exact absurd (installs.mp rfl) notInstalled
      · trivial
  | succeeded =>
      obtain ⟨applicable, isInstalled⟩ := hasOutcome
      rw [applicable]
      apply attemptEnds_of_returns pushes
        (ComponentCalls.returns_of_installs isInstalled)
      · intro ok installs
        exact (installs.mpr isInstalled).symm
      · trivial

theorem updateComponent_of_outcome (decides : Decides canUpdate verdict)
    (pushes : PushesOnly succeeded) (cleared : run.m_feedback = [])
    (parsed : updater.parseUrls obj = .value (urlInfo, message))
    (hasOutcome : calls.HasOutcome verdict urlInfo message outcome) :
    ∃ after, updateComponent component calls (updater.parse obj) canUpdate succeeded
        success run = .ok (outcome.success success) after ∧
      AfterComponent component outcome success run after := by
  have ⟨path, isPath, _⟩ := hasOutcome
  obtain ⟨attempted, isAttempt, isAfter, logs⟩ := attemptEnds_of_outcome decides
    pushes (isTelling_message parsed) cleared isPath hasOutcome
  obtain ⟨parts, isLogged, sections, ofComponent⟩ := appendLogs_eq component
    calls.timestamp (outcome.success success) attempted
  refine ⟨{ attempted with logs := attempted.logs ++ parts }, ?_, ?_⟩
  · unfold updateComponent
    rw [bind_of_ok (parse_eq parsed run), bind_of_ok (call_of_ok isPath _),
      ← bind_assoc, bind_of_ok isAttempt, bind_of_ok isLogged]
    rfl
  · exact {
      inProgress := isAfter.inProgress
      updateConfigs := isAfter.updateConfigs
      mounts := isAfter.mounts
      logs := ⟨parts, by rw [isAfter.logs], sections.trans logs, ofComponent⟩ }

/-- A block throws where one of its calls does. -/
theorem updateComponent_of_not_returns (decides : Decides canUpdate verdict)
    (parsed : updater.parseUrls obj = .value (urlInfo, message))
    (throws : ¬calls.ReturnsFor verdict urlInfo) :
    ∃ what after, updateComponent component calls (updater.parse obj) canUpdate
        succeeded success run = .error (.exception what) after ∧
      AfterThrow run after := by
  unfold updateComponent
  rw [bind_of_ok (parse_eq parsed run), told_eq]
  rcases returns_or_throws calls.path with ⟨path, isPath⟩ | ⟨what, isError⟩
  · have attempted : verdict urlInfo path = .applicable ∧
        ¬calls.Returns urlInfo := by
      by_contra returns
      rw [not_and, not_not] at returns
      exact throws ⟨path, isPath, returns⟩
    obtain ⟨applicable, throws⟩ := attempted
    obtain ⟨_, isDecided⟩ := decides urlInfo path
    rw [applicable] at isDecided
    rw [bind_of_ok (call_of_ok isPath _), bind_of_ok (isDecided _)]
    obtain ⟨what, mounts, isThrown⟩ :=
      attempt_of_not_returns throws (succeeded urlInfo path) success _
    exact ⟨what, _, bind_of_error isThrown, rfl, rfl⟩
  · exact ⟨what, _, bind_of_error (call_of_error isError _), rfl, rfl⟩

theorem updateComponent_of_undefined
    (parsed : updater.parseUrls obj = .undefined) :
    updateComponent component calls (updater.parse obj) canUpdate succeeded success
      run = .error .undefined run :=
  bind_of_error (parse_of_undefined parsed run)

end Blocks

end Components

/-! ## Both components -/

section Runs

variable (updater : Updater) (calls : UpdaterCalls) (json : JsonNode)

/-- What comes of a component. -/
def OutcomeAt (key : String) (calls : ComponentCalls)
    (verdict : UrlInfo → CanonicalPath → Decision) (outcome : ComponentOutcome) :
    Prop :=
  match objectAt json key with
  | none => outcome = .absent
  | some obj => ∃ urlInfo message,
      updater.parseUrls obj = .value (urlInfo, message) ∧
        calls.HasOutcome verdict urlInfo message outcome

def SdkOutcome (outcome : ComponentOutcome) : Prop :=
  updater.OutcomeAt json "sdk" calls.sdk (updater.sdkDecision calls) outcome

def ScorbitdOutcome (outcome : ComponentOutcome) : Prop :=
  updater.OutcomeAt json "scorbitd" calls.scorbitd updater.scorbitdDecision outcome

/-- No call that is reached for a component throws. -/
def ReturnsAt (key : String) (calls : ComponentCalls)
    (verdict : UrlInfo → CanonicalPath → Decision) : Prop :=
  ∀ obj urlInfo message, objectAt json key = some obj →
    updater.parseUrls obj = .value (urlInfo, message) →
      calls.ReturnsFor verdict urlInfo

end Runs

section RunLemmas

variable {updater : Updater} {json : JsonNode} {key : String}
  {calls : ComponentCalls} {verdict : UrlInfo → CanonicalPath → Decision}
  {canUpdate : UrlInfo → CanonicalPath → Updating Bool}
  {succeeded : UrlInfo → CanonicalPath → Updating Unit}
  {component : Component} {success : Bool} {run : UpdateRun}
  {outcome : ComponentOutcome}

theorem checkComponent_of_outcome (decides : Decides canUpdate verdict)
    (pushes : PushesOnly succeeded) (cleared : run.m_feedback = [])
    (hasOutcome : updater.OutcomeAt json key calls verdict outcome) :
    ∃ after, updater.checkComponent json key component calls canUpdate succeeded
        success run = .ok (outcome.success success) after ∧
      AfterComponent component outcome success run after := by
  unfold OutcomeAt at hasOutcome
  unfold checkComponent
  cases isObject : objectAt json key with
  | none =>
      rw [isObject] at hasOutcome
      obtain rfl := hasOutcome
      refine ⟨run, rfl, rfl, rfl, ⟨[], (List.append_nil _).symm, restored_nil⟩, ?_⟩
      exact ⟨[], (List.append_nil _).symm, iff_of_false (absurd rfl) id,
        List.forall_mem_nil _⟩
  | some obj =>
      rw [isObject] at hasOutcome
      obtain ⟨urlInfo, message, parsed, hasOutcome⟩ := hasOutcome
      exact updateComponent_of_outcome decides pushes cleared parsed hasOutcome

theorem returnsAt_of_outcome
    (hasOutcome : updater.OutcomeAt json key calls verdict outcome) :
    updater.ReturnsAt json key calls verdict := by
  intro obj urlInfo message isObject parsed
  rw [OutcomeAt, isObject] at hasOutcome
  obtain ⟨info, text, isParsed, hasOutcome⟩ := hasOutcome
  rw [parsed] at isParsed
  cases isParsed
  exact (ComponentCalls.returnsFor_iff message).mpr ⟨outcome, hasOutcome⟩

theorem outcomeAt_unique {other : ComponentOutcome}
    (isOutcome : updater.OutcomeAt json key calls verdict outcome)
    (isOther : updater.OutcomeAt json key calls verdict other) : outcome = other := by
  unfold OutcomeAt at isOutcome isOther
  cases isObject : objectAt json key with
  | none =>
      rw [isObject] at isOutcome isOther
      exact isOutcome.trans isOther.symm
  | some obj =>
      rw [isObject] at isOutcome isOther
      obtain ⟨urlInfo, message, parsed, hasOutcome⟩ := isOutcome
      obtain ⟨_, _, isParsed, hasOther⟩ := isOther
      cases parsed.symm.trans isParsed
      exact hasOutcome.unique hasOther

/-- How a block ends that does not come to an outcome. -/
inductive WithoutOutcome (updater : Updater) (json : JsonNode) (key : String)
    (calls : ComponentCalls) (verdict : UrlInfo → CanonicalPath → Decision)
    (block : Updating Bool) (run : UpdateRun) : Prop
  | undefined {after : UpdateRun} : block run = .error .undefined after →
      updater.ReturnsAt json key calls verdict →
      WithoutOutcome updater json key calls verdict block run
  | throws {what : List Char} {after : UpdateRun} :
      block run = .error (.exception what) after → AfterThrow run after →
      ¬updater.ReturnsAt json key calls verdict →
      WithoutOutcome updater json key calls verdict block run

theorem withoutOutcome (decides : Decides canUpdate verdict)
    (component : Component) (success : Bool) (run : UpdateRun)
    (none : ∀ outcome, ¬updater.OutcomeAt json key calls verdict outcome) :
    WithoutOutcome updater json key calls verdict
      (updater.checkComponent json key component calls canUpdate succeeded success)
      run := by
  cases isObject : objectAt json key with
  | none =>
      apply absurd _ (none .absent)
      rw [OutcomeAt, isObject]
  | some obj =>
      cases parsed : updater.parseUrls obj with
      | throws => exact absurd parsed parseUrls_ne_throws
      | undefined =>
          apply WithoutOutcome.undefined
          · rw [checkComponent, isObject]
            exact updateComponent_of_undefined parsed
          · intro other urlInfo message isOther isParsed
            rw [isObject] at isOther
            cases isOther
            rw [parsed] at isParsed
            cases isParsed
      | value result =>
          obtain ⟨urlInfo, message⟩ := result
          have notReturning : ¬calls.ReturnsFor verdict urlInfo := by
            intro returns
            obtain ⟨outcome, hasOutcome⟩ :=
              (ComponentCalls.returnsFor_iff message).mp returns
            apply none outcome
            rw [OutcomeAt, isObject]
            exact ⟨urlInfo, message, parsed, hasOutcome⟩
          obtain ⟨what, after, isThrown, isAfter⟩ : ∃ what after,
              updater.checkComponent json key component calls canUpdate succeeded
                success run = .error (.exception what) after ∧
              AfterThrow run after := by
            rw [checkComponent, isObject]
            exact updateComponent_of_not_returns decides parsed notReturning
          apply WithoutOutcome.throws isThrown isAfter
          intro returns
          exact notReturning (returns obj urlInfo message isObject parsed)

end RunLemmas

section Updates

variable {updater : Updater} {calls : UpdaterCalls} {json : JsonNode}
  {sdk scorbitd : ComponentOutcome}

theorem decides_sdk (updater : Updater) (calls : UpdaterCalls) :
    Decides
      (fun urlInfo path => updater.canUpdateSdk urlInfo path calls.programPath)
      (updater.sdkDecision calls) :=
  fun urlInfo path =>
    ⟨isTelling_sdkDecision updater calls urlInfo path,
      canUpdateSdk_eq updater calls urlInfo path⟩

theorem decides_scorbitd (updater : Updater) :
    Decides updater.canUpdateScorbitd updater.scorbitdDecision :=
  fun urlInfo path =>
    ⟨isTelling_scorbitdDecision updater urlInfo path, allHold_eq _⟩

theorem pushesOnly_nothing : PushesOnly fun _ _ => pure () :=
  fun _ _ run => ⟨run.events, rfl⟩

theorem pushesOnly_pushUpdated (calls : UpdaterCalls) :
    PushesOnly (pushUpdated calls) := by
  intro urlInfo path run
  unfold pushUpdated
  cases calls.hasEventManager with
  | true => exact ⟨_, rfl⟩
  | false => exact ⟨run.events, rfl⟩

/-- The state in which a call begins. -/
def started (inProgress : Bool) (feedback : List Char) : UpdateRun where
  m_updateInProgress := inProgress
  m_feedback := feedback

/-- The state when both blocks have come to an outcome. -/
structure AfterBoth (sdk scorbitd : ComponentOutcome) (after : UpdateRun) :
    Prop where
  inProgress : after.m_updateInProgress = true
  updateConfigs : after.updateConfigs = []
  restored : Restored after.mounts
  logs : ∃ first second, after.logs = first ++ second ∧
    (first ≠ [] ↔ sdk.Tells) ∧
    (second ≠ [] ↔ scorbitd.Logs (sdk.success false)) ∧
    (∀ part ∈ first, part.component = .sdk) ∧
    ∀ part ∈ second, part.component = .scorbitd

theorem ComponentOutcome.logs_false (outcome : ComponentOutcome) :
    outcome.Logs false ↔ outcome.Tells := by
  cases outcome <;> simp [Logs, Tells]

theorem ComponentOutcome.success_false (outcome : ComponentOutcome) :
    outcome.success false = true ↔ outcome = succeeded := by
  cases outcome <;> simp [success]

/-- The logs are written exactly if one of the components has something to tell. -/
theorem AfterBoth.logs_ne_nil_iff {after : UpdateRun}
    (isAfter : AfterBoth sdk scorbitd after) :
    after.logs ≠ [] ↔ sdk.Tells ∨ scorbitd.Tells := by
  obtain ⟨first, second, isLogs, isFirst, isSecond, _⟩ := isAfter.logs
  rw [isLogs, ne_eq, List.append_eq_nil_iff, not_and_or, ← ne_eq, ← ne_eq, isFirst,
    isSecond]
  cases sdk <;> cases scorbitd <;>
    simp [ComponentOutcome.Logs, ComponentOutcome.Tells, ComponentOutcome.success]

/-- What is left of the call when the first block begins. -/
def sdkStarted : UpdateRun where
  m_updateInProgress := true

theorem checkNewVersionAndUpdate_started (updater : Updater) (calls : UpdaterCalls)
    (json : JsonNode) (feedback : List Char) :
    updater.checkNewVersionAndUpdate calls json (started false feedback) =
      (updater.checkSdk calls json >>= fun success =>
        clearFeedback >>= fun _ =>
          updater.checkScorbitd calls json success >>= fun success =>
            updater.report calls success >>= fun _ => setInProgress false)
        sdkStarted :=
  rfl

theorem run_of_sdkOutcome (isSdk : updater.SdkOutcome calls json sdk)
    (feedback : List Char) :
    ∃ after, AfterComponent .sdk sdk false sdkStarted after ∧
      updater.checkNewVersionAndUpdate calls json (started false feedback) =
        (updater.checkScorbitd calls json (sdk.success false) >>= fun success =>
          updater.report calls success >>= fun _ => setInProgress false)
          { after with m_feedback := [] } := by
  obtain ⟨after, isRun, isAfter⟩ : ∃ after,
      updater.checkSdk calls json sdkStarted = .ok (sdk.success false) after ∧
        AfterComponent .sdk sdk false sdkStarted after :=
    checkComponent_of_outcome (decides_sdk updater calls) pushesOnly_nothing rfl isSdk
  refine ⟨after, isAfter, ?_⟩
  rw [checkNewVersionAndUpdate_started]
  exact bind_of_ok isRun

/-- A call in which both blocks come to an outcome. -/
theorem run_of_outcomes (isSdk : updater.SdkOutcome calls json sdk)
    (isScorbitd : updater.ScorbitdOutcome calls json scorbitd)
    (feedback : List Char) :
    ∃ after, AfterBoth sdk scorbitd after ∧
      updater.checkNewVersionAndUpdate calls json (started false feedback) =
        (updater.report calls (scorbitd.success (sdk.success false)) >>= fun _ =>
          setInProgress false) after := by
  obtain ⟨afterSdk, isAfterSdk, isRun⟩ := run_of_sdkOutcome isSdk feedback
  obtain ⟨after, isScorbitdRun, isAfter⟩ : ∃ after,
      updater.checkScorbitd calls json (sdk.success false)
        { afterSdk with m_feedback := [] } =
          .ok (scorbitd.success (sdk.success false)) after ∧
        AfterComponent .scorbitd scorbitd (sdk.success false)
          { afterSdk with m_feedback := [] } after :=
    checkComponent_of_outcome (decides_scorbitd updater)
      (pushesOnly_pushUpdated calls) rfl isScorbitd
  refine ⟨after, ?_, isRun.trans (bind_of_ok isScorbitdRun)⟩
  obtain ⟨first, isFirst, firstLogs, ofSdk⟩ := isAfterSdk.logs
  obtain ⟨second, isSecond, secondLogs, ofScorbitd⟩ := isAfter.logs
  obtain ⟨added, isAdded, addedRestored⟩ := isAfterSdk.mounts
  obtain ⟨more, isMore, moreRestored⟩ := isAfter.mounts
  constructor
  · exact isAfter.inProgress.trans isAfterSdk.inProgress
  · exact isAfter.updateConfigs.trans isAfterSdk.updateConfigs
  · rw [isMore]
    dsimp only
    rw [isAdded]
    exact (restored_nil.append addedRestored).append moreRestored
  · refine ⟨first, second, ?_, ?_, secondLogs, ofSdk, ofScorbitd⟩
    · rw [isSecond]
      dsimp only
      rw [isFirst]
      rfl
    · rw [firstLogs, ComponentOutcome.logs_false]

/-- No call that is reached for either component throws. -/
structure CallsReturn (updater : Updater) (calls : UpdaterCalls) (json : JsonNode) :
    Prop where
  sdk : updater.ReturnsAt json "sdk" calls.sdk (updater.sdkDecision calls)
  scorbitd : ∀ outcome, updater.SdkOutcome calls json outcome →
    updater.ReturnsAt json "scorbitd" calls.scorbitd updater.scorbitdDecision

/-- How a call ends that begins with no update in progress. -/
inductive CallEnds (updater : Updater) (calls : UpdaterCalls) (json : JsonNode)
    (feedback : List Char) : Prop
  | undefined {after : UpdateRun} :
      updater.checkNewVersionAndUpdate calls json (started false feedback) =
        .error .undefined after →
      updater.CallsReturn calls json →
      (∀ sdk scorbitd, updater.SdkOutcome calls json sdk →
        ¬updater.ScorbitdOutcome calls json scorbitd) →
      CallEnds updater calls json feedback
  | throws {what : List Char} {after : UpdateRun} :
      updater.checkNewVersionAndUpdate calls json (started false feedback) =
        .error (.exception what) after →
      AfterThrow sdkStarted after → ¬updater.CallsReturn calls json →
      CallEnds updater calls json feedback
  | outcomes {sdk scorbitd : ComponentOutcome} {after : UpdateRun} :
      updater.SdkOutcome calls json sdk →
      updater.ScorbitdOutcome calls json scorbitd →
      updater.checkNewVersionAndUpdate calls json (started false feedback) =
        (updater.report calls (scorbitd.success (sdk.success false)) >>= fun _ =>
          setInProgress false) after →
      AfterBoth sdk scorbitd after → CallEnds updater calls json feedback

theorem callsReturn_of_outcomes (isSdk : updater.SdkOutcome calls json sdk)
    (isScorbitd : updater.ScorbitdOutcome calls json scorbitd) :
    updater.CallsReturn calls json :=
  ⟨returnsAt_of_outcome isSdk, fun _ _ => returnsAt_of_outcome isScorbitd⟩

theorem callEnds (updater : Updater) (calls : UpdaterCalls) (json : JsonNode)
    (feedback : List Char) : updater.CallEnds calls json feedback := by
  by_cases someSdk : ∃ sdk, updater.SdkOutcome calls json sdk
  · obtain ⟨sdk, isSdk⟩ := someSdk
    by_cases someScorbitd : ∃ scorbitd, updater.ScorbitdOutcome calls json scorbitd
    · obtain ⟨scorbitd, isScorbitd⟩ := someScorbitd
      obtain ⟨after, isAfter, isRun⟩ := run_of_outcomes isSdk isScorbitd feedback
      exact .outcomes isSdk isScorbitd isRun isAfter
    · rw [not_exists] at someScorbitd
      obtain ⟨afterSdk, isAfterSdk, isRun⟩ := run_of_sdkOutcome isSdk feedback
      have block : WithoutOutcome updater json "scorbitd" calls.scorbitd
          updater.scorbitdDecision
          (updater.checkScorbitd calls json (sdk.success false))
          { afterSdk with m_feedback := [] } :=
        withoutOutcome (decides_scorbitd updater) .scorbitd _ _ someScorbitd
      cases block with
      | undefined isUndefined returns =>
          exact .undefined (isRun.trans (bind_of_error isUndefined))
            ⟨returnsAt_of_outcome isSdk, fun _ _ => returns⟩
            fun _ other _ => someScorbitd other
      | throws isThrown isAfter notReturning =>
          exact .throws (isRun.trans (bind_of_error isThrown))
            ⟨isAfter.inProgress.trans isAfterSdk.inProgress,
              isAfter.updateConfigs.trans isAfterSdk.updateConfigs⟩
            fun returns => notReturning (returns.scorbitd sdk isSdk)
  · rw [not_exists] at someSdk
    have block : WithoutOutcome updater json "sdk" calls.sdk
        (updater.sdkDecision calls) (updater.checkSdk calls json) sdkStarted :=
      withoutOutcome (decides_sdk updater calls) .sdk false sdkStarted someSdk
    have isRun := updater.checkNewVersionAndUpdate_started calls json feedback
    cases block with
    | undefined isUndefined returns =>
        exact .undefined (isRun.trans (bind_of_error isUndefined))
          ⟨returns, fun sdk isSdk => absurd isSdk (someSdk sdk)⟩
          fun sdk _ isSdk => absurd isSdk (someSdk sdk)
    | throws isThrown isAfter notReturning =>
        exact .throws (isRun.trans (bind_of_error isThrown)) isAfter
          fun returns => notReturning returns.sdk

theorem exits_of_error {program : Updating Unit} {property : UpdateRun → Prop}
    {what : List Char} {start after : UpdateRun}
    (throws : program start = .error (.exception what) after) :
    Exits program (fun _ => property) property start ↔ property after := by
  unfold Exits
  rw [throws]

theorem exits_of_undefined {program : Updating Unit} {property : UpdateRun → Prop}
    {start after : UpdateRun} (undefined : program start = .error .undefined after) :
    Exits program (fun _ => property) property start := by
  unfold Exits
  rw [undefined]
  trivial

/-- The end of a call, from where the logs are sent. -/
theorem exits_report {property : UpdateRun → Prop} {start after : UpdateRun}
    {program : Updating Unit} {success : Bool}
    (isRun : program start =
      (updater.report calls success >>= fun _ => setInProgress false) after) :
    Exits program (fun _ => property) property start ↔
      if after.logs = [] then property { after with m_updateInProgress := false }
      else
        match calls.updateConfig with
        | .ok _ => property { after with
            m_updateInProgress := false
            updateConfigs := after.updateConfigs ++
              [⟨"sdk".toList, updater.sdkVersion, success, after.logs⟩] }
        | .error _ => property { after with
            updateConfigs := after.updateConfigs ++
              [⟨"sdk".toList, updater.sdkVersion, success, after.logs⟩] } := by
  unfold Exits
  rw [isRun]
  by_cases isEmpty : after.logs = []
  · rw [if_pos isEmpty]
    have nothing : updater.report calls success after = .ok () after := by
      change (if after.logs ≠ [] then _ else _ : Updating Unit) after = _
      rw [if_neg (absurd isEmpty)]
      rfl
    rw [bind_of_ok nothing]
    exact Iff.rfl
  · rw [if_neg isEmpty]
    have isReport : updater.report calls success after =
        call calls.updateConfig { after with
          updateConfigs := after.updateConfigs ++
            [⟨"sdk".toList, updater.sdkVersion, success, after.logs⟩] } := by
      change (if after.logs ≠ [] then _ else _ : Updating Unit) after = _
      rw [if_pos isEmpty]
      rfl
    rcases returns_or_throws calls.updateConfig with ⟨_, isOk⟩ | ⟨what, isError⟩
    · rw [bind_of_ok (isReport.trans (call_of_ok isOk _)), isOk]
      exact Iff.rfl
    · rw [bind_of_error (isReport.trans (call_of_error isError _)), isError]

end Updates

end Updater

end ScorbitSdk
