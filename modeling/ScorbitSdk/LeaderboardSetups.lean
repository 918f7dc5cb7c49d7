import ScorbitSdk.PairedContext
import ScorbitSdk.TopScores

/-!
# URLs of leaderboards

A request for top scores is set up anew for each attempt to send it.  The URL of
a variant or of a game is formatted with an optional that the readiness check
has seen once, before the first attempt.  Between that check and a set-up, the
signals and the replies to other requests change what is known of the machine.
-/

namespace ScorbitSdk

/-- The endpoint of a URL with the value that it is formatted with. -/
inductive LeadersEndpoint
  | machine (machineUuid : String)
  | variant (variantUuid : String)
  | game (gameSlug : String)
deriving DecidableEq

namespace TopScoresRequest

/-- The optional that `deferredSetup` dereferences. -/
def dereferenced (request : TopScoresRequest) : Option ContextField :=
  match request.scope with
  | .variant => some .variantUuid
  | .game => some .gameSlug
  | .machine => none
  | .other _ => none

def parameters (request : TopScoresRequest) : List (String × String) :=
  let periodParam :=
    if request.since = "" then (leaderboardPeriodParam request.period).getD ""
    else ""
  (if request.since ≠ "" then [("since", request.since)]
    else if periodParam ≠ "" then [("period", periodParam)]
    else []) ++
  match request.vpinFilter with
  | .vpinOnly => [("vpin", "true")]
  | .realOnly => [("vpin", "false")]
  | .any => []
  | .other _ => []

/-- Nothing where an optional is dereferenced that holds no value. -/
def deferredSetup (request : TopScoresRequest) (machineInfo : MachineInfo) :
    Option (LeadersEndpoint × List (String × String)) :=
  match request.scope with
  | .machine => some (.machine machineInfo.machineUuid, request.parameters)
  | .variant =>
      machineInfo.variantUuid.map fun variantUuid =>
        (.variant variantUuid, request.parameters)
  | .game =>
      machineInfo.gameSlug.map fun gameSlug =>
        (.game gameSlug, request.parameters)
  | .other _ => some (.machine machineInfo.machineUuid, request.parameters)

end TopScoresRequest

/-- How far the closure on the strand is. -/
inductive SetupStage
  | starting
  | checkingContext
  | deferring
  | waiting (attempt : Nat)
  /-- It runs `deferredSetup` next. -/
  | settingUp (attempt : Nat)
  | checking (attempt : Nat)
  | refused
  | sent (attempt : Nat)
  | unauthorized (attempt : Nat)
deriving DecidableEq

structure LeaderboardSetups where
  context : PairedContext := {}
  calls : Nat := 0
  queue : List TopScoresRequest := []
  running : Option (TopScoresRequest × SetupStage) := none
  leaderboardDeferred : Option TopScoresRequest := none
  expired : List TopScoresRequest := []
  answers : List (Nat × Error) := []

inductive LeaderboardAction
  /-- A signal, a reply or another step of what is known of the machine. -/
  | context (action : ContextAction)
  | requestTopScores (scope : LeaderboardScope) (period : LeaderboardPeriod)
      (since : String) (vpinFilter : LeaderboardVpinFilter)
  | startClosure
  | runClosure (reply : TopScoresReply)
  | timerExpires
  | runExpired (index : Nat)
  | stopAllTimers

namespace LeaderboardSetups

def answer (state : LeaderboardSetups) (request : TopScoresRequest)
    (error : Error) : LeaderboardSetups :=
  { state with
    running := none
    answers := state.answers ++ [(request.callback, error)] }

def goTo (state : LeaderboardSetups) (request : TopScoresRequest)
    (stage : SetupStage) : LeaderboardSetups :=
  { state with running := some (request, stage) }

def nextAttempt (state : LeaderboardSetups) (request : TopScoresRequest)
    (attempt : Nat) : LeaderboardSetups :=
  if attempt + 1 < numRetries then
    state.goTo request (.waiting (attempt + 1))
  else state.answer request .apiError

def isReady (state : LeaderboardSetups) (request : TopScoresRequest) : Bool :=
  isLeaderboardContextReady state.context.status request.scope
    state.context.machineInfo.machineUuid state.context.machineInfo.variantUuid
    state.context.machineInfo.gameSlug

def checkAllowedStatuses (state : LeaderboardSetups) : Bool :=
  state.context.status ∈ HttpRequest.requestTopScores.allowedStatuses

def canGoOn (state : LeaderboardSetups) : Bool :=
  state.context.status = .authenticatedPaired ||
    state.context.status = .authenticatedUnpaired ||
    state.context.status = .authenticationFailed || state.context.stop ||
    state.checkAllowedStatuses

/-- The next step of the closure, or none while it waits. -/
def runStage (state : LeaderboardSetups) (reply : TopScoresReply)
    (request : TopScoresRequest) : SetupStage → Option LeaderboardSetups
  | .starting =>
      some (if !request.hasValidScope then state.answer request .apiError
      else if !request.hasValidPeriod then state.answer request .apiError
      else if !request.hasValidVpinFilter then
        state.answer request .apiError
      else
        match leaderboardRequestTerminalError state.context.status with
        | some terminalError => state.answer request terminalError
        | none => state.goTo request .checkingContext)
  | .checkingContext =>
      some (if state.isReady request then state.goTo request (.waiting 0)
      else if topScoresDeferMaxAttempts ≤ request.deferAttempt then
        state.answer request .apiError
      else state.goTo request .deferring)
  | .deferring =>
      some { state with
        running := none, leaderboardDeferred := some request }
  | .waiting attempt =>
      if state.canGoOn ∧ state.context.authenticating = false then
        some (state.goTo request (.settingUp attempt))
      else none
  | .settingUp attempt => some (state.goTo request (.checking attempt))
  | .checking attempt =>
      some (if state.checkAllowedStatuses then
        state.goTo request (.sent attempt)
      else state.goTo request .refused)
  | .refused =>
      some (state.answer request
        (if state.context.status = .authenticationFailed then .authFailed
        else .notPaired))
  | .sent attempt =>
      some <| match reply with
        | .ok isLeaderboard =>
            state.answer request
              (if isLeaderboard then .success else .apiError)
        | .noResponse => state.nextAttempt request attempt
        | .unauthorized => state.goTo request (.unauthorized attempt)
        | .failed => state.answer request .apiError
  | .unauthorized attempt =>
      if state.context.authenticating then none
      else
        some (if state.context.status = .notAuthenticated ∨
            state.context.status = .authenticating ∨
            state.context.status = .authenticationFailed then
          state.nextAttempt request attempt
        else
          { state with context := { state.context with
            status := .notAuthenticated } }.nextAttempt request attempt)

def step (state : LeaderboardSetups) :
    LeaderboardAction → Option LeaderboardSetups
  | .context action =>
      (state.context.step action).map fun context => { state with context }
  | .requestTopScores scope period since vpinFilter =>
      some { state with
        calls := state.calls + 1
        queue := state.queue ++
          [{ scope, period, since, vpinFilter, callback := state.calls }] }
  | .startClosure =>
      match state.running, state.queue with
      | none, request :: queue =>
          some { state with
            queue := queue, running := some (request, .starting) }
      | _, _ => none
  | .runClosure reply =>
      state.running.bind fun (request, stage) =>
        state.runStage reply request stage
  | .timerExpires =>
      state.leaderboardDeferred.map fun request =>
        { state with
          leaderboardDeferred := none
          expired := state.expired ++ [request] }
  | .runExpired index =>
      state.expired[index]?.map fun request =>
        { state with
          expired := state.expired.eraseIdx index
          queue := state.queue ++
            [{ request with deferAttempt := request.deferAttempt + 1 }] }
  | .stopAllTimers =>
      if state.context.stop then some { state with leaderboardDeferred := none }
      else none

/-- A step that sets a request up dereferences an optional that holds a value. -/
def SetsUpSafely (state : LeaderboardSetups) : LeaderboardAction → Prop
  | .runClosure _ => ∀ request attempt,
      state.running = some (request, .settingUp attempt) →
        (request.deferredSetup state.context.machineInfo).isSome = true
  | _ => True

end LeaderboardSetups

/-! ## What the other steps do to the optionals -/

/-- The fields that are optionals of the machine's data. -/
def ContextField.IsOptional (field : ContextField) : Prop :=
  field = .variantUuid ∨ field = .gameSlug

namespace ContextBody

/-- The callback of a request stores a value. -/
def Stores (body : ContextBody) (field : ContextField) : ContextRequest → Prop
  | .getConfig =>
      field = .variantUuid ∧ body.config.variantUuid.isSome = true
  | .requestMachineObject =>
      field = .gameSlug ∧ ∃ slug, body.gameSlug = some (some slug)
  | _ => False

/-- The callback of a request resets an optional: a machine object without a slug
that of the game, a scorbitron object without a machine both. -/
def Clears (body : ContextBody) (field : ContextField) : ContextRequest → Prop
  | .getConfig => False
  | .requestMachineObject => field = .gameSlug ∧ body.gameSlug = some none
  | _ => ∃ object, body.object = some object ∧ object.isPaired = false

end ContextBody

namespace PairedContext

def Stores (state : PairedContext) (field : ContextField) :
    ContextAction → Prop
  | .reply index (.ok body) => ∃ request attempt sentDuring,
      state.tasks[index]? = some (.sent request attempt sentDuring) ∧
        body.Stores field request
  | _ => False

def Clears (state : PairedContext) (field : ContextField) :
    ContextAction → Prop
  | .unpaired => True
  | .reply index (.ok body) => ∃ request attempt sentDuring,
      state.tasks[index]? = some (.sent request attempt sentDuring) ∧
        body.Clears field request
  | _ => False

variable {state next : PairedContext} {field : ContextField}

theorem isEmpty_congr (isOptional : field.IsOptional)
    (same : next.machineInfo = state.machineInfo) :
    next.isEmpty field = state.isEmpty field := by
  rcases isOptional with rfl | rfl
  · simp only [isEmpty, same]
  · simp only [isEmpty, same]

theorem isEmpty_storeMachine_optional (state : PairedContext)
    (sentDuring : Option Nat) (machineUuid : Option String)
    (isOptional : field.IsOptional) :
    (state.storeMachine sentDuring machineUuid).isEmpty field =
      state.isEmpty field := by
  cases machineUuid with
  | none => rfl
  | some machineUuid =>
      rcases isOptional with rfl | rfl
      · rfl
      · rfl

theorem isEmpty_clearPairedMachineContext (state : PairedContext)
    (isOptional : field.IsOptional) :
    state.clearPairedMachineContext.isEmpty field = true := by
  rcases isOptional with rfl | rfl
  · rfl
  · rfl

/-- A scorbitron object without a machine resets both optionals, and no other
one does anything to them. -/
theorem isEmpty_parseScorbitronObject {sentDuring : Option Nat}
    {object : Option MachineObject} (isOptional : field.IsOptional) :
    (state.parseScorbitronObject sentDuring object).isEmpty field = false ↔
      state.isEmpty field = false ∧
        ¬∃ found, object = some found ∧ found.isPaired = false := by
  cases object with
  | none => simp [parseScorbitronObject]
  | some object =>
      simp only [parseScorbitronObject, Option.some.injEq, exists_eq_left']
      cases isPaired : object.isPaired with
      | true =>
          have same := isEmpty_storeMachine_optional state sentDuring
            object.machineUuid isOptional
          simp only [if_true, Bool.true_eq_false, not_false_eq_true, and_true]
          rw [← same]
          rcases isOptional with rfl | rfl
          · exact Iff.rfl
          · exact Iff.rfl
      | false =>
          have cleared := isEmpty_clearPairedMachineContext state isOptional
          simp only [Bool.false_eq_true, if_false, not_true_eq_false, and_false,
            iff_false, Bool.not_eq_false]
          split
          · exact cleared
          · rw [← cleared]
            exact isEmpty_congr isOptional rfl

/-- What the callback of a request that succeeds does to an optional. -/
theorem isEmpty_succeed {sentDuring : Option Nat} {body : ContextBody}
    (request : ContextRequest) (isOptional : field.IsOptional) :
    (state.succeed sentDuring body request).isEmpty field = false ↔
      body.Stores field request ∨
        state.isEmpty field = false ∧ ¬body.Clears field request := by
  have parsed := @isEmpty_parseScorbitronObject state field sentDuring
    body.object isOptional
  cases request with
  | getConfig =>
      obtain ⟨_, ⟨variantUuid, _, _⟩, _⟩ := body
      rcases isOptional with rfl | rfl
      · cases variantUuid <;>
          simp [succeed, storeConfig, isEmpty, ContextBody.Stores,
            ContextBody.Clears]
      · simp [succeed, storeConfig, isEmpty, ContextBody.Stores,
          ContextBody.Clears]
  | requestMachineObject =>
      obtain ⟨_, _, gameSlug⟩ := body
      rcases isOptional with rfl | rfl
      · have same : (state.storeGameSlug sentDuring gameSlug).isEmpty
            .variantUuid = state.isEmpty .variantUuid := by
          cases gameSlug <;> rfl
        simp [succeed, same, ContextBody.Stores, ContextBody.Clears]
      · rcases gameSlug with _ | _ | slug
        · simp [succeed, storeGameSlug, ContextBody.Stores, ContextBody.Clears]
        · simp [succeed, storeGameSlug, isEmpty, ContextBody.Stores,
            ContextBody.Clears]
        · simp [succeed, storeGameSlug, isEmpty, ContextBody.Stores,
            ContextBody.Clears]
  | requestUnpair =>
      have same : (state.succeed sentDuring body .requestUnpair).isEmpty field =
          (state.parseScorbitronObject sentDuring body.object).isEmpty field :=
        isEmpty_congr isOptional rfl
      rw [same, parsed]
      exact (false_or _).symm.to_iff
  | requestPairMachine machineUuid =>
      rw [succeed, isEmpty_pairedWith, parsed]
      exact (false_or _).symm.to_iff
  | _ => exact parsed.trans (false_or _).symm.to_iff

theorem machineInfo_replied {index : Nat} {request : ContextRequest}
    {attempt : Nat} {sentDuring : Option Nat} {reply : ContextReply}
    (taken : state.replied index request attempt sentDuring reply = some next)
    (notOk : ∀ body, reply ≠ .ok body) :
    next.machineInfo = state.machineInfo := by
  cases reply with
  | ok body => exact absurd rfl (notOk body)
  | noResponse =>
      cases taken
      rfl
  | unauthorized =>
      simp only [replied, Option.ite_none_left_eq_some] at taken
      obtain ⟨_, taken⟩ := taken
      split at taken
      · cases taken
        rfl
      · cases taken
        rfl
  | failed =>
      cases taken
      rfl

/-- Signals other than that the machine is unpaired, and requests on their way,
leave what is known of the machine as it is. -/
theorem machineInfo_step {action : ContextAction}
    (taken : state.step action = some next)
    (notOk : ∀ index body, action ≠ .reply index (.ok body))
    (notUnpaired : action ≠ .unpaired) :
    next.machineInfo = state.machineInfo := by
  cases action with
  | call request =>
      cases taken
      rfl
  | paired =>
      simp only [step, Option.ite_none_left_eq_some, Option.some.injEq] at taken
      obtain ⟨_, rfl⟩ := taken
      rfl
  | unpaired => exact absurd rfl notUnpaired
  | authenticate =>
      simp only [step, Option.ite_none_left_eq_some, Option.some.injEq] at taken
      obtain ⟨_, rfl⟩ := taken
      rfl
  | authenticated hasToken =>
      simp only [step, Option.ite_none_right_eq_some, Option.some.injEq] at taken
      obtain ⟨_, rfl⟩ := taken
      rfl
  | refreshFails =>
      cases taken
      rfl
  | destroy =>
      cases taken
      rfl
  | goOn index =>
      simp only [step] at taken
      split at taken
      · rw [Option.ite_none_right_eq_some, Option.some.injEq] at taken
        obtain ⟨_, rfl⟩ := taken
        rfl
      · cases taken
  | check index =>
      simp only [step] at taken
      split at taken <;> cases taken
      rfl
  | send index =>
      simp only [step] at taken
      split at taken <;> cases taken
      rfl
  | reply index reply =>
      simp only [step] at taken
      split at taken
      · apply machineInfo_replied taken
        rintro body rfl
        exact notOk index body rfl
      · cases taken
  | refuse index =>
      simp only [step] at taken
      split at taken <;> cases taken
      simp only [refuse]
      split
      · rfl
      · rfl

/-- What a step does to an optional. -/
theorem isEmpty_step {action : ContextAction} (isOptional : field.IsOptional)
    (taken : state.step action = some next) :
    next.isEmpty field = false ↔ state.Stores field action ∨
      state.isEmpty field = false ∧ ¬state.Clears field action := by
  by_cases isOk : ∃ index body, action = .reply index (.ok body)
  · obtain ⟨index, body, rfl⟩ := isOk
    simp only [step] at taken
    split at taken
    · next request attempt sentDuring isSent =>
      cases taken
      have same := @isEmpty_congr (state.succeed sentDuring body request)
        ((state.succeed sentDuring body request).setTask index .done) field
        isOptional rfl
      rw [same, isEmpty_succeed request isOptional]
      simp [Stores, Clears, isSent]
    · cases taken
  · by_cases isUnpaired : action = .unpaired
    · subst isUnpaired
      simp only [step, Option.ite_none_left_eq_some, Option.some.injEq] at taken
      obtain ⟨_, rfl⟩ := taken
      have cleared :=
        isEmpty_clearPairedMachineContext state.setUnpaired isOptional
      simp [onUnpaired, cleared, Stores, Clears]
    · have same := machineInfo_step taken
        (fun index body isReply => isOk ⟨index, body, isReply⟩) isUnpaired
      rw [isEmpty_congr isOptional same]
      have neither : ¬state.Stores field action ∧ ¬state.Clears field action := by
        cases action with
        | unpaired => exact absurd rfl isUnpaired
        | reply index reply =>
            cases reply with
            | ok body => exact absurd ⟨index, body, rfl⟩ isOk
            | _ => exact ⟨id, id⟩
        | _ => exact ⟨id, id⟩
      simp [neither.1, neither.2]

end PairedContext

/-! ## When set-ups are safe -/

namespace LeaderboardSetups

/-- A readiness check finds the optional, or a reply stores it. -/
def Finds (field : ContextField) (state : LeaderboardSetups) :
    LeaderboardAction → Prop
  | .context action => state.context.Stores field action
  | .runClosure _ => ∃ request,
      state.running = some (request, .checkingContext) ∧
        request.dereferenced = some field ∧ state.isReady request = true
  | _ => False

def Resets (field : ContextField) (state : LeaderboardSetups) :
    LeaderboardAction → Prop
  | .context action => state.context.Clears field action
  | _ => False

/-- The optional has been found or stored, and has not been reset since. -/
def KeptSince (field : ContextField) (actions : List LeaderboardAction) : Prop :=
  ∃ before action after state next,
    actions = before ++ action :: after ∧
      Transition.run step {} before = some state ∧ state.Finds field action ∧
      state.step action = some next ∧
      Transition.HoldsAlong step
        (fun state action => ¬state.Resets field action) next after

variable {state next : LeaderboardSetups} {field : ContextField}
  {request : TopScoresRequest}

theorem isOptional_of_dereferenced
    (dereferenced : request.dereferenced = some field) : field.IsOptional := by
  unfold TopScoresRequest.dereferenced at dereferenced
  split at dereferenced <;> cases dereferenced
  · exact .inl rfl
  · exact .inr rfl

/-- A set-up needs the optional of its scope, if there is one. -/
theorem isSome_deferredSetup_iff :
    (request.deferredSetup state.context.machineInfo).isSome = true ↔
      ∀ field, request.dereferenced = some field →
        state.context.isEmpty field = false := by
  unfold TopScoresRequest.deferredSetup TopScoresRequest.dereferenced
  cases request.scope with
  | machine => simp
  | variant =>
      cases isValue : state.context.machineInfo.variantUuid <;>
        simp [PairedContext.isEmpty, isValue]
  | game =>
      cases isValue : state.context.machineInfo.gameSlug <;>
        simp [PairedContext.isEmpty, isValue]
  | other value => simp

/-- Where a request is found ready, its optional holds a value. -/
theorem notEmpty_of_isReady (ready : state.isReady request = true)
    (dereferenced : request.dereferenced = some field) :
    state.context.isEmpty field = false := by
  unfold isReady isLeaderboardContextReady at ready
  unfold TopScoresRequest.dereferenced at dereferenced
  cases scope : request.scope with
  | machine => simp [scope] at dereferenced
  | variant =>
      simp only [scope, Option.some.injEq] at dereferenced
      subst dereferenced
      split at ready
      · cases ready
      · simpa [scope, PairedContext.isEmpty, Option.isSome_iff_ne_none] using ready
  | game =>
      simp only [scope, Option.some.injEq] at dereferenced
      subst dereferenced
      split at ready
      · cases ready
      · simpa [scope, PairedContext.isEmpty, Option.isSome_iff_ne_none] using ready
  | other value => simp [scope] at dereferenced

theorem context_nextAttempt (state : LeaderboardSetups)
    (request : TopScoresRequest) (attempt : Nat) :
    (state.nextAttempt request attempt).context = state.context := by
  unfold nextAttempt
  split
  · rfl
  · rfl

/-- The closure changes nothing that is known of the machine. -/
theorem machineInfo_runStage {reply : TopScoresReply} {stage : SetupStage}
    (taken : state.runStage reply request stage = some next) :
    next.context.machineInfo = state.context.machineInfo := by
  cases stage with
  | starting =>
      simp only [runStage, Option.some.injEq] at taken
      subst taken
      split
      · rfl
      · split
        · rfl
        · split
          · rfl
          · split <;> rfl
  | checkingContext =>
      simp only [runStage, Option.some.injEq] at taken
      subst taken
      split
      · rfl
      · split <;> rfl
  | deferring =>
      cases taken
      rfl
  | waiting attempt =>
      simp only [runStage, Option.ite_none_right_eq_some, Option.some.injEq]
        at taken
      obtain ⟨_, rfl⟩ := taken
      rfl
  | settingUp attempt =>
      cases taken
      rfl
  | checking attempt =>
      simp only [runStage, Option.some.injEq] at taken
      subst taken
      split <;> rfl
  | refused =>
      cases taken
      rfl
  | sent attempt =>
      simp only [runStage, Option.some.injEq] at taken
      subst taken
      cases reply with
      | noResponse => exact congrArg _ (context_nextAttempt state request attempt)
      | _ => rfl
  | unauthorized attempt =>
      simp only [runStage, Option.ite_none_left_eq_some, Option.some.injEq]
        at taken
      obtain ⟨_, rfl⟩ := taken
      split
      · rw [context_nextAttempt]
      · rw [context_nextAttempt]

/-- What a step does to an optional. -/
theorem isEmpty_step {action : LeaderboardAction}
    (isOptional : field.IsOptional) (taken : state.step action = some next) :
    next.context.isEmpty field = false ↔ state.Finds field action ∨
      state.context.isEmpty field = false ∧ ¬state.Resets field action := by
  have kept : next.context.machineInfo = state.context.machineInfo →
      ¬state.Resets field action →
      (state.Finds field action → state.context.isEmpty field = false) →
        (next.context.isEmpty field = false ↔ state.Finds field action ∨
          state.context.isEmpty field = false ∧ ¬state.Resets field action) := by
    intro same notReset found
    rw [PairedContext.isEmpty_congr isOptional same]
    constructor
    · exact fun holds => .inr ⟨holds, notReset⟩
    · rintro (finds | ⟨holds, _⟩)
      · exact found finds
      · exact holds
  cases action with
  | context action =>
      obtain ⟨context, contextTaken, rfl⟩ := Option.map_eq_some_iff.mp taken
      exact PairedContext.isEmpty_step isOptional contextTaken
  | runClosure reply =>
      obtain ⟨⟨request, stage⟩, running, stageTaken⟩ :=
        Option.bind_eq_some_iff.mp taken
      apply kept (machineInfo_runStage stageTaken) id
      rintro ⟨checked, _, dereferenced, ready⟩
      exact notEmpty_of_isReady ready dereferenced
  | requestTopScores scope period since vpinFilter =>
      cases taken
      exact kept rfl id False.elim
  | startClosure =>
      simp only [step] at taken
      split at taken <;> cases taken
      exact kept rfl id False.elim
  | timerExpires =>
      obtain ⟨deferred, _, rfl⟩ := Option.map_eq_some_iff.mp taken
      exact kept rfl id False.elim
  | runExpired index =>
      obtain ⟨expired, _, rfl⟩ := Option.map_eq_some_iff.mp taken
      exact kept rfl id False.elim
  | stopAllTimers =>
      simp only [step, Option.ite_none_right_eq_some, Option.some.injEq] at taken
      obtain ⟨_, rfl⟩ := taken
      exact kept rfl id False.elim

/-- An optional holds a value exactly where it has been kept since it was found
or stored. -/
theorem notEmpty_iff_keptSince {actions : List LeaderboardAction}
    (isOptional : field.IsOptional)
    (reached : Transition.run step {} actions = some state) :
    state.context.isEmpty field = false ↔ KeptSince field actions := by
  have exact := @Transition.sinceStep_iff _ _ step
    (fun state => state.context.isEmpty field = false) (fun _ => True)
    (Finds field) (fun state action => ¬state.Resets field action)
    (fun _ _ _ _ _ => trivial)
    (fun _ _ _ _ taken => isEmpty_step isOptional taken) {} state actions trivial
    reached
  rw [exact]
  have initially : ({} : LeaderboardSetups).context.isEmpty field = true := by
    rcases isOptional with rfl | rfl <;> rfl
  simp [initially, KeptSince]

/-- Along which runs every set-up dereferences an optional that holds a value:
before each set-up the optional has been found by the readiness check, or stored
by a reply, and not been reset since. -/
theorem setsUpSafely_iff (actions : List LeaderboardAction) :
    Transition.HoldsAlong step SetsUpSafely {} actions ↔
      ∀ before reply after state request attempt field,
        actions = before ++ .runClosure reply :: after →
          Transition.run step {} before = some state →
            state.running = some (request, .settingUp attempt) →
              request.dereferenced = some field →
                KeptSince field before := by
  rw [Transition.holdsAlong_iff_reached]
  constructor
  · intro safe before reply after state request attempt field split reached
      running dereferenced
    have taken : state.step (.runClosure reply) =
        some (state.goTo request (.checking attempt)) := by
      simp [step, running, runStage]
    have isSome := safe before _ after state _ split reached taken request attempt
      running
    exact (notEmpty_iff_keptSince (isOptional_of_dereferenced dereferenced)
      reached).mp (isSome_deferredSetup_iff.mp isSome field dereferenced)
  · intro kept before action after state next split reached _
    cases action with
    | runClosure reply =>
        intro request attempt running
        apply isSome_deferredSetup_iff.mpr
        intro field dereferenced
        exact (notEmpty_iff_keptSince (isOptional_of_dereferenced dereferenced)
          reached).mpr (kept before reply after state request attempt field split
            reached running dereferenced)
    | _ => trivial

/-- The variant is known, and a request for its leaderboard is found ready. -/
def foundReady : List LeaderboardAction :=
  (PairedContext.configRequested ++
    [ContextAction.reply 1
      (.ok { config := { variantUuid := some "variant" } })]).map .context ++
    [.requestTopScores .variant .allTime "" .any, .startClosure,
      .runClosure .failed, .runClosure .failed]

/-- The machine is unpaired before the first attempt. -/
theorem not_setsUpSafely_unpaired :
    ¬Transition.HoldsAlong step SetsUpSafely {}
      (foundReady ++ [.context .unpaired, .runClosure .failed] ++
        [.runClosure .failed]) := by
  have evaluated : ((Transition.run step {} (foundReady ++
      [.context .unpaired, .runClosure .failed])).any fun state =>
        state.running.any fun closure =>
          closure.2 = .settingUp 0 &&
            (closure.1.deferredSetup state.context.machineInfo).isNone) =
              true := by
    decide +kernel
  obtain ⟨state, reached, isUnset⟩ := (Option.any_eq_true _ _).mp evaluated
  obtain ⟨⟨request, stage⟩, running, holds⟩ := (Option.any_eq_true _ _).mp isUnset
  obtain ⟨isSettingUp, isNone⟩ := (Bool.and_eq_true _ _).mp holds
  have isStage : stage = .settingUp 0 := of_decide_eq_true isSettingUp
  subst isStage
  intro along
  have taken : state.step (.runClosure .failed) =
      some (state.goTo request (.checking 0)) := by
    simp [step, running, runStage]
  have isSome := Transition.holdsAlong_iff_reached.mp along _ _ [] state _ rfl
    reached taken request 0 running
  rw [Option.isNone_iff_eq_none.mp isNone] at isSome
  cases isSome

end LeaderboardSetups

end ScorbitSdk
