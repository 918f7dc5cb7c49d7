import ScorbitSdk.WorkerTasks

/-!
# Requests for the top scores

The closure of a request runs on the strand of the queue.  Where what it needs
to know of the machine is not there yet, it hands itself to the timer and comes
back a second later, thirty times at most.  There is one such timer for all
requests, and arming it discards the handler that it held.

The status and what is known of the machine change at any time.
-/

namespace ScorbitSdk

/-- The enumerations come from integers of the caller. -/
inductive LeaderboardScope
  | machine
  | variant
  | game
  | other (value : Int)
  deriving DecidableEq

inductive LeaderboardPeriod
  | allTime
  | days14
  | days30
  | days90
  | days180
  | days365
  | other (value : Int)
  deriving DecidableEq

inductive LeaderboardVpinFilter
  | any
  | vpinOnly
  | realOnly
  | other (value : Int)
  deriving DecidableEq

def leaderboardPeriodParam : LeaderboardPeriod → Option String
  | .allTime => some ""
  | .days14 => some "14d"
  | .days30 => some "30d"
  | .days90 => some "90d"
  | .days180 => some "180d"
  | .days365 => some "365d"
  | .other _ => none

def leaderboardRequestTerminalError : AuthStatus → Option Error
  | .authenticationFailed => some .authFailed
  | .authenticatedUnpaired => some .notPaired
  | _ => none

def isLeaderboardContextReady (status : AuthStatus) (scope : LeaderboardScope)
    (machineUuid : String) (variantUuid gameSlug : Option String) : Bool :=
  if status ≠ .authenticatedPaired then false
  else
    match scope with
    | .machine => machineUuid ≠ ""
    | .variant => variantUuid.isSome
    | .game => gameSlug.isSome
    | .other _ => false

def topScoresDeferMaxAttempts : Nat := 30

/-- What the closure of `requestTopScoresImpl` captures; the callback is the
number of its call. -/
structure TopScoresRequest where
  scope : LeaderboardScope
  period : LeaderboardPeriod
  since : String
  vpinFilter : LeaderboardVpinFilter
  deferAttempt : Nat := 0
  callback : Nat
  deriving DecidableEq

namespace TopScoresRequest

def hasValidScope (request : TopScoresRequest) : Bool :=
  request.scope = .machine || request.scope = .variant ||
    request.scope = .game

def hasValidPeriod (request : TopScoresRequest) : Bool :=
  request.since ≠ "" || (leaderboardPeriodParam request.period).isSome

def hasValidVpinFilter (request : TopScoresRequest) : Bool :=
  request.vpinFilter = .any || request.vpinFilter = .vpinOnly ||
    request.vpinFilter = .realOnly

end TopScoresRequest

/-- How far the closure on the strand is.  Once the context is ready it runs
the task of a request itself, in attempts. -/
inductive TopScoresStage
  | starting
  | checkingContext
  /-- It arms the timer. -/
  | deferring
  | waiting (attempt : Nat)
  | checking (attempt : Nat)
  | refused
  /-- Its request is in flight. -/
  | sent (attempt : Nat)
  | unauthorized (attempt : Nat)
  deriving DecidableEq

/-- The reply to the request, whose text parses as a leaderboard or not. -/
inductive TopScoresReply
  | ok (isLeaderboard : Bool)
  | noResponse
  | unauthorized
  | failed

structure TopScores where
  stop : Bool := false
  status : AuthStatus := .notAuthenticated
  machineUuid : String := ""
  variantUuid : Option String := none
  gameSlug : Option String := none
  /-- How many calls there have been. -/
  calls : Nat := 0
  /-- The closures that wait for the strand. -/
  queue : List TopScoresRequest := []
  running : Option (TopScoresRequest × TopScoresStage) := none
  /-- The handler of the timer `LeaderboardDeferred`. -/
  leaderboardDeferred : Option TopScoresRequest := none
  /-- Handlers of the timer that are due. -/
  expired : List TopScoresRequest := []
  /-- The callbacks that have been invoked, with what. -/
  answers : List (Nat × Error) := []

inductive TopScoresAction
  | requestTopScores (scope : LeaderboardScope) (period : LeaderboardPeriod)
      (since : String) (vpinFilter : LeaderboardVpinFilter)
  | statusChanges (status : AuthStatus)
  | contextChanges (machineUuid : String)
      (variantUuid gameSlug : Option String)
  /-- The strand starts its next closure. -/
  | startClosure
  | runClosure (reply : TopScoresReply)
  | timerExpires
  | runExpired (index : Nat)
  | setStop
  | stopAllTimers

namespace TopScores

def checkAllowedStatuses (state : TopScores) : Bool :=
  state.status ∈ HttpRequest.requestTopScores.allowedStatuses

def canGoOn (state : TopScores) : Bool :=
  state.status = .authenticatedPaired ||
    state.status = .authenticatedUnpaired ||
    state.status = .authenticationFailed || state.stop ||
    state.checkAllowedStatuses

/-- The closure invokes its callback and is done. -/
def answer (state : TopScores) (request : TopScoresRequest) (error : Error) :
    TopScores :=
  { state with
    running := none
    answers := state.answers ++ [(request.callback, error)] }

def goTo (state : TopScores) (request : TopScoresRequest)
    (stage : TopScoresStage) : TopScores :=
  { state with running := some (request, stage) }

def nextAttempt (state : TopScores) (request : TopScoresRequest)
    (attempt : Nat) : TopScores :=
  if attempt + 1 < numRetries then
    state.goTo request (.waiting (attempt + 1))
  else state.answer request .apiError

/-- The next step of the closure, or none while it waits. -/
def runStage (state : TopScores) (reply : TopScoresReply)
    (request : TopScoresRequest) : TopScoresStage → Option TopScores
  | .starting =>
      some (if !request.hasValidScope then state.answer request .apiError
      else if !request.hasValidPeriod then state.answer request .apiError
      else if !request.hasValidVpinFilter then
        state.answer request .apiError
      else
        match leaderboardRequestTerminalError state.status with
        | some terminalError => state.answer request terminalError
        | none => state.goTo request .checkingContext)
  | .checkingContext =>
      some (if isLeaderboardContextReady state.status request.scope
          state.machineUuid state.variantUuid state.gameSlug then
        state.goTo request (.waiting 0)
      else if topScoresDeferMaxAttempts ≤ request.deferAttempt then
        state.answer request .apiError
      else state.goTo request .deferring)
  | .deferring =>
      some { state with
        running := none, leaderboardDeferred := some request }
  | .waiting attempt =>
      if state.canGoOn then some (state.goTo request (.checking attempt))
      else none
  | .checking attempt =>
      some (if state.checkAllowedStatuses then
        state.goTo request (.sent attempt)
      else state.goTo request .refused)
  | .refused =>
      some (state.answer request
        (if state.status = .authenticationFailed then .authFailed
        else .notPaired))
  | .sent attempt =>
      some <| match reply with
        | .ok isLeaderboard =>
            state.answer request
              (if isLeaderboard then .success else .apiError)
        | .noResponse => state.nextAttempt request attempt
        | .unauthorized => state.goTo request (.unauthorized attempt)
        | .failed => state.answer request .apiError
  | .unauthorized attempt =>
      some (if state.status = .notAuthenticated ∨
          state.status = .authenticating ∨
          state.status = .authenticationFailed then
        state.nextAttempt request attempt
      else
        { state with status := .notAuthenticated }.nextAttempt request
          attempt)

def step (state : TopScores) : TopScoresAction → Option TopScores
  | .requestTopScores scope period since vpinFilter =>
      some { state with
        calls := state.calls + 1
        queue := state.queue ++
          [{ scope, period, since, vpinFilter, callback := state.calls }] }
  | .statusChanges status => some { state with status := status }
  | .contextChanges machineUuid variantUuid gameSlug =>
      some { state with machineUuid, variantUuid, gameSlug }
  | .startClosure =>
      match state.running, state.queue with
      | none, request :: queue =>
          some { state with
            queue := queue, running := some (request, .starting) }
      | _, _ => none
  | .runClosure reply =>
      state.running.bind fun (request, stage) =>
        state.runStage reply request stage
  | .timerExpires =>
      state.leaderboardDeferred.map fun request =>
        { state with
          leaderboardDeferred := none
          expired := state.expired ++ [request] }
  | .runExpired index =>
      state.expired[index]?.map fun request =>
        { state with
          expired := state.expired.eraseIdx index
          queue := state.queue ++
            [{ request with deferAttempt := request.deferAttempt + 1 }] }
  | .setStop => some { state with stop := true }
  | .stopAllTimers =>
      if state.stop then some { state with leaderboardDeferred := none }
      else none

/-- How many callbacks the closures hold: those that wait for the strand, the
one that runs or has its request in flight, and the handlers of the timer. -/
def held (state : TopScores) : Nat :=
  state.queue.length + state.running.toList.length +
    state.leaderboardDeferred.toList.length + state.expired.length

/-- Every call that has been accepted has been answered or will be. -/
def Answered (state : TopScores) : Prop :=
  state.stop = false → state.calls = state.answers.length + state.held

/-- A closure defers itself only while no other one is deferred. -/
def DefersAlone (state : TopScores) : TopScoresAction → Prop
  | .runClosure _ => state.stop = false → ∀ request,
      state.running = some (request, .deferring) →
        state.leaderboardDeferred = none
  | _ => True

/-- Nothing is answered or dropped unseen: the state counts the same calls as
another, with the same callbacks invoked or held. -/
structure SameCount (state next : TopScores) : Prop where
  stop : next.stop = state.stop
  calls : next.calls = state.calls
  count : next.answers.length + next.held = state.answers.length + state.held

variable {state next : TopScores} {action : TopScoresAction}
  {request : TopScoresRequest} {stage : TopScoresStage}

theorem SameCount.answered (same : state.SameCount next)
    (answered : state.Answered) : next.Answered := by
  intro notStopped
  rw [same.stop] at notStopped
  rw [same.calls, same.count]
  exact answered notStopped

theorem sameCount_answer (running : state.running = some (request, stage))
    (error : Error) : state.SameCount (state.answer request error) where
  stop := rfl
  calls := rfl
  count := by
    simp only [answer, held, running, List.length_append, List.length_singleton,
      Option.toList_none, Option.toList_some, List.length_nil]
    omega

theorem sameCount_goTo (running : state.running = some (request, stage))
    (later : TopScoresStage) : state.SameCount (state.goTo request later) where
  stop := rfl
  calls := rfl
  count := by simp [goTo, held, running]

theorem sameCount_nextAttempt
    (running : state.running = some (request, stage)) (attempt : Nat) :
    state.SameCount (state.nextAttempt request attempt) := by
  unfold nextAttempt
  split
  · exact sameCount_goTo running _
  · exact sameCount_answer running _

/-- A closure that does not arm the timer keeps its callback or invokes it. -/
theorem sameCount_runStage {reply : TopScoresReply}
    (running : state.running = some (request, stage))
    (taken : state.runStage reply request stage = some next)
    (notDeferring : stage ≠ .deferring) : state.SameCount next := by
  cases stage with
  | starting =>
      simp only [runStage, Option.some.injEq] at taken
      subst taken
      split
      · exact sameCount_answer running _
      · split
        · exact sameCount_answer running _
        · split
          · exact sameCount_answer running _
          · split
            · exact sameCount_answer running _
            · exact sameCount_goTo running _
  | checkingContext =>
      simp only [runStage, Option.some.injEq] at taken
      subst taken
      split
      · exact sameCount_goTo running _
      · split
        · exact sameCount_answer running _
        · exact sameCount_goTo running _
  | deferring => exact absurd rfl notDeferring
  | waiting attempt =>
      simp only [runStage, Option.ite_none_right_eq_some, Option.some.injEq]
        at taken
      obtain ⟨-, rfl⟩ := taken
      exact sameCount_goTo running _
  | checking attempt =>
      simp only [runStage, Option.some.injEq] at taken
      subst taken
      split
      · exact sameCount_goTo running _
      · exact sameCount_goTo running _
  | refused =>
      cases taken
      exact sameCount_answer running _
  | sent attempt =>
      simp only [runStage, Option.some.injEq] at taken
      subst taken
      split
      · exact sameCount_answer running _
      · exact sameCount_nextAttempt running _
      · exact sameCount_goTo running _
      · exact sameCount_answer running _
  | unauthorized attempt =>
      simp only [runStage, Option.some.injEq] at taken
      subst taken
      split
      · exact sameCount_nextAttempt running _
      · have stillRunning :
            { state with status := .notAuthenticated }.running =
              some (request, .unauthorized attempt) := running
        have same := sameCount_nextAttempt stillRunning attempt
        exact { stop := same.stop, calls := same.calls, count := same.count }

/-- A closure that arms the timer loses the callback that it finds there. -/
theorem answered_defer (answered : state.Answered)
    (running : state.running = some (request, .deferring)) :
    Answered { state with
        running := none, leaderboardDeferred := some request } ↔
      (state.stop = false → state.leaderboardDeferred = none) := by
  unfold Answered at answered ⊢
  refine imp_congr_right fun notStopped => ?_
  have counted := answered notStopped
  simp only [held, running, Option.toList_some, List.length_singleton]
    at counted
  simp only [held, Option.toList_none, Option.toList_some, List.length_nil,
    List.length_singleton]
  rw [counted]
  cases state.leaderboardDeferred with
  | none => simp
  | some deferred =>
      simp only [Option.toList_some, List.length_singleton, reduceCtorEq,
        iff_false]
      omega

/-- What a step makes of the calls that are answered or will be. -/
theorem answered_step (answered : state.Answered)
    (taken : state.step action = some next) :
    next.Answered ↔ state.DefersAlone action := by
  cases action with
  | requestTopScores scope period since vpinFilter =>
      cases taken
      refine iff_of_true (fun notStopped => ?_) trivial
      have counted := answered notStopped
      simp only [held, List.length_append, List.length_singleton] at counted ⊢
      omega
  | statusChanges status =>
      cases taken
      exact iff_of_true answered trivial
  | contextChanges machineUuid variantUuid gameSlug =>
      cases taken
      exact iff_of_true answered trivial
  | startClosure =>
      simp only [step] at taken
      split at taken <;> cases taken
      rename_i request queue isRunning isQueue
      refine iff_of_true (fun notStopped => ?_) trivial
      have counted := answered notStopped
      simp only [held, isRunning, isQueue, List.length_cons, Option.toList_none,
        Option.toList_some, List.length_nil] at counted ⊢
      omega
  | runClosure reply =>
      simp only [step, Option.bind_eq_some_iff] at taken
      obtain ⟨⟨request, stage⟩, running, taken⟩ := taken
      by_cases deferring : stage = .deferring
      · subst deferring
        cases taken
        rw [answered_defer answered running]
        simp [DefersAlone, running]
      · refine iff_of_true
          ((sameCount_runStage running taken deferring).answered answered) ?_
        intro _ other isOther
        rw [running] at isOther
        cases isOther
        exact absurd rfl deferring
  | timerExpires =>
      simp only [step, Option.map_eq_some_iff] at taken
      obtain ⟨request, isDeferred, rfl⟩ := taken
      refine iff_of_true (fun notStopped => ?_) trivial
      have counted := answered notStopped
      simp only [held, isDeferred, List.length_append, Option.toList_none,
        Option.toList_some, List.length_nil, List.length_singleton]
        at counted ⊢
      omega
  | runExpired index =>
      simp only [step, Option.map_eq_some_iff] at taken
      obtain ⟨request, isExpired, rfl⟩ := taken
      have isIndex := (List.getElem?_eq_some_iff.mp isExpired).1
      refine iff_of_true (fun notStopped => ?_) trivial
      have counted := answered notStopped
      simp only [held, List.length_append, List.length_singleton,
        List.length_eraseIdx_of_lt isIndex] at counted ⊢
      omega
  | setStop =>
      cases taken
      exact iff_of_true nofun trivial
  | stopAllTimers =>
      simp only [step, Option.ite_none_right_eq_some, Option.some.injEq]
        at taken
      obtain ⟨isStopped, rfl⟩ := taken
      refine iff_of_true (fun notStopped => ?_) trivial
      rw [isStopped] at notStopped
      cases notStopped

/-- Every call is answered or will be, along exactly the runs in which no
closure defers itself while another one is deferred. -/
theorem answered_iff (actions : List TopScoresAction) :
    Transition.HoldsAlong step
        (fun state action => ∀ next, state.step action = some next →
          next.Answered) {} actions ↔
      Transition.HoldsAlong step DefersAlone {} actions :=
  Transition.holdsAlong_kept_iff
    (fun _ _ _ answered taken => answered_step answered taken) fun _ => rfl

/-- Two calls come before the machine is paired, and the closures of both defer
themselves. -/
def deferredTwice : List TopScoresAction :=
  [.requestTopScores .machine .allTime "" .any,
    .requestTopScores .machine .allTime "" .any] ++
    (.startClosure :: List.replicate 3 (.runClosure .failed)) ++
    .startClosure :: List.replicate 3 (.runClosure .failed)

theorem not_answered_deferredTwice :
    ∃ final, Transition.run step {} deferredTwice = some final ∧
      ¬ final.Answered := by
  have evaluated : ((Transition.run step {} deferredTwice).any fun final =>
      !final.stop && decide (final.calls = 2) &&
        decide (final.answers.length + final.held = 1)) = true := by
    decide +kernel
  obtain ⟨final, reached, lost⟩ := (Option.any_eq_true _ _).mp evaluated
  simp only [Bool.and_eq_true, Bool.not_eq_true', decide_eq_true_eq] at lost
  obtain ⟨⟨notStopped, calls⟩, count⟩ := lost
  refine ⟨final, reached, fun answered => ?_⟩
  have counted := answered notStopped
  omega

end TopScores

end ScorbitSdk
