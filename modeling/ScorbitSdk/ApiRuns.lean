import ScorbitSdk.ApiQueue
import ScorbitSdk.PublishedOrder

/-!
# Runs of the library under its C API

Application threads post jobs, one dispatcher carries them out on the game state
machine, and the network layer below works on its own threads.  A job is carried
out when the last one has returned from its calls on `Net`.  A created-callback is
taken to run between two jobs; nothing in the program sees to that.

Two refinements: whatever the threads do, the library does what it would do for
one caller that makes the dispatched calls one after the other, and the state
machine sees each created-callback at most once.
-/

namespace ScorbitSdk

/-- The operation of the state machine that a job carries out. -/
def ApiJob.operation? : ApiJob → Option GameStateOp
  | .setGameStarted origin => some (.setGameStarted origin)
  | .setGameFinished => some .setGameFinished
  | .setCurrentBall ball => some (.setCurrentBall ball)
  | .setActivePlayer player => some (.setActivePlayer player)
  | .setScore player score feature => some (.setScore player score feature)
  | .addMode mode => some (.addMode mode)
  | .addModeExpiring mode durationSeconds =>
      some (.addModeExpiring mode durationSeconds)
  | .tickModeExpiries => some .tickModeExpiries
  | .removeMode mode => some (.removeMode mode)
  | .clearModes => some .clearModes
  | .commit => some .commit
  | _ => none

def ApiQueueItem.job? : ApiQueueItem → Option ApiJob
  | .poison => none
  | .job apiJob => some apiJob

def SdkAction.operation? : SdkAction → Option GameStateOp
  | .operation _ op => some op
  | _ => none

def GameStateEvent.operation? : GameStateEvent → Option GameStateOp
  | .operation _ op => some op
  | .sessionCreated _ _ => none

/-- A session is about to be reported as created. -/
def SessionRun.created? : SessionRun → Option Nat
  | created sessionId => some sessionId
  | _ => none

/-! ## Each session is reported as created at most once -/

namespace NetState

/-- The sessions whose created-callback may still be called. -/
def callbacks (state : NetState) : List Nat :=
  (state.sessionRunning.bind SessionRun.created?).toList ++ state.creates

variable {state next : NetState} {action : NetAction}

/-- A step that does not touch the session strand. -/
theorem callbacks_of_sessionRunning
    (same : next.sessionRunning = state.sessionRunning)
    (fewer : next.creates.Sublist state.creates) :
    next.callbacks.Sublist state.callbacks := by
  rw [callbacks, callbacks, same]
  exact fewer.append_left _

theorem callbacks_of_not_created
    (notCreated : next.sessionRunning.bind SessionRun.created? = none)
    (fewer : next.creates.Sublist state.creates) :
    next.callbacks.Sublist state.callbacks := by
  rw [callbacks, callbacks, notCreated]
  exact fewer.trans (List.sublist_append_right _ _)

/-- A callback that is called is not called again. -/
theorem Step.callbacks_cases (taken : Step state action next) :
    (∃ data origin, action = .sessionCreate data origin ∧
        next.callbacks = state.callbacks ++ [data.id]) ∨
      ((∀ data origin, action ≠ .sessionCreate data origin) ∧
        next.callbacks.Sublist state.callbacks ∧
        (action = .onCreated → ∃ sessionId,
          state.sessionRunning = some (.created sessionId) ∧
            state.callbacks = sessionId :: next.callbacks)) := by
  rcases taken.creates_cases with
    ⟨data, origin, rfl, creates⟩ | ⟨noCreate, fewer⟩
  · refine Or.inl ⟨data, origin, rfl, ?_⟩
    cases taken
    rw [callbacks, callbacks, creates, List.append_assoc]
  · refine Or.inr ⟨noCreate, ?_, ?_⟩
    · cases taken with
      | created running present =>
          simp only [callbacks, creates, running, Option.bind_some,
            SessionRun.created?, SessionRun.task?, SessionTask.create?,
            Option.toList_some, Option.toList_none, List.nil_append]
          split <;> simp [SessionRun.created?, SessionRun.task?]
      | sessionCreate idle => exact absurd rfl (noCreate _ _)
      | onCreated running => exact callbacks_of_not_created rfl fewer
      | takeSessionTask idle queued => exact callbacks_of_not_created rfl fewer
      | refuse running => exact callbacks_of_not_created rfl fewer
      | request running => exact callbacks_of_not_created rfl fewer
      | again running => exact callbacks_of_not_created rfl fewer
      | giveUp running noUpdate => exact callbacks_of_not_created rfl fewer
      | updateKept running active => exact callbacks_of_not_created rfl fewer
      | updateErased running inactive => exact callbacks_of_not_created rfl fewer
      | _ => exact callbacks_of_sessionRunning rfl fewer
    · rintro rfl
      cases taken with
      | onCreated running =>
          exact ⟨_, running, by
            simp [callbacks, creates, running, SessionRun.created?,
              SessionRun.task?]⟩

end NetState

namespace SdkState

/-- The sessions whose created-callback may still be called, those included that
are still to be created. -/
def callbacks (state : SdkState) : List Nat :=
  state.net.callbacks ++ state.outbox.filterMap NetCall.created?

/-- The state machine alone has got as far, and waits for all callbacks that may
still come. -/
structure RefinesTo (state : SdkState) (game : GameStateRun) : Prop where
  impl : game.impl = state.game.impl
  calls : game.calls = state.game.calls
  valid : state.game.Valid
  nodup : state.callbacks.Nodup
  known : state.callbacks ⊆ state.game.created
  awaited : state.callbacks ⊆ game.awaiting

variable {state next : SdkState} {game : GameStateRun} {action : SdkAction}

theorem refinesTo_initially (impl : GameStateImpl)
    (valid : GameStateRun.Valid { impl }) :
    RefinesTo { game := { impl } } { impl } where
  impl := rfl
  calls := rfl
  valid := valid
  nodup := List.nodup_nil
  known := List.nil_subset _
  awaited := List.nil_subset _

/-- A step that the state machine takes no part in. -/
theorem RefinesTo.of_sublist (refines : state.RefinesTo game)
    (sameGame : next.game = state.game)
    (fewer : next.callbacks.Sublist state.callbacks) :
    next.RefinesTo game where
  impl := refines.impl.trans (congrArg _ sameGame.symm)
  calls := refines.calls.trans (congrArg _ sameGame.symm)
  valid := sameGame ▸ refines.valid
  nodup := refines.nodup.sublist fewer
  known := sameGame ▸ List.Subset.trans fewer.subset refines.known
  awaited := List.Subset.trans fewer.subset refines.awaited

/-- An event of the state machine, once no call is left. -/
theorem RefinesTo.perform (refines : state.RefinesTo game)
    (noCalls : state.outbox = []) (event : GameStateEvent) :
    (state.perform event).RefinesTo (game.record (event.perform game.impl)) := by
  obtain ⟨newNodup, newFresh⟩ := created_fresh refines.valid event
  have before : state.callbacks = state.net.callbacks := by
    simp [callbacks, noCalls]
  have created : (state.perform event).game.created =
      state.game.created ++
        (event.perform state.game.impl).2.filterMap NetCall.created? :=
    GameStateRun.record_created _ _
  have known : state.net.callbacks ⊆ state.game.created :=
    before ▸ refines.known
  have awaited : state.net.callbacks ⊆ game.awaiting :=
    before ▸ refines.awaited
  rw [refines.impl]
  refine {
    impl := rfl
    calls := congrArg (· ++ _) refines.calls
    valid := GameStateRun.record_valid refines.valid state.game.awaiting event
    nodup := ?_
    known := ?_
    awaited := ?_ }
  · refine List.nodup_append.mpr ⟨before ▸ refines.nodup, newNodup, ?_⟩
    intro id old other new same
    exact newFresh other new (same ▸ known old)
  · rw [created]
    exact List.append_subset.mpr
      ⟨List.Subset.trans known (List.subset_append_left _ _),
        List.subset_append_right _ _⟩
  · exact List.append_subset.mpr
      ⟨List.Subset.trans awaited (List.subset_append_left _ _),
        List.subset_append_right _ _⟩

/-- The network layer calls a callback, which the state machine waits for. -/
theorem RefinesTo.called (refines : state.RefinesTo game) {net : NetState}
    {sessionId : Nat} (noCalls : state.outbox = [])
    (callbacks : state.net.callbacks = sessionId :: net.callbacks) :
    sessionId ∈ game.awaiting ∧
      ({ state with net } : SdkState).RefinesTo
        { game with awaiting := game.awaiting.erase sessionId } := by
  have before : state.callbacks = sessionId :: net.callbacks := by
    simp [SdkState.callbacks, noCalls, callbacks]
  have after : ({ state with net } : SdkState).callbacks = net.callbacks := by
    simp [SdkState.callbacks, noCalls]
  have nodup := refines.nodup
  rw [before, List.nodup_cons] at nodup
  have known := before ▸ refines.known
  have awaited := before ▸ refines.awaited
  rw [List.cons_subset] at known awaited
  refine ⟨awaited.1, {
    impl := refines.impl
    calls := refines.calls
    valid := refines.valid
    nodup := after ▸ nodup.2
    known := after ▸ known.2
    awaited := ?_ }⟩
  rw [after]
  intro id member
  have different : id ≠ sessionId := fun same => nodup.1 (same ▸ member)
  exact (List.mem_erase_of_ne different).mpr (awaited.2 member)

/-- A call that reaches the network layer. -/
theorem callbacks_deliver {call : NetCall} {outbox : List NetCall}
    {netAction : NetAction} {net : NetState}
    (outboxEq : state.outbox = call :: outbox)
    (isAction : call.netAction? = some netAction)
    (taken : NetState.Step state.net netAction net) :
    ({ state with outbox, net } : SdkState).callbacks.Sublist
      state.callbacks := by
  rcases taken.callbacks_cases with
    ⟨data, origin, rfl, posted⟩ | ⟨noCreate, fewer, -⟩
  · cases call <;> cases isAction
    simp [callbacks, posted, outboxEq, NetCall.created?]
  · simp only [callbacks, outboxEq]
    exact fewer.append ((List.sublist_cons_self call outbox).filterMap _)

theorem callbacks_work {netAction : NetAction} {net : NetState}
    (isWork : netAction.isWork = true)
    (taken : NetState.Step state.net netAction net) :
    ({ state with net } : SdkState).callbacks.Sublist state.callbacks := by
  rcases taken.callbacks_cases with
    ⟨data, origin, rfl, -⟩ | ⟨-, fewer, -⟩
  · cases isWork
  · exact fewer.append_right _

/-- The state machine takes a step of its own, or none. -/
theorem RefinesTo.step (refines : state.RefinesTo game)
    (taken : state.step action = some next) :
    ∃ events later, Transition.run GameStateRun.step game events = some later ∧
      next.RefinesTo later ∧
      events.filterMap GameStateEvent.operation? = action.operation?.toList := by
  cases action with
  | operation env op =>
      simp only [SdkState.step, isIdle, Option.ite_none_right_eq_some,
        Bool.and_eq_true, List.isEmpty_iff, Option.some.injEq] at taken
      obtain ⟨⟨noCalls, -⟩, rfl⟩ := taken
      exact ⟨[.operation env op], _, rfl, refines.perform noCalls _, rfl⟩
  | sessionCreated env =>
      simp only [SdkState.step] at taken
      split at taken
      · rename_i sessionId running
        simp only [isIdle, Option.ite_none_right_eq_some, Bool.and_eq_true,
          List.isEmpty_iff, Option.map_eq_some_iff] at taken
        obtain ⟨⟨noCalls, -⟩, net, netTaken, rfl⟩ := taken
        rcases (NetState.step_cases netTaken).callbacks_cases with
          ⟨data, origin, impossible, -⟩ | ⟨-, -, called⟩
        · cases impossible
        · obtain ⟨other, otherRunning, callbacks⟩ := called rfl
          rw [running] at otherRunning
          cases otherRunning
          obtain ⟨awaited, refined⟩ := refines.called noCalls callbacks
          refine ⟨[.sessionCreated env sessionId], _,
            Transition.run_cons.mpr ⟨_, if_pos awaited, rfl⟩,
            refined.perform noCalls (.sessionCreated env sessionId), rfl⟩
      · cases taken
  | deliver =>
      simp only [SdkState.step] at taken
      split at taken
      · rename_i call outbox idle outboxEq
        split at taken
        · cases taken
          refine ⟨[], game, rfl, refines.of_sublist rfl ?_, rfl⟩
          simp only [callbacks, outboxEq]
          exact ((List.sublist_cons_self call outbox).filterMap _).append_left _
        · rename_i netAction isAction
          obtain ⟨net, netTaken, rfl⟩ := Option.map_eq_some_iff.mp taken
          refine ⟨[], game, rfl, refines.of_sublist rfl ?_, rfl⟩
          exact callbacks_deliver outboxEq isAction
            (NetState.step_cases netTaken)
      · cases taken
  | work netAction =>
      simp only [SdkState.step, Option.ite_none_right_eq_some,
        Option.map_eq_some_iff] at taken
      obtain ⟨isWork, net, netTaken, rfl⟩ := taken
      refine ⟨[], game, rfl, refines.of_sublist rfl ?_, rfl⟩
      exact callbacks_work isWork (NetState.step_cases netTaken)

/-- The state machine alone gets from `game` as far as a run of the library, with
the same operations in the same order. -/
def RefinesAlong (game : GameStateRun) (past : List SdkAction)
    (state : SdkState) : Prop :=
  ∃ events later, Transition.run GameStateRun.step game events = some later ∧
    state.RefinesTo later ∧
    events.filterMap GameStateEvent.operation? =
      past.filterMap SdkAction.operation?

theorem RefinesAlong.step {past : List SdkAction}
    (refines : RefinesAlong game past state)
    (taken : state.step action = some next) :
    RefinesAlong game (past ++ [action]) next := by
  obtain ⟨events, later, run, refines, same⟩ := refines
  obtain ⟨more, last, goesOn, refined, operations⟩ := refines.step taken
  refine ⟨events ++ more, last,
    Transition.run_append.mpr ⟨later, run, goesOn⟩, refined, ?_⟩
  rw [List.filterMap_append, List.filterMap_append, same, operations]
  cases action <;> rfl

theorem refinesAlong_of_run {actions : List SdkAction} {final : SdkState}
    (reached : Transition.run step state actions = some final)
    (refines : state.RefinesTo game) : RefinesAlong game actions final := by
  have along : RefinesAlong game ([] ++ actions) final :=
    Transition.run_history (fun _ _ _ _ refines taken => refines.step taken)
      reached ⟨[], game, rfl, refines, rfl⟩
  exact along

end SdkState

/-! ## The dispatcher -/

theorem dispatchApiJob_of_operation {env : GameEnvironment}
    {gameState : GameStateImpl} {job : ApiJob} {op : GameStateOp}
    (operation : job.operation? = some op) :
    dispatchApiJob env gameState job = op.apply env gameState := by
  cases job <;> cases operation <;> rfl

theorem dispatchApiJob_of_none {env : GameEnvironment}
    {gameState : GameStateImpl} {job : ApiJob}
    (operation : job.operation? = none) :
    dispatchApiJob env gameState job = (gameState, []) := by
  cases job <;> cases operation <;> rfl

/-- `sb_game_state_struct` with what it owns: the queue of jobs, and the game
state with its `Net`. -/
structure ApiState where
  api : SbGameStateStruct := {}
  sdk : SdkState := {}

inductive ApiAction
  | queue (action : ApiQueueAction)
  | dispatch (producer : ApiThread) (env : GameEnvironment)
  | sdk (action : SdkAction)

def SdkState.dispatch (sdk : SdkState) (env : GameEnvironment) (job : ApiJob) :
    SdkState :=
  let result := dispatchApiJob env sdk.game.impl job
  { sdk with game := sdk.game.record result, outbox := result.2 }

theorem SdkState.dispatch_of_operation {sdk : SdkState} {env : GameEnvironment}
    {job : ApiJob} {op : GameStateOp} (operation : job.operation? = some op) :
    sdk.dispatch env job = sdk.perform (.operation env op) := by
  rw [dispatch, dispatchApiJob_of_operation operation]
  rfl

/-- A job that only calls `Net` finds no call left and leaves none. -/
theorem SdkState.dispatch_of_none {sdk : SdkState} {env : GameEnvironment}
    {job : ApiJob} (idle : sdk.outbox = []) (operation : job.operation? = none) :
    sdk.dispatch env job = sdk := by
  obtain ⟨game, outbox, net⟩ := sdk
  obtain rfl : outbox = [] := idle
  rw [dispatch, dispatchApiJob_of_none operation]
  simp [GameStateRun.record]

namespace ApiState

/-- The queue's poster has been set, and nothing been called. -/
def created : ApiState where
  sdk := { game := { impl := { hasModeExpiryPoster := true } } }

/-- The jobs are carried out by `dispatch` alone. -/
def step (state : ApiState) : ApiAction → Option ApiState
  | .queue (.dispatcherDequeues _) => none
  | .queue action => (state.api.step action).map fun api => { state with api }
  | .dispatch producer env =>
      (state.api.cApiQueue.front producer).bind fun entry =>
        (state.api.step (.dispatcherDequeues producer)).bind fun api =>
          match entry.item with
          | .poison => some { state with api }
          | .job job =>
              if state.sdk.isIdle then
                some { api, sdk := state.sdk.dispatch env job }
              else none
  | .sdk (.operation _ _) => none
  | .sdk action =>
      if state.api.destruction = .gameStateDestroyed then none
      else (state.sdk.step action).map fun sdk => { state with sdk }

/-- The jobs that an application thread posts in a run. -/
def postedBy (thread : Nat) (actions : List ApiAction) : List ApiJob :=
  actions.filterMap fun
    | .queue (.postApiJob poster job) => if poster = thread then some job else none
    | _ => none

/-- The jobs among the entries of a producer. -/
def jobsOf (producer : ApiThread) (entries : List ApiQueueEntry) :
    List ApiJob :=
  (entries.filter (·.producer = producer)).filterMap (·.item.job?)

/-- The operations that have been dispatched, in that order. -/
def operations (state : ApiState) : List GameStateOp :=
  (state.api.dequeued.filterMap (·.item.job?)).filterMap ApiJob.operation?

variable {state next : ApiState} {action : ApiAction}

/-- Everything a step can do: a step of the queue that dispatches nothing, the
end of the dispatcher, a job carried out, or a step of the library below. -/
theorem step_cases (taken : state.step action = some next) :
    (∃ queued, action = .queue queued ∧
        (∀ producer, queued ≠ .dispatcherDequeues producer) ∧
        state.api.step queued = some next.api ∧ next.sdk = state.sdk) ∨
      (∃ producer env entry, action = .dispatch producer env ∧
        state.api.cApiQueue.front producer = some entry ∧
        state.api.step (.dispatcherDequeues producer) = some next.api ∧
        ((entry.item = .poison ∧ next.sdk = state.sdk) ∨
          ∃ job, entry.item = .job job ∧ state.sdk.isIdle = true ∧
            next.sdk = state.sdk.dispatch env job)) ∨
      ∃ sdkAction, action = .sdk sdkAction ∧ sdkAction.operation? = none ∧
        state.sdk.step sdkAction = some next.sdk ∧ next.api = state.api := by
  cases action with
  | queue queued =>
      refine Or.inl ⟨queued, rfl, ?_⟩
      cases queued with
      | dispatcherDequeues producer => cases taken
      | _ =>
          obtain ⟨api, isNext, rfl⟩ := Option.map_eq_some_iff.mp taken
          exact ⟨fun _ => nofun, isNext, rfl⟩
  | dispatch producer env =>
      obtain ⟨entry, isFront, taken⟩ := Option.bind_eq_some_iff.mp taken
      obtain ⟨api, dequeued, taken⟩ := Option.bind_eq_some_iff.mp taken
      refine Or.inr (Or.inl ⟨producer, env, entry, rfl, isFront, ?_⟩)
      split at taken
      · rename_i isPoison
        cases taken
        exact ⟨dequeued, Or.inl ⟨isPoison, rfl⟩⟩
      · rename_i job isJob
        obtain ⟨idle, isNext⟩ := Option.ite_none_right_eq_some.mp taken
        cases isNext
        exact ⟨dequeued, Or.inr ⟨job, isJob, idle, rfl⟩⟩
  | sdk sdkAction =>
      refine Or.inr (Or.inr ⟨sdkAction, rfl, ?_⟩)
      cases sdkAction with
      | operation env op => cases taken
      | _ =>
          obtain ⟨-, taken⟩ := Option.ite_none_left_eq_some.mp taken
          obtain ⟨sdk, isNext, rfl⟩ := Option.map_eq_some_iff.mp taken
          exact ⟨rfl, isNext, rfl⟩

theorem jobsOf_concat (producer : ApiThread) (entries : List ApiQueueEntry)
    (entry : ApiQueueEntry) :
    jobsOf producer (entries ++ [entry]) =
      jobsOf producer entries ++
        if entry.producer = producer then entry.item.job?.toList else [] := by
  unfold jobsOf
  rw [List.filter_append, List.filterMap_append]
  by_cases same : entry.producer = producer
  · cases isJob : entry.item.job? <;> simp [same, isJob]
  · simp [same]

theorem postedBy_concat (thread : Nat) (past : List ApiAction)
    (action : ApiAction) :
    postedBy thread (past ++ [action]) =
      postedBy thread past ++ postedBy thread [action] :=
  List.filterMap_append

theorem dequeued_enqueue (api : SbGameStateStruct) (thread : ApiThread)
    (item : ApiQueueItem) : (api.enqueue thread item).dequeued = api.dequeued := by
  unfold SbGameStateStruct.enqueue
  split <;> rfl

/-- What is no job of an application thread changes none of their jobs. -/
theorem jobsOf_enqueue_other (api : SbGameStateStruct) {poster : ApiThread}
    {item : ApiQueueItem} (thread : Nat)
    (other : poster = .application thread → item.job? = none) :
    jobsOf (.application thread) (api.enqueue poster item).enqueued =
      jobsOf (.application thread) api.enqueued := by
  unfold SbGameStateStruct.enqueue
  split
  · rfl
  · rw [jobsOf_concat]
    by_cases same : poster = .application thread
    · simp [ProducerQueue.nextEntry, other same]
    · simp [ProducerQueue.nextEntry, same]

/-- The queue takes in what the application threads post, and keeps it. -/
theorem jobsOf_queue_step {api nextApi : SbGameStateStruct}
    {queued : ApiQueueAction}
    (noDispatch : ∀ producer, queued ≠ .dispatcherDequeues producer)
    (taken : api.step queued = some nextApi) (thread : Nat) :
    jobsOf (.application thread) nextApi.enqueued =
        jobsOf (.application thread) api.enqueued ++
          postedBy thread [.queue queued] ∧
      nextApi.dequeued = api.dequeued := by
  cases queued with
  | postApiJob poster job =>
      obtain ⟨stage, isNext⟩ := Option.ite_none_right_eq_some.mp taken
      cases isNext
      refine ⟨?_, dequeued_enqueue _ _ _⟩
      have lives := SbGameStateStruct.not_queueDestroyed_of_early (Or.inl stage)
      rw [SbGameStateStruct.enqueue_of_not_queueDestroyed lives, jobsOf_concat]
      by_cases same : poster = thread
      · simp [postedBy, ProducerQueue.nextEntry, ApiQueueItem.job?, same]
      · simp [postedBy, ProducerQueue.nextEntry, same]
  | posterEnqueues worker =>
      obtain ⟨-, isNext⟩ := Option.ite_none_right_eq_some.mp taken
      cases isNext
      refine ⟨?_, dequeued_enqueue _ _ _⟩
      have isWorker : ApiThread.worker worker ≠ .application thread := nofun
      rw [jobsOf_enqueue_other _ thread fun same => absurd same isWorker]
      simp [postedBy]
  | enqueuePoison poster =>
      obtain ⟨-, isNext⟩ := Option.ite_none_right_eq_some.mp taken
      cases isNext
      refine ⟨?_, dequeued_enqueue _ _ _⟩
      simp only
      rw [jobsOf_enqueue_other _ thread fun _ => rfl]
      simp [postedBy]
  | posterLoads worker =>
      obtain ⟨-, isNext⟩ := Option.ite_none_left_eq_some.mp taken
      split at isNext <;> cases isNext <;> simp [postedBy]
  | dispatcherDequeues producer => exact absurd rfl (noDispatch producer)
  | storeAccepting =>
      obtain ⟨-, isNext⟩ := Option.ite_none_right_eq_some.mp taken
      cases isNext
      simp [postedBy]
  | joinDispatcher =>
      obtain ⟨-, isNext⟩ := Option.ite_none_right_eq_some.mp taken
      cases isNext
      simp [postedBy]
  | destroyQueue =>
      obtain ⟨-, isNext⟩ := Option.ite_none_right_eq_some.mp taken
      cases isNext
      simp [postedBy]
  | destroyGameState =>
      obtain ⟨-, isNext⟩ := Option.ite_none_right_eq_some.mp taken
      cases isNext
      simp [postedBy]

/-- The dispatcher takes what is in front for the producer. -/
theorem dispatcher_step {api nextApi : SbGameStateStruct} {producer : ApiThread}
    {entry : ApiQueueEntry} (isFront : api.cApiQueue.front producer = some entry)
    (taken : api.step (.dispatcherDequeues producer) = some nextApi) :
    nextApi.enqueued = api.enqueued ∧
      nextApi.dequeued = api.dequeued ++ [entry] := by
  obtain ⟨-, isNext⟩ := Option.ite_none_right_eq_some.mp taken
  obtain ⟨⟨other, queue⟩, isTaken, rfl⟩ := Option.map_eq_some_iff.mp isNext
  obtain ⟨found, isFound, same⟩ := Option.map_eq_some_iff.mp isTaken
  rw [isFront, Option.some.injEq] at isFound
  exact ⟨rfl, by rw [← (Prod.mk.inj same).1, isFound]⟩

/-! ## Runs -/

/-- What a run keeps: the queue accounts for what the threads have posted, and
the library is as one caller has left it who made the dispatched calls. -/
structure RunsAs (past : List ApiAction) (state : ApiState) : Prop where
  sound : state.api.Sound
  posted : ∀ thread, jobsOf (.application thread) state.api.enqueued =
    postedBy thread past
  called : ∃ sdkActions, Transition.run SdkState.step {} sdkActions =
      some state.sdk ∧
    sdkActions.filterMap SdkAction.operation? =
      .setModeExpiryPoster :: state.operations

theorem runsAs_created : RunsAs [] created where
  sound := SbGameStateStruct.sound_initial
  posted := fun _ => rfl
  called := ⟨[.operation {} .setModeExpiryPoster], rfl, rfl⟩

theorem operations_concat {entry : ApiQueueEntry}
    (dequeued : next.api.dequeued = state.api.dequeued ++ [entry]) :
    next.operations = state.operations ++
      (entry.item.job?.bind ApiJob.operation?).toList := by
  rw [operations, operations, dequeued, List.filterMap_append,
    List.filterMap_append]
  cases isJob : entry.item.job? with
  | none => simp [isJob]
  | some job => cases isOp : job.operation? <;> simp [isJob, isOp]

theorem RunsAs.step {past : List ApiAction} (runs : RunsAs past state)
    (taken : state.step action = some next) :
    RunsAs (past ++ [action]) next := by
  obtain ⟨sdkActions, called, operations⟩ := runs.called
  have goesOn (sdkAction : SdkAction)
      (sdkTaken : state.sdk.step sdkAction = some next.sdk)
      (nextOperations : next.operations =
        state.operations ++ sdkAction.operation?.toList) :
      ∃ sdkActions,
        Transition.run SdkState.step {} sdkActions = some next.sdk ∧
        sdkActions.filterMap SdkAction.operation? =
          .setModeExpiryPoster :: next.operations := by
    refine ⟨sdkActions ++ [sdkAction],
      Transition.run_append.mpr ⟨state.sdk, called,
        Transition.run_cons.mpr ⟨next.sdk, sdkTaken, rfl⟩⟩, ?_⟩
    rw [List.filterMap_append, operations, nextOperations]
    cases sdkAction <;> rfl
  rcases step_cases taken with
    ⟨queued, rfl, noDispatch, queueTaken, sameSdk⟩ |
      ⟨producer, env, entry, rfl, isFront, queueTaken, carriedOut⟩ |
      ⟨sdkAction, rfl, noOperation, sdkTaken, sameApi⟩
  · have moved := jobsOf_queue_step noDispatch queueTaken
    have same : next.operations = state.operations := by
      rw [ApiState.operations, ApiState.operations, (moved 0).2]
    exact {
      sound := runs.sound.step queueTaken
      posted := fun thread => by
        rw [(moved thread).1, runs.posted, postedBy_concat]
      called := ⟨sdkActions, sameSdk ▸ called, same ▸ operations⟩ }
  · obtain ⟨enqueued, dequeued⟩ := dispatcher_step isFront queueTaken
    have nextOperations := operations_concat dequeued
    refine {
      sound := runs.sound.step queueTaken
      posted := fun thread => by
        rw [enqueued, runs.posted, postedBy_concat]
        simp [postedBy]
      called := ?_ }
    rcases carriedOut with ⟨isPoison, sameSdk⟩ | ⟨job, isJob, idle, dispatched⟩
    · rw [isPoison] at nextOperations
      refine ⟨sdkActions, sameSdk ▸ called, ?_⟩
      simpa [nextOperations, ApiQueueItem.job?] using operations
    · simp only [isJob, ApiQueueItem.job?, Option.bind_some] at nextOperations
      cases isOp : job.operation? with
      | some op =>
          rw [isOp] at nextOperations
          refine goesOn (.operation env op) ?_ nextOperations
          rw [dispatched, SdkState.dispatch_of_operation isOp]
          exact if_pos idle
      | none =>
          rw [isOp] at nextOperations
          have noCalls : state.sdk.outbox = [] := by
            simp only [SdkState.isIdle, Bool.and_eq_true,
              List.isEmpty_iff] at idle
            exact idle.1
          rw [SdkState.dispatch_of_none noCalls isOp] at dispatched
          refine ⟨sdkActions, dispatched ▸ called, ?_⟩
          simpa [nextOperations] using operations
  · have same : next.operations = state.operations := by
      rw [ApiState.operations, ApiState.operations, sameApi]
    exact {
      sound := sameApi ▸ runs.sound
      posted := fun thread => by
        rw [sameApi, runs.posted, postedBy_concat]
        simp [postedBy]
      called := goesOn sdkAction sdkTaken (by simp [same, noOperation]) }

theorem jobsOf_isPrefix {earlier later : List ApiQueueEntry}
    {producer : ApiThread}
    (isPrefix : earlier.filter (·.producer = producer) <+:
      later.filter (·.producer = producer)) :
    jobsOf producer earlier <+: jobsOf producer later :=
  isPrefix.filterMap _

/-- Whatever the application's threads post and in whatever order the queue hands
it on, the library under the C API is in the state in which one caller leaves it
who makes the dispatched calls one after the other; the state machine alone, with
each created-callback at most once, makes the same calls on `Net`.  Of each
thread's jobs the first ones have been dispatched, in its order.  What has been
published are rows and sessions of that one caller.  Here, each created-callback
is one step between two dispatched calls. -/
theorem refinesOneCaller {actions : List ApiAction} {final : ApiState}
    (reached : Transition.run step created actions = some final) :
    ∃ sdkActions events game,
      Transition.run SdkState.step {} sdkActions = some final.sdk ∧
      Transition.run GameStateRun.step {} events = some game ∧
      sdkActions.filterMap SdkAction.operation? =
        .setModeExpiryPoster :: final.operations ∧
      events.filterMap GameStateEvent.operation? =
        .setModeExpiryPoster :: final.operations ∧
      game.impl = final.sdk.game.impl ∧ game.calls = final.sdk.game.calls ∧
      (∀ thread, jobsOf (.application thread) final.api.dequeued <+:
        postedBy thread actions) ∧
      ∀ message ∈ final.sdk.net.published,
        message.Sourced game.rows game.created := by
  have runs : RunsAs ([] ++ actions) final := Transition.run_history
    (fun _ _ _ _ runs taken => runs.step taken) reached runsAs_created
  rw [List.nil_append] at runs
  obtain ⟨sdkActions, called, operations⟩ := runs.called
  obtain ⟨events, game, run, refines, same⟩ := SdkState.refinesAlong_of_run called
    (SdkState.refinesTo_initially {} GameStateRun.valid_initially)
  have valid : final.sdk.Valid := Transition.run_invariant
    (fun _ _ _ valid taken => SdkState.step_valid valid taken) called
      SdkState.valid_initially
  refine ⟨sdkActions, events, game, called, run, operations,
    same.trans operations, refines.impl, refines.calls, fun thread => ?_, ?_⟩
  · rw [← runs.posted thread]
    exact jobsOf_isPrefix (runs.sound.accounts.dequeued_isPrefix _)
  · rw [GameStateRun.rows, GameStateRun.created, refines.calls]
    exact valid.net.published

/-- The commit of a second thread overtakes the score of the first, and the first
message of the game is published. -/
def publishedGame : List ApiAction :=
  [.queue (.postApiJob 1 (.setGameStarted .startButton)),
    .queue (.postApiJob 1 (.setScore 1 100 0)), .queue (.postApiJob 2 .commit),
    .dispatch (.application 1) {}] ++
  (SdkState.publishedGame.drop 1).map .sdk ++
  [.dispatch (.application 2) {}]

theorem refinesOneCaller_publishedGame :
    ∃ final, Transition.run step created publishedGame = some final ∧
      jobsOf (.application 1) final.api.dequeued =
        [.setGameStarted .startButton] ∧
      final.sdk.net.published.length = 1 ∧
      ∃ events game, Transition.run GameStateRun.step {} events = some game ∧
        game.calls = final.sdk.game.calls ∧
        ∀ message ∈ final.sdk.net.published,
          message.Sourced game.rows game.created := by
  have evaluated : ((Transition.run step created publishedGame).any fun final =>
      jobsOf (.application 1) final.api.dequeued =
          [.setGameStarted .startButton] &&
        final.sdk.net.published.length = 1) = true := by
    decide +kernel
  obtain ⟨final, reached, checked⟩ := (Option.any_eq_true _ _).mp evaluated
  simp only [Bool.and_eq_true, decide_eq_true_eq] at checked
  obtain ⟨-, events, game, -, run, -, -, -, calls, -, sourced⟩ :=
    refinesOneCaller reached
  exact ⟨final, reached, checked.1, checked.2, events, game, run, calls, sourced⟩

end ApiState

end ScorbitSdk
