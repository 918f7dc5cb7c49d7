import ScorbitSdk.GameStateRuns
import ScorbitSdk.NetSteps

/-!
# Runs of the whole library

The game state machine on top of the network layer.  The calls of an operation
reach `Net` one after the other, interleaved with the steps of its worker, and
the next operation starts when the last call has returned.

The callback of a created session is one step of the state machine, between two
operations.  That is assumed: the program calls it on a thread of the worker, and
has no lock that keeps it from an operation that is under way.

Everything the network layer stores, publishes and uploads stems from the rows
and the sessions that the state machine has handed over.
-/

namespace ScorbitSdk

/-- The step of `Net` that a call amounts to; the calls about the timer of the
mode expiries do not touch the sessions. -/
def NetCall.netAction? : NetCall → Option NetAction
  | sessionCreate data origin => some (.sessionCreate data origin)
  | submitGameData data flags => some (.submitGameData data flags)
  | scheduleDelayedOnWorker _ => none
  | cancelModeExpiryTimer => none

/-- The actions that neither the state machine nor its callback takes. -/
def NetAction.isWork : NetAction → Bool
  | sessionCreate _ _ => false
  | submitGameData _ _ => false
  | onCreated => false
  | _ => true

structure SdkState where
  game : GameStateRun := {}
  /-- The calls on `Net` that have not been made yet. -/
  outbox : List NetCall := []
  net : NetState := {}

inductive SdkAction
  | operation (env : GameEnvironment) (op : GameStateOp)
  /-- The next call reaches `Net`. -/
  | deliver
  | work (action : NetAction)
  /-- The callback of a created session, which no operation overlaps. -/
  | sessionCreated (env : GameEnvironment)

namespace SdkState

/-- No operation is under way. -/
def isIdle (self : SdkState) : Bool :=
  self.outbox.isEmpty && self.net.creating.isNone

def perform (self : SdkState) (event : GameStateEvent) : SdkState :=
  let result := event.perform self.game.impl
  { self with game := self.game.record result, outbox := result.2 }

def step (self : SdkState) : SdkAction → Option SdkState
  | .operation env op =>
      if self.isIdle then some (self.perform (.operation env op)) else none
  | .deliver =>
      match self.net.creating, self.outbox with
      | none, call :: outbox =>
          match call.netAction? with
          | none => some { self with outbox := outbox }
          | some action =>
              (self.net.step action).map fun net =>
                { self with outbox := outbox, net := net }
      | _, _ => none
  | .work action =>
      if action.isWork then
        (self.net.step action).map fun net => { self with net := net }
      else none
  | .sessionCreated env =>
      match self.net.sessionRunning with
      | some (.created sessionId) =>
          if self.isIdle then
            (self.net.step .onCreated).map fun net =>
              { self with net := net }.perform (.sessionCreated env sessionId)
          else none
      | _ => none

/-- What a step can do: an event of the state machine, which at most ends the
task of a created session, or the end of a call that does not matter, or a step
of `Net` whose action is a call of the state machine or its worker's own. -/
theorem step_cases {self next : SdkState} {action : SdkAction}
    (taken : self.step action = some next) :
    (self.outbox = [] ∧ ∃ event net,
        (net = self.net ∨ NetState.Step self.net .onCreated net) ∧
        next = { self with net := net }.perform event) ∨
      (∃ call outbox, self.outbox = call :: outbox ∧ call.row? = none ∧
        next = { self with outbox := outbox }) ∨
      (∃ call outbox netAction net, self.outbox = call :: outbox ∧
        call.netAction? = some netAction ∧
        NetState.Step self.net netAction net ∧ action = .deliver ∧
        next = { self with outbox := outbox, net := net }) ∨
      ∃ netAction net, netAction.isWork = true ∧
        NetState.Step self.net netAction net ∧ action = .work netAction ∧
        next = { self with net := net } := by
  cases action with
  | operation env op =>
      simp only [step, isIdle, Option.ite_none_right_eq_some,
        Bool.and_eq_true, List.isEmpty_iff, Option.some.injEq] at taken
      obtain ⟨⟨noCalls, -⟩, rfl⟩ := taken
      exact Or.inl ⟨noCalls, _, self.net, Or.inl rfl, rfl⟩
  | deliver =>
      simp only [step] at taken
      split at taken
      · rename_i call outbox idle outboxEq
        split at taken
        · rename_i noAction
          cases taken
          refine Or.inr (Or.inl ⟨call, outbox, outboxEq, ?_, rfl⟩)
          cases call <;> simp_all [NetCall.netAction?, NetCall.row?]
        · rename_i netAction isAction
          obtain ⟨net, netTaken, rfl⟩ := Option.map_eq_some_iff.mp taken
          exact Or.inr (Or.inr (Or.inl ⟨call, outbox, netAction, net, outboxEq,
            isAction, NetState.step_cases netTaken, rfl, rfl⟩))
      · cases taken
  | work netAction =>
      simp only [step, Option.ite_none_right_eq_some,
        Option.map_eq_some_iff] at taken
      obtain ⟨isWork, net, netTaken, rfl⟩ := taken
      exact Or.inr (Or.inr (Or.inr ⟨netAction, net, isWork,
        NetState.step_cases netTaken, rfl, rfl⟩))
  | sessionCreated env =>
      simp only [step] at taken
      split at taken
      · simp only [isIdle, Option.ite_none_right_eq_some, Bool.and_eq_true,
          List.isEmpty_iff, Option.map_eq_some_iff] at taken
        obtain ⟨⟨noCalls, -⟩, net, netTaken, rfl⟩ := taken
        exact Or.inl ⟨noCalls, _, net,
          Or.inr (NetState.step_cases netTaken), rfl⟩
      · cases taken

end SdkState

section Sources

/-! Sources: the rows and the sessions that have been handed over. -/

variable (rows : List GameData) (created : List Nat)

/-- The session's data is a row of the session, and only a session that was
created has an id on the server. -/
structure GameSession.Sourced (sessionId : Nat) (session : GameSession) :
    Prop where
  ownData : session.gameData.id = sessionId
  data : session.gameData ∈ rows
  uuid : session.sessionUuid ≠ "" → sessionId ∈ created

def NetJob.Sourced : NetJob → Prop
  | submitGameData data _ => data ∈ rows
  | postSessionUpdate patch => patch.sessionId ∈ created
  | _ => True

/-- A message carries a row of a session that was created. -/
def ScoreMessage.Sourced (message : ScoreMessage) : Prop :=
  message.data ∈ rows ∧ message.data.id = message.sessionId ∧
    message.sessionId ∈ created

def CommitTask.Sourced : CommitTask → Prop
  | checkConnected sessionId session =>
      session.Sourced rows created sessionId
  | count sessionId session =>
      session.Sourced rows created sessionId ∧ sessionId ∈ created
  | publish message => message.Sourced rows created
  | _ => True

def NetAction.Sourced : NetAction → Prop
  | sessionCreate data _ => data ∈ rows ∧ data.id ∈ created
  | submitGameData data _ => data ∈ rows
  | _ => True

namespace NetState

structure Sourced (state : NetState) : Prop where
  sessions : ∀ id session, state.gameSessions.lookup id = some session →
    session.Sourced rows created id
  jobs : ∀ job ∈ state.pool, job.Sourced rows created
  commit : ∀ task, state.commitRunning = some task →
    task.Sourced rows created
  creating : ∀ creation, state.creating = some creation →
    creation.1 ∈ created
  queued : ∀ task ∈ state.sessionQueue, task.sessionId ∈ created
  running : ∀ task, state.sessionRunning.bind SessionRun.task? = some task →
    task.sessionId ∈ created
  published : ∀ message ∈ state.published, message.Sourced rows created

variable {rows created} {state next : NetState} {action : NetAction}

theorem Sourced.stored (sourced : state.Sourced rows created)
    {data : GameData} (member : data ∈ rows) (storedAt : Nat) :
    ((state.gameSessions.entry data.id).store data storedAt).Sourced rows
      created data.id where
  ownData := rfl
  data := member
  uuid := by
    have known : ∀ id session, state.gameSessions.lookup id = some session →
        session.sessionUuid ≠ "" → id ∈ created :=
      fun id session present => (sourced.sessions id session present).uuid
    exact GameSessions.forall_entry known (absurd rfl)

theorem Sourced.goOn (sourced : state.Sourced rows created)
    {thread : Fin numOfThreads} {rest : Option NetJob}
    (new : ∀ job, rest = some job → job.Sourced rows created) :
    ∀ job ∈ state.pool.goOn thread rest, job.Sourced rows created :=
  WorkerPool.forall_mem_goOn sourced.jobs new

theorem Sourced.finish (sourced : state.Sourced rows created)
    {thread : Fin numOfThreads} :
    ∀ job ∈ state.pool.goOn thread none, job.Sourced rows created :=
  sourced.goOn fun _ impossible => by cases impossible

theorem Sourced.finishSend (sourced : state.Sourced rows created)
    (sessionId : Nat) : (state.finishSend sessionId).Sourced rows created :=
  { sourced with commit := fun _ impossible => by cases impossible }

/-- A step of the network layer adds no other data and no other sessions. -/
theorem Sourced.step (sourced : state.Sourced rows created)
    (input : action.Sourced rows created) (taken : Step state action next) :
    next.Sourced rows created := by
  cases taken with
  | sessionCreate idle =>
      exact { sourced with
        sessions := GameSessions.forall_insert sourced.sessions
          (sourced.stored input.1 _)
        creating := fun _ isCreation => by cases isCreation; exact input.2 }
  | createGone creating absent =>
      exact { sourced with creating := fun _ impossible => by cases impossible }
  | createPosted creating present posted =>
      rename_i sessionId origin session post
      have known : post.sessionId ∈ created :=
        posted ▸ sourced.creating _ creating
      have own := sourced.sessions _ _ present
      exact { sourced with
        sessions := GameSessions.forall_insert sourced.sessions
          ⟨own.ownData, own.data, own.uuid⟩
        creating := fun _ impossible => by cases impossible
        queued := List.forall_mem_append.mpr
          ⟨sourced.queued, List.forall_mem_singleton.mpr known⟩ }
  | submitGameData =>
      exact { sourced with
        jobs := WorkerPool.forall_mem_post sourced.jobs input }
  | setCentrifugo => exact { sourced with }
  | setStop => exact { sourced with }
  | takeJob taken =>
      exact { sourced with
        jobs := WorkerPool.forall_mem_take sourced.jobs taken }
  | store running =>
      have member := sourced.jobs _ (WorkerPool.mem_of_thread running)
      exact { sourced with
        sessions := GameSessions.forall_insert sourced.sessions
          (sourced.stored member _)
        jobs := sourced.goOn fun _ isJob => by cases isJob; trivial }
  | sendIfDue running =>
      rename_i flags
      exact { sourced with
        jobs := sourced.goOn fun job isJob => by
          split at isJob <;> cases isJob
          trivial }
  | updateStopped running stopped => exact { sourced with jobs := sourced.finish }
  | update running notStopped =>
      exact { sourced with
        jobs := sourced.goOn fun _ isJob => by cases isJob; trivial }
  | debounce running due => exact { sourced with jobs := sourced.finish }
  | updateGone running notDue absent =>
      exact { sourced with jobs := sourced.finish }
  | updateNotReady running notDue present notReady =>
      exact { sourced with
        jobs := sourced.goOn fun _ isJob => by cases isJob; trivial }
  | updateBuilt running notDue present ready =>
      have known := (sourced.sessions _ _ present).uuid ready
      exact { sourced with
        jobs := sourced.goOn fun _ isJob => by cases isJob; exact known }
  | retry running => exact { sourced with jobs := sourced.finish }
  | postUpdate running =>
      have known := sourced.jobs _ (WorkerPool.mem_of_thread running)
      exact { sourced with
        jobs := sourced.finish
        queued := List.forall_mem_append.mpr
          ⟨sourced.queued, List.forall_mem_singleton.mpr known⟩ }
  | postSend running => exact { sourced with jobs := sourced.finish }
  | gameDataTimerExpires armed =>
      exact { sourced with
        jobs := WorkerPool.forall_mem_post sourced.jobs trivial }
  | sessionUpdateTimerExpires armed =>
      exact { sourced with
        jobs := WorkerPool.forall_mem_post sourced.jobs trivial }
  | takeCommitTask idle queued =>
      exact { sourced with commit := fun _ isTask => by cases isTask; trivial }
  | sendStarts running =>
      exact { sourced with commit := fun _ isTask => by cases isTask; trivial }
  | sendQuits running noClient => exact sourced.finishSend _
  | sendGoesOn running notStopped client =>
      exact { sourced with commit := fun _ isTask => by cases isTask; trivial }
  | snapshotGone running absent => exact sourced.finishSend _
  | snapshot running present =>
      have own := sourced.sessions _ _ present
      exact { sourced with commit := fun _ isTask => by cases isTask; exact own }
  | sendSkips running =>
      exact { sourced with commit := fun _ isTask => by cases isTask; trivial }
  | sendConnected running ready =>
      have own := sourced.commit _ running
      exact { sourced with
        commit := fun _ isTask => by cases isTask; exact ⟨own, own.uuid ready⟩ }
  | countGone running absent => exact sourced.finishSend _
  | count running present =>
      obtain ⟨own, known⟩ := sourced.commit _ running
      have stored := sourced.sessions _ _ present
      exact { sourced with
        sessions := GameSessions.forall_insert sourced.sessions
          ⟨stored.ownData, stored.data, stored.uuid⟩
        commit := fun _ isTask => by
          cases isTask
          exact ⟨own.data, own.ownData, known⟩ }
  | publish running =>
      have own := sourced.commit _ running
      exact { sourced with
        commit := fun _ isTask => by cases isTask; trivial
        published := List.forall_mem_append.mpr
          ⟨sourced.published, List.forall_mem_singleton.mpr own⟩ }
  | rearm running active =>
      rename_i sessionId data
      exact { sourced.finishSend sessionId with }
  | lastSend running inactive => exact sourced.finishSend _
  | takeSessionTask idle queued =>
      have all := queued ▸ sourced.queued
      rw [List.forall_mem_cons] at all
      exact { sourced with
        queued := all.2
        running := fun _ isTask => by cases isTask; exact all.1 }
  | refuse running =>
      exact { sourced with running := fun _ impossible => by cases impossible }
  | request running =>
      have known := sourced.running _ (by rw [running]; rfl)
      exact { sourced with
        running := fun _ isTask => by cases isTask; exact known }
  | again running =>
      have known := sourced.running _ (by rw [running]; rfl)
      exact { sourced with
        running := fun _ isTask => by cases isTask; exact known }
  | giveUp running noUpdate =>
      exact { sourced with running := fun _ impossible => by cases impossible }
  | updateKept running active =>
      exact { sourced with running := fun _ impossible => by cases impossible }
  | updateErased running inactive =>
      exact { sourced with
        sessions := GameSessions.forall_erase sourced.sessions _
        running := fun _ impossible => by cases impossible }
  | created running present =>
      have known := sourced.running _ (by rw [running]; rfl)
      have own := sourced.sessions _ _ present
      exact { sourced with
        sessions := GameSessions.forall_insert sourced.sessions
          ⟨own.ownData, own.data, fun _ => known⟩
        running := fun _ impossible => by
          split at impossible <;> cases impossible }
  | onCreated running =>
      exact { sourced with running := fun _ impossible => by cases impossible }

/-- More rows and more sessions may be handed over. -/
theorem Sourced.mono (sourced : state.Sourced rows created)
    {moreRows : List GameData} {moreCreated : List Nat}
    (rowsSubset : rows ⊆ moreRows) (createdSubset : created ⊆ moreCreated) :
    state.Sourced moreRows moreCreated where
  sessions id session present :=
    let own := sourced.sessions id session present
    ⟨own.ownData, rowsSubset own.data, fun ready => createdSubset (own.uuid ready)⟩
  jobs job member := by
    have own := sourced.jobs job member
    cases job with
    | submitGameData data flags => exact rowsSubset own
    | postSessionUpdate patch => exact createdSubset own
    | _ => trivial
  commit task running := by
    have own := sourced.commit task running
    cases task with
    | checkConnected sessionId session =>
        exact ⟨own.ownData, rowsSubset own.data,
          fun ready => createdSubset (own.uuid ready)⟩
    | count sessionId session =>
        exact ⟨⟨own.1.ownData, rowsSubset own.1.data,
          fun ready => createdSubset (own.1.uuid ready)⟩, createdSubset own.2⟩
    | publish message =>
        exact ⟨rowsSubset own.1, own.2.1, createdSubset own.2.2⟩
    | _ => trivial
  creating creation isCreation :=
    createdSubset (sourced.creating creation isCreation)
  queued task member := createdSubset (sourced.queued task member)
  running task isTask := createdSubset (sourced.running task isTask)
  published message member :=
    let own := sourced.published message member
    ⟨rowsSubset own.1, own.2.1, createdSubset own.2.2⟩

end NetState

end Sources

theorem NetCall.netAction_sourced {game : GameStateRun} {call : NetCall}
    (member : call ∈ game.calls) {action : NetAction}
    (isAction : call.netAction? = some action) :
    action.Sourced game.rows game.created := by
  cases call with
  | sessionCreate data origin =>
      cases isAction
      exact ⟨List.mem_filterMap.mpr ⟨_, member, rfl⟩,
        List.mem_filterMap.mpr ⟨_, member, rfl⟩⟩
  | submitGameData data flags =>
      cases isAction
      exact List.mem_filterMap.mpr ⟨_, member, rfl⟩
  | scheduleDelayedOnWorker delay => cases isAction
  | cancelModeExpiryTimer => cases isAction

theorem NetAction.sourced_of_isWork {rows : List GameData} {created : List Nat}
    {action : NetAction} (isWork : action.isWork = true) :
    action.Sourced rows created := by
  cases action <;> trivial

namespace SdkState

/-- What every run keeps. -/
structure Valid (state : SdkState) : Prop where
  game : state.game.Valid
  outbox : state.outbox ⊆ state.game.calls
  net : state.net.Sourced state.game.rows state.game.created

theorem valid_initially : Valid {} where
  game := GameStateRun.valid_initially
  outbox := List.nil_subset _
  net := {
    sessions := fun id session present => by simp at present
    jobs := fun job member => absurd member WorkerPool.not_mem_empty
    commit := fun _ impossible => by cases impossible
    creating := fun _ impossible => by cases impossible
    queued := fun _ impossible => by cases impossible
    running := fun _ impossible => by cases impossible
    published := fun _ impossible => by cases impossible }

theorem step_valid {self next : SdkState} {action : SdkAction}
    (valid : self.Valid) (taken : self.step action = some next) :
    next.Valid := by
  rcases step_cases taken with
    ⟨-, event, net, netCases, rfl⟩ | ⟨call, outbox, outboxEq, -, rfl⟩ |
      ⟨call, outbox, netAction, net, outboxEq, isAction, netTaken, -, rfl⟩ |
      ⟨netAction, net, isWork, netTaken, -, rfl⟩
  · have netSourced : net.Sourced self.game.rows self.game.created := by
      rcases netCases with rfl | netTaken
      · exact valid.net
      · have input : NetAction.onCreated.Sourced self.game.rows
            self.game.created := trivial
        exact valid.net.step input netTaken
    exact {
      game := GameStateRun.record_valid valid.game self.game.awaiting event
      outbox := List.subset_append_right _ _
      net := netSourced.mono
        (GameStateRun.record_rows _ _ ▸ List.subset_append_left _ _)
        (GameStateRun.record_created _ _ ▸ List.subset_append_left _ _) }
  · have subset : outbox ⊆ self.outbox :=
      outboxEq ▸ List.subset_cons_self call outbox
    exact { valid with outbox := List.Subset.trans subset valid.outbox }
  · have subset : outbox ⊆ self.outbox :=
      outboxEq ▸ List.subset_cons_self call outbox
    have called : call ∈ self.game.calls :=
      valid.outbox (outboxEq ▸ List.mem_cons_self)
    exact {
      game := valid.game
      outbox := List.Subset.trans subset valid.outbox
      net := valid.net.step (NetCall.netAction_sourced called isAction)
        netTaken }
  · exact { valid with
      net := valid.net.step (NetAction.sourced_of_isWork isWork) netTaken }

/-- A row that has been handed over and is not stored yet. -/
def Unstored (state : SdkState) (row : GameData) : Prop :=
  (∃ call ∈ state.outbox, call.row? = some row) ∨
    ∃ flags, NetJob.submitGameData row flags ∈ state.net.pool

/-- What a step of `Net` under the state machine does to the rows that wait to
be stored: none comes up, and one goes when it is stored. -/
structure NetStep (before : SdkState) (action : SdkAction) (after : SdkState)
    (netAction : NetAction) : Prop where
  game : after.game = before.game
  taken : NetState.Step before.net netAction after.net
  unstored : ∀ row, after.Unstored row → before.Unstored row
  stored : ∀ row, before.Unstored row → after.Unstored row ∨
    after.net.gameSessions = before.net.gameSessions.insert row.id
      ((before.net.gameSessions.entry row.id).store row before.net.stores)
  storing : ∀ data, (∃ origin, netAction = .sessionCreate data origin) ∨
    (∃ flags, NetJob.submitGameData data flags ∈ before.net.pool) →
      before.Unstored data
  reply : ∀ reply, netAction = .replySessionTask reply →
    action = .work (.replySessionTask reply)

theorem netStep_deliver {self : SdkState} {call : NetCall}
    {outbox : List NetCall} {netAction : NetAction} {net : NetState}
    (outboxEq : self.outbox = call :: outbox)
    (isAction : call.netAction? = some netAction)
    (taken : NetState.Step self.net netAction net) :
    NetStep self .deliver { self with outbox := outbox, net := net }
      netAction where
  game := rfl
  taken := taken
  unstored := by
    rintro row (⟨waiting, member, isRow⟩ | ⟨flags, member⟩)
    · exact Or.inl ⟨waiting, outboxEq ▸ List.mem_cons_of_mem call member, isRow⟩
    · rcases taken.mem_submitted member with old | rfl
      · exact Or.inr ⟨flags, old⟩
      · refine Or.inl ⟨call, outboxEq ▸ List.mem_cons_self, ?_⟩
        cases call <;> cases isAction
        rfl
  stored := by
    rintro row (⟨waiting, member, isRow⟩ | ⟨flags, member⟩)
    · rw [outboxEq, List.mem_cons] at member
      rcases member with rfl | later
      · cases waiting with
        | sessionCreate data origin =>
            cases isAction
            cases isRow
            cases taken
            exact Or.inr rfl
        | submitGameData data flags =>
            cases isAction
            cases isRow
            cases taken
            exact Or.inl (Or.inr ⟨flags, WorkerPool.mem_post.mpr (Or.inr rfl)⟩)
        | scheduleDelayedOnWorker delay => cases isAction
        | cancelModeExpiryTimer => cases isAction
      · exact Or.inl (Or.inl ⟨waiting, later, isRow⟩)
    · rcases taken.submitted_stored member with kept | stored
      · exact Or.inl (Or.inr ⟨flags, kept⟩)
      · exact Or.inr stored
  storing := by
    rintro data (⟨origin, rfl⟩ | ⟨flags, member⟩)
    · refine Or.inl ⟨call, outboxEq ▸ List.mem_cons_self, ?_⟩
      cases call <;> cases isAction
      rfl
    · exact Or.inr ⟨flags, member⟩
  reply := by
    rintro reply rfl
    cases call <;> cases isAction

theorem netStep_work {self : SdkState} {netAction : NetAction} {net : NetState}
    (isWork : netAction.isWork = true)
    (taken : NetState.Step self.net netAction net) :
    NetStep self (.work netAction) { self with net := net } netAction where
  game := rfl
  taken := taken
  unstored := by
    rintro row (waiting | ⟨flags, member⟩)
    · exact Or.inl waiting
    · rcases taken.mem_submitted member with old | rfl
      · exact Or.inr ⟨flags, old⟩
      · cases isWork
  stored := by
    rintro row (waiting | ⟨flags, member⟩)
    · exact Or.inl (Or.inl waiting)
    · rcases taken.submitted_stored member with kept | stored
      · exact Or.inl (Or.inr ⟨flags, kept⟩)
      · exact Or.inr stored
  storing := by
    rintro data (⟨origin, rfl⟩ | ⟨flags, member⟩)
    · cases isWork
    · exact Or.inr ⟨flags, member⟩
  reply := by
    rintro reply rfl
    rfl

/-- No call and no closure is left to run. -/
def isQuiet (state : SdkState) : Bool :=
  state.outbox.isEmpty && state.net.pool.isIdle

theorem not_unstored_of_isQuiet {state : SdkState}
    (quiet : state.isQuiet = true) (row : GameData) : ¬ state.Unstored row := by
  simp only [isQuiet, Bool.and_eq_true, List.isEmpty_iff] at quiet
  rintro (⟨call, waiting, -⟩ | ⟨flags, inPool⟩)
  · rw [quiet.1] at waiting
    cases waiting
  · exact WorkerPool.not_mem_of_isIdle quiet.2 _ inPool

/-- A game of one player is started, its session is created and its first
data is stored. -/
def startedGame : List SdkAction :=
  [.operation {} (.setGameStarted .startButton), .deliver, .deliver,
    .work .createSessionCreateTask, .work .takeSessionTask,
    .work .requestSessionTask,
    .work (.replySessionTask (.success (some "uuid"))), .sessionCreated {},
    .deliver, .work (.takeJob 0), .work (.runJob 0), .work (.runJob 0),
    .work (.runJob 0), .work (.runJob 0)]

/-- A thread takes the next closure, runs it to the end and has the update it
builds sent to the server. -/
def updateSent : List SdkAction :=
  [.work (.takeJob 0), .work (.runJob 0), .work (.runJob 0),
    .work (.runJob 0), .work (.runJob 0), .work (.runJob 0),
    .work .takeSessionTask, .work .requestSessionTask]

end SdkState

end ScorbitSdk
