import ScorbitSdk.PendingSends
import ScorbitSdk.SessionUpdates

/-!
# The chain of sends

A send stops the one timer of all sessions when it starts, returns early
without a client, and arms the timer at its end if the data it has read is
active.  The chain of a session breaks where its timer is stopped by the send of
another session, where its send finds no client, and where its data becomes
active again behind the back of its last send.
-/

namespace ScorbitSdk

def CommitTask.sessionId : CommitTask → Nat
  | stopTimer sessionId => sessionId
  | checkClient sessionId => sessionId
  | snapshot sessionId => sessionId
  | checkConnected sessionId _ => sessionId
  | count sessionId _ => sessionId
  | publish message => message.sessionId
  | startTimer sessionId _ => sessionId

namespace NetState

/-- The session is there and its stored data is active. -/
def IsActive (state : NetState) (sessionId : Nat) : Prop :=
  ∃ session, state.gameSessions.lookup sessionId = some session ∧
    session.gameData.isGameActive = true

/-- A send of the session is running on the commit strand. -/
def Sending (state : NetState) (sessionId : Nat) : Prop :=
  ∃ task, state.commitRunning = some task ∧ task.sessionId = sessionId

/-- Every active session whose first send has run has a send to come. -/
def ChainKept (state : NetState) : Prop :=
  state.stop = false → ∀ sessionId ∈ state.sent, state.IsActive sessionId →
    state.SendQueued sessionId ∨ state.Sending sessionId

/-- Active data is stored into an active session, or into one that has a send
to come. -/
def StoresInChain (state : NetState) (data : GameData) : Prop :=
  data.isGameActive = true → data.id ∈ state.sent →
    state.IsActive data.id ∨ state.SendQueued data.id ∨
      state.Sending data.id

/-- The step of a send drops no chain: not that of the session whose timer it
stops, not its own where there is no client, and not its own at its end. -/
def SendsInChain (state : NetState) : CommitTask → Prop
  | .stopTimer sessionId => ∀ other, state.gameDataTimer = some other →
      other ≠ sessionId → other ∈ state.sent → state.IsActive other →
        state.SendPosted other
  | .checkClient sessionId => state.centrifugo = none →
      state.IsActive sessionId → state.SendQueued sessionId
  | .startTimer sessionId data => data.isGameActive = false →
      state.IsActive sessionId → state.SendQueued sessionId
  | _ => True

def KeepsChain (state : NetState) (action : NetAction) : Prop :=
  state.stop = false →
    match action with
    | .sessionCreate data _ => state.StoresInChain data
    | .runJob thread => ∀ data flags,
        state.pool.threads thread = some (.submitGameData data flags) →
          isSendDue data (state.gameSessions.entry data.id).sessionCounter =
              true ∨ state.StoresInChain data
    | .runCommitTask => ∀ task, state.commitRunning = some task →
        state.SendsInChain task
    | _ => True

/-- Besides the chain, the timer is free once a send has started. -/
structure Chained (state : NetState) : Prop where
  timerFree : ∀ task, state.commitRunning = some task →
    (∀ sessionId, task ≠ .stopTimer sessionId) → state.gameDataTimer = none
  kept : state.ChainKept

variable {state next : NetState} {action : NetAction} {sessionId : Nat}

theorem Step.stop_before (taken : Step state action next)
    (running : next.stop = false) : state.stop = false := by
  cases taken with
  | setStop => cases running
  | _ => exact running

theorem IsActive.of_insert {newId : Nat} {changed : GameSession}
    (active : ∃ session,
      (state.gameSessions.insert newId changed).lookup sessionId =
        some session ∧ session.gameData.isGameActive = true) :
    (newId = sessionId ∧ changed.gameData.isGameActive = true) ∨
      state.IsActive sessionId := by
  obtain ⟨session, present, isActive⟩ := active
  rcases Finmap.lookup_insert_cases present with ⟨same, rfl⟩ | ⟨-, old⟩
  · exact Or.inl ⟨same.symm, isActive⟩
  · exact Or.inr ⟨session, old, isActive⟩

/-- A session becomes active when active data is stored. -/
theorem Step.isActive_before (taken : Step state action next)
    (active : next.IsActive sessionId) :
    state.IsActive sessionId ∨ ∃ data : GameData, data.id = sessionId ∧
      data.isGameActive = true ∧
      ((∃ origin, action = .sessionCreate data origin) ∨
        ∃ thread flags, action = .runJob thread ∧
          state.pool.threads thread = some (.submitGameData data flags)) := by
  cases taken with
  | sessionCreate idle =>
      rcases IsActive.of_insert active with ⟨same, isActive⟩ | old
      · exact Or.inr ⟨_, same, isActive, Or.inl ⟨_, rfl⟩⟩
      · exact Or.inl old
  | store running =>
      rcases IsActive.of_insert active with ⟨same, isActive⟩ | old
      · exact Or.inr ⟨_, same, isActive, Or.inr ⟨_, _, rfl, running⟩⟩
      · exact Or.inl old
  | createPosted creating present posted =>
      rcases IsActive.of_insert active with ⟨rfl, isActive⟩ | old
      · exact Or.inl ⟨_, present, isActive⟩
      · exact Or.inl old
  | count running present =>
      rcases IsActive.of_insert active with ⟨rfl, isActive⟩ | old
      · exact Or.inl ⟨_, present, isActive⟩
      · exact Or.inl old
  | created running present =>
      rcases IsActive.of_insert active with ⟨rfl, isActive⟩ | old
      · exact Or.inl ⟨_, present, isActive⟩
      · exact Or.inl old
  | updateErased running inactive =>
      obtain ⟨session, present, isActive⟩ := active
      exact Or.inl ⟨session, (Finmap.lookup_of_erase present).2, isActive⟩
  | _ => exact Or.inl active

/-- Off the commit strand every send to come stays so. -/
theorem Step.chain_after (taken : Step state action next)
    (offStrand : action ≠ .runCommitTask)
    (pending : state.SendQueued sessionId ∨ state.Sending sessionId) :
    next.SendQueued sessionId ∨ next.Sending sessionId := by
  rcases pending with (armed | posted) | ⟨task, running, sameId⟩
  · cases taken with
    | gameDataTimerExpires isArmed =>
        rw [isArmed, Option.some.injEq] at armed
        subst armed
        exact Or.inl (Or.inr (Or.inr
          ⟨_, WorkerPool.mem_post.mpr (Or.inr rfl), rfl⟩))
    | sendStarts => exact absurd rfl offStrand
    | rearm => exact absurd rfl offStrand
    | _ => exact Or.inl (Or.inl armed)
  · rcases taken.sendPosted_after posted with stays | isTaken
    · exact Or.inl (Or.inr stays)
    · exact Or.inr ⟨_, isTaken, rfl⟩
  · right
    cases taken with
    | takeCommitTask idle queued =>
        rw [idle] at running
        cases running
    | _ =>
        first
        | exact ⟨task, running, sameId⟩
        | exact absurd rfl offStrand

theorem Step.sent_eq (taken : Step state action next)
    (offStrand : action ≠ .runCommitTask) : next.sent = state.sent := by
  cases taken <;> first | rfl | exact absurd rfl offStrand

/-- Data that is due to be sent has a send to come once it is stored. -/
theorem Step.stored_due {thread : Fin numOfThreads} {data : GameData}
    {flags : SessionFlags} (taken : Step state (.runJob thread) next)
    (runs : state.pool.threads thread = some (.submitGameData data flags))
    (due : isSendDue data (state.gameSessions.entry data.id).sessionCounter =
      true) : next.SendQueued data.id := by
  cases taken with
  | store running =>
      rw [runs] at running
      cases running
      exact Or.inr (Or.inr
        ⟨_, WorkerPool.mem_goOn.mpr (Or.inl rfl), rfl, due⟩)
  | _ =>
      rename_i running
      rw [runs] at running
      cases running

/-- Steps off the commit strand keep the chain. -/
theorem Chained.keep_offStrand (chained : state.Chained)
    (keeps : state.KeepsChain action) (taken : Step state action next)
    (offStrand : action ≠ .runCommitTask) : next.ChainKept := by
  intro running id member active
  have running : state.stop = false := taken.stop_before running
  rw [taken.sent_eq offStrand] at member
  have stored : ∀ data, state.StoresInChain data → data.id = id →
      data.isGameActive = true → next.SendQueued id ∨ next.Sending id := by
    rintro data inChain rfl isActive
    rcases inChain isActive member with wasActive | pending
    · exact taken.chain_after offStrand
        (chained.kept running data.id member wasActive)
    · exact taken.chain_after offStrand pending
  rcases taken.isActive_before active with
    wasActive | ⟨data, rfl, isActive, ⟨origin, rfl⟩ | ⟨thread, flags, rfl, runs⟩⟩
  · exact taken.chain_after offStrand (chained.kept running id member wasActive)
  · exact stored data (keeps running) rfl isActive
  · rcases keeps running data flags runs with due | inChain
    · exact Or.inl (taken.stored_due runs due)
    · exact stored data inChain rfl isActive

/-- Another session's send to come is not the one that is running. -/
theorem SendQueued.of_not_running {task : CommitTask}
    (pending : state.SendQueued sessionId ∨ state.Sending sessionId)
    (running : state.commitRunning = some task)
    (other : task.sessionId ≠ sessionId) : state.SendQueued sessionId := by
  rcases pending with queued | ⟨own, isRunning, sameId⟩
  · exact queued
  · rw [running, Option.some.injEq] at isRunning
    exact absurd (isRunning ▸ sameId) other

/-- A send that ends keeps the chain when a send of its session is still to
come. -/
theorem Chained.keep_finished (chained : state.Chained) {task : CommitTask}
    (running : state.commitRunning = some task)
    (sameStop : next.stop = state.stop)
    (sameSessions : next.gameSessions = state.gameSessions)
    (sent : next.sent = state.sent ++ [task.sessionId])
    (own : state.stop = false → next.IsActive task.sessionId →
      next.SendQueued task.sessionId)
    (others : ∀ id, id ≠ task.sessionId → state.SendQueued id →
      next.SendQueued id) : next.ChainKept := by
  intro notStopped id member active
  rw [sameStop] at notStopped
  left
  by_cases same : id = task.sessionId
  · exact same ▸ own notStopped (same ▸ active)
  · have wasSent : id ∈ state.sent := by
      rw [sent, List.mem_append, List.mem_singleton] at member
      exact member.resolve_right same
    have wasActive : state.IsActive id := by
      unfold IsActive at active ⊢
      rwa [sameSessions] at active
    have pending := chained.kept notStopped id wasSent wasActive
    exact others id same
      (SendQueued.of_not_running pending running (Ne.symm same))

/-- A send that goes on is still to come. -/
theorem Chained.keep_goesOn (chained : state.Chained) {task later : CommitTask}
    (running : state.commitRunning = some task)
    (goesOn : next.commitRunning = some later)
    (sameId : later.sessionId = task.sessionId)
    (sameStop : next.stop = state.stop) (sameSent : next.sent = state.sent)
    (wasActive : ∀ id, next.IsActive id → state.IsActive id)
    (others : ∀ id, id ≠ task.sessionId → state.SendQueued id →
      state.stop = false → id ∈ state.sent → state.IsActive id →
        next.SendQueued id) : next.ChainKept := by
  intro notStopped id member active
  rw [sameStop] at notStopped
  rw [sameSent] at member
  have wasActive := wasActive id active
  by_cases same : id = task.sessionId
  · exact Or.inr ⟨later, goesOn, sameId.trans same.symm⟩
  · have pending := chained.kept notStopped id member wasActive
    have queued :=
      SendQueued.of_not_running pending running (Ne.symm same)
    exact Or.inl (others id same queued notStopped member wasActive)

theorem Chained.keep_onStrand (chained : state.Chained)
    (keeps : state.KeepsChain .runCommitTask)
    (taken : Step state .runCommitTask next) : next.ChainKept := by
  have goesOn : ∀ {task later : CommitTask},
      state.commitRunning = some task → next.commitRunning = some later →
      later.sessionId = task.sessionId → next.stop = state.stop →
      next.sent = state.sent → (∀ id, next.IsActive id → state.IsActive id) →
      (∀ id, state.SendQueued id → next.SendQueued id) → next.ChainKept :=
    fun running later sameId sameStop sameSent wasActive kept =>
      chained.keep_goesOn running later sameId sameStop sameSent wasActive
        fun id _ queued _ _ _ => kept id queued
  have gone : ∀ {id : Nat}, state.gameSessions.lookup id = none →
      ¬ state.IsActive id := by
    rintro id absent ⟨session, present, -⟩
    rw [absent] at present
    cases present
  cases taken with
  | sendStarts running =>
      refine chained.keep_goesOn running rfl rfl rfl rfl (fun _ => id) ?_
      rintro other different (armed | posted) notStopped member active
      · exact Or.inr (keeps notStopped _ running other armed different member
          active)
      · exact Or.inr posted
  | sendQuits running noClient =>
      refine chained.keep_finished running rfl rfl rfl ?_ fun _ _ => id
      intro notStopped active
      rcases noClient with stopped | noClient
      · rw [notStopped] at stopped
        cases stopped
      · exact keeps notStopped _ running noClient active
  | sendGoesOn running notStopped client =>
      exact goesOn running rfl rfl rfl rfl (fun _ => id) fun _ => id
  | snapshotGone running absent =>
      refine chained.keep_finished running rfl rfl rfl ?_ fun _ _ => id
      exact fun _ active => absurd active (gone absent)
  | snapshot running present =>
      exact goesOn running rfl rfl rfl rfl (fun _ => id) fun _ => id
  | sendSkips running =>
      exact goesOn running rfl rfl rfl rfl (fun _ => id) fun _ => id
  | sendConnected running ready =>
      exact goesOn running rfl rfl rfl rfl (fun _ => id) fun _ => id
  | countGone running absent =>
      refine chained.keep_finished running rfl rfl rfl ?_ fun _ _ => id
      exact fun _ active => absurd active (gone absent)
  | count running present =>
      refine goesOn running rfl rfl rfl rfl (fun id active => ?_) fun _ => id
      rcases IsActive.of_insert active with ⟨rfl, isActive⟩ | old
      · exact ⟨_, present, isActive⟩
      · exact old
  | publish running =>
      exact goesOn running rfl rfl rfl rfl (fun _ => id) fun _ => id
  | rearm running active =>
      refine chained.keep_finished running rfl rfl rfl
        (fun _ _ => Or.inl rfl) ?_
      rintro id different (armed | posted)
      · have free := chained.timerFree _ running fun _ => nofun
        rw [free] at armed
        cases armed
      · exact Or.inr posted
  | lastSend running inactive =>
      refine chained.keep_finished running rfl rfl rfl ?_ fun _ _ => id
      exact fun notStopped active =>
        keeps notStopped _ running inactive active

theorem Chained.step (chained : state.Chained)
    (keeps : state.KeepsChain action) (taken : Step state action next) :
    next.Chained where
  timerFree := by
    have free := chained.timerFree
    intro task running started
    cases taken with
    | gameDataTimerExpires armed => rfl
    | takeCommitTask idle queued =>
        cases running
        exact absurd rfl (started _)
    | sendStarts wasRunning => rfl
    | sendQuits => cases running
    | sendGoesOn wasRunning => exact free _ wasRunning fun _ => nofun
    | snapshotGone => cases running
    | snapshot wasRunning present => exact free _ wasRunning fun _ => nofun
    | sendSkips wasRunning => exact free _ wasRunning fun _ => nofun
    | sendConnected wasRunning ready => exact free _ wasRunning fun _ => nofun
    | countGone => cases running
    | count wasRunning present => exact free _ wasRunning fun _ => nofun
    | publish wasRunning => exact free _ wasRunning fun _ => nofun
    | rearm => cases running
    | lastSend => cases running
    | _ => exact free task running started
  kept := by
    by_cases onStrand : action = .runCommitTask
    · subst onStrand
      exact chained.keep_onStrand keeps taken
    · exact chained.keep_offStrand keeps taken onStrand

/-- In a run whose steps drop no chain, no chain breaks. -/
theorem chainKept {actions : List NetAction} {final : NetState}
    (reached : Transition.run step {} actions = some final)
    (keeps : Transition.HoldsAlong step KeepsChain {} actions) :
    final.ChainKept := by
  have preserved : ∀ (state : NetState) action next, state.Chained →
      state.KeepsChain action → state.step action = some next →
        next.Chained :=
    fun _ _ _ chained holds taken => chained.step holds (step_cases taken)
  have initially : Chained {} := {
    timerFree := fun _ impossible => by cases impossible
    kept := fun _ _ impossible => by cases impossible }
  exact (Transition.run_preserves preserved reached keeps initially).kept

/-- Whether the step finds nothing of a chain to drop. -/
def dropsNothing (state : NetState) : NetAction → Bool
  | .sessionCreate data _ => data.id ∉ state.sent
  | .runJob thread =>
      match state.pool.threads thread with
      | some (.submitGameData data _) =>
          data.id ∉ state.sent ||
            (state.gameSessions.lookup data.id).any (·.gameData.isGameActive)
      | _ => true
  | .runCommitTask =>
      match state.commitRunning with
      | some (.stopTimer _) => state.gameDataTimer.isNone
      | some (.checkClient _) => state.centrifugo.isSome
      | some (.startTimer _ data) => data.isGameActive
      | _ => true
  | _ => true

theorem keepsChain_of_dropsNothing (state : NetState) (action : NetAction)
    (nothing : state.dropsNothing action = true) :
    state.KeepsChain action := by
  intro _
  cases action with
  | sessionCreate data origin =>
      intro _ member
      simp only [dropsNothing, decide_eq_true_eq] at nothing
      exact absurd member nothing
  | runJob thread =>
      intro data flags runs
      right
      intro _ member
      simp only [dropsNothing, runs, Bool.or_eq_true, decide_eq_true_eq,
        Option.any_eq_true] at nothing
      exact Or.inl (nothing.resolve_left fun notSent => notSent member)
  | runCommitTask =>
      intro task running
      simp only [dropsNothing, running] at nothing
      cases task with
      | stopTimer id =>
          intro other armed
          rw [armed] at nothing
          cases nothing
      | checkClient id =>
          intro noClient
          rw [noClient] at nothing
          cases nothing
      | startTimer id data =>
          intro inactive
          simp only [inactive] at nothing
          cases nothing
      | _ => trivial
  | _ => trivial

/-- The commit strand takes the next send and runs it to its end. -/
def sendRun : List NetAction :=
  [.takeCommitTask, .runCommitTask, .runCommitTask, .runCommitTask,
    .runCommitTask, .runCommitTask, .runCommitTask, .runCommitTask]

/-- An active game whose first message has been published. -/
def publishingGame : List NetAction :=
  [.setCentrifugo (some .connected),
    .sessionCreate (onePlayerData 1 true) .startButton,
    .createSessionCreateTask, .takeSessionTask, .requestSessionTask,
    .replySessionTask (.success (some "uuid")), .onCreated,
    .submitGameData (onePlayerData 1 true) {}, .takeJob 0, .runJob 0,
    .runJob 0] ++ sendRun

theorem chainKept_publishingGame :
    ∃ final, Transition.run step {} (publishingGame ++
        [.gameDataTimerExpires, .takeJob 0, .runJob 0] ++ sendRun) =
          some final ∧ final.published.length = 2 ∧ final.ChainKept := by
  have evaluated : ((Transition.run step {} (publishingGame ++
      [.gameDataTimerExpires, .takeJob 0, .runJob 0] ++ sendRun)).any
        fun final => final.published.length = 2) = true := by
    decide +kernel
  obtain ⟨final, reached, twoPublished⟩ := (Option.any_eq_true _ _).mp evaluated
  refine ⟨final, reached, by simpa using twoPublished, chainKept reached ?_⟩
  exact .of_checksAlong keepsChain_of_dropsNothing (by decide +kernel)

/-- The client is retired; by the time it is set up again, the timer has
expired and its send has returned early. -/
def rebuiltClientGame : List NetAction :=
  publishingGame ++ [.setCentrifugo none, .gameDataTimerExpires, .takeJob 0,
    .runJob 0, .takeCommitTask, .runCommitTask, .runCommitTask,
    .setCentrifugo (some .connected)]

/-- Whether the session is active and no send is to come. -/
def isBroken (state : NetState) (sessionId : Nat) : Bool :=
  !state.stop && state.sent.contains sessionId &&
    (state.gameSessions.lookup sessionId).any (·.gameData.isGameActive) &&
    state.gameDataTimer.isNone && state.commitQueue.isEmpty &&
    state.pool.isIdle && state.commitRunning.isNone

theorem chainBroken_rebuiltClient :
    ∃ final, Transition.run step {} rebuiltClientGame = some final ∧
      final.centrifugo = some .connected ∧ ¬ final.ChainKept := by
  have evaluated : ((Transition.run step {} rebuiltClientGame).any
      fun final => decide (final.centrifugo = some .connected) &&
        final.isBroken 1) = true := by
    decide +kernel
  obtain ⟨final, reached, broken⟩ := (Option.any_eq_true _ _).mp evaluated
  simp only [isBroken, Bool.and_eq_true, decide_eq_true_eq,
    Bool.not_eq_true', List.contains_iff_mem, Option.any_eq_true,
    Option.isNone_iff_eq_none, List.isEmpty_iff] at broken
  obtain ⟨connected, ⟨⟨⟨⟨⟨notStopped, member⟩, active⟩, notArmed⟩,
    noneQueued⟩, poolIdle⟩, strandIdle⟩ := broken
  refine ⟨final, reached, connected, fun kept => ?_⟩
  rcases kept notStopped 1 member active with
    (armed | queued | ⟨job, inPool, -⟩) | ⟨task, running, -⟩
  · rw [notArmed] at armed
    cases armed
  · rw [noneQueued] at queued
    cases queued
  · exact WorkerPool.not_mem_of_isIdle poolIdle job inPool
  · rw [strandIdle] at running
    cases running

end NetState

end ScorbitSdk
