import ScorbitSdk.NetSessions

/-!
# What a step of the network layer can do

One case for each way a step can go, with the branch conditions it was taken
under and the state it leads to.  The invariants of the network layer are
proved by going through these cases.
-/

namespace ScorbitSdk

namespace NetState

inductive Step (state : NetState) : NetAction → NetState → Prop
  | sessionCreate {data : GameData} {origin : GameStartOrigin}
      (idle : state.creating = none) :
      Step state (.sessionCreate data origin)
        { state with
          gameSessions := state.gameSessions.insert data.id
            ((state.gameSessions.entry data.id).store data state.stores)
          stores := state.stores + 1
          creating := some (data.id, origin) }
  | createGone {sessionId : Nat} {origin : GameStartOrigin}
      (creating : state.creating = some (sessionId, origin))
      (absent : state.gameSessions.lookup sessionId = none) :
      Step state .createSessionCreateTask { state with creating := none }
  | createPosted {sessionId : Nat} {origin : GameStartOrigin}
      {session : GameSession} {post : SessionPost}
      (creating : state.creating = some (sessionId, origin))
      (present : state.gameSessions.lookup sessionId = some session)
      (posted : post.sessionId = sessionId) :
      Step state .createSessionCreateTask
        { state with
          gameSessions := state.gameSessions.insert sessionId
            { session with sessionCounter := session.sessionCounter + 1 }
          sessionQueue := state.sessionQueue ++ [.create post]
          creating := none }
  | submitGameData {data : GameData} {flags : SessionFlags} :
      Step state (.submitGameData data flags)
        { state with pool := state.pool.post (.submitGameData data flags) }
  | setCentrifugo {client : Option ConnectionState} :
      Step state (.setCentrifugo client) { state with centrifugo := client }
  | setStop : Step state .setStop { state with stop := true }
  | takeJob {thread : Fin numOfThreads} {pool : WorkerPool numOfThreads NetJob}
      (taken : state.pool.take thread = some pool) :
      Step state (.takeJob thread) { state with pool := pool }
  | store {thread : Fin numOfThreads} {data : GameData} {flags : SessionFlags}
      (running : state.pool.threads thread =
        some (.submitGameData data flags)) :
      Step state (.runJob thread)
        { state with
          gameSessions := state.gameSessions.insert data.id
            ((state.gameSessions.entry data.id).store data state.stores)
          stores := state.stores + 1
          pool := state.pool.goOn thread
            (some (.sendIfDue data
              (state.gameSessions.entry data.id).sessionCounter flags)) }
  | sendIfDue {thread : Fin numOfThreads} {data : GameData} {counter : Nat}
      {flags : SessionFlags}
      (running : state.pool.threads thread =
        some (.sendIfDue data counter flags)) :
      Step state (.runJob thread)
        { state with
          commitQueue :=
            if isSendDue data counter then state.commitQueue ++ [data.id]
            else state.commitQueue
          pool := state.pool.goOn thread
            (if flags.isSet then some (.sessionUpdate data.id flags)
            else none) }
  | updateStopped {thread : Fin numOfThreads} {sessionId : Nat}
      {flags : SessionFlags}
      (running : state.pool.threads thread =
        some (.sessionUpdate sessionId flags))
      (stopped : state.stop = true) :
      Step state (.runJob thread)
        { state with pool := state.pool.goOn thread none }
  | update {thread : Fin numOfThreads} {sessionId : Nat} {flags : SessionFlags}
      (running : state.pool.threads thread =
        some (.sessionUpdate sessionId flags))
      (notStopped : state.stop = false) :
      Step state (.runJob thread)
        { state with
          sessionUpdateTimer := none
          updateCalls := state.updateCalls ++ [(sessionId, flags)]
          pool := state.pool.goOn thread
            (some (.createSessionUpdate sessionId flags)) }
  | debounce {thread : Fin numOfThreads} {sessionId : Nat}
      {flags : SessionFlags}
      (running : state.pool.threads thread =
        some (.createSessionUpdate sessionId flags))
      (due : isDebounceDue flags = true) :
      Step state (.runJob thread)
        { state with
          sessionUpdateTimer :=
            some (sessionId, { flags with debounced := true })
          pool := state.pool.goOn thread none }
  | updateGone {thread : Fin numOfThreads} {sessionId : Nat}
      {flags : SessionFlags}
      (running : state.pool.threads thread =
        some (.createSessionUpdate sessionId flags))
      (notDue : isDebounceDue flags = false)
      (absent : state.gameSessions.lookup sessionId = none) :
      Step state (.runJob thread)
        { state with pool := state.pool.goOn thread none }
  | updateNotReady {thread : Fin numOfThreads} {sessionId : Nat}
      {flags : SessionFlags} {session : GameSession}
      (running : state.pool.threads thread =
        some (.createSessionUpdate sessionId flags))
      (notDue : isDebounceDue flags = false)
      (present : state.gameSessions.lookup sessionId = some session)
      (notReady : session.sessionUuid = "") :
      Step state (.runJob thread)
        { state with
          pool := state.pool.goOn thread
            (some (.retrySessionUpdate sessionId flags)) }
  | updateBuilt {thread : Fin numOfThreads} {sessionId : Nat}
      {flags : SessionFlags} {session : GameSession}
      (running : state.pool.threads thread =
        some (.createSessionUpdate sessionId flags))
      (notDue : isDebounceDue flags = false)
      (present : state.gameSessions.lookup sessionId = some session)
      (ready : session.sessionUuid ≠ "") :
      Step state (.runJob thread)
        { state with
          pool := state.pool.goOn thread
            (some (.postSessionUpdate (session.patch sessionId flags))) }
  | retry {thread : Fin numOfThreads} {sessionId : Nat} {flags : SessionFlags}
      (running : state.pool.threads thread =
        some (.retrySessionUpdate sessionId flags)) :
      Step state (.runJob thread)
        { state with
          sessionUpdateTimer := some (sessionId, flags)
          pool := state.pool.goOn thread none }
  | postUpdate {thread : Fin numOfThreads} {patch : SessionPatch}
      (running : state.pool.threads thread =
        some (.postSessionUpdate patch)) :
      Step state (.runJob thread)
        { state with
          sessionQueue := state.sessionQueue ++ [.update patch]
          pool := state.pool.goOn thread none }
  | postSend {thread : Fin numOfThreads} {sessionId : Nat}
      (running : state.pool.threads thread =
        some (.sendLatestGameData sessionId)) :
      Step state (.runJob thread)
        { state with
          commitQueue := state.commitQueue ++ [sessionId]
          pool := state.pool.goOn thread none }
  | gameDataTimerExpires {sessionId : Nat}
      (armed : state.gameDataTimer = some sessionId) :
      Step state .gameDataTimerExpires
        { state with
          gameDataTimer := none
          pool := state.pool.post (.sendLatestGameData sessionId) }
  | sessionUpdateTimerExpires {sessionId : Nat} {flags : SessionFlags}
      (armed : state.sessionUpdateTimer = some (sessionId, flags)) :
      Step state .sessionUpdateTimerExpires
        { state with
          sessionUpdateTimer := none
          pool := state.pool.post (.sessionUpdate sessionId flags) }
  | takeCommitTask {sessionId : Nat} {commitQueue : List Nat}
      (idle : state.commitRunning = none)
      (queued : state.commitQueue = sessionId :: commitQueue) :
      Step state .takeCommitTask
        { state with
          commitQueue := commitQueue
          commitRunning := some (.stopTimer sessionId) }
  | sendStarts {sessionId : Nat}
      (running : state.commitRunning = some (.stopTimer sessionId)) :
      Step state .runCommitTask
        { state with
          gameDataTimer := none, commitRunning := some (.checkClient sessionId) }
  | sendQuits {sessionId : Nat}
      (running : state.commitRunning = some (.checkClient sessionId))
      (noClient : state.stop = true ∨ state.centrifugo = none) :
      Step state .runCommitTask (state.finishSend sessionId)
  | sendGoesOn {sessionId : Nat}
      (running : state.commitRunning = some (.checkClient sessionId))
      (notStopped : state.stop = false) (client : state.centrifugo ≠ none) :
      Step state .runCommitTask
        { state with commitRunning := some (.snapshot sessionId) }
  | snapshotGone {sessionId : Nat}
      (running : state.commitRunning = some (.snapshot sessionId))
      (absent : state.gameSessions.lookup sessionId = none) :
      Step state .runCommitTask (state.finishSend sessionId)
  | snapshot {sessionId : Nat} {session : GameSession}
      (running : state.commitRunning = some (.snapshot sessionId))
      (present : state.gameSessions.lookup sessionId = some session) :
      Step state .runCommitTask
        { state with commitRunning := some (.checkConnected sessionId session) }
  | sendSkips {sessionId : Nat} {session : GameSession}
      (running : state.commitRunning =
        some (.checkConnected sessionId session)) :
      Step state .runCommitTask
        { state with
          commitRunning := some (.startTimer sessionId session.gameData) }
  | sendConnected {sessionId : Nat} {session : GameSession}
      (running : state.commitRunning =
        some (.checkConnected sessionId session))
      (ready : session.sessionUuid ≠ "") :
      Step state .runCommitTask
        { state with commitRunning := some (.count sessionId session) }
  | countGone {sessionId : Nat} {session : GameSession}
      (running : state.commitRunning = some (.count sessionId session))
      (absent : state.gameSessions.lookup sessionId = none) :
      Step state .runCommitTask (state.finishSend sessionId)
  | count {sessionId : Nat} {session stored : GameSession}
      (running : state.commitRunning = some (.count sessionId session))
      (present : state.gameSessions.lookup sessionId = some stored) :
      Step state .runCommitTask
        { state with
          gameSessions := state.gameSessions.insert sessionId
            { stored with sessionCounter := stored.sessionCounter + 1 }
          commitRunning := some (.publish {
            sessionId := sessionId
            sessionUuid := session.sessionUuid
            sequence := stored.sessionCounter + 1
            data := session.gameData
            storedAt := session.storedAt }) }
  | publish {message : ScoreMessage}
      (running : state.commitRunning = some (.publish message)) :
      Step state .runCommitTask
        { state with
          published := state.published ++ [message]
          commitRunning := some (.startTimer message.sessionId message.data) }
  | rearm {sessionId : Nat} {data : GameData}
      (running : state.commitRunning = some (.startTimer sessionId data))
      (active : data.isGameActive = true) :
      Step state .runCommitTask
        ({ state with gameDataTimer := some sessionId }.finishSend sessionId)
  | lastSend {sessionId : Nat} {data : GameData}
      (running : state.commitRunning = some (.startTimer sessionId data))
      (inactive : data.isGameActive = false) :
      Step state .runCommitTask (state.finishSend sessionId)
  | takeSessionTask {task : SessionTask} {sessionQueue : List SessionTask}
      (idle : state.sessionRunning = none)
      (queued : state.sessionQueue = task :: sessionQueue) :
      Step state .takeSessionTask
        { state with
          sessionQueue := sessionQueue
          sessionRunning := some (.waiting task 0) }
  | refuse {task : SessionTask} {attempt : Nat}
      (running : state.sessionRunning = some (.waiting task attempt)) :
      Step state .refuseSessionTask { state with sessionRunning := none }
  | request {task : SessionTask} {attempt : Nat}
      (running : state.sessionRunning = some (.waiting task attempt)) :
      Step state .requestSessionTask
        { state with
          sessionRunning := some (.requested task attempt)
          updateCalls := callsAfter state.updateCalls task }
  | again {task : SessionTask} {attempt : Nat}
      (running : state.sessionRunning = some (.requested task attempt)) :
      Step state (.replySessionTask .again)
        { state with sessionRunning := some (.waiting task (attempt + 1)) }
  | giveUp {task : SessionTask} {attempt : Nat} {reply : SessionReply}
      (running : state.sessionRunning = some (.requested task attempt))
      (noUpdate : ∀ patch sessionUuid,
        ¬ (task = .update patch ∧ reply = .success sessionUuid)) :
      Step state (.replySessionTask reply) { state with sessionRunning := none }
  | updateKept {patch : SessionPatch} {attempt : Nat}
      {sessionUuid : Option String}
      (running : state.sessionRunning = some (.requested (.update patch) attempt))
      (active : (state.gameSessions.entry patch.sessionId).gameData.isGameActive =
        true) :
      Step state (.replySessionTask (.success sessionUuid))
        { state with
          sessionRunning := none
          acknowledged := state.acknowledged ++ [patch] }
  | updateErased {patch : SessionPatch} {attempt : Nat}
      {sessionUuid : Option String}
      (running : state.sessionRunning = some (.requested (.update patch) attempt))
      (inactive :
        (state.gameSessions.entry patch.sessionId).gameData.isGameActive =
          false) :
      Step state (.replySessionTask (.success sessionUuid))
        { state with
          gameSessions := state.gameSessions.erase patch.sessionId
          sessionRunning := none
          acknowledged := state.acknowledged ++ [patch]
          erased := state.erased ++
            [{ sessionId := patch.sessionId
               session := state.gameSessions.entry patch.sessionId
               acknowledged := state.acknowledged ++ [patch] }] }
  | created {post : SessionPost} {attempt : Nat} {session : GameSession}
      {sessionUuid : String}
      (running : state.sessionRunning = some (.requested (.create post) attempt))
      (present : state.gameSessions.lookup post.sessionId = some session) :
      Step state (.replySessionTask (.success (some sessionUuid)))
        { state with
          gameSessions := state.gameSessions.insert post.sessionId
            { session with sessionUuid := sessionUuid }
          sessionRunning :=
            if state.stop then none else some (.created post.sessionId) }
  | onCreated {sessionId : Nat}
      (running : state.sessionRunning = some (.created sessionId)) :
      Step state .onCreated { state with sessionRunning := none }

variable {state next : NetState}

theorem step_runJob {thread : Fin numOfThreads} {job : NetJob}
    (running : state.pool.threads thread = some job) :
    Step state (.runJob thread) (state.runJob thread job) := by
  cases job with
  | submitGameData data flags => exact .store running
  | sendIfDue data counter flags => exact .sendIfDue running
  | sessionUpdate sessionId flags =>
      simp only [runJob]
      split
      · exact .updateStopped running ‹_›
      · exact .update running (by simpa using ‹¬ state.stop = true›)
  | createSessionUpdate sessionId flags =>
      simp only [runJob]
      split
      · exact .debounce running ‹_›
      · rename_i notDue
        have notDue : isDebounceDue flags = false := by simpa using notDue
        split
        · exact .updateGone running notDue ‹_›
        · rename_i session present
          by_cases notReady : session.sessionUuid = ""
          · rw [if_pos notReady]
            exact .updateNotReady running notDue present notReady
          · rw [if_neg notReady]
            exact .updateBuilt running notDue present notReady
  | retrySessionUpdate sessionId flags => exact .retry running
  | postSessionUpdate patch => exact .postUpdate running
  | sendLatestGameData sessionId => exact .postSend running

theorem step_runCommitTask {task : CommitTask}
    (running : state.commitRunning = some task)
    (taken : state.runCommitTask task = some next) :
    Step state .runCommitTask next := by
  cases task with
  | stopTimer sessionId =>
      cases taken
      exact .sendStarts running
  | checkClient sessionId =>
      simp only [runCommitTask] at taken
      split at taken
      · rename_i noClient
        cases taken
        exact .sendQuits running (by simpa using noClient)
      · rename_i client
        cases taken
        rw [Bool.not_eq_true, Bool.or_eq_false_iff] at client
        refine .sendGoesOn running client.1 ?_
        simpa [Option.isNone_eq_false_iff, Option.isSome_iff_ne_none]
          using client.2
  | snapshot sessionId =>
      simp only [runCommitTask] at taken
      split at taken <;> cases taken
      · exact .snapshotGone running ‹_›
      · exact .snapshot running ‹_›
  | checkConnected sessionId session =>
      simp only [runCommitTask, Option.map_eq_some_iff] at taken
      obtain ⟨client, -, rfl⟩ := taken
      split
      · exact .sendSkips running
      · rename_i connected
        exact .sendConnected running fun noUuid => connected (Or.inl noUuid)
  | count sessionId session =>
      simp only [runCommitTask] at taken
      split at taken <;> cases taken
      · exact .countGone running ‹_›
      · exact .count running ‹_›
  | publish message =>
      simp only [runCommitTask] at taken
      split at taken <;> cases taken
      exact .publish running
  | startTimer sessionId data =>
      simp only [runCommitTask] at taken
      split at taken <;> cases taken
      · exact .rearm running ‹_›
      · exact .lastSend running (by simpa using ‹¬ data.isGameActive = true›)

theorem step_replySessionTask {task : SessionTask} {attempt : Nat}
    (running : state.sessionRunning = some (.requested task attempt))
    (reply : SessionReply) :
    Step state (.replySessionTask reply)
      (state.replySessionTask task attempt reply) := by
  cases reply with
  | again =>
      simp only [replySessionTask]
      split
      · exact .again running
      · exact .giveUp running fun _ _ both => by cases both.2
  | failure => exact .giveUp running fun _ _ both => by cases both.2
  | success sessionUuid =>
      cases task with
      | create post =>
          cases sessionUuid with
          | none => exact .giveUp running fun _ _ both => by cases both.1
          | some sessionUuid =>
              simp only [replySessionTask, createAcknowledged]
              split
              · exact .giveUp running fun _ _ both => by cases both.1
              · exact .created running ‹_›
      | update patch =>
          simp only [replySessionTask, updateAcknowledged]
          split
          · exact .updateKept running ‹_›
          · rename_i inactive
            exact .updateErased running (by simpa using inactive)

/-- Every step goes one of these ways. -/
theorem step_cases {action : NetAction}
    (taken : state.step action = some next) : Step state action next := by
  cases action with
  | sessionCreate data origin =>
      simp only [step, sessionCreate] at taken
      split at taken <;> cases taken
      exact .sessionCreate (by simpa using ‹¬ state.creating.isSome = true›)
  | createSessionCreateTask =>
      simp only [step, createSessionCreateTask, Option.map_eq_some_iff,
        Prod.exists] at taken
      obtain ⟨sessionId, origin, creating, rfl⟩ := taken
      split
      · exact .createGone creating ‹_›
      · exact .createPosted creating ‹_› rfl
  | submitGameData data flags =>
      cases taken
      exact .submitGameData
  | setCentrifugo client =>
      cases taken
      exact .setCentrifugo
  | setStop =>
      cases taken
      exact .setStop
  | takeJob thread =>
      simp only [step, Option.map_eq_some_iff] at taken
      obtain ⟨pool, poolTaken, rfl⟩ := taken
      exact .takeJob poolTaken
  | runJob thread =>
      simp only [step, Option.map_eq_some_iff] at taken
      obtain ⟨job, running, rfl⟩ := taken
      exact step_runJob running
  | gameDataTimerExpires =>
      simp only [step, Option.map_eq_some_iff] at taken
      obtain ⟨sessionId, armed, rfl⟩ := taken
      exact .gameDataTimerExpires armed
  | sessionUpdateTimerExpires =>
      simp only [step, Option.map_eq_some_iff, Prod.exists] at taken
      obtain ⟨sessionId, flags, armed, rfl⟩ := taken
      exact .sessionUpdateTimerExpires armed
  | takeCommitTask =>
      simp only [step] at taken
      split at taken <;> cases taken
      exact .takeCommitTask ‹_› ‹_›
  | runCommitTask =>
      simp only [step, Option.bind_eq_some_iff] at taken
      obtain ⟨task, running, ran⟩ := taken
      exact step_runCommitTask running ran
  | takeSessionTask =>
      simp only [step] at taken
      split at taken <;> cases taken
      exact .takeSessionTask ‹_› ‹_›
  | refuseSessionTask =>
      simp only [step] at taken
      split at taken <;> cases taken
      exact .refuse ‹_›
  | requestSessionTask =>
      simp only [step] at taken
      split at taken <;> cases taken
      exact .request ‹_›
  | replySessionTask reply =>
      simp only [step] at taken
      split at taken <;> cases taken
      exact step_replySessionTask ‹_› reply
  | onCreated =>
      simp only [step] at taken
      split at taken <;> cases taken
      exact .onCreated ‹_›

/-- The sessions stay, or data is stored, or a session's counter or uuid
changes, or a session is erased. -/
theorem Step.gameSessions_cases {action : NetAction}
    (taken : Step state action next) :
    (next.gameSessions = state.gameSessions ∧ next.erased = state.erased) ∨
      (∃ data, next.gameSessions = state.gameSessions.insert data.id
          ((state.gameSessions.entry data.id).store data state.stores) ∧
        next.erased = state.erased ∧
        ((∃ origin, action = .sessionCreate data origin) ∨
          ∃ thread flags, action = .runJob thread ∧
            state.pool.threads thread =
              some (.submitGameData data flags))) ∨
      (∃ sessionId session changed,
        state.gameSessions.lookup sessionId = some session ∧
        next.gameSessions = state.gameSessions.insert sessionId changed ∧
        changed.gameData = session.gameData ∧
        changed.history = session.history ∧ next.erased = state.erased) ∨
      ∃ patch attempt sessionUuid,
        action = .replySessionTask (.success sessionUuid) ∧
        state.sessionRunning = some (.requested (.update patch) attempt) ∧
        (state.gameSessions.entry patch.sessionId).gameData.isGameActive =
          false ∧
        next.gameSessions = state.gameSessions.erase patch.sessionId ∧
        next.erased = state.erased ++
          [{ sessionId := patch.sessionId
             session := state.gameSessions.entry patch.sessionId
             acknowledged := state.acknowledged ++ [patch] }] ∧
        next.acknowledged = state.acknowledged ++ [patch] := by
  cases taken with
  | sessionCreate idle =>
      exact Or.inr (Or.inl ⟨_, rfl, rfl, Or.inl ⟨_, rfl⟩⟩)
  | store running =>
      exact Or.inr (Or.inl ⟨_, rfl, rfl, Or.inr ⟨_, _, rfl, running⟩⟩)
  | createPosted creating present posted =>
      exact Or.inr (Or.inr (Or.inl ⟨_, _, _, present, rfl, rfl, rfl, rfl⟩))
  | count running present =>
      exact Or.inr (Or.inr (Or.inl ⟨_, _, _, present, rfl, rfl, rfl, rfl⟩))
  | created running present =>
      exact Or.inr (Or.inr (Or.inl ⟨_, _, _, present, rfl, rfl, rfl, rfl⟩))
  | updateErased running inactive =>
      exact Or.inr (Or.inr (Or.inr
        ⟨_, _, _, rfl, running, inactive, rfl, rfl, rfl⟩))
  | _ => exact Or.inl ⟨rfl, rfl⟩

/-- The data of a session stays the last row of its history. -/
theorem Step.lastRow {action : NetAction} {sessionId : Nat}
    (taken : Step state action next)
    (lastRow : ∀ session, state.gameSessions.lookup sessionId = some session →
      session.history.getLast? = some session.gameData) :
    ∀ session, next.gameSessions.lookup sessionId = some session →
      session.history.getLast? = some session.gameData := by
  have before : ∀ id session, state.gameSessions.lookup id = some session →
      id = sessionId → session.history.getLast? = some session.gameData := by
    rintro id session present rfl
    exact lastRow session present
  have after : ∀ id session, next.gameSessions.lookup id = some session →
      id = sessionId → session.history.getLast? = some session.gameData := by
    rcases taken.gameSessions_cases with
      ⟨sessionsEq, -⟩ | ⟨data, sessionsEq, -⟩ |
        ⟨id, session, changed, present, sessionsEq, dataEq, historyEq, -⟩ |
        ⟨patch, attempt, sessionUuid, -, -, -, sessionsEq, -⟩
    · exact sessionsEq ▸ before
    · rw [sessionsEq]
      exact GameSessions.forall_insert before fun _ => List.getLast?_concat
    · rw [sessionsEq]
      apply GameSessions.forall_insert before
      rw [dataEq, historyEq]
      exact before id session present
    · exact sessionsEq ▸ GameSessions.forall_erase before _
  exact fun session present => after sessionId session present rfl

theorem Step.acknowledged_subset {action : NetAction}
    (taken : Step state action next) :
    state.acknowledged ⊆ next.acknowledged := by
  cases taken with
  | updateKept running active => exact List.subset_append_left _ _
  | updateErased running inactive => exact List.subset_append_left _ _
  | _ => exact List.Subset.refl _

/-- A closure that is still to store its data has been posted before or now. -/
theorem Step.mem_submitted {action : NetAction}
    (taken : Step state action next) {data : GameData} {flags : SessionFlags}
    (member : NetJob.submitGameData data flags ∈ next.pool) :
    NetJob.submitGameData data flags ∈ state.pool ∨
      action = .submitGameData data flags := by
  cases taken with
  | submitGameData =>
      rcases WorkerPool.mem_post.mp member with old | new
      · exact Or.inl old
      · cases new
        exact Or.inr rfl
  | gameDataTimerExpires armed => exact Or.inl (by simpa using member)
  | sessionUpdateTimerExpires armed => exact Or.inl (by simpa using member)
  | takeJob taken => exact Or.inl ((WorkerPool.mem_take taken).mp member)
  | store running =>
      exact Or.inl (WorkerPool.mem_of_mem_goOn (by simp) member)
  | sendIfDue running =>
      exact Or.inl (WorkerPool.mem_of_mem_goOn (by split <;> simp) member)
  | updateStopped running =>
      exact Or.inl (WorkerPool.mem_of_mem_goOn (by simp) member)
  | update running =>
      exact Or.inl (WorkerPool.mem_of_mem_goOn (by simp) member)
  | debounce running =>
      exact Or.inl (WorkerPool.mem_of_mem_goOn (by simp) member)
  | updateGone running =>
      exact Or.inl (WorkerPool.mem_of_mem_goOn (by simp) member)
  | updateNotReady running =>
      exact Or.inl (WorkerPool.mem_of_mem_goOn (by simp) member)
  | updateBuilt running =>
      exact Or.inl (WorkerPool.mem_of_mem_goOn (by simp) member)
  | retry running =>
      exact Or.inl (WorkerPool.mem_of_mem_goOn (by simp) member)
  | postUpdate running =>
      exact Or.inl (WorkerPool.mem_of_mem_goOn (by simp) member)
  | postSend running =>
      exact Or.inl (WorkerPool.mem_of_mem_goOn (by simp) member)
  | _ => exact Or.inl member

/-- A closure stays in the pool until it stores its data. -/
theorem Step.submitted_stored {action : NetAction}
    (taken : Step state action next) {data : GameData} {flags : SessionFlags}
    (member : NetJob.submitGameData data flags ∈ state.pool) :
    NetJob.submitGameData data flags ∈ next.pool ∨
      next.gameSessions = state.gameSessions.insert data.id
        ((state.gameSessions.entry data.id).store data state.stores) := by
  cases taken with
  | submitGameData => exact Or.inl (WorkerPool.mem_post.mpr (Or.inl member))
  | gameDataTimerExpires armed =>
      exact Or.inl (WorkerPool.mem_post.mpr (Or.inl member))
  | sessionUpdateTimerExpires armed =>
      exact Or.inl (WorkerPool.mem_post.mpr (Or.inl member))
  | takeJob taken => exact Or.inl ((WorkerPool.mem_take taken).mpr member)
  | store running =>
      rcases (WorkerPool.mem_cases running).mp member with same | elsewhere
      · cases same
        exact Or.inr rfl
      · exact Or.inl (WorkerPool.mem_goOn.mpr (Or.inr elsewhere))
  | sendIfDue running =>
      exact Or.inl (WorkerPool.mem_goOn_of_mem running (by simp) member)
  | updateStopped running =>
      exact Or.inl (WorkerPool.mem_goOn_of_mem running (by simp) member)
  | update running =>
      exact Or.inl (WorkerPool.mem_goOn_of_mem running (by simp) member)
  | debounce running =>
      exact Or.inl (WorkerPool.mem_goOn_of_mem running (by simp) member)
  | updateGone running =>
      exact Or.inl (WorkerPool.mem_goOn_of_mem running (by simp) member)
  | updateNotReady running =>
      exact Or.inl (WorkerPool.mem_goOn_of_mem running (by simp) member)
  | updateBuilt running =>
      exact Or.inl (WorkerPool.mem_goOn_of_mem running (by simp) member)
  | retry running =>
      exact Or.inl (WorkerPool.mem_goOn_of_mem running (by simp) member)
  | postUpdate running =>
      exact Or.inl (WorkerPool.mem_goOn_of_mem running (by simp) member)
  | postSend running =>
      exact Or.inl (WorkerPool.mem_goOn_of_mem running (by simp) member)
  | _ => exact Or.inl member

/-- A session update on its way to the server. -/
def InPipeline (state : NetState) (patch : SessionPatch) : Prop :=
  NetJob.postSessionUpdate patch ∈ state.pool ∨
    SessionTask.update patch ∈ state.sessionQueue ∨
      state.sessionRunning.bind SessionRun.task? = some (.update patch)

/-- An update comes into the pipeline when it is built from its session. -/
theorem Step.inPipeline_cases {action : NetAction}
    (taken : Step state action next) {patch : SessionPatch}
    (inNext : next.InPipeline patch) :
    state.InPipeline patch ∨ ∃ sessionId flags session,
      state.gameSessions.lookup sessionId = some session ∧
        next.gameSessions = state.gameSessions ∧
        patch = session.patch sessionId flags := by
  rcases inNext with inPool | queued | running
  · have toPool : NetJob.postSessionUpdate patch ∈ state.pool →
        state.InPipeline patch := Or.inl
    cases taken with
    | submitGameData => exact Or.inl (toPool (by simpa using inPool))
    | gameDataTimerExpires armed => exact Or.inl (toPool (by simpa using inPool))
    | sessionUpdateTimerExpires armed =>
        exact Or.inl (toPool (by simpa using inPool))
    | takeJob taken =>
        exact Or.inl (toPool ((WorkerPool.mem_take taken).mp inPool))
    | store running =>
        exact Or.inl (toPool (WorkerPool.mem_of_mem_goOn (by simp) inPool))
    | sendIfDue running =>
        exact Or.inl (toPool (WorkerPool.mem_of_mem_goOn (by split <;> simp) inPool))
    | updateStopped running =>
        exact Or.inl (toPool (WorkerPool.mem_of_mem_goOn (by simp) inPool))
    | update running =>
        exact Or.inl (toPool (WorkerPool.mem_of_mem_goOn (by simp) inPool))
    | debounce running =>
        exact Or.inl (toPool (WorkerPool.mem_of_mem_goOn (by simp) inPool))
    | updateGone running =>
        exact Or.inl (toPool (WorkerPool.mem_of_mem_goOn (by simp) inPool))
    | updateNotReady running =>
        exact Or.inl (toPool (WorkerPool.mem_of_mem_goOn (by simp) inPool))
    | updateBuilt running notDue present ready =>
        rcases WorkerPool.mem_goOn.mp inPool with built | elsewhere
        · cases built
          exact Or.inr ⟨_, _, _, present, rfl, rfl⟩
        · exact Or.inl (toPool elsewhere.mem)
    | retry running =>
        exact Or.inl (toPool (WorkerPool.mem_of_mem_goOn (by simp) inPool))
    | postUpdate running =>
        exact Or.inl (toPool (WorkerPool.mem_of_mem_goOn (by simp) inPool))
    | postSend running =>
        exact Or.inl (toPool (WorkerPool.mem_of_mem_goOn (by simp) inPool))
    | _ => exact Or.inl (toPool inPool)
  · have toQueue : SessionTask.update patch ∈ state.sessionQueue →
        state.InPipeline patch := fun member => Or.inr (Or.inl member)
    left
    cases taken with
    | createPosted creating present posted =>
        exact toQueue (by simpa using queued)
    | postUpdate running =>
        rcases List.mem_append.mp queued with old | new
        · exact toQueue old
        · cases List.mem_singleton.mp new
          exact Or.inl (WorkerPool.mem_of_thread running)
    | takeSessionTask idle queueEq =>
        exact toQueue (queueEq ▸ List.mem_cons_of_mem _ queued)
    | _ => exact toQueue queued
  · left
    cases taken with
    | takeSessionTask idle queueEq =>
        cases running
        exact Or.inr (Or.inl (queueEq ▸ List.mem_cons_self))
    | request wasRunning =>
        cases running
        exact Or.inr (Or.inr (by rw [wasRunning]; rfl))
    | again wasRunning =>
        cases running
        exact Or.inr (Or.inr (by rw [wasRunning]; rfl))
    | refuse => cases running
    | giveUp => cases running
    | updateKept => cases running
    | updateErased => cases running
    | created => split at running <;> cases running
    | onCreated => cases running
    | _ => exact Or.inr (Or.inr running)

end NetState

end ScorbitSdk
