import ScorbitSdk.SessionUpdates

/-!
# Order of the submissions of a session

`submitGameData` posts its closure to the pool and not to a strand, so that two
closures of one session may run in either order.  The closures of a session are
followed from its creation on: what has been submitted, and what has been
stored.
-/

namespace ScorbitSdk

/-- The data that the call hands over for the session. -/
def NetAction.submission? (sessionId : Nat) : NetAction → Option GameData
  | submitGameData data _ => if data.id = sessionId then some data else none
  | _ => none

/-- The data that the job, a closure of the session, is still to store. -/
def NetJob.submission? (sessionId : Nat) : NetJob → Option GameData
  | submitGameData data _ => if data.id = sessionId then some data else none
  | _ => none

def NetJob.isSubmission (sessionId : Nat) (job : NetJob) : Bool :=
  (job.submission? sessionId).isSome

theorem NetJob.countP_isSubmission (sessionId : Nat) (job : NetJob) :
    [job].countP (NetJob.isSubmission sessionId) =
      (job.submission? sessionId).toList.length := by
  rw [List.countP_singleton]
  unfold NetJob.isSubmission
  cases job.submission? sessionId <;> rfl

namespace NetState

/-- The data that a closure of the session stores in this step. -/
def execution? (state : NetState) (sessionId : Nat) :
    NetAction → Option GameData
  | .runJob thread =>
      (state.pool.threads thread).bind (NetJob.submission? sessionId)
  | _ => none

/-- The step does not erase the session. -/
def KeepsSession (state : NetState) (sessionId : Nat) : NetAction → Prop
  | .replySessionTask (.success _) => ∀ patch attempt session,
      state.sessionRunning = some (.requested (.update patch) attempt) →
        patch.sessionId = sessionId →
          state.gameSessions.lookup sessionId = some session →
            session.gameData.isGameActive = true
  | _ => True

variable {state next : NetState} {action : NetAction} {sessionId : Nat}

theorem count_runJob {thread : Fin numOfThreads} {job : NetJob}
    (running : state.pool.threads thread = some job) {rest : Option NetJob}
    (quiet : ∀ other, rest = some other →
      other.submission? sessionId = none) :
    (state.pool.goOn thread rest).count (NetJob.isSubmission sessionId) +
        (state.execution? sessionId (.runJob thread)).toList.length =
      state.pool.count (NetJob.isSubmission sessionId) := by
  have counted := @WorkerPool.count_goOn _ _
    (NetJob.isSubmission sessionId) state.pool thread rest
  have restNone : rest.toList.countP (NetJob.isSubmission sessionId) = 0 := by
    rw [List.countP_eq_zero]
    intro other member
    simp [NetJob.isSubmission, quiet other (Option.mem_toList.mp member)]
  rw [running, Option.toList_some, NetJob.countP_isSubmission, restNone]
    at counted
  simp only [execution?, running, Option.bind_some]
  omega

/-- The closures that are left are those submitted and not executed. -/
theorem Step.count_submissions (taken : Step state action next) :
    next.pool.count (NetJob.isSubmission sessionId) +
        (state.execution? sessionId action).toList.length =
      state.pool.count (NetJob.isSubmission sessionId) +
        (action.submission? sessionId).toList.length := by
  have quiet : ∀ other : NetJob, none = some other →
      other.submission? sessionId = none := fun _ impossible => by
    cases impossible
  cases taken with
  | submitGameData =>
      rename_i data flags
      have counted : (state.pool.post (.submitGameData data flags)).count
          (NetJob.isSubmission sessionId) = _ :=
        WorkerPool.count_post _
      rw [NetJob.countP_isSubmission] at counted
      exact counted
  | takeJob poolTaken => exact WorkerPool.count_take poolTaken
  | store running =>
      exact count_runJob running fun _ isRest => by cases isRest; rfl
  | sendIfDue running =>
      refine count_runJob running fun other isRest => ?_
      split at isRest <;> cases isRest
      rfl
  | updateStopped running => exact count_runJob running quiet
  | update running =>
      exact count_runJob running fun _ isRest => by cases isRest; rfl
  | debounce running => exact count_runJob running quiet
  | updateGone running => exact count_runJob running quiet
  | updateNotReady running =>
      exact count_runJob running fun _ isRest => by cases isRest; rfl
  | updateBuilt running =>
      exact count_runJob running fun _ isRest => by cases isRest; rfl
  | retry running => exact count_runJob running quiet
  | postUpdate running => exact count_runJob running quiet
  | postSend running => exact count_runJob running quiet
  | gameDataTimerExpires armed => exact WorkerPool.count_post _
  | sessionUpdateTimerExpires armed => exact WorkerPool.count_post _
  | _ => rfl

theorem entry_insert (changedId : Nat) (changed : GameSession) :
    GameSessions.entry (state.gameSessions.insert changedId changed)
        sessionId =
      if sessionId = changedId then changed
      else state.gameSessions.entry sessionId := by
  unfold GameSessions.entry
  split
  · rename_i same
    rw [same, Finmap.lookup_insert, Option.getD_some]
  · rename_i different
    rw [Finmap.lookup_insert_of_ne _ different]

/-- The history of a session grows by the closures of the session that run, or
it is lost when the session is erased. -/
theorem Step.history_cases (taken : Step state action next)
    (once : ∀ data origin, action = .sessionCreate data origin →
      data.id ≠ sessionId) :
    (state.KeepsSession sessionId action ∧
        (next.gameSessions.entry sessionId).history =
          (state.gameSessions.entry sessionId).history ++
            (state.execution? sessionId action).toList) ∨
      (next.gameSessions.entry sessionId).history = [] ∧
        state.execution? sessionId action = none ∧
        ((state.gameSessions.lookup sessionId).isSome →
          ¬ state.KeepsSession sessionId action) := by
  have same : (state.gameSessions.entry sessionId).history =
      (state.gameSessions.entry sessionId).history ++ [] :=
    (List.append_nil _).symm
  have changed : ∀ {changedId : Nat} {before after : GameSession},
      state.gameSessions.lookup changedId = some before →
      after.history = before.history →
        (GameSessions.entry (state.gameSessions.insert changedId after)
          sessionId).history =
            (state.gameSessions.entry sessionId).history ++ [] := by
    intro changedId before after present sameHistory
    rw [entry_insert, List.append_nil]
    split
    · rename_i same
      rw [same, GameSessions.entry_of_lookup present, sameHistory]
    · rfl
  have unchanged : ∀ {thread : Fin numOfThreads} {job : NetJob},
      state.pool.threads thread = some job →
      job.submission? sessionId = none →
        (state.gameSessions.entry sessionId).history =
          (state.gameSessions.entry sessionId).history ++
            (state.execution? sessionId (.runJob thread)).toList := by
    intro thread job running noSubmission
    simp [execution?, running, noSubmission]
  cases taken with
  | sessionCreate idle =>
      left
      refine ⟨trivial, ?_⟩
      rw [entry_insert, if_neg (Ne.symm (once _ _ rfl))]
      exact (List.append_nil _).symm
  | store running =>
      left
      refine ⟨trivial, ?_⟩
      simp only [execution?, running, Option.bind_some, NetJob.submission?,
        entry_insert]
      split
      · rename_i same
        rw [if_pos same.symm, same]
        rfl
      · rename_i different
        rw [if_neg (Ne.symm different), Option.toList_none, List.append_nil]
  | createPosted creating present posted =>
      exact Or.inl ⟨trivial, changed present rfl⟩
  | count running present => exact Or.inl ⟨trivial, changed present rfl⟩
  | created running present =>
      refine Or.inl ⟨?_, changed present rfl⟩
      intro patch attempt session isRunning
      rw [running] at isRunning
      cases isRunning
  | giveUp running noUpdate =>
      rename_i task attempt reply
      refine Or.inl ⟨?_, same⟩
      cases reply with
      | success sessionUuid =>
          intro patch attempt session isRunning
          rw [running] at isRunning
          cases isRunning
          exact absurd ⟨rfl, rfl⟩ (noUpdate patch sessionUuid)
      | _ => trivial
  | updateKept running active =>
      refine Or.inl ⟨?_, same⟩
      rintro patch attempt session isRunning rfl present
      rw [running] at isRunning
      cases isRunning
      rwa [GameSessions.entry_of_lookup present] at active
  | updateErased running inactive =>
      rename_i patch attempt sessionUuid
      by_cases isOwn : patch.sessionId = sessionId
      · subst isOwn
        refine Or.inr ⟨?_, rfl, fun there keeps => ?_⟩
        · simp [GameSessions.entry]
        · obtain ⟨session, present⟩ := Option.isSome_iff_exists.mp there
          have active := keeps patch attempt session running rfl present
          rw [GameSessions.entry_of_lookup present, active] at inactive
          cases inactive
      · refine Or.inl ⟨?_, ?_⟩
        · intro other otherAttempt session isRunning sameId
          rw [running] at isRunning
          cases isRunning
          exact absurd sameId isOwn
        · unfold GameSessions.entry
          rw [Finmap.lookup_erase_ne (Ne.symm isOwn)]
          exact same
  | sendIfDue running => exact Or.inl ⟨trivial, unchanged running rfl⟩
  | updateStopped running => exact Or.inl ⟨trivial, unchanged running rfl⟩
  | update running => exact Or.inl ⟨trivial, unchanged running rfl⟩
  | debounce running => exact Or.inl ⟨trivial, unchanged running rfl⟩
  | updateGone running => exact Or.inl ⟨trivial, unchanged running rfl⟩
  | updateNotReady running => exact Or.inl ⟨trivial, unchanged running rfl⟩
  | updateBuilt running => exact Or.inl ⟨trivial, unchanged running rfl⟩
  | retry running => exact Or.inl ⟨trivial, unchanged running rfl⟩
  | postUpdate running => exact Or.inl ⟨trivial, unchanged running rfl⟩
  | postSend running => exact Or.inl ⟨trivial, unchanged running rfl⟩
  | _ => exact Or.inl ⟨trivial, same⟩

end NetState

/-- A run of the network layer, with the data that has been submitted for one
session and the data that its closures have stored. -/
structure SubmissionRun where
  net : NetState
  submitted : List GameData := []
  executed : List GameData := []

namespace SubmissionRun

def step (sessionId : Nat) (state : SubmissionRun) (action : NetAction) :
    Option SubmissionRun :=
  (state.net.step action).map fun net =>
    { net := net
      submitted := state.submitted ++ (action.submission? sessionId).toList
      executed := state.executed ++
        (state.net.execution? sessionId action).toList }

/-- The session holds the initial row and then what was submitted, in order. -/
def StoredInOrder (state : SubmissionRun) (initial : GameData) : Prop :=
  ∃ session, state.net.gameSessions.lookup initial.id = some session ∧
    session.history = initial :: state.submitted ∧
    (initial :: state.submitted).getLast? = some session.gameData

/-- A closure that stores its data is the next one in the order of submission,
and the session is not erased. -/
def InTurn (sessionId : Nat) (state : SubmissionRun) (action : NetAction) :
    Prop :=
  (∀ data, state.net.execution? sessionId action = some data →
    state.submitted[state.executed.length]? = some data) ∧
    state.net.KeepsSession sessionId action

/-- Nothing that the closures have stored is missing from the history. -/
def Complete (state : SubmissionRun) (initial : GameData) : Prop :=
  (state.net.gameSessions.entry initial.id).history = initial :: state.executed

/-- What every run keeps: the closures left are those submitted and not
executed, and the history is the last part of what was stored. -/
structure Tracked (state : SubmissionRun) (initial : GameData) : Prop where
  lastRow : ∀ session,
    state.net.gameSessions.lookup initial.id = some session →
      session.history.getLast? = some session.gameData
  counted : state.executed.length +
      state.net.pool.count (NetJob.isSubmission initial.id) =
    state.submitted.length
  suffix : (state.net.gameSessions.entry initial.id).history <:+
    initial :: state.executed

variable {state next : SubmissionRun} {initial : GameData}
  {action : NetAction}

theorem step_cases {sessionId : Nat}
    (taken : state.step sessionId action = some next) :
    NetState.Step state.net action next.net ∧
      next.submitted =
        state.submitted ++ (action.submission? sessionId).toList ∧
      next.executed = state.executed ++
        (state.net.execution? sessionId action).toList := by
  obtain ⟨net, netTaken, rfl⟩ := Option.map_eq_some_iff.mp taken
  exact ⟨NetState.step_cases netTaken, rfl, rfl⟩

theorem Tracked.step (tracked : state.Tracked initial)
    (once : ∀ data origin, action = .sessionCreate data origin →
      data.id ≠ initial.id)
    (taken : state.step initial.id action = some next) :
    next.Tracked initial := by
  obtain ⟨netTaken, submittedEq, executedEq⟩ := step_cases taken
  refine {
    lastRow := netTaken.lastRow tracked.lastRow
    counted := ?_
    suffix := ?_ }
  · have counted := @NetState.Step.count_submissions _ _ _ initial.id netTaken
    have before := tracked.counted
    rw [submittedEq, executedEq, List.length_append, List.length_append]
    omega
  · rw [executedEq]
    rcases netTaken.history_cases once with ⟨-, historyEq⟩ | ⟨lost, -, -⟩
    · rw [historyEq, ← List.cons_append]
      obtain ⟨before, beforeEq⟩ := tracked.suffix
      exact ⟨before, by rw [← List.append_assoc, beforeEq]⟩
    · exact lost ▸ List.nil_suffix

/-- A closure that runs is one of those submitted. -/
theorem Tracked.executed_lt (tracked : state.Tracked initial) {data : GameData}
    (executes : state.net.execution? initial.id action = some data) :
    state.executed.length < state.submitted.length := by
  have counted := tracked.counted
  have waiting : 0 < state.net.pool.count (NetJob.isSubmission initial.id) := by
    cases action with
    | runJob thread =>
        obtain ⟨job, running, isSubmission⟩ :=
          Option.bind_eq_some_iff.mp executes
        apply WorkerPool.count_pos (WorkerPool.mem_of_thread running)
        rw [NetJob.isSubmission, isSubmission]
        rfl
    | _ => cases executes
  omega

/-- What the runs keep whose closures run in their turn. -/
structure InOrder (state : SubmissionRun) (initial : GameData) : Prop where
  tracked : state.Tracked initial
  complete : state.Complete initial
  executed : state.executed <+: state.submitted

theorem prefix_of_next {executed submitted : List GameData} {data : GameData}
    (inOrder : executed <+: submitted)
    (isNext : submitted[executed.length]? = some data) :
    executed ++ [data] <+: submitted := by
  obtain ⟨rest, rfl⟩ := inOrder
  cases rest with
  | nil => simp at isNext
  | cons front rest =>
      simp only [List.getElem?_append_right (Nat.le_refl _), Nat.sub_self,
        List.getElem?_cons_zero, Option.some.injEq] at isNext
      exact ⟨rest, by rw [isNext, List.append_assoc]; rfl⟩

theorem InOrder.step (inOrder : state.InOrder initial)
    (once : ∀ data origin, action = .sessionCreate data origin →
      data.id ≠ initial.id)
    (inTurn : InTurn initial.id state action)
    (taken : state.step initial.id action = some next) :
    next.InOrder initial := by
  obtain ⟨netTaken, submittedEq, executedEq⟩ := step_cases taken
  refine {
    tracked := inOrder.tracked.step once taken
    complete := ?_
    executed := ?_ }
  · have complete := inOrder.complete
    rcases netTaken.history_cases once with ⟨-, historyEq⟩ | ⟨-, -, lost⟩
    · unfold Complete at complete ⊢
      rw [historyEq, executedEq, complete, List.cons_append]
    · have present :
          (state.net.gameSessions.lookup initial.id).isSome = true := by
        cases there : state.net.gameSessions.lookup initial.id with
        | some session => rfl
        | none => simp [Complete, GameSessions.entry, there] at complete
      exact absurd inTurn.2 (lost present)
  · rw [submittedEq, executedEq]
    refine List.IsPrefix.trans ?_ (List.prefix_append _ _)
    cases executes : state.net.execution? initial.id action with
    | none => simpa using inOrder.executed
    | some data =>
        exact prefix_of_next inOrder.executed (inTurn.1 data executes)

/-- A complete history has been so all along, and every closure has run in its
turn. -/
theorem inTurn_of_complete {final : SubmissionRun} {actions : List NetAction}
    (tracked : state.Tracked initial)
    (once : ∀ action ∈ actions, ∀ data origin,
      action = .sessionCreate data origin → data.id ≠ initial.id)
    (reached : Transition.run (step initial.id) state actions = some final)
    (complete : final.Complete initial)
    (inOrder : final.executed = final.submitted) :
    (Transition.HoldsAlong (step initial.id) (InTurn initial.id) state actions ∧
      state.Complete initial) ∧
    state.executed <+: final.executed ∧ state.submitted <+: final.submitted := by
  induction actions generalizing state with
  | nil =>
      cases reached
      exact ⟨⟨trivial, complete⟩, List.prefix_rfl, List.prefix_rfl⟩
  | cons action actions ih =>
      obtain ⟨next, taken, toFinal⟩ := Transition.run_cons.mp reached
      rw [List.forall_mem_cons] at once
      have nextTracked : next.Tracked initial := tracked.step once.1 taken
      obtain ⟨⟨later, nextComplete⟩, executedPrefix, submittedPrefix⟩ :=
        ih nextTracked once.2 toFinal
      obtain ⟨netTaken, submittedEq, executedEq⟩ := step_cases taken
      rw [executedEq] at executedPrefix
      rw [submittedEq] at submittedPrefix
      have submittedBefore : state.submitted <+: final.submitted :=
        (List.prefix_append _ _).trans submittedPrefix
      rcases netTaken.history_cases once.1 with
        ⟨keepsSession, historyEq⟩ | ⟨lost, -, -⟩
      · have wasComplete : state.Complete initial := by
          unfold Complete at nextComplete ⊢
          rw [historyEq, executedEq, ← List.cons_append] at nextComplete
          exact List.append_cancel_right nextComplete
        refine ⟨⟨?_, wasComplete⟩,
          (List.prefix_append _ _).trans executedPrefix, submittedBefore⟩
        intro other otherTaken
        rw [taken, Option.some.injEq] at otherTaken
        subst otherTaken
        refine ⟨⟨fun data executes => ?_, keepsSession⟩, later⟩
        -- The data stands at the same place of what is submitted in the end.
        have isSubmitted := tracked.executed_lt executes
        rw [executes, Option.toList_some] at executedPrefix
        have atEnd : final.executed[state.executed.length]? = some data := by
          obtain ⟨rest, restEq⟩ := executedPrefix
          rw [← restEq, List.append_assoc,
            List.getElem?_append_right (Nat.le_refl _), Nat.sub_self]
          rfl
        obtain ⟨rest, restEq⟩ := submittedBefore
        rw [inOrder, ← restEq, List.getElem?_append_left isSubmitted] at atEnd
        exact atEnd
      · unfold Complete at nextComplete
        rw [lost] at nextComplete
        cases nextComplete

theorem count_isSubmission_eq_zero {pool : WorkerPool numOfThreads NetJob}
    {sessionId : Nat} (none : ∀ job ∈ pool, job.submission? sessionId = none) :
    pool.count (NetJob.isSubmission sessionId) = 0 := by
  apply WorkerPool.count_eq_zero
  intro job member
  rw [NetJob.isSubmission, none job member]
  rfl

/-- A session with its initial row and nothing submitted for it. -/
theorem tracked_created {start : NetState} {session : GameSession}
    (present : start.gameSessions.lookup initial.id = some session)
    (historyEq : session.history = [initial]) (dataEq : session.gameData = initial)
    (noneBefore : ∀ job ∈ start.pool, job.submission? initial.id = none) :
    Tracked { net := start } initial := by
  have entryHistory : (start.gameSessions.entry initial.id).history =
      [initial] := by
    rw [GameSessions.entry_of_lookup present, historyEq]
  refine { lastRow := ?_, counted := ?_, suffix := by rw [entryHistory] }
  · intro other isOther
    rw [present, Option.some.injEq] at isOther
    rw [← isOther, historyEq, dataEq]
    rfl
  · have none := count_isSubmission_eq_zero noneBefore
    simpa using none

theorem Tracked.run {final : SubmissionRun} {actions : List NetAction}
    (tracked : state.Tracked initial)
    (once : ∀ action ∈ actions, ∀ data origin,
      action = .sessionCreate data origin → data.id ≠ initial.id)
    (reached : Transition.run (SubmissionRun.step initial.id) state actions = some final) :
    final.Tracked initial := by
  have preserved : ∀ (state : SubmissionRun) action next,
      state.Tracked initial → (∀ data origin,
        action = .sessionCreate data origin → data.id ≠ initial.id) →
      state.step initial.id action = some next → next.Tracked initial :=
    fun _ _ _ tracked once taken => tracked.step once taken
  exact Transition.run_preserves preserved reached (.of_forall_mem once) tracked

theorem InOrder.run {final : SubmissionRun} {actions : List NetAction}
    (inOrder : state.InOrder initial)
    (once : ∀ action ∈ actions, ∀ data origin,
      action = .sessionCreate data origin → data.id ≠ initial.id)
    (along : Transition.HoldsAlong (SubmissionRun.step initial.id) (InTurn initial.id) state
      actions)
    (reached : Transition.run (SubmissionRun.step initial.id) state actions = some final) :
    final.InOrder initial := by
  have onceAlong : Transition.HoldsAlong (SubmissionRun.step initial.id)
      (fun _ action => ∀ data origin, action = .sessionCreate data origin →
        data.id ≠ initial.id) state actions :=
    .of_forall_mem once
  have preserved : ∀ (state : SubmissionRun) action next,
      state.InOrder initial →
      (InTurn initial.id state action ∧ ∀ data origin,
        action = .sessionCreate data origin → data.id ≠ initial.id) →
      state.step initial.id action = some next → next.InOrder initial :=
    fun _ _ _ kept holds taken => kept.step holds.2 holds.1 taken
  exact Transition.run_preserves preserved reached (along.and onceAlong) inOrder

/-- When as much has been stored as has been submitted, it is the same. -/
theorem InOrder.storedInOrder (inOrder : state.InOrder initial)
    (sameLength : state.executed.length = state.submitted.length) :
    state.StoredInOrder initial := by
  have complete := inOrder.complete
  unfold Complete at complete
  rw [inOrder.executed.eq_of_length sameLength] at complete
  cases isStored : state.net.gameSessions.lookup initial.id with
  | none => simp [GameSessions.entry, isStored] at complete
  | some stored =>
      rw [GameSessions.entry_of_lookup isStored] at complete
      refine ⟨stored, isStored, complete, ?_⟩
      rw [← complete]
      exact inOrder.tracked.lastRow stored isStored

/-- A history of all that has been submitted has lost nothing: it is as long as
what has been stored. -/
theorem StoredInOrder.complete (stored : state.StoredInOrder initial)
    (tracked : state.Tracked initial)
    (sameLength : state.executed.length = state.submitted.length) :
    state.Complete initial ∧ state.executed = state.submitted := by
  obtain ⟨session, isStored, storedHistory, -⟩ := stored
  have suffix := tracked.suffix
  rw [GameSessions.entry_of_lookup isStored, storedHistory] at suffix
  have sameRows : initial :: state.submitted = initial :: state.executed :=
    suffix.eq_of_length (by simp [sameLength])
  refine ⟨?_, (List.cons.inj sameRows).2.symm⟩
  rw [Complete, GameSessions.entry_of_lookup isStored, storedHistory, sameRows]

/-- Once the closures of a session have all run, its history and its data are
those submitted, in order, exactly if each of them ran in its turn and the
session was not erased meanwhile. -/
theorem storedInOrder_iff {start : NetState} {initial : GameData}
    {actions : List NetAction} {final : SubmissionRun}
    (created : ∃ session,
      start.gameSessions.lookup initial.id = some session ∧
        session.history = [initial] ∧ session.gameData = initial)
    (noneBefore : ∀ job ∈ start.pool, job.submission? initial.id = none)
    (once : ∀ action ∈ actions, ∀ data origin,
      action = .sessionCreate data origin → data.id ≠ initial.id)
    (reached : Transition.run (step initial.id) { net := start } actions =
      some final)
    (allRun : ∀ job ∈ final.net.pool, job.submission? initial.id = none) :
    final.StoredInOrder initial ↔
      Transition.HoldsAlong (step initial.id) (InTurn initial.id)
        { net := start } actions := by
  obtain ⟨session, present, historyEq, dataEq⟩ := created
  have initially : Tracked { net := start } initial :=
    tracked_created present historyEq dataEq noneBefore
  have tracked : final.Tracked initial := initially.run once reached
  have sameLength : final.executed.length = final.submitted.length := by
    have counted := tracked.counted
    rw [count_isSubmission_eq_zero allRun] at counted
    exact counted
  constructor
  · intro stored
    obtain ⟨complete, inOrder⟩ := stored.complete tracked sameLength
    exact (inTurn_of_complete initially once reached complete inOrder).1.1
  · intro along
    have entryHistory : (start.gameSessions.entry initial.id).history =
        [initial] := by
      rw [GameSessions.entry_of_lookup present, historyEq]
    have before : InOrder { net := start } initial :=
      { tracked := initially
        complete := entryHistory
        executed := List.prefix_rfl }
    exact (before.run once along reached).storedInOrder sameLength

def turnData (ball : Nat) : GameData :=
  { NetState.onePlayerData 1 true with ball := ball }

/-- A session with its initial row. -/
def createdSession : NetState where
  gameSessions := Finmap.insert 1
    { gameData := turnData 1, history := [turnData 1] } (∅ : GameSessions)

theorem createdSession_created : ∃ session,
    createdSession.gameSessions.lookup (turnData 1).id = some session ∧
      session.history = [turnData 1] ∧ session.gameData = turnData 1 :=
  ⟨_, Finmap.lookup_insert _, rfl, rfl⟩

theorem createdSession_noneBefore :
    ∀ job ∈ createdSession.pool, job.submission? (turnData 1).id = none :=
  fun _ member => absurd member WorkerPool.not_mem_empty

/-- Two closures, taken by two threads and run in their turn. -/
def twoTurns : List NetAction :=
  [.submitGameData (turnData 2) {}, .submitGameData (turnData 3) {},
    .takeJob 0, .takeJob 1, .runJob 0, .runJob 1, .runJob 0, .runJob 1]

theorem storedInOrder_twoTurns :
    ∃ final, Transition.run (step 1) { net := createdSession } twoTurns =
        some final ∧
      final.submitted.length = 2 ∧ final.StoredInOrder (turnData 1) := by
  have evaluated : ((Transition.run (step 1) { net := createdSession }
      twoTurns).any fun final => final.submitted.length = 2 &&
        final.net.pool.isIdle) = true := by
    decide +kernel
  obtain ⟨final, reached, ended⟩ := (Option.any_eq_true _ _).mp evaluated
  simp only [Bool.and_eq_true, decide_eq_true_eq] at ended
  refine ⟨final, reached, ended.1, ?_⟩
  refine (@storedInOrder_iff createdSession (turnData 1) twoTurns final
    createdSession_created createdSession_noneBefore ?_ reached ?_).mpr ?_
  · intro action member data origin isCreate
    subst isCreate
    simp [twoTurns] at member
  · exact fun job member =>
      absurd member (WorkerPool.not_mem_of_isIdle ended.2 job)
  · have inTurn : ∀ {state : SubmissionRun} {action : NetAction} {data},
        state.net.execution? 1 action = some data →
        state.submitted[state.executed.length]? = some data →
        state.net.KeepsSession 1 action → InTurn 1 state action := by
      intro state action data executes isNext keeps
      refine ⟨fun other isOther => ?_, keeps⟩
      rwa [← isOther, executes]
    refine .cons rfl ⟨nofun, trivial⟩ (.cons rfl ⟨nofun, trivial⟩ ?_)
    refine .cons rfl ⟨nofun, trivial⟩ (.cons rfl ⟨nofun, trivial⟩ ?_)
    refine .cons rfl (inTurn rfl rfl trivial) ?_
    refine .cons rfl (inTurn rfl rfl trivial) ?_
    exact .cons rfl ⟨nofun, trivial⟩ (.cons rfl ⟨nofun, trivial⟩ trivial)

/-- The second closure runs first. -/
def swappedTurns : List NetAction :=
  [.submitGameData (turnData 2) {}, .submitGameData (turnData 3) {},
    .takeJob 0, .takeJob 1, .runJob 1, .runJob 0, .runJob 0, .runJob 1]

theorem notInOrder_swappedTurns :
    ∃ final, Transition.run (step 1) { net := createdSession } swappedTurns =
        some final ∧
      (∀ job ∈ final.net.pool, job.submission? 1 = none) ∧
      ¬ final.StoredInOrder (turnData 1) := by
  have evaluated : ((Transition.run (step 1) { net := createdSession }
      swappedTurns).any fun final => final.net.pool.isIdle &&
        (final.net.gameSessions.entry 1).gameData.ball = 2 &&
          final.submitted.map (·.ball) = [2, 3]) = true := by
    decide +kernel
  obtain ⟨final, reached, ended⟩ := (Option.any_eq_true _ _).mp evaluated
  simp only [Bool.and_eq_true, decide_eq_true_eq] at ended
  obtain ⟨⟨idle, ball⟩, submitted⟩ := ended
  refine ⟨final, reached, fun job member =>
    absurd member (WorkerPool.not_mem_of_isIdle idle job), ?_⟩
  rintro ⟨session, present, -, last⟩
  have lastBall := congrArg (Option.map GameData.ball) last
  rw [← List.getLast?_map, List.map_cons, submitted] at lastBall
  have isEntry : final.net.gameSessions.entry 1 = session :=
    GameSessions.entry_of_lookup present
  rw [isEntry] at ball
  simp [ball] at lastBall

end SubmissionRun

end ScorbitSdk
