import ScorbitSdk.NetSteps

/-!
# Session updates that are called for

One timer serves the debounce of joining players and the retries of every
session that has no uuid yet, and each call of `sessionUpdate` stops it.  A
call is lost when the update that was to carry it is discarded: by the timer,
because its session is gone, or because its request is refused.
-/

namespace ScorbitSdk

theorem SessionFlags.Covers.trans {first second third : SessionFlags}
    (earlier : first.Covers second) (later : second.Covers third) :
    first.Covers third :=
  ⟨fun called => earlier.1 (later.1 called),
    fun called => earlier.2 (later.2 called)⟩

theorem SessionFlags.covers_refl (flags : SessionFlags) : flags.Covers flags :=
  ⟨id, id⟩

/-- The session and the flags of the update that a job is about. -/
def NetJob.update? : NetJob → Option (Nat × SessionFlags)
  | sessionUpdate sessionId flags => some (sessionId, flags)
  | createSessionUpdate sessionId flags => some (sessionId, flags)
  | retrySessionUpdate sessionId flags => some (sessionId, flags)
  | postSessionUpdate patch => some (patch.sessionId, patch.flags)
  | _ => none

def SessionTask.update? : SessionTask → Option (Nat × SessionFlags)
  | create _ => none
  | update patch => some (patch.sessionId, patch.flags)

namespace NetState

def InPool (state : NetState) (update : Nat × SessionFlags) : Prop :=
  ∃ job ∈ state.pool, job.update? = some update

def Queued (state : NetState) (update : Nat × SessionFlags) : Prop :=
  ∃ task ∈ state.sessionQueue, task.update? = some update

/-- The session strand is about to send the update. -/
def Waiting (state : NetState) (update : Nat × SessionFlags) : Prop :=
  ∃ task attempt, state.sessionRunning = some (.waiting task attempt) ∧
    task.update? = some update

/-- An update that may still be sent. -/
def Pending (state : NetState) (update : Nat × SessionFlags) : Prop :=
  state.sessionUpdateTimer = some update ∨ state.InPool update ∨
    state.Queued update ∨ state.Waiting update

/-- Every call that no request has carried yet has a pending update of its
session that includes its flags. -/
def NoUpdateLost (state : NetState) : Prop :=
  state.stop = false → ∀ call ∈ state.updateCalls,
    ∃ flags, state.Pending (call.1, flags) ∧ flags.Covers call.2

/-- Each call that the discarded update includes is included in another one. -/
def Spare (state : NetState) (discarded : Nat × SessionFlags)
    (others : Nat × SessionFlags → Prop) : Prop :=
  ∀ call ∈ state.updateCalls, call.1 = discarded.1 →
    discarded.2.Covers call.2 →
      ∃ flags, others (call.1, flags) ∧ flags.Covers call.2

/-- The job stops or arms the timer of the session updates. -/
def TouchesTimer : NetJob → Prop
  | .sessionUpdate _ _ => True
  | .createSessionUpdate _ flags => isDebounceDue flags = true
  | .retrySessionUpdate _ _ => True
  | _ => False

/-- The step discards no update that a call still needs: not the timer's, not
that of a session that is gone, and not that of a refused request. -/
def KeepsUpdates (state : NetState) (action : NetAction) : Prop :=
  state.stop = false →
    match action with
    | .runJob thread => ∀ job, state.pool.threads thread = some job →
        (TouchesTimer job → ∀ armed, state.sessionUpdateTimer = some armed →
          state.Spare armed fun update =>
            state.InPool update ∨ state.Queued update ∨
              state.Waiting update) ∧
        ∀ sessionId flags, job = .createSessionUpdate sessionId flags →
          isDebounceDue flags = false →
          state.gameSessions.lookup sessionId = none →
            state.Spare (sessionId, flags) fun update =>
              state.sessionUpdateTimer = some update ∨
                (∃ other, state.pool.Elsewhere thread other ∧
                  other.update? = some update) ∨
                state.Queued update ∨ state.Waiting update
    | .refuseSessionTask => ∀ patch attempt,
        state.sessionRunning = some (.waiting (.update patch) attempt) →
          state.Spare (patch.sessionId, patch.flags) fun update =>
            state.sessionUpdateTimer = some update ∨ state.InPool update ∨
              state.Queued update
    | _ => True

variable {state next : NetState}

theorem NoUpdateLost.of_pending (kept : state.NoUpdateLost)
    (sameStop : next.stop = state.stop)
    (sameCalls : next.updateCalls = state.updateCalls)
    (moved : ∀ update, state.Pending update →
      ∃ flags, next.Pending (update.1, flags) ∧ flags.Covers update.2) :
    next.NoUpdateLost := by
  intro running call member
  rw [sameCalls] at member
  obtain ⟨flags, pending, covers⟩ := kept (sameStop ▸ running) call member
  obtain ⟨later, laterPending, laterCovers⟩ := moved _ pending
  exact ⟨later, laterPending, laterCovers.trans covers⟩

/-- A step that discards an update keeps the calls when the update is spare and
all other updates stay pending. -/
theorem NoUpdateLost.of_spare {discarded : Nat × SessionFlags}
    {others : Nat × SessionFlags → Prop} (kept : state.NoUpdateLost)
    (running : state.stop = false) (spare : state.Spare discarded others)
    (split : ∀ update, state.Pending update →
      update = discarded ∨ others update)
    (moved : ∀ update, others update →
      ∃ flags, next.Pending (update.1, flags) ∧ flags.Covers update.2) :
    ∀ call ∈ state.updateCalls,
      ∃ flags, next.Pending (call.1, flags) ∧ flags.Covers call.2 := by
  intro call member
  obtain ⟨flags, pending, covers⟩ := kept running call member
  have left : ∃ flags, others (call.1, flags) ∧ flags.Covers call.2 := by
    rcases split _ pending with rfl | other
    · exact spare call member rfl covers
    · exact ⟨flags, other, covers⟩
  obtain ⟨spareFlags, other, spareCovers⟩ := left
  obtain ⟨later, laterPending, laterCovers⟩ := moved _ other
  exact ⟨later, laterPending, laterCovers.trans spareCovers⟩

/-- What becomes of the updates in the pool when a job goes on: its own one
stays with the rest of the job, if the rest is about an update. -/
theorem inPool_goOn {thread : Fin numOfThreads} {job : NetJob}
    {rest : Option NetJob} (running : state.pool.threads thread = some job)
    {update : Nat × SessionFlags} (inPool : state.InPool update) :
    job.update? = some update ∨
      ∃ other ∈ state.pool.goOn thread rest, other.update? = some update := by
  obtain ⟨other, member, isUpdate⟩ := inPool
  rcases (WorkerPool.mem_cases running).mp member with rfl | elsewhere
  · exact Or.inl isUpdate
  · exact Or.inr ⟨other, WorkerPool.mem_goOn.mpr (Or.inr elsewhere), isUpdate⟩

theorem own_goOn {thread : Fin numOfThreads} {rest : NetJob}
    {update : Nat × SessionFlags} (isUpdate : rest.update? = some update) :
    ∃ other ∈ state.pool.goOn thread (some rest),
      other.update? = some update :=
  ⟨rest, WorkerPool.mem_goOn.mpr (Or.inl rfl), isUpdate⟩

/-- A job that goes on with the same update, or has none, moves nothing. -/
theorem NoUpdateLost.of_goOn {thread : Fin numOfThreads} {job : NetJob}
    {rest : Option NetJob} (kept : state.NoUpdateLost)
    (running : state.pool.threads thread = some job)
    (poolEq : next.pool = state.pool.goOn thread rest)
    (sameUpdate : ∀ update, job.update? = some update →
      ∃ own, rest = some own ∧ own.update? = some update)
    (sameTimer : next.sessionUpdateTimer = state.sessionUpdateTimer)
    (sameQueue : next.sessionQueue = state.sessionQueue)
    (sameRunning : next.sessionRunning = state.sessionRunning)
    (sameStop : next.stop = state.stop)
    (sameCalls : next.updateCalls = state.updateCalls) :
    next.NoUpdateLost := by
  refine kept.of_pending sameStop sameCalls fun update pending =>
    ⟨update.2, ?_, SessionFlags.covers_refl _⟩
  rcases pending with armed | inPool | queued | waiting
  · exact Or.inl (sameTimer ▸ armed)
  · right; left
    unfold InPool
    rw [poolEq]
    rcases inPool_goOn running inPool with own | other
    · obtain ⟨ownRest, rfl, ownUpdate⟩ := sameUpdate update own
      exact own_goOn ownUpdate
    · exact other
  · exact Or.inr (Or.inr (Or.inl (by unfold Queued; rw [sameQueue]; exact queued)))
  · exact Or.inr (Or.inr (Or.inr
      (by unfold Waiting; rw [sameRunning]; exact waiting)))

/-- Everything pending outside the timer stays pending when a job goes on, its
own update with the rest of the job or on the timer. -/
theorem pending_goOn {thread : Fin numOfThreads} {job : NetJob}
    {rest : Option NetJob} (running : state.pool.threads thread = some job)
    (poolEq : next.pool = state.pool.goOn thread rest)
    (own : ∀ update, job.update? = some update →
      ∃ flags, next.Pending (update.1, flags) ∧ flags.Covers update.2)
    (sameQueue : next.sessionQueue = state.sessionQueue)
    (sameRunning : next.sessionRunning = state.sessionRunning)
    {update : Nat × SessionFlags}
    (pending : state.InPool update ∨ state.Queued update ∨
      state.Waiting update) :
    ∃ flags, next.Pending (update.1, flags) ∧ flags.Covers update.2 := by
  rcases pending with inPool | queued | waiting
  · rcases @inPool_goOn state thread job rest running update inPool with isOwn | other
    · exact own update isOwn
    · refine ⟨update.2, Or.inr (Or.inl ?_), SessionFlags.covers_refl _⟩
      unfold InPool
      rw [poolEq]
      exact other
  · refine ⟨update.2, Or.inr (Or.inr (Or.inl ?_)), SessionFlags.covers_refl _⟩
    unfold Queued
    rw [sameQueue]
    exact queued
  · refine ⟨update.2, Or.inr (Or.inr (Or.inr ?_)), SessionFlags.covers_refl _⟩
    unfold Waiting
    rw [sameRunning]
    exact waiting

/-- A job that stops or arms the timer keeps the calls when the timer's update
is spare and its own update is pending afterwards. -/
theorem NoUpdateLost.of_touchesTimer {thread : Fin numOfThreads} {job : NetJob}
    (kept : state.NoUpdateLost)
    (keeps : state.KeepsUpdates (.runJob thread))
    (notStopped : state.stop = false)
    (running : state.pool.threads thread = some job)
    (touches : TouchesTimer job)
    (goesOn : ∃ rest, next.pool = state.pool.goOn thread rest)
    (own : ∀ update, job.update? = some update →
      ∃ flags, next.Pending (update.1, flags) ∧ flags.Covers update.2)
    (sameQueue : next.sessionQueue = state.sessionQueue)
    (sameRunning : next.sessionRunning = state.sessionRunning) :
    ∀ call ∈ state.updateCalls,
      ∃ flags, next.Pending (call.1, flags) ∧ flags.Covers call.2 := by
  obtain ⟨rest, poolEq⟩ := goesOn
  have moved : ∀ update, state.InPool update ∨ state.Queued update ∨
      state.Waiting update →
        ∃ flags, next.Pending (update.1, flags) ∧ flags.Covers update.2 :=
    fun update => pending_goOn running poolEq own sameQueue sameRunning
  cases armed : state.sessionUpdateTimer with
  | none =>
      intro call member
      obtain ⟨flags, pending, covers⟩ := kept notStopped call member
      rcases pending with isArmed | others
      · rw [armed] at isArmed
        cases isArmed
      · obtain ⟨later, laterPending, laterCovers⟩ := moved _ others
        exact ⟨later, laterPending, laterCovers.trans covers⟩
  | some update =>
      refine kept.of_spare notStopped
        ((keeps notStopped job running).1 touches update armed) ?_ moved
      rintro other (isArmed | others)
      · rw [armed, Option.some.injEq] at isArmed
        exact Or.inl isArmed.symm
      · exact Or.inr others

/-- While a request is under way the strand has no update to send. -/
theorem notWaiting {task : SessionTask} {attempt : Nat}
    (running : state.sessionRunning = some (.requested task attempt))
    {sessions : GameSessions} {later : Option SessionRun}
    {acknowledged : List SessionPatch} {erased : List ErasedSession}
    (update : Nat × SessionFlags) (pending : state.Pending update) :
    NetState.Pending { state with
      gameSessions := sessions
      sessionRunning := later
      acknowledged := acknowledged
      erased := erased } update := by
  rcases pending with armed | inPool | queued | ⟨_, _, isRunning, -⟩
  · exact Or.inl armed
  · exact Or.inr (Or.inl inPool)
  · exact Or.inr (Or.inr (Or.inl queued))
  · rw [running] at isRunning
    cases isRunning

/-- A pool that still has all its jobs has all their updates. -/
theorem NoUpdateLost.of_pool (kept : state.NoUpdateLost)
    (stays : ∀ job ∈ state.pool, job ∈ next.pool)
    (sameTimer : next.sessionUpdateTimer = state.sessionUpdateTimer)
    (sameQueue : next.sessionQueue = state.sessionQueue)
    (sameRunning : next.sessionRunning = state.sessionRunning)
    (sameStop : next.stop = state.stop)
    (sameCalls : next.updateCalls = state.updateCalls) :
    next.NoUpdateLost := by
  refine kept.of_pending sameStop sameCalls fun update pending =>
    ⟨update.2, ?_, SessionFlags.covers_refl _⟩
  rcases pending with armed | ⟨job, member, isUpdate⟩ | queued | waiting
  · exact Or.inl (sameTimer ▸ armed)
  · exact Or.inr (Or.inl ⟨job, stays job member, isUpdate⟩)
  · exact Or.inr (Or.inr (Or.inl (by unfold Queued; rw [sameQueue]; exact queued)))
  · exact Or.inr (Or.inr (Or.inr
      (by unfold Waiting; rw [sameRunning]; exact waiting)))

/-- What the strand is about to send is the update of the task that waits. -/
theorem update?_of_waiting {task : SessionTask} {attempt : Nat}
    (running : state.sessionRunning = some (.waiting task attempt))
    {update : Nat × SessionFlags} (waiting : state.Waiting update) :
    task.update? = some update := by
  obtain ⟨task, _, isRunning, isUpdate⟩ := waiting
  rw [running] at isRunning
  cases isRunning
  exact isUpdate

/-- A call of `sessionUpdate` stops the timer, and its own update is pending. -/
theorem NoUpdateLost.update {thread : Fin numOfThreads} {sessionId : Nat}
    {flags : SessionFlags} (kept : state.NoUpdateLost)
    (keeps : state.KeepsUpdates (.runJob thread)) (notStopped : state.stop = false)
    (running : state.pool.threads thread = some (.sessionUpdate sessionId flags)) :
    NetState.NoUpdateLost { state with
      sessionUpdateTimer := none
      updateCalls := state.updateCalls ++ [(sessionId, flags)]
      pool := state.pool.goOn thread
        (some (.createSessionUpdate sessionId flags)) } := by
  have own : NetState.InPool { state with
      sessionUpdateTimer := none
      updateCalls := state.updateCalls ++ [(sessionId, flags)]
      pool := state.pool.goOn thread
        (some (.createSessionUpdate sessionId flags)) }
      (sessionId, flags) := own_goOn rfl
  intro _ call member
  rcases List.mem_append.mp member with old | new
  · refine kept.of_touchesTimer keeps notStopped running trivial ?_
      (fun update isUpdate => ?_) ?_ ?_ call old
    · exact ⟨_, rfl⟩
    · cases isUpdate
      exact ⟨flags, Or.inr (Or.inl own), SessionFlags.covers_refl _⟩
    · rfl
    · rfl
  · rw [List.mem_singleton.mp new]
    exact ⟨flags, Or.inr (Or.inl own), SessionFlags.covers_refl _⟩

/-- An update is discarded with its session. -/
theorem NoUpdateLost.updateGone {thread : Fin numOfThreads} {sessionId : Nat}
    {flags : SessionFlags} (kept : state.NoUpdateLost)
    (keeps : state.KeepsUpdates (.runJob thread))
    (running : state.pool.threads thread =
      some (.createSessionUpdate sessionId flags))
    (notDue : isDebounceDue flags = false)
    (absent : state.gameSessions.lookup sessionId = none) :
    NetState.NoUpdateLost { state with pool := state.pool.goOn thread none } := by
  intro notStopped call member
  refine kept.of_spare notStopped
    ((keeps notStopped _ running).2 _ _ rfl notDue absent) ?_ ?_ call member
  · rintro update (armed | ⟨job, jobMember, isUpdate⟩ | others)
    · exact Or.inr (Or.inl armed)
    · rcases (WorkerPool.mem_cases running).mp jobMember with rfl | elsewhere
      · exact Or.inl (Option.some.inj isUpdate).symm
      · exact Or.inr (Or.inr (Or.inl ⟨job, elsewhere, isUpdate⟩))
    · exact Or.inr (Or.inr (Or.inr others))
  · rintro update (armed | ⟨job, elsewhere, isUpdate⟩ | others)
    · exact ⟨update.2, Or.inl armed, SessionFlags.covers_refl _⟩
    · exact ⟨update.2, Or.inr (Or.inl
        ⟨job, WorkerPool.mem_goOn.mpr (Or.inr elsewhere), isUpdate⟩),
        SessionFlags.covers_refl _⟩
    · exact ⟨update.2, Or.inr (Or.inr others), SessionFlags.covers_refl _⟩

/-- An update is discarded with its refused request. -/
theorem NoUpdateLost.refuse {task : SessionTask} {attempt : Nat}
    (kept : state.NoUpdateLost) (keeps : state.KeepsUpdates .refuseSessionTask)
    (running : state.sessionRunning = some (.waiting task attempt)) :
    NetState.NoUpdateLost { state with sessionRunning := none } := by
  have moved : ∀ update, state.sessionUpdateTimer = some update ∨
      state.InPool update ∨ state.Queued update →
      ∃ flags, NetState.Pending { state with sessionRunning := none }
        (update.1, flags) ∧ flags.Covers update.2 := by
    rintro update (armed | inPool | queued)
    · exact ⟨update.2, Or.inl armed, SessionFlags.covers_refl _⟩
    · exact ⟨update.2, Or.inr (Or.inl inPool), SessionFlags.covers_refl _⟩
    · exact ⟨update.2, Or.inr (Or.inr (Or.inl queued)), SessionFlags.covers_refl _⟩
  intro notStopped call member
  cases task with
  | create post =>
      obtain ⟨flags, pending, covers⟩ := kept notStopped call member
      have others : state.sessionUpdateTimer = some (call.1, flags) ∨
          state.InPool (call.1, flags) ∨ state.Queued (call.1, flags) := by
        rcases pending with armed | inPool | queued | waiting
        · exact Or.inl armed
        · exact Or.inr (Or.inl inPool)
        · exact Or.inr (Or.inr queued)
        · cases update?_of_waiting running waiting
      obtain ⟨later, laterPending, laterCovers⟩ := moved _ others
      exact ⟨later, laterPending, laterCovers.trans covers⟩
  | update patch =>
      refine kept.of_spare notStopped
        (keeps notStopped patch attempt running) ?_ moved call member
      rintro update (armed | inPool | queued | waiting)
      · exact Or.inr (Or.inl armed)
      · exact Or.inr (Or.inr (Or.inl inPool))
      · exact Or.inr (Or.inr (Or.inr queued))
      · exact Or.inl (Option.some.inj (update?_of_waiting running waiting)).symm

/-- A request carries the calls that its update includes. -/
theorem NoUpdateLost.request {task : SessionTask} {attempt : Nat}
    (kept : state.NoUpdateLost)
    (running : state.sessionRunning = some (.waiting task attempt)) :
    NetState.NoUpdateLost { state with
      sessionRunning := some (.requested task attempt)
      updateCalls := callsAfter state.updateCalls task } := by
  intro notStopped call member
  have stillCalled : call ∈ state.updateCalls ∧
      ∀ patch, task = .update patch →
        ¬ (call.1 = patch.sessionId ∧ patch.flags.Covers call.2) := by
    cases task with
    | create post => exact ⟨member, fun _ impossible => by cases impossible⟩
    | update patch =>
        simp only [callsAfter, List.mem_filter, decide_eq_true_eq] at member
        exact ⟨member.1, fun _ isPatch => by cases isPatch; exact member.2⟩
  obtain ⟨flags, pending, covers⟩ := kept notStopped call stillCalled.1
  refine ⟨flags, ?_, covers⟩
  rcases pending with armed | inPool | queued | waiting
  · exact Or.inl armed
  · exact Or.inr (Or.inl inPool)
  · exact Or.inr (Or.inr (Or.inl queued))
  · have isUpdate := update?_of_waiting running waiting
    cases task with
    | create post => cases isUpdate
    | update patch =>
        obtain ⟨sameId, sameFlags⟩ := Prod.mk.inj (Option.some.inj isUpdate)
        exact absurd ⟨sameId.symm, sameFlags ▸ covers⟩ (stillCalled.2 patch rfl)

theorem NoUpdateLost.step {action : NetAction} (kept : state.NoUpdateLost)
    (keeps : state.KeepsUpdates action) (taken : Step state action next) :
    next.NoUpdateLost := by
  have quiet : (∀ update, state.Pending update → next.Pending update) →
      next.stop = state.stop → next.updateCalls = state.updateCalls →
        next.NoUpdateLost := fun moved sameStop sameCalls =>
    kept.of_pending sameStop sameCalls fun update pending =>
      ⟨update.2, moved update pending, SessionFlags.covers_refl _⟩
  cases taken with
  | setStop => exact fun impossible => by cases impossible
  | createPosted creating present posted =>
      refine quiet (fun update pending => ?_) rfl rfl
      rcases pending with armed | inPool | ⟨task, member, isUpdate⟩ | waiting
      · exact Or.inl armed
      · exact Or.inr (Or.inl inPool)
      · exact Or.inr (Or.inr (Or.inl
          ⟨task, List.mem_append_left _ member, isUpdate⟩))
      · exact Or.inr (Or.inr (Or.inr waiting))
  | submitGameData =>
      exact kept.of_pool (fun _ member => WorkerPool.mem_post.mpr (Or.inl member))
        rfl rfl rfl rfl rfl
  | takeJob poolTaken =>
      exact kept.of_pool (fun _ member => (WorkerPool.mem_take poolTaken).mpr member)
        rfl rfl rfl rfl rfl
  | gameDataTimerExpires armed =>
      exact kept.of_pool (fun _ member => WorkerPool.mem_post.mpr (Or.inl member))
        rfl rfl rfl rfl rfl
  | sessionUpdateTimerExpires armed =>
      refine quiet (fun update pending => ?_) rfl rfl
      rcases pending with isArmed | ⟨job, member, isUpdate⟩ | others
      · rw [armed, Option.some.injEq] at isArmed
        exact Or.inr (Or.inl
          ⟨_, WorkerPool.mem_post.mpr (Or.inr rfl), isArmed ▸ rfl⟩)
      · exact Or.inr (Or.inl
          ⟨job, WorkerPool.mem_post.mpr (Or.inl member), isUpdate⟩)
      · exact Or.inr (Or.inr others)
  | store running =>
      exact kept.of_goOn running rfl (fun _ impossible => by cases impossible)
        rfl rfl rfl rfl rfl
  | sendIfDue running =>
      exact kept.of_goOn running rfl (fun _ impossible => by cases impossible)
        rfl rfl rfl rfl rfl
  | postSend running =>
      exact kept.of_goOn running rfl (fun _ impossible => by cases impossible)
        rfl rfl rfl rfl rfl
  | updateNotReady running notDue present notReady =>
      exact kept.of_goOn running rfl (fun _ isUpdate => ⟨_, rfl, isUpdate⟩)
        rfl rfl rfl rfl rfl
  | updateBuilt running notDue present ready =>
      exact kept.of_goOn running rfl (fun _ isUpdate => ⟨_, rfl, isUpdate⟩)
        rfl rfl rfl rfl rfl
  | updateStopped running stopped =>
      intro notStopped
      rw [stopped] at notStopped
      cases notStopped
  | update running notStopped => exact kept.update keeps notStopped running
  | debounce running due =>
      intro notStopped call member
      refine kept.of_touchesTimer keeps notStopped running due ?_
        (fun update isUpdate => ?_) ?_ ?_ call member
      · exact ⟨_, rfl⟩
      · cases isUpdate
        exact ⟨_, Or.inl rfl, id, id⟩
      · rfl
      · rfl
  | retry running =>
      intro notStopped call member
      refine kept.of_touchesTimer keeps notStopped running trivial ?_
        (fun update isUpdate => ?_) ?_ ?_ call member
      · exact ⟨_, rfl⟩
      · cases isUpdate
        exact ⟨_, Or.inl rfl, SessionFlags.covers_refl _⟩
      · rfl
      · rfl
  | updateGone running notDue absent =>
      exact kept.updateGone keeps running notDue absent
  | postUpdate running =>
      rename_i thread patch
      refine quiet (fun update pending => ?_) rfl rfl
      rcases pending with armed | inPool | ⟨task, member, isUpdate⟩ | waiting
      · exact Or.inl armed
      · rcases inPool_goOn running inPool with own | other
        · exact Or.inr (Or.inr (Or.inl ⟨.update patch,
            List.mem_append_right _ (List.mem_singleton_self _), own⟩))
        · exact Or.inr (Or.inl other)
      · exact Or.inr (Or.inr (Or.inl
          ⟨task, List.mem_append_left _ member, isUpdate⟩))
      · exact Or.inr (Or.inr (Or.inr waiting))
  | takeSessionTask idle queueEq =>
      refine quiet (fun update pending => ?_) rfl rfl
      rcases pending with armed | inPool | ⟨task, member, isUpdate⟩ | waiting
      · exact Or.inl armed
      · exact Or.inr (Or.inl inPool)
      · rw [queueEq, List.mem_cons] at member
        rcases member with rfl | later
        · exact Or.inr (Or.inr (Or.inr ⟨_, _, rfl, isUpdate⟩))
        · exact Or.inr (Or.inr (Or.inl ⟨task, later, isUpdate⟩))
      · obtain ⟨task, attempt, running, -⟩ := waiting
        rw [idle] at running
        cases running
  | refuse running => exact kept.refuse keeps running
  | request running => exact kept.request running
  | again running => exact quiet (notWaiting running) rfl rfl
  | giveUp running noUpdate => exact quiet (notWaiting running) rfl rfl
  | updateKept running active => exact quiet (notWaiting running) rfl rfl
  | updateErased running inactive => exact quiet (notWaiting running) rfl rfl
  | created running present => exact quiet (notWaiting running) rfl rfl
  | onCreated running =>
      refine quiet (fun update pending => ?_) rfl rfl
      rcases pending with armed | inPool | queued | ⟨_, _, isRunning, -⟩
      · exact Or.inl armed
      · exact Or.inr (Or.inl inPool)
      · exact Or.inr (Or.inr (Or.inl queued))
      · rw [running] at isRunning
        cases isRunning
  | _ => exact quiet (fun _ pending => pending) rfl rfl

/-- In a run that discards no update a call still needs, no call is lost. -/
theorem noUpdateLost {actions : List NetAction} {final : NetState}
    (reached : Transition.run step {} actions = some final)
    (keeps : Transition.HoldsAlong step KeepsUpdates {} actions) :
    final.NoUpdateLost := by
  have preserved : ∀ (state : NetState) action next, state.NoUpdateLost →
      state.KeepsUpdates action → state.step action = some next →
        next.NoUpdateLost :=
    fun _ _ _ kept holds taken => kept.step holds (step_cases taken)
  have initially : NoUpdateLost {} := fun _ _ impossible => by cases impossible
  exact Transition.run_preserves preserved reached keeps initially

/-- Whether the step finds the timer free and the session there. -/
def discardsNothing (state : NetState) : NetAction → Bool
  | .runJob thread =>
      match state.pool.threads thread with
      | some (.sessionUpdate _ _) => state.sessionUpdateTimer.isNone
      | some (.retrySessionUpdate _ _) => state.sessionUpdateTimer.isNone
      | some (.createSessionUpdate sessionId flags) =>
          if isDebounceDue flags then state.sessionUpdateTimer.isNone
          else (state.gameSessions.lookup sessionId).isSome
      | _ => true
  | .refuseSessionTask => false
  | _ => true

theorem keepsUpdates_of_discardsNothing (state : NetState)
    (action : NetAction) (nothing : state.discardsNothing action = true) :
    state.KeepsUpdates action := by
  intro _
  cases action with
  | runJob thread =>
      intro job running
      simp only [discardsNothing, running] at nothing
      constructor
      · intro touches armed isArmed
        have isFree : state.sessionUpdateTimer = none := by
          cases job <;> simp_all [TouchesTimer]
        rw [isFree] at isArmed
        cases isArmed
      · rintro sessionId flags rfl notDue absent
        simp only [notDue, absent] at nothing
        cases nothing
  | refuseSessionTask => cases nothing
  | _ => trivial

/-- Data of a game of one player. -/
def onePlayerData (sessionId : Nat) (isGameActive : Bool) : GameData where
  id := sessionId
  isGameActive := isGameActive
  ball := 1
  activePlayer := 1
  players := Finmap.insert 1 { player := 1 } (∅ : Players)

/-- A session whose first player's update is debounced, built and queued. -/
theorem noUpdateLost_debounced :
    ∃ final, Transition.run step {}
        [.sessionCreate (onePlayerData 1 true) .startButton,
          .createSessionCreateTask, .takeSessionTask, .requestSessionTask,
          .replySessionTask (.success (some "uuid")), .onCreated,
          .submitGameData (onePlayerData 1 true) { playersAdd := true },
          .takeJob 0, .runJob 0, .runJob 0, .runJob 0, .runJob 0,
          .sessionUpdateTimerExpires, .takeJob 1, .runJob 1, .runJob 1,
          .runJob 1] = some final ∧
      (final.updateCalls.length = 2 ∧ final.sessionQueue.length = 1) ∧
        final.NoUpdateLost := by
  have evaluated : ((Transition.run step {}
        [.sessionCreate (onePlayerData 1 true) .startButton,
          .createSessionCreateTask, .takeSessionTask, .requestSessionTask,
          .replySessionTask (.success (some "uuid")), .onCreated,
          .submitGameData (onePlayerData 1 true) { playersAdd := true },
          .takeJob 0, .runJob 0, .runJob 0, .runJob 0, .runJob 0,
          .sessionUpdateTimerExpires, .takeJob 1, .runJob 1, .runJob 1,
          .runJob 1]).any fun final => final.updateCalls.length = 2 ∧
            final.sessionQueue.length = 1) = true := by
    decide +kernel
  obtain ⟨final, reached, lengths⟩ := (Option.any_eq_true _ _).mp evaluated
  refine ⟨final, reached, by simpa using lengths, noUpdateLost reached ?_⟩
  exact .of_checksAlong keepsUpdates_of_discardsNothing (by decide +kernel)

/-- The pending updates, as a list. -/
def pendingUpdates (state : NetState) : List (Nat × SessionFlags) :=
  state.sessionUpdateTimer.toList ++
    state.pool.queue.filterMap NetJob.update? ++
    (List.finRange numOfThreads).filterMap
      (fun thread => (state.pool.threads thread).bind NetJob.update?) ++
    state.sessionQueue.filterMap SessionTask.update? ++
    ((state.sessionRunning.bind SessionRun.task?).bind
      SessionTask.update?).toList

theorem mem_pendingUpdates {update : Nat × SessionFlags}
    (pending : state.Pending update) : update ∈ state.pendingUpdates := by
  simp only [pendingUpdates, List.mem_append, Option.mem_toList,
    List.mem_filterMap, List.mem_finRange, true_and]
  rcases pending with
    armed | ⟨job, queued | ⟨thread, running⟩, isUpdate⟩ |
      ⟨task, queued, isUpdate⟩ | ⟨task, attempt, running, isUpdate⟩
  · exact Or.inl (Or.inl (Or.inl (Or.inl armed)))
  · exact Or.inl (Or.inl (Or.inl (Or.inr ⟨job, queued, isUpdate⟩)))
  · exact Or.inl (Or.inl (Or.inr ⟨thread, by rw [running]; exact isUpdate⟩))
  · exact Or.inl (Or.inr ⟨task, queued, isUpdate⟩)
  · exact Or.inr (by rw [running]; exact isUpdate)

/-- The last update of a game whose uuid has not arrived waits for its retry
when the next game's update stops the timer. -/
def supersededRetry : List NetAction :=
  [.sessionCreate (onePlayerData 1 true) .startButton,
    .createSessionCreateTask,
    .submitGameData (onePlayerData 1 false) { uploadHistoryLogs := true },
    .takeJob 0, .runJob 0, .runJob 0, .runJob 0, .runJob 0, .runJob 0,
    .sessionCreate (onePlayerData 2 true) .startButton,
    .createSessionCreateTask,
    .submitGameData (onePlayerData 2 true) { uploadHistoryLogs := true },
    .takeJob 0, .runJob 0, .runJob 0, .runJob 0]

theorem updateLost_supersededRetry :
    ∃ final, Transition.run step {} supersededRetry = some final ∧
      ¬ final.NoUpdateLost := by
  have evaluated : ((Transition.run step {} supersededRetry).any fun final =>
      !final.stop && (final.updateCalls.map (·.1)).contains 1 &&
        final.pendingUpdates.all (·.1 ≠ 1)) = true := by
    decide +kernel
  obtain ⟨final, reached, lost⟩ := (Option.any_eq_true _ _).mp evaluated
  refine ⟨final, reached, fun kept => ?_⟩
  simp only [Bool.and_eq_true, Bool.not_eq_true', List.contains_iff_mem,
    List.mem_map, List.all_eq_true, decide_eq_true_eq] at lost
  obtain ⟨⟨notStopped, call, member, isFirst⟩, noneFirst⟩ := lost
  obtain ⟨flags, pending, -⟩ := kept notStopped call member
  exact noneFirst _ (mem_pendingUpdates pending) isFirst

end NetState

end ScorbitSdk
