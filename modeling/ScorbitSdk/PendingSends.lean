import ScorbitSdk.NetSteps

/-!
# Sends that are still to run

A send of a session is on its way from the closure that finds it due, or from
the timer and its handler, to the queue of the commit strand.
-/

namespace ScorbitSdk

/-- The job is going to post a send of the session. -/
def NetJob.Sends (sessionId : Nat) : NetJob → Prop
  | sendIfDue data counter _ =>
      data.id = sessionId ∧ NetState.isSendDue data counter = true
  | sendLatestGameData id => id = sessionId
  | _ => False

namespace NetState

/-- A send of the session waits in the pool or on the commit strand. -/
def SendPosted (state : NetState) (sessionId : Nat) : Prop :=
  sessionId ∈ state.commitQueue ∨ ∃ job ∈ state.pool, job.Sends sessionId

/-- A send of the session waits there or for the timer. -/
def SendQueued (state : NetState) (sessionId : Nat) : Prop :=
  state.gameDataTimer = some sessionId ∨ state.SendPosted sessionId

variable {state next : NetState} {action : NetAction} {sessionId : Nat}

/-- A send comes up when due data is stored or when a send arms the timer. -/
theorem Step.sendQueued_before (taken : Step state action next)
    (queued : next.SendQueued sessionId) :
    state.SendQueued sessionId ∨
      (∃ data flags, NetJob.submitGameData data flags ∈ state.pool ∧
        data.id = sessionId ∧
        isSendDue data (state.gameSessions.entry sessionId).sessionCounter =
          true) ∨
      ∃ data, state.commitRunning = some (.startTimer sessionId data) ∧
        data.isGameActive = true := by
  have fromRest : ∀ {thread : Fin numOfThreads} {rest : Option NetJob},
      (∀ job, rest = some job → ¬ job.Sends sessionId) →
      (∃ job ∈ state.pool.goOn thread rest, job.Sends sessionId) →
        ∃ job ∈ state.pool, job.Sends sessionId := by
    rintro thread rest none ⟨job, member, sends⟩
    rcases WorkerPool.mem_goOn.mp member with isRest | elsewhere
    · exact absurd sends (none job isRest)
    · exact ⟨job, elsewhere.mem, sends⟩
  have quiet : ∀ {job : NetJob}, ¬ job.Sends sessionId →
      ∀ other, some job = some other → ¬ other.Sends sessionId := by
    rintro job quiet other isJob
    cases isJob
    exact quiet
  have nothing : ∀ other : NetJob, none = some other →
      ¬ other.Sends sessionId := fun _ impossible => by cases impossible
  have sameRest : ∀ {thread : Fin numOfThreads} {rest : Option NetJob},
      (∀ job, rest = some job → ¬ job.Sends sessionId) →
      (state.gameDataTimer = some sessionId ∨ sessionId ∈ state.commitQueue ∨
        ∃ job ∈ state.pool.goOn thread rest, job.Sends sessionId) →
          state.SendQueued sessionId := by
    rintro thread rest none (armed | posted | inPool)
    · exact Or.inl armed
    · exact Or.inr (Or.inl posted)
    · exact Or.inr (Or.inr (fromRest none inPool))
  have posted : ∀ {job : NetJob}, ¬ job.Sends sessionId →
      (∃ other ∈ state.pool.post job, other.Sends sessionId) →
        ∃ other ∈ state.pool, other.Sends sessionId := by
    rintro job quiet ⟨other, member, sends⟩
    rcases WorkerPool.mem_post.mp member with old | rfl
    · exact ⟨other, old, sends⟩
    · exact absurd sends quiet
  cases taken with
  | submitGameData =>
      rcases queued with armed | inQueue | inPool
      · exact Or.inl (Or.inl armed)
      · exact Or.inl (Or.inr (Or.inl inQueue))
      · exact Or.inl (Or.inr (Or.inr (posted id inPool)))
  | takeJob poolTaken =>
      rcases queued with armed | inQueue | ⟨job, member, sends⟩
      · exact Or.inl (Or.inl armed)
      · exact Or.inl (Or.inr (Or.inl inQueue))
      · exact Or.inl (Or.inr (Or.inr
          ⟨job, (WorkerPool.mem_take poolTaken).mp member, sends⟩))
  | store running =>
      rcases queued with armed | inQueue | ⟨job, member, sends⟩
      · exact Or.inl (Or.inl armed)
      · exact Or.inl (Or.inr (Or.inl inQueue))
      · rcases WorkerPool.mem_goOn.mp member with isRest | elsewhere
        · cases isRest
          obtain ⟨rfl, due⟩ := sends
          exact Or.inr (Or.inl
            ⟨_, _, WorkerPool.mem_of_thread running, rfl, due⟩)
        · exact Or.inl (Or.inr (Or.inr ⟨job, elsewhere.mem, sends⟩))
  | sendIfDue running =>
      rename_i thread data counter flags
      left
      rcases queued with armed | inQueue | inPool
      · exact Or.inl armed
      · dsimp only at inQueue
        split at inQueue
        · rename_i due
          rcases List.mem_append.mp inQueue with old | new
          · exact Or.inr (Or.inl old)
          · exact Or.inr (Or.inr ⟨_, WorkerPool.mem_of_thread running,
              (List.mem_singleton.mp new).symm, due⟩)
        · exact Or.inr (Or.inl inQueue)
      · refine Or.inr (Or.inr (fromRest ?_ inPool))
        intro job isRest
        split at isRest <;> cases isRest
        exact id
  | updateStopped running stopped => exact Or.inl (sameRest nothing queued)
  | update running notStopped => exact Or.inl (sameRest (quiet id) queued)
  | debounce running due => exact Or.inl (sameRest nothing queued)
  | updateGone running notDue absent => exact Or.inl (sameRest nothing queued)
  | updateNotReady running notDue present notReady =>
      exact Or.inl (sameRest (quiet id) queued)
  | updateBuilt running notDue present ready =>
      exact Or.inl (sameRest (quiet id) queued)
  | retry running => exact Or.inl (sameRest nothing queued)
  | postUpdate running => exact Or.inl (sameRest nothing queued)
  | postSend running =>
      left
      rcases queued with armed | inQueue | inPool
      · exact Or.inl armed
      · rcases List.mem_append.mp inQueue with old | new
        · exact Or.inr (Or.inl old)
        · exact Or.inr (Or.inr ⟨_, WorkerPool.mem_of_thread running,
            (List.mem_singleton.mp new).symm⟩)
      · exact Or.inr (Or.inr (fromRest nothing inPool))
  | gameDataTimerExpires armed =>
      left
      rcases queued with impossible | inQueue | ⟨job, member, sends⟩
      · cases impossible
      · exact Or.inr (Or.inl inQueue)
      · rcases WorkerPool.mem_post.mp member with old | rfl
        · exact Or.inr (Or.inr ⟨job, old, sends⟩)
        · exact Or.inl (armed.trans (congrArg some sends))
  | sessionUpdateTimerExpires armed =>
      rcases queued with isArmed | inQueue | inPool
      · exact Or.inl (Or.inl isArmed)
      · exact Or.inl (Or.inr (Or.inl inQueue))
      · exact Or.inl (Or.inr (Or.inr (posted id inPool)))
  | takeCommitTask idle queueEq =>
      left
      rcases queued with armed | inQueue | inPool
      · exact Or.inl armed
      · exact Or.inr (Or.inl (queueEq ▸ List.mem_cons_of_mem _ inQueue))
      · exact Or.inr (Or.inr inPool)
  | sendStarts running =>
      left
      rcases queued with impossible | others
      · cases impossible
      · exact Or.inr others
  | rearm running active =>
      rcases queued with armed | others
      · cases armed
        exact Or.inr (Or.inr ⟨_, running, active⟩)
      · exact Or.inl (Or.inr others)
  | _ => exact Or.inl queued

/-- A job's send stays in the pool when another job goes on. -/
theorem SendPosted.goOn {thread : Fin numOfThreads} {job : NetJob}
    {rest : Option NetJob} (posted : state.SendPosted sessionId)
    (running : state.pool.threads thread = some job)
    (quiet : ¬ job.Sends sessionId) :
    sessionId ∈ state.commitQueue ∨
      ∃ job ∈ state.pool.goOn thread rest, job.Sends sessionId := by
  rcases posted with inQueue | ⟨other, member, sends⟩
  · exact Or.inl inQueue
  · rcases (WorkerPool.mem_cases running).mp member with rfl | elsewhere
    · exact absurd sends quiet
    · exact Or.inr ⟨other, WorkerPool.mem_goOn.mpr (Or.inr elsewhere), sends⟩

theorem SendPosted.post {job : NetJob}
    (posted : state.SendPosted sessionId) :
    sessionId ∈ state.commitQueue ∨
      ∃ other ∈ state.pool.post job, other.Sends sessionId := by
  rcases posted with inQueue | ⟨other, member, sends⟩
  · exact Or.inl inQueue
  · exact Or.inr ⟨other, WorkerPool.mem_post.mpr (Or.inl member), sends⟩

/-- A send that is posted stays so until the commit strand takes it. -/
theorem Step.sendPosted_after (taken : Step state action next)
    (posted : state.SendPosted sessionId) :
    next.SendPosted sessionId ∨
      next.commitRunning = some (.stopTimer sessionId) := by
  cases taken with
  | submitGameData => exact Or.inl posted.post
  | takeJob poolTaken =>
      left
      rcases posted with inQueue | ⟨job, member, sends⟩
      · exact Or.inl inQueue
      · exact Or.inr ⟨job, (WorkerPool.mem_take poolTaken).mpr member, sends⟩
  | store running => exact Or.inl (posted.goOn running id)
  | sendIfDue running =>
      left
      rename_i thread data counter flags
      rcases posted with inQueue | ⟨job, member, sends⟩
      · left
        dsimp only
        split
        · exact List.mem_append_left _ inQueue
        · exact inQueue
      · rcases (WorkerPool.mem_cases running).mp member with rfl | elsewhere
        · obtain ⟨rfl, due⟩ := sends
          left
          dsimp only
          rw [if_pos due]
          exact List.mem_append_right _ (List.mem_singleton_self _)
        · exact Or.inr
            ⟨job, WorkerPool.mem_goOn.mpr (Or.inr elsewhere), sends⟩
  | updateStopped running => exact Or.inl (posted.goOn running id)
  | update running => exact Or.inl (posted.goOn running id)
  | debounce running => exact Or.inl (posted.goOn running id)
  | updateGone running => exact Or.inl (posted.goOn running id)
  | updateNotReady running => exact Or.inl (posted.goOn running id)
  | updateBuilt running => exact Or.inl (posted.goOn running id)
  | retry running => exact Or.inl (posted.goOn running id)
  | postUpdate running => exact Or.inl (posted.goOn running id)
  | postSend running =>
      left
      rcases posted with inQueue | ⟨job, member, sends⟩
      · exact Or.inl (List.mem_append_left _ inQueue)
      · rcases (WorkerPool.mem_cases running).mp member with rfl | elsewhere
        · cases sends
          exact Or.inl (List.mem_append_right _ (List.mem_singleton_self _))
        · exact Or.inr
            ⟨job, WorkerPool.mem_goOn.mpr (Or.inr elsewhere), sends⟩
  | gameDataTimerExpires armed => exact Or.inl posted.post
  | sessionUpdateTimerExpires armed => exact Or.inl posted.post
  | takeCommitTask idle queued =>
      rcases posted with inQueue | inPool
      · rw [queued, List.mem_cons] at inQueue
        rcases inQueue with rfl | later
        · exact Or.inr rfl
        · exact Or.inl (Or.inl later)
      · exact Or.inl (Or.inr inPool)
  | _ => exact Or.inl posted

end NetState

end ScorbitSdk
