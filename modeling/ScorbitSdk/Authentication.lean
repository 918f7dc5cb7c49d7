import ScorbitSdk.TransitionRuns
import ScorbitSdk.WorkerStrands

/-!
# Authentication under way

Whenever authentication is due, some thread is on its way to it.  Whether an
`authenticate` task authenticates or only refreshes the token depends on a flag
that the handler of a timer sets as well, so that a run of the worker has to
keep the flag off the tasks that authentication depends on.
-/

namespace ScorbitSdk

namespace NetWorker

variable {state next : NetWorker}

/-- A task that sets the flag while authentication is due leaves a thread that
authenticates nevertheless. -/
def KeepsAuthentication (state : NetWorker) : WorkerAction → Prop
  | .runJob thread _ => ∀ job, state.pool.threads thread = some job →
      job.task.setsFlag = true → state.net.status = .notAuthenticated →
        ∃ other otherJob, state.pool.threads other = some otherJob ∧
          otherJob.task.isCommitted = true
  | _ => True

/-- When authentication is due, a thread is on the way to it, or it is at the
front of the queue and all threads are idle. -/
def AuthKept (state : NetWorker) : Prop :=
  state.net.isAuthDue = true →
    (∃ thread job, state.pool.threads thread = some job ∧
      job.task.authenticates state.net = true) ∨
    (∀ thread, state.pool.threads thread = none) ∧
      ∃ job queue, state.pool.queue = job :: queue ∧
        job.task.authenticates state.net = true

theorem AuthKept.post (kept : state.AuthKept) (post : WorkerPost) :
    (state.post post).AuthKept := by
  intro due
  rw [post_net] at due ⊢
  rw [post_threads]
  rcases kept due with running | ⟨idle, job, queue, queueEq, authenticates⟩
  · exact Or.inl running
  · obtain ⟨posted, postedEq⟩ := @post_queue state post
    exact Or.inr ⟨idle, job, queue ++ posted,
      by rw [postedEq, queueEq, List.cons_append], authenticates⟩

theorem AuthKept.postAll (kept : state.AuthKept) (posts : List WorkerPost) :
    (state.postAll posts).AuthKept := by
  have preserved : ∀ (before : NetWorker) (post : WorkerPost),
      before.AuthKept → True → (before.post post).AuthKept :=
    fun _ post before _ => before.post post
  exact @postAll_preserves state AuthKept (fun _ => True) preserved posts
    (fun _ _ => trivial) kept

theorem AuthKept.take (kept : state.AuthKept) {thread : Fin numOfThreads}
    {pool : WorkerPool numOfThreads WorkerJob}
    (taken : state.pool.take thread = some pool) :
    AuthKept { state with pool := pool } := by
  intro due
  unfold WorkerPool.take at taken
  split at taken
  · rename_i front queue idle queueEq
    cases taken
    rcases kept due with ⟨other, job, running, authenticates⟩ |
      ⟨-, job, rest, restEq, authenticates⟩
    · have different : other ≠ thread := by
        rintro rfl
        rw [idle] at running
        cases running
      refine Or.inl ⟨other, job, ?_, authenticates⟩
      simpa only [Function.update_of_ne different] using running
    · rw [queueEq] at restEq
      cases restEq
      exact Or.inl ⟨thread, front, Function.update_self _ _ _, authenticates⟩
  · cases taken

/-- A thread that authenticates goes on to do so when another task has run. -/
theorem exists_authenticates {thread : Fin numOfThreads} {job : WorkerJob}
    {reply : WorkerReply} {net : NetStatus} (kept : state.AuthKept)
    (keeps : state.KeepsAuthentication (.runJob thread reply))
    (running : state.pool.threads thread = some job)
    (notDue : job.task.authenticates state.net = false)
    (goesOn : state.net.GoesOn job.task.setsFlag net)
    (due : net.isAuthDue = true) :
    ∃ other otherJob, other ≠ thread ∧
      state.pool.threads other = some otherJob ∧
        otherJob.task.authenticates net = true := by
  have dueBefore : state.net.isAuthDue = true := by
    simpa only [NetStatus.isAuthDue, goesOn.status] using due
  have elsewhere : ∃ other otherJob, other ≠ thread ∧
      state.pool.threads other = some otherJob ∧
        otherJob.task.authenticates state.net = true := by
    rcases kept dueBefore with ⟨other, otherJob, otherRunning, authenticates⟩ |
      ⟨idle, -⟩
    · have different : other ≠ thread := by
        rintro rfl
        rw [running, Option.some.injEq] at otherRunning
        rw [← otherRunning, notDue] at authenticates
        cases authenticates
      exact ⟨other, otherJob, different, otherRunning, authenticates⟩
    · rw [idle thread] at running
      cases running
  obtain ⟨other, otherJob, different, otherRunning, authenticates⟩ := elsewhere
  cases sets : job.task.setsFlag with
  | false =>
      rw [sets] at goesOn
      exact ⟨other, otherJob, different, otherRunning,
        WorkerTask.authenticates_of_goesOn goesOn authenticates⟩
  | true =>
      by_cases notAuthenticated : state.net.status = .notAuthenticated
      · obtain ⟨sure, sureJob, sureRunning, committed⟩ :=
          keeps job running sets notAuthenticated
        have sureDifferent : sure ≠ thread := by
          rintro rfl
          rw [running, Option.some.injEq] at sureRunning
          subst sureRunning
          rw [WorkerTask.not_setsFlag_of_isCommitted committed] at sets
          cases sets
        exact ⟨sure, sureJob, sureDifferent, sureRunning,
          WorkerTask.authenticates_of_isCommitted
            (goesOn.status.trans notAuthenticated) committed⟩
      · have authenticating : state.net.status = .authenticating := by
          simpa [NetStatus.isAuthDue, notAuthenticated] using dueBefore
        exact ⟨other, otherJob, different, otherRunning,
          WorkerTask.authenticates_of_authenticating authenticating
            goesOn.status authenticates⟩

theorem AuthKept.runJob (kept : state.AuthKept) {thread : Fin numOfThreads}
    {job : WorkerJob} {reply : WorkerReply} {outcome : TaskOutcome WorkerTask}
    (running : state.pool.threads thread = some job)
    (effect : TaskEffect state job.task outcome)
    (keeps : state.KeepsAuthentication (.runJob thread reply)) :
    (({ state with net := outcome.net }.postAll outcome.posts).goOn thread job
      outcome.left).AuthKept := by
  intro due
  obtain ⟨postedNet, -, postedThreads⟩ :=
    @postAll_same { state with net := outcome.net } outcome.posts
  obtain ⟨net, -, others⟩ :=
    @goOn_same ({ state with net := outcome.net }.postAll outcome.posts) thread
      job outcome.left
  rw [net, postedNet] at due ⊢
  rcases effect.due due with ⟨left, leftEq, authenticates⟩ | ⟨notDue, goesOn⟩
  · refine Or.inl ⟨thread, { job with task := left }, ?_, authenticates⟩
    rw [leftEq]
    exact Function.update_self _ _ _
  · obtain ⟨other, otherJob, different, otherRunning, authenticates⟩ :=
      exists_authenticates kept keeps running notDue goesOn due
    refine Or.inl ⟨other, otherJob, ?_, authenticates⟩
    rw [others other different, postedThreads]
    exact otherRunning

theorem AuthKept.step (kept : state.AuthKept) {action : WorkerAction}
    (keeps : state.KeepsAuthentication action)
    (taken : state.Step action next) : next.AuthKept := by
  cases taken with
  | call call => exact kept.postAll _
  | setStop => exact kept
  | tokenRefreshTimerExpires =>
      have netKept : AuthKept { state with
          net := { state.net with tokenRefreshTimer := false } } := by
        intro due
        have same : state.net.GoesOn false
            { state.net with tokenRefreshTimer := false } := ⟨rfl, Or.inl⟩
        rcases kept due with ⟨thread, job, running, authenticates⟩ |
          ⟨idle, job, queue, queueEq, authenticates⟩
        · exact Or.inl ⟨thread, job, running,
            WorkerTask.authenticates_of_goesOn same authenticates⟩
        · exact Or.inr ⟨idle, job, queue, queueEq,
            WorkerTask.authenticates_of_goesOn same authenticates⟩
      exact netKept.post _
  | takeJob poolTaken => exact kept.take poolTaken
  | runJob running taskRan =>
      exact kept.runJob running (runTask_effect taskRan) keeps

/-- The worker when nothing but `authenticate` has been called. -/
def started (isNfcCapable hasFirmwares : Bool) : NetWorker where
  isNfcCapable := isNfcCapable
  hasFirmwares := hasFirmwares

theorem started_authKept (isNfcCapable hasFirmwares : Bool) :
    (started isNfcCapable hasFirmwares).AuthKept :=
  fun _ => Or.inr ⟨fun _ => rfl, _, _, rfl, rfl⟩

/-- Somewhere in the pool a task is going to authenticate. -/
def AuthenticationUnderWay (state : NetWorker) : Prop :=
  state.stop = false → state.net.status = .notAuthenticated →
    ∃ job ∈ state.pool, job.task.authenticates state.net = true

theorem AuthKept.underWay (kept : state.AuthKept) :
    state.AuthenticationUnderWay := by
  intro _ notAuthenticated
  have due : state.net.isAuthDue = true := by
    simp [NetStatus.isAuthDue, notAuthenticated]
  rcases kept due with ⟨thread, job, running, authenticates⟩ |
    ⟨-, job, queue, queueEq, authenticates⟩
  · exact ⟨job, WorkerPool.mem_of_thread running, authenticates⟩
  · exact ⟨job, Or.inl (by rw [queueEq]; simp), authenticates⟩

/-- Authentication does not get stuck as long as the flag is kept off the
tasks it depends on. -/
theorem authenticationNotStuck (isNfcCapable hasFirmwares : Bool)
    {actions : List WorkerAction} {final : NetWorker}
    (reached : Transition.run step (started isNfcCapable hasFirmwares) actions =
      some final)
    (along : Transition.HoldsAlong step KeepsAuthentication
      (started isNfcCapable hasFirmwares) actions) :
    final.AuthenticationUnderWay := by
  have preserved : ∀ (state : NetWorker) (action : WorkerAction)
      (next : NetWorker), state.AuthKept → state.KeepsAuthentication action →
        state.step action = some next → next.AuthKept :=
    fun _ _ _ kept keeps taken => kept.step keeps (step_cases taken)
  have kept : final.AuthKept := Transition.run_preserves preserved reached along
    (started_authKept isNfcCapable hasFirmwares)
  exact kept.underWay

/-- The check behind `KeepsAuthentication`. -/
def keepsAuthentication (state : NetWorker) : WorkerAction → Bool
  | .runJob thread _ =>
      match state.pool.threads thread with
      | none => true
      | some job => !job.task.setsFlag ||
          state.net.status != .notAuthenticated ||
            (List.finRange numOfThreads).any fun other =>
              (state.pool.threads other).any fun otherJob =>
                otherJob.task.isCommitted
  | _ => true

theorem keepsAuthentication_sound (state : NetWorker) (action : WorkerAction)
    (checked : state.keepsAuthentication action = true) :
    state.KeepsAuthentication action := by
  cases action with
  | runJob thread reply =>
      intro job running sets notAuthenticated
      simp only [keepsAuthentication, running, sets, notAuthenticated,
        Bool.not_true, bne_self_eq_false, Bool.false_or, List.any_eq_true,
        List.mem_finRange, true_and] at checked
      obtain ⟨other, isOther⟩ := checked
      obtain ⟨otherJob, otherRunning, committed⟩ :=
        (Option.any_eq_true _ _).mp isOther
      exact ⟨other, otherJob, otherRunning, committed⟩
  | _ => trivial

/-- The machine is authenticated and paired. -/
def pairedMachine : List WorkerAction :=
  [.takeJob 0, .runJob 0 {}, .runJob 0 {}, .runJob 0 {},
    .runJob 0 { auth := .token false }, .runJob 0 {}, .runJob 0 {},
    .takeJob 0, .runJob 0 {}, .runJob 0 {},
    .runJob 0 { http := .ok (some { shortCode := none, isPaired := true }) },
    .runJob 0 {}, .runJob 0 {}]

/-- Then a request is answered with 401 just as the timer of the token
expires; a thread has taken the timer's handler. -/
def expiredToken : List WorkerAction :=
  pairedMachine ++
    [.takeJob 1, .runJob 1 {}, .runJob 1 {}, .runJob 1 { http := .unauthorized },
      .runJob 1 {}, .tokenRefreshTimerExpires, .takeJob 0, .takeJob 2,
      .takeJob 3]

/-- The handler sets the flag before the request clears it. -/
theorem authenticationNotStuck_setBeforeCleared :
    ∃ final, Transition.run step (started false false)
        (expiredToken ++ [.runJob 3 {}, .runJob 1 {}, .runJob 1 {}]) =
          some final ∧
      final.net.status = .notAuthenticated ∧ final.AuthenticationUnderWay := by
  have evaluated : ((Transition.run step (started false false)
      (expiredToken ++ [.runJob 3 {}, .runJob 1 {}, .runJob 1 {}])).any
        fun final => final.net.status = .notAuthenticated) = true := by
    decide +kernel
  obtain ⟨final, reached, status⟩ := (Option.any_eq_true _ _).mp evaluated
  refine ⟨final, reached, of_decide_eq_true status, ?_⟩
  apply authenticationNotStuck false false reached
  exact .of_checksAlong keepsAuthentication_sound (by decide +kernel)

/-- The handler sets the flag after the request has cleared it and before it
authenticates. -/
theorem authenticationStuck_setAfterCleared :
    ∃ final, Transition.run step (started false false)
        (expiredToken ++ [.runJob 1 {}, .runJob 1 {}, .runJob 3 {},
          .runJob 1 {}, .runJob 3 {}]) = some final ∧
      ¬ final.AuthenticationUnderWay := by
  have evaluated : ((Transition.run step (started false false)
      (expiredToken ++ [.runJob 1 {}, .runJob 1 {}, .runJob 3 {}, .runJob 1 {},
        .runJob 3 {}])).any fun final =>
        !final.stop && final.net.status = .notAuthenticated &&
          final.pool.count (fun job => job.task.authenticates final.net) = 0) =
            true := by
    decide +kernel
  obtain ⟨final, reached, stuck⟩ := (Option.any_eq_true _ _).mp evaluated
  simp only [Bool.and_eq_true, Bool.not_eq_true', decide_eq_true_eq] at stuck
  obtain ⟨⟨notStopped, status⟩, noneCounted⟩ := stuck
  refine ⟨final, reached, fun underWay => ?_⟩
  obtain ⟨job, member, authenticates⟩ := underWay notStopped status
  have counted := @WorkerPool.count_pos _ _
    (fun job => job.task.authenticates final.net) final.pool job member
    authenticates
  omega

end NetWorker

end ScorbitSdk
