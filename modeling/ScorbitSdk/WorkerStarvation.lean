import ScorbitSdk.Authentication

/-!
# Starvation of the scorbitron object

While the pairing is being checked, only the reply to the scorbitron object
lets the other requests go on, and that request needs a thread itself.  Jobs
that can still come to wait are counted, those on the threads and those ahead
of the scorbitron object in the queue: as long as they are fewer than the
threads, one thread is left for it.
-/

namespace ScorbitSdk

/-- The task is waiting on a condition variable for what does not hold. -/
def WorkerTask.isBlocked (state : NetWorker) : WorkerTask → Bool
  | request http _ .waiting => !state.canGoOn http
  | requestPairCode => state.net.cachedShortCode = "" && !state.stop
  | _ => false

namespace WorkerJob

def isScorbitronObject (job : WorkerJob) : Bool :=
  job.task.isScorbitronObject

def mayWait (net : NetStatus) (job : WorkerJob) : Bool :=
  (job.task :: job.behind).any (WorkerTask.mayWait net)

end WorkerJob

namespace NetWorker

variable {state next : NetWorker}

/-- All threads wait for a scorbitron object that is still in the queue. -/
def Starved (state : NetWorker) : Prop :=
  state.stop = false ∧
    (∀ thread, ∃ job, state.pool.threads thread = some job ∧
      job.task.isBlocked state = true) ∧
    ∃ job ∈ state.pool.queue, job.isScorbitronObject = true

/-- Each scorbitron object in the queue has fewer jobs ahead of it that may
wait than there are threads. -/
def ScorbitronObjectInReach (state : NetWorker) : Prop :=
  state.pool.InReach (WorkerJob.mayWait state.net)
    WorkerJob.isScorbitronObject numOfThreads

/-- When the status becomes `AuthenticatedCheckingPairing`, and when a
connection is initialized in that status, fewer jobs may wait than there are
threads. -/
def LeavesThread (state : NetWorker) : WorkerAction → Prop
  | .runJob thread _ => ∀ job, state.pool.threads thread = some job →
      state.stop = false →
        (job.task.authStage? = some (.authenticated true) →
          state.ScorbitronObjectInReach) ∧
        (job.task.initializes = true →
          state.net.status = .authenticatedCheckingPairing →
            state.pool.count (WorkerJob.mayWait state.net) < numOfThreads)
  | _ => True

/-! ## The scorbitron object within reach -/

/-- The jobs that wait while the shortcode is what it is in `net` leave a
thread for each scorbitron object. -/
def Reaches (net : NetStatus) (state : NetWorker) : Prop :=
  state.pool.InReach (WorkerJob.mayWait net) WorkerJob.isScorbitronObject
    numOfThreads

def ReachKept (state : NetWorker) : Prop :=
  state.net.status = .authenticatedCheckingPairing → state.stop = false →
    state.ScorbitronObjectInReach

theorem mayWait_congr {net other : NetStatus}
    (sameCode : other.cachedShortCode = net.cachedShortCode) :
    WorkerTask.mayWait other = WorkerTask.mayWait net := by
  funext task
  cases task with
  | requestPairCode => simp only [WorkerTask.mayWait, sameCode]
  | _ => rfl

theorem job_mayWait_congr {net other : NetStatus}
    (sameCode : other.cachedShortCode = net.cachedShortCode) :
    WorkerJob.mayWait other = WorkerJob.mayWait net := by
  funext job
  rw [WorkerJob.mayWait, WorkerJob.mayWait, mayWait_congr sameCode]

theorem Reaches.post {net : NetStatus} (reaches : state.Reaches net)
    {post : WorkerPost}
    (room : post.task.isScorbitronObject = true →
      state.pool.count (WorkerJob.mayWait net) < numOfThreads) :
    (state.post post).Reaches net := by
  obtain ⟨_ | strand, task⟩ := post
  · exact WorkerPool.InReach.post reaches room
  · simp only [NetWorker.post]
    split
    · exact reaches
    · exact WorkerPool.InReach.post reaches room

theorem Reaches.postAll {net : NetStatus} (reaches : state.Reaches net)
    {posts : List WorkerPost} (plain : ∀ post ∈ posts, post.IsPlain) :
    (state.postAll posts).Reaches net := by
  refine postAll_preserves (fun before post holds isPlain => ?_) plain reaches
  refine Reaches.post holds fun isObject => ?_
  rw [isPlain.2] at isObject
  cases isObject

/-- A thread goes on with a job that waits only if the old one may. -/
theorem Reaches.goOn {net : NetStatus} (reaches : state.Reaches net)
    {thread : Fin numOfThreads} {job rest : WorkerJob}
    (running : state.pool.threads thread = some job)
    (lighter : rest.mayWait net = true → job.mayWait net = true) :
    Reaches net { state with pool := state.pool.goOn thread (some rest) } := by
  apply WorkerPool.InReach.goOn reaches
  rw [running, Option.toList_some, Option.toList_some, List.countP_singleton,
    List.countP_singleton]
  split
  · rename_i waits
    rw [if_pos (lighter waits)]
  · exact Nat.zero_le _

theorem Reaches.leaveStrand {net : NetStatus} (reaches : state.Reaches net)
    (waitingPlaced : ∀ strand, ∀ task ∈ state.waiting strand,
      WorkerPost.IsPlaced { strand := some strand, task := task })
    (thread : Fin numOfThreads) (strand : Option WorkerStrand) :
    ({ state with
        pool := state.pool.goOn thread none }.leaveStrand strand).Reaches net := by
  have without : Reaches net
      { state with pool := state.pool.goOn thread none } :=
    WorkerPool.InReach.goOn reaches (Nat.zero_le _)
  cases strand with
  | none => exact without
  | some strand =>
      simp only [NetWorker.leaveStrand]
      split
      · exact without
      · rename_i task behind waitingEq
        refine WorkerPool.InReach.post without fun isObject => ?_
        have placed := waitingPlaced strand task (by rw [waitingEq]; simp)
        cases placed.2 isObject

theorem ReachKept.runJob (kept : state.ReachKept) {thread : Fin numOfThreads}
    {job : WorkerJob} {reply : WorkerReply} {outcome : TaskOutcome WorkerTask}
    (running : state.pool.threads thread = some job)
    (effect : TaskEffect state job.task outcome)
    (after : ({ state with net := outcome.net }.postAll outcome.posts).StrandsKept)
    (leavesThread : state.LeavesThread (.runJob thread reply)) :
    (({ state with net := outcome.net }.postAll outcome.posts).goOn thread job
      outcome.left).ReachKept := by
  intro checking notStopped
  obtain ⟨postedNet, postedStop, postedThreads⟩ :=
    @postAll_same { state with net := outcome.net } outcome.posts
  obtain ⟨net, stop, -⟩ :=
    @goOn_same ({ state with net := outcome.net }.postAll outcome.posts) thread
      job outcome.left
  rw [net, postedNet] at checking
  rw [stop, postedStop] at notStopped
  obtain ⟨atEntry, atPost⟩ := leavesThread job running notStopped
  obtain ⟨sameCode, statuses⟩ := effect.checking checking
  have before : state.Reaches state.net := by
    rcases statuses with wasChecking | authenticated
    · exact kept wasChecking notStopped
    · exact atEntry authenticated
  have netSet : Reaches state.net { state with net := outcome.net } := before
  have posted : ({ state with net := outcome.net }.postAll
      outcome.posts).Reaches state.net := by
    rcases effect.posts with ⟨initializes, sameNet, postsEq⟩ | plain
    · rw [postsEq]
      rw [sameNet] at checking
      have first : ({ state with net := outcome.net }.post
          { task := createHttpRequestTask .sendScorbitronObject }).Reaches
            state.net :=
        netSet.post fun _ => atPost initializes checking
      exact first.postAll requestConnectionState_isPlain
    · exact netSet.postAll plain
  have stillRunning : ({ state with net := outcome.net }.postAll
      outcome.posts).pool.threads thread = some job := by
    rw [postedThreads]
    exact running
  have sameTask : WorkerTask.mayWait outcome.net = WorkerTask.mayWait state.net :=
    mayWait_congr sameCode
  have sameWait : WorkerJob.mayWait outcome.net = WorkerJob.mayWait state.net :=
    job_mayWait_congr sameCode
  unfold ScorbitronObjectInReach
  rw [net, postedNet, sameWait]
  cases leftEq : outcome.left with
  | some left =>
      refine posted.goOn stillRunning fun waits => ?_
      simp only [WorkerJob.mayWait, List.any_cons, Bool.or_eq_true] at waits ⊢
      rw [← sameTask] at waits
      exact waits.imp (effect.lighter checking left leftEq)
        (by rw [sameTask]; exact id)
  | none =>
      simp only [NetWorker.goOn]
      split
      · rename_i task behind behindEq
        refine posted.goOn stillRunning fun waits => ?_
        simp only [WorkerJob.mayWait, behindEq, List.any_cons,
          Bool.or_eq_true] at waits ⊢
        exact Or.inr waits
      · exact posted.leaveStrand after.waitingPlaced thread job.strand

theorem ReachKept.step (kept : state.ReachKept) (strands : state.StrandsKept)
    {action : WorkerAction} (leavesThread : state.LeavesThread action)
    (taken : state.Step action next) : next.ReachKept := by
  cases taken with
  | call call =>
      intro checking notStopped
      obtain ⟨net, stop, -⟩ := @postAll_same state (call.posts state)
      rw [net] at checking
      rw [stop] at notStopped
      unfold ScorbitronObjectInReach
      rw [net]
      have before : state.Reaches state.net := kept checking notStopped
      exact before.postAll (posts_isPlain call)
  | setStop => exact fun _ => nofun
  | tokenRefreshTimerExpires =>
      intro checking notStopped
      have before : state.Reaches state.net := kept checking notStopped
      have netSet : Reaches state.net { state with
          net := { state.net with tokenRefreshTimer := false } } := before
      have posted := @Reaches.post _ _ netSet { task := .refreshToken } nofun
      have sameWait : WorkerJob.mayWait
          { state.net with tokenRefreshTimer := false } =
            WorkerJob.mayWait state.net := job_mayWait_congr rfl
      unfold ScorbitronObjectInReach
      rw [post_net, sameWait]
      exact posted
  | takeJob poolTaken =>
      exact fun checking notStopped =>
        WorkerPool.InReach.take (kept checking notStopped) poolTaken
  | runJob running taskRan =>
      have effect := runTask_effect taskRan
      exact kept.runJob running effect (strands.postAll effect) leavesThread

/-! ## No starvation -/

/-- Once the pairing is known or the authentication has failed, only the
shortcode is waited for. -/
theorem isPairCode_of_isBlocked
    (known : state.net.isAuthenticated = true ∨
      state.net.status = .authenticationFailed) {task : WorkerTask}
    (blocked : task.isBlocked state = true) : task = .requestPairCode := by
  cases task with
  | requestPairCode => rfl
  | request http attempt stage =>
      cases stage with
      | waiting =>
          have goesOn : state.canGoOn http = true := by
            rcases known with isAuthenticated | failed
            · simp [canGoOn, isAuthenticated]
            · simp [canGoOn, failed]
          simp [WorkerTask.isBlocked, goesOn] at blocked
      | _ => cases blocked
  | _ => cases blocked

theorem mayWait_of_isBlocked
    (checking : state.net.status = .authenticatedCheckingPairing)
    {task : WorkerTask} (blocked : task.isBlocked state = true) :
    task.mayWait state.net = true := by
  cases task with
  | requestPairCode =>
      simp only [WorkerTask.isBlocked, Bool.and_eq_true] at blocked
      exact blocked.1
  | request http attempt stage =>
      cases stage with
      | waiting =>
          simp only [WorkerTask.isBlocked, canGoOn,
            NetStatus.checkAllowedStatuses, checking, Bool.not_eq_true',
            Bool.or_eq_false_iff, decide_eq_false_iff_not] at blocked
          simpa [WorkerTask.mayWait] using blocked.2
      | _ => cases blocked
  | _ => cases blocked

theorem not_authenticates_of_isBlocked {task : WorkerTask}
    (blocked : task.isBlocked state = true) :
    task.authenticates state.net = false := by
  cases task with
  | request http attempt stage =>
      cases stage with
      | waiting => rfl
      | _ => cases blocked
  | requestPairCode => rfl
  | _ => cases blocked

/-- Not all threads wait for the shortcode, since one strand has one job. -/
theorem StrandsKept.not_forall_pairCode (kept : state.StrandsKept)
    (all : ∀ thread, ∃ job, state.pool.threads thread = some job ∧
      job.task = .requestPairCode) : False := by
  have onQueue : ∀ thread, ∃ job, state.pool.threads thread = some job ∧
      WorkerJob.isOn .queue job = true := by
    intro thread
    obtain ⟨job, running, isPairCode⟩ := all thread
    have placed := kept.jobsPlaced job (WorkerPool.mem_of_thread running)
      job.task (by simp)
    exact ⟨job, running, decide_eq_true (placed.1 isPairCode)⟩
  have allRunning := WorkerPool.running_eq_of_forall onQueue
  have counted := kept.jobs .queue
  have many : 1 < numOfThreads := by decide
  unfold WorkerPool.count at counted
  rw [allRunning] at counted
  split at counted <;> omega

theorem not_starved (strands : state.StrandsKept) (auth : state.AuthKept)
    (reach : state.ReachKept) : ¬ state.Starved := by
  rintro ⟨notStopped, blocked, object, queued, isObject⟩
  have authDue : state.net.isAuthDue = false := by
    by_contra due
    rw [Bool.not_eq_false] at due
    rcases auth due with ⟨thread, job, running, authenticates⟩ | ⟨idle, -⟩
    · obtain ⟨other, otherRunning, isBlocked⟩ := blocked thread
      rw [running, Option.some.injEq] at otherRunning
      subst otherRunning
      rw [not_authenticates_of_isBlocked isBlocked] at authenticates
      cases authenticates
    · obtain ⟨job, running, -⟩ := blocked 0
      rw [idle 0] at running
      cases running
  by_cases checking : state.net.status = .authenticatedCheckingPairing
  · have inReach := reach checking notStopped
    have allWait : ∀ thread, ∃ job, state.pool.threads thread = some job ∧
        job.mayWait state.net = true := by
      intro thread
      obtain ⟨job, running, isBlocked⟩ := blocked thread
      have taskWaits := mayWait_of_isBlocked checking isBlocked
      exact ⟨job, running, by simp [WorkerJob.mayWait, taskWaits]⟩
    have fewer := inReach.running_lt queued isObject
    rw [WorkerPool.running_eq_of_forall allWait] at fewer
    exact absurd fewer (lt_irrefl _)
  · have known : state.net.isAuthenticated = true ∨
        state.net.status = .authenticationFailed := by
      revert authDue checking
      unfold NetStatus.isAuthDue NetStatus.isAuthenticated
      cases state.net.status <;> simp
    apply strands.not_forall_pairCode
    intro thread
    obtain ⟨job, running, isBlocked⟩ := blocked thread
    exact ⟨job, running, isPairCode_of_isBlocked known isBlocked⟩

theorem started_strandsKept (isNfcCapable hasFirmwares : Bool) :
    (started isNfcCapable hasFirmwares).StrandsKept := by
  refine ⟨fun strand => rfl, ?_, fun _ _ => nofun⟩
  rintro job (queued | ⟨thread, running⟩) task member
  · rw [List.mem_singleton.mp queued, List.mem_singleton] at member
    exact member ▸ ⟨nofun, nofun⟩
  · cases running

/-- The scorbitron object does not starve as long as a thread is left for it
when the pairing is going to be checked, and authentication does not get
stuck. -/
theorem scorbitronObjectNotStarved (isNfcCapable hasFirmwares : Bool)
    {actions : List WorkerAction} {final : NetWorker}
    (reached : Transition.run step (started isNfcCapable hasFirmwares) actions =
      some final)
    (along : Transition.HoldsAlong step
      (fun state action =>
        state.LeavesThread action ∧ state.KeepsAuthentication action)
      (started isNfcCapable hasFirmwares) actions) :
    ¬ final.Starved := by
  have preserved : ∀ (state : NetWorker) (action : WorkerAction)
      (next : NetWorker),
      state.StrandsKept ∧ state.AuthKept ∧ state.ReachKept →
        state.LeavesThread action ∧ state.KeepsAuthentication action →
          state.step action = some next →
            next.StrandsKept ∧ next.AuthKept ∧ next.ReachKept := by
    rintro state action next ⟨strands, auth, reach⟩ ⟨leaves, keeps⟩ taken
    have isStep := step_cases taken
    exact ⟨strands.step isStep, auth.step keeps isStep,
      reach.step strands leaves isStep⟩
  have kept : final.StrandsKept ∧ final.AuthKept ∧ final.ReachKept :=
    Transition.run_preserves preserved reached along
      ⟨started_strandsKept isNfcCapable hasFirmwares,
        started_authKept isNfcCapable hasFirmwares, nofun⟩
  exact not_starved kept.1 kept.2.1 kept.2.2

/-- A check that is enough for `LeavesThread`. -/
def leavesThread (state : NetWorker) : WorkerAction → Bool
  | .runJob thread _ =>
      match state.pool.threads thread with
      | none => true
      | some job =>
          job.task.authStage? != some (.authenticated true) &&
              !job.task.initializes ||
            decide (state.pool.count (WorkerJob.mayWait state.net) <
              numOfThreads)
  | _ => true

theorem leavesThread_sound (state : NetWorker) (action : WorkerAction)
    (checked : state.leavesThread action = true) :
    state.LeavesThread action := by
  cases action with
  | runJob thread reply =>
      intro job running _
      simp only [leavesThread, running, Bool.or_eq_true, Bool.and_eq_true,
        bne_iff_ne, Bool.not_eq_true', decide_eq_true_eq] at checked
      rcases checked with ⟨notAuthenticated, notInitializes⟩ | few
      · refine ⟨fun authenticated => absurd authenticated notAuthenticated,
          fun initializes => ?_⟩
        rw [notInitializes] at initializes
        cases initializes
      · exact ⟨fun _ => WorkerPool.inReach_of_count_lt few, fun _ _ => few⟩
  | _ => trivial

/-- The calls come while the machine authenticates; three threads take the
first of them, and the fourth takes what is next when it is done. -/
def callsWhileAuthenticating (calls : List WorkerCall) : List WorkerAction :=
  [.takeJob 0, .runJob 0 {}, .runJob 0 {}, .runJob 0 {}] ++
    calls.map .call ++
    [.takeJob 1, .takeJob 2, .takeJob 3, .runJob 0 { auth := .token false },
      .runJob 0 {}, .runJob 0 {}, .takeJob 0]

/-- With three calls the fourth thread takes the scorbitron object. -/
theorem scorbitronObjectNotStarved_threeCalls :
    ∃ final, Transition.run step (started false false)
        (callsWhileAuthenticating [.setCreditsDropped, .setCreditsDropped,
          .uploadDiagnostics]) = some final ∧ ¬ final.Starved := by
  have isSome : (Transition.run step (started false false)
      (callsWhileAuthenticating [.setCreditsDropped, .setCreditsDropped,
        .uploadDiagnostics])).isSome = true := by
    decide +kernel
  obtain ⟨final, reached⟩ := Option.isSome_iff_exists.mp isSome
  refine ⟨final, reached, scorbitronObjectNotStarved false false reached ?_⟩
  exact .and (.of_checksAlong leavesThread_sound (by decide +kernel))
    (.of_checksAlong keepsAuthentication_sound (by decide +kernel))

/-- With four calls all threads wait for the scorbitron object, and it waits
for a thread. -/
theorem scorbitronObjectStarved_fourCalls :
    ∃ final, Transition.run step (started false false)
        (callsWhileAuthenticating (List.replicate 4 .setCreditsDropped)) =
          some final ∧ final.Starved := by
  have evaluated : ((Transition.run step (started false false)
      (callsWhileAuthenticating (List.replicate 4 .setCreditsDropped))).any
        fun final => !final.stop &&
          (List.finRange numOfThreads).all (fun thread =>
            (final.pool.threads thread).any fun job =>
              job.task.isBlocked final) &&
          final.pool.queue.any WorkerJob.isScorbitronObject) = true := by
    decide +kernel
  obtain ⟨final, reached, starved⟩ := (Option.any_eq_true _ _).mp evaluated
  simp only [Bool.and_eq_true, Bool.not_eq_true', List.all_eq_true,
    List.mem_finRange, forall_true_left, Option.any_eq_true,
    List.any_eq_true] at starved
  exact ⟨final, reached, starved.1.1, starved.1.2, starved.2⟩

end NetWorker

end ScorbitSdk
