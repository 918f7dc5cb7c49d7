import ScorbitSdk.WorkerEffects

/-!
# Strands of the worker

A strand has at most one job in the pool.  What the tasks post is in its place:
the shortcode is awaited on one strand only, and no scorbitron object is ever
posted to a strand.
-/

namespace ScorbitSdk

def WorkerJob.isOn (strand : WorkerStrand) (job : WorkerJob) : Bool :=
  job.strand = some strand

/-- A strand has a job in the pool when it is locked, and only then; what the
jobs and the strands hold is in its place. -/
structure NetWorker.StrandsKept (state : NetWorker) : Prop where
  jobs : ∀ strand, state.pool.count (WorkerJob.isOn strand) =
    if state.locked strand then 1 else 0
  jobsPlaced : ∀ job ∈ state.pool, ∀ task ∈ job.task :: job.behind,
    WorkerPost.IsPlaced { strand := job.strand, task := task }
  waitingPlaced : ∀ strand, ∀ task ∈ state.waiting strand,
    WorkerPost.IsPlaced { strand := some strand, task := task }

namespace NetWorker

variable {state next : NetWorker}

@[simp]
theorem post_net (post : WorkerPost) : (state.post post).net = state.net := by
  obtain ⟨_ | strand, task⟩ := post
  · rfl
  · simp only [NetWorker.post]
    split <;> rfl

@[simp]
theorem post_stop (post : WorkerPost) : (state.post post).stop = state.stop := by
  obtain ⟨_ | strand, task⟩ := post
  · rfl
  · simp only [NetWorker.post]
    split <;> rfl

@[simp]
theorem post_threads (post : WorkerPost) :
    (state.post post).pool.threads = state.pool.threads := by
  obtain ⟨_ | strand, task⟩ := post
  · rfl
  · simp only [NetWorker.post]
    split <;> rfl

/-- What every post preserves is preserved by all of them. -/
theorem postAll_preserves {property : NetWorker → Prop}
    {allowed : WorkerPost → Prop}
    (preserved : ∀ state post, property state → allowed post →
      property (state.post post))
    {posts : List WorkerPost} (all : ∀ post ∈ posts, allowed post)
    (holds : property state) : property (state.postAll posts) := by
  induction posts generalizing state with
  | nil => exact holds
  | cons post posts ih =>
      rw [List.forall_mem_cons] at all
      exact ih all.2 (preserved state post holds all.1)

theorem postAll_same (posts : List WorkerPost) :
    (state.postAll posts).net = state.net ∧
      (state.postAll posts).stop = state.stop ∧
      (state.postAll posts).pool.threads = state.pool.threads := by
  have preserved : ∀ (before : NetWorker) (post : WorkerPost),
      (before.net = state.net ∧ before.stop = state.stop ∧
        before.pool.threads = state.pool.threads) → True →
      (before.post post).net = state.net ∧
        (before.post post).stop = state.stop ∧
        (before.post post).pool.threads = state.pool.threads := by
    intro before post same _
    simpa using same
  exact @postAll_preserves state
    (fun after => after.net = state.net ∧ after.stop = state.stop ∧
      after.pool.threads = state.pool.threads)
    (fun _ => True) preserved posts (fun _ _ => trivial) ⟨rfl, rfl, rfl⟩

theorem countP_isOn (job : WorkerJob) (strand : WorkerStrand) :
    [job].countP (WorkerJob.isOn strand) =
      if job.strand = some strand then 1 else 0 := by
  simp [List.countP_singleton, WorkerJob.isOn]

theorem StrandsKept.post (kept : state.StrandsKept) {post : WorkerPost}
    (placed : post.IsPlaced) : (state.post post).StrandsKept := by
  obtain ⟨_ | strand, task⟩ := post
  · refine ⟨fun other => ?_, ?_, kept.waitingPlaced⟩
    · have counted := @WorkerPool.count_post _ _ (WorkerJob.isOn other)
        state.pool { task := task }
      rw [countP_isOn, if_neg nofun, kept.jobs other] at counted
      exact counted
    · apply WorkerPool.forall_mem_post kept.jobsPlaced
      intro only isOnly
      rw [List.mem_singleton] at isOnly
      exact isOnly ▸ placed
  · simp only [NetWorker.post]
    split
    · refine ⟨kept.jobs, kept.jobsPlaced, fun other => ?_⟩
      by_cases same : other = strand
      · subst same
        simp only [Function.update_self, List.mem_append, List.mem_singleton]
        rintro posted (old | rfl)
        · exact kept.waitingPlaced other posted old
        · exact placed
      · simpa only [Function.update_of_ne same] using kept.waitingPlaced other
    · rename_i unlocked
      refine ⟨fun other => ?_, ?_, kept.waitingPlaced⟩
      · have counted := @WorkerPool.count_post _ _ (WorkerJob.isOn other)
          state.pool { strand := some strand, task := task }
        rw [countP_isOn, kept.jobs other] at counted
        by_cases same : other = strand
        · subst same
          rw [if_pos rfl, if_neg unlocked] at counted
          simpa only [Function.update_self, if_true] using counted
        · have different : some strand ≠ some other := fun equal =>
            same (Option.some.inj equal).symm
          rw [if_neg different, Nat.add_zero] at counted
          simpa only [Function.update_of_ne same] using counted
      · apply WorkerPool.forall_mem_post kept.jobsPlaced
        intro only isOnly
        rw [List.mem_singleton] at isOnly
        exact isOnly ▸ placed

/-- A thread goes on with a job of the same strand. -/
theorem StrandsKept.goOn (kept : state.StrandsKept)
    {thread : Fin numOfThreads} {job rest : WorkerJob}
    (running : state.pool.threads thread = some job)
    (sameStrand : rest.strand = job.strand)
    (placed : ∀ task ∈ rest.task :: rest.behind,
      WorkerPost.IsPlaced { strand := rest.strand, task := task }) :
    StrandsKept { state with pool := state.pool.goOn thread (some rest) } := by
  refine ⟨fun strand => ?_, ?_, kept.waitingPlaced⟩
  · have counted := @WorkerPool.count_goOn _ _ (WorkerJob.isOn strand)
      state.pool thread (some rest)
    rw [running, Option.toList_some, Option.toList_some, countP_isOn,
      countP_isOn, sameStrand, kept.jobs strand] at counted
    dsimp only
    omega
  · apply WorkerPool.forall_mem_goOn kept.jobsPlaced
    rintro _ ⟨⟩
    exact placed

/-- A thread is done with a job, and its strand goes on. -/
theorem StrandsKept.leaveStrand (kept : state.StrandsKept)
    {thread : Fin numOfThreads} {job : WorkerJob}
    (running : state.pool.threads thread = some job) :
    ({ state with
        pool := state.pool.goOn thread none }.leaveStrand job.strand).StrandsKept := by
  have counted : ∀ strand,
      (state.pool.goOn thread none).count (WorkerJob.isOn strand) +
          (if job.strand = some strand then 1 else 0) =
        if state.locked strand then 1 else 0 := by
    intro strand
    have counted := @WorkerPool.count_goOn _ _ (WorkerJob.isOn strand)
      state.pool thread none
    rw [running, Option.toList_some, countP_isOn, kept.jobs strand,
      Option.toList_none, List.countP_nil, Nat.add_zero] at counted
    exact counted
  have placed : ∀ other ∈ state.pool.goOn thread none,
      ∀ task ∈ other.task :: other.behind,
        WorkerPost.IsPlaced { strand := other.strand, task := task } :=
    WorkerPool.forall_mem_goOn kept.jobsPlaced fun _ isRest => nomatch isRest
  cases strandEq : job.strand with
  | none =>
      refine ⟨fun strand => ?_, placed, kept.waitingPlaced⟩
      have same := counted strand
      rw [strandEq, if_neg nofun, Nat.add_zero] at same
      exact same
  | some strand =>
      have others : ∀ other, other ≠ strand →
          (state.pool.goOn thread none).count (WorkerJob.isOn other) =
            if state.locked other then 1 else 0 := by
        intro other different
        have same := counted other
        rw [strandEq, if_neg fun equal => different (Option.some.inj equal).symm,
          Nat.add_zero] at same
        exact same
      have own : (state.pool.goOn thread none).count
          (WorkerJob.isOn strand) = 0 ∧ state.locked strand = true := by
        have same := counted strand
        rw [strandEq, if_pos rfl] at same
        split at same
        · rename_i locked
          exact ⟨by omega, locked⟩
        · omega
      simp only [NetWorker.leaveStrand]
      split
      · refine ⟨fun other => ?_, placed, kept.waitingPlaced⟩
        by_cases same : other = strand
        · subst same
          simpa using own.1
        · simpa only [Function.update_of_ne same] using others other same
      · rename_i task behind waitingEq
        refine ⟨fun other => ?_, ?_, fun other => ?_⟩
        · have posted := @WorkerPool.count_post _ _ (WorkerJob.isOn other)
            (state.pool.goOn thread none)
            { strand := some strand, task := task, behind := behind }
          rw [countP_isOn] at posted
          by_cases same : other = strand
          · subst same
            rw [if_pos rfl, own.1] at posted
            simpa only [own.2, if_true] using posted
          · rw [if_neg fun equal => same (Option.some.inj equal).symm,
              others other same] at posted
            exact posted
        · refine WorkerPool.forall_mem_post placed fun posted member => ?_
          exact kept.waitingPlaced strand posted (waitingEq ▸ member)
        · by_cases same : other = strand
          · subst same
            simp
          · simpa only [Function.update_of_ne same] using
              kept.waitingPlaced other

/-- The strands are kept while a task posts what it posts. -/
theorem StrandsKept.postAll (kept : state.StrandsKept) {task : WorkerTask}
    {outcome : TaskOutcome WorkerTask}
    (effect : TaskEffect state task outcome) :
    ({ state with net := outcome.net }.postAll outcome.posts).StrandsKept := by
  have initializePlaced :
      ∀ post ∈ state.initializeConnectionState, post.IsPlaced := by
    intro post posted
    rcases List.mem_cons.mp posted with rfl | later
    · exact ⟨nofun, fun _ => rfl⟩
    · exact (requestConnectionState_isPlain post later).isPlaced
  have postsPlaced : ∀ post ∈ outcome.posts, post.IsPlaced := by
    rcases effect.posts with ⟨-, -, postsEq⟩ | plain
    · rw [postsEq]
      exact initializePlaced
    · exact fun post posted => (plain post posted).isPlaced
  have netKept : StrandsKept { state with net := outcome.net } :=
    ⟨kept.jobs, kept.jobsPlaced, kept.waitingPlaced⟩
  have preserved : ∀ (before : NetWorker) (post : WorkerPost),
      before.StrandsKept → post.IsPlaced → (before.post post).StrandsKept :=
    fun _ _ before placed => before.post placed
  exact postAll_preserves preserved postsPlaced netKept

theorem StrandsKept.step (kept : state.StrandsKept) {action : WorkerAction}
    (taken : state.Step action next) : next.StrandsKept := by
  cases taken with
  | call call =>
      have preserved : ∀ (before : NetWorker) (post : WorkerPost),
          before.StrandsKept → post.IsPlaced → (before.post post).StrandsKept :=
        fun _ _ before placed => before.post placed
      exact postAll_preserves preserved
        (fun post posted => (posts_isPlain call post posted).isPlaced) kept
  | setStop => exact ⟨kept.jobs, kept.jobsPlaced, kept.waitingPlaced⟩
  | tokenRefreshTimerExpires =>
      have netKept : StrandsKept { state with
          net := { state.net with tokenRefreshTimer := false } } :=
        ⟨kept.jobs, kept.jobsPlaced, kept.waitingPlaced⟩
      exact netKept.post ⟨nofun, nofun⟩
  | takeJob poolTaken =>
      exact {
        jobs := fun strand =>
          (WorkerPool.count_take poolTaken).trans (kept.jobs strand)
        jobsPlaced := WorkerPool.forall_mem_take kept.jobsPlaced poolTaken
        waitingPlaced := kept.waitingPlaced }
  | runJob running taskRan =>
      rename_i thread reply job outcome
      have effect := runTask_effect taskRan
      have posted := kept.postAll effect
      have stillRunning : ({ state with net := outcome.net }.postAll
          outcome.posts).pool.threads thread = some job := by
        rw [(postAll_same _).2.2]
        exact running
      have placed := kept.jobsPlaced job (WorkerPool.mem_of_thread running)
      rw [List.forall_mem_cons] at placed
      cases leftEq : outcome.left with
      | some left =>
          obtain ⟨notPairCode, isObject⟩ := effect.left left leftEq
          refine posted.goOn stillRunning rfl ?_
          rw [List.forall_mem_cons]
          exact ⟨⟨fun isPairCode => absurd isPairCode notPairCode,
            fun is => placed.1.2 (isObject is)⟩, placed.2⟩
      | none =>
          simp only [NetWorker.goOn]
          split
          · rename_i task behind behindEq
            refine posted.goOn stillRunning rfl ?_
            exact behindEq ▸ placed.2
          · exact posted.leaveStrand stillRunning

theorem post_queue (post : WorkerPost) :
    ∃ posted, (state.post post).pool.queue = state.pool.queue ++ posted := by
  obtain ⟨_ | strand, task⟩ := post
  · exact ⟨_, rfl⟩
  · simp only [NetWorker.post]
    split
    · exact ⟨[], (List.append_nil _).symm⟩
    · exact ⟨_, rfl⟩

theorem leaveStrand_same (strand : Option WorkerStrand) :
    (state.leaveStrand strand).net = state.net ∧
      (state.leaveStrand strand).stop = state.stop ∧
      (state.leaveStrand strand).pool.threads = state.pool.threads := by
  cases strand with
  | none => exact ⟨rfl, rfl, rfl⟩
  | some strand =>
      simp only [leaveStrand]
      split <;> exact ⟨rfl, rfl, rfl⟩

theorem goOn_same (thread : Fin numOfThreads) (job : WorkerJob)
    (left : Option WorkerTask) :
    (state.goOn thread job left).net = state.net ∧
      (state.goOn thread job left).stop = state.stop ∧
      ∀ other, other ≠ thread →
        (state.goOn thread job left).pool.threads other =
          state.pool.threads other := by
  have others : ∀ (rest : Option WorkerJob) (other : Fin numOfThreads),
      other ≠ thread → (state.pool.goOn thread rest).threads other =
        state.pool.threads other :=
    fun _ _ different => Function.update_of_ne different _ _
  cases left with
  | some left => exact ⟨rfl, rfl, others _⟩
  | none =>
      simp only [goOn]
      split
      · exact ⟨rfl, rfl, others _⟩
      · obtain ⟨net, stop, threads⟩ := @leaveStrand_same
          { state with pool := state.pool.goOn thread none } job.strand
        refine ⟨net, stop, fun other different => ?_⟩
        rw [threads]
        exact others none other different

end NetWorker

end ScorbitSdk
