import Mathlib.Algebra.BigOperators.Group.Finset.Basic
import Mathlib.Data.Fintype.Card
import Mathlib.Data.List.FinRange

/-!
# Thread pools

A pool of threads that share one queue.  An idle thread takes the oldest job;
the threads then run their jobs in any order, a step at a time, and a step
leaves the thread with the rest of its job or without one.
-/

namespace ScorbitSdk

structure WorkerPool (threadCount : Nat) (Job : Type*) where
  queue : List Job := []
  threads : Fin threadCount → Option Job := fun _ => none

namespace WorkerPool

variable {threadCount : Nat} {Job : Type*}

instance : Membership Job (WorkerPool threadCount Job) where
  mem pool job := job ∈ pool.queue ∨ ∃ thread, pool.threads thread = some job

def post (pool : WorkerPool threadCount Job) (job : Job) :
    WorkerPool threadCount Job :=
  { pool with queue := pool.queue ++ [job] }

/-- An idle thread takes the oldest job of the queue. -/
def take (pool : WorkerPool threadCount Job) (thread : Fin threadCount) :
    Option (WorkerPool threadCount Job) :=
  match pool.threads thread, pool.queue with
  | none, job :: queue =>
      some { queue, threads := Function.update pool.threads thread (some job) }
  | _, _ => none

/-- The thread goes on with the rest of its job, if there is any. -/
def goOn (pool : WorkerPool threadCount Job) (thread : Fin threadCount)
    (rest : Option Job) : WorkerPool threadCount Job :=
  { pool with threads := Function.update pool.threads thread rest }

/-- The jobs of all other threads and of the queue. -/
def Elsewhere (pool : WorkerPool threadCount Job) (thread : Fin threadCount)
    (job : Job) : Prop :=
  job ∈ pool.queue ∨ ∃ other, other ≠ thread ∧ pool.threads other = some job

theorem mem_def {pool : WorkerPool threadCount Job} {job : Job} :
    job ∈ pool ↔
      job ∈ pool.queue ∨ ∃ thread, pool.threads thread = some job :=
  Iff.rfl

@[simp]
theorem mem_post {pool : WorkerPool threadCount Job} {posted job : Job} :
    job ∈ pool.post posted ↔ job ∈ pool ∨ job = posted := by
  simp only [mem_def, post, List.mem_append, List.mem_singleton]
  exact or_right_comm

theorem mem_take {pool next : WorkerPool threadCount Job}
    {thread : Fin threadCount} (taken : pool.take thread = some next)
    {job : Job} : job ∈ next ↔ job ∈ pool := by
  unfold take at taken
  split at taken
  · rename_i front queue idle queueEq
    cases taken
    simp only [mem_def, queueEq, List.mem_cons]
    constructor
    · rintro (queued | ⟨other, running⟩)
      · exact Or.inl (Or.inr queued)
      · by_cases same : other = thread
        · subst same
          rw [Function.update_self, Option.some.injEq] at running
          exact Or.inl (Or.inl running.symm)
        · rw [Function.update_of_ne same] at running
          exact Or.inr ⟨other, running⟩
    · rintro ((isFront | queued) | ⟨other, running⟩)
      · subst isFront
        exact Or.inr ⟨thread, Function.update_self _ _ _⟩
      · exact Or.inl queued
      · have different : other ≠ thread := by
          rintro rfl
          rw [idle] at running
          cases running
        exact Or.inr ⟨other, by rwa [Function.update_of_ne different]⟩
  · cases taken

@[simp]
theorem mem_goOn {pool : WorkerPool threadCount Job}
    {thread : Fin threadCount} {rest : Option Job} {job : Job} :
    job ∈ pool.goOn thread rest ↔
      rest = some job ∨ pool.Elsewhere thread job := by
  simp only [mem_def, goOn, Elsewhere]
  constructor
  · rintro (queued | ⟨other, running⟩)
    · exact Or.inr (Or.inl queued)
    · by_cases same : other = thread
      · subst same
        rw [Function.update_self] at running
        exact Or.inl running
      · rw [Function.update_of_ne same] at running
        exact Or.inr (Or.inr ⟨other, same, running⟩)
  · rintro (isRest | queued | ⟨other, different, running⟩)
    · exact Or.inr ⟨thread, by rw [Function.update_self, isRest]⟩
    · exact Or.inl queued
    · exact Or.inr ⟨other, by rwa [Function.update_of_ne different]⟩

theorem Elsewhere.mem {pool : WorkerPool threadCount Job}
    {thread : Fin threadCount} {job : Job}
    (elsewhere : pool.Elsewhere thread job) : job ∈ pool := by
  rcases elsewhere with queued | ⟨other, -, running⟩
  · exact Or.inl queued
  · exact Or.inr ⟨other, running⟩

/-- A job of the pool is the thread's own or elsewhere. -/
theorem mem_cases {pool : WorkerPool threadCount Job}
    {thread : Fin threadCount} {own job : Job}
    (running : pool.threads thread = some own) :
    job ∈ pool ↔ job = own ∨ pool.Elsewhere thread job := by
  constructor
  · rintro (queued | ⟨other, runs⟩)
    · exact Or.inr (Or.inl queued)
    · by_cases same : other = thread
      · subst same
        rw [running, Option.some.injEq] at runs
        exact Or.inl runs.symm
      · exact Or.inr (Or.inr ⟨other, same, runs⟩)
  · rintro (rfl | elsewhere)
    · exact Or.inr ⟨thread, running⟩
    · exact elsewhere.mem

/-- Another job than what a thread goes on with was there before. -/
theorem mem_of_mem_goOn {pool : WorkerPool threadCount Job}
    {thread : Fin threadCount} {rest : Option Job} {job : Job}
    (different : rest ≠ some job) (inRest : job ∈ pool.goOn thread rest) :
    job ∈ pool := by
  rcases mem_goOn.mp inRest with isRest | elsewhere
  · exact absurd isRest different
  · exact elsewhere.mem

/-- A job other than that of the thread stays when the thread goes on. -/
theorem mem_goOn_of_mem {pool : WorkerPool threadCount Job}
    {thread : Fin threadCount} {own job : Job} {rest : Option Job}
    (running : pool.threads thread = some own) (different : job ≠ own)
    (member : job ∈ pool) : job ∈ pool.goOn thread rest := by
  rcases (mem_cases running).mp member with same | elsewhere
  · exact absurd same different
  · exact mem_goOn.mpr (Or.inr elsewhere)

section

variable {pool : WorkerPool threadCount Job} {property : Job → Prop}

theorem forall_mem_post (all : ∀ job ∈ pool, property job) {posted : Job}
    (new : property posted) : ∀ job ∈ pool.post posted, property job := by
  intro job member
  rcases mem_post.mp member with old | rfl
  · exact all job old
  · exact new

theorem forall_mem_take (all : ∀ job ∈ pool, property job)
    {thread : Fin threadCount} {next : WorkerPool threadCount Job}
    (taken : pool.take thread = some next) :
    ∀ job ∈ next, property job :=
  fun job member => all job ((mem_take taken).mp member)

theorem forall_mem_goOn (all : ∀ job ∈ pool, property job)
    {thread : Fin threadCount} {rest : Option Job}
    (new : ∀ job, rest = some job → property job) :
    ∀ job ∈ pool.goOn thread rest, property job := by
  intro job member
  rcases mem_goOn.mp member with isRest | elsewhere
  · exact new job isRest
  · exact all job elsewhere.mem

end

theorem mem_of_thread {pool : WorkerPool threadCount Job}
    {thread : Fin threadCount} {job : Job}
    (running : pool.threads thread = some job) : job ∈ pool :=
  Or.inr ⟨thread, running⟩

/-- No job is queued or running. -/
def isIdle (pool : WorkerPool threadCount Job) : Bool :=
  pool.queue.isEmpty &&
    (List.finRange threadCount).all fun thread => (pool.threads thread).isNone

theorem not_mem_of_isIdle {pool : WorkerPool threadCount Job}
    (idle : pool.isIdle = true) (job : Job) : job ∉ pool := by
  simp only [isIdle, Bool.and_eq_true, List.isEmpty_iff, List.all_eq_true,
    List.mem_finRange, forall_true_left, Option.isNone_iff_eq_none] at idle
  obtain ⟨noQueue, noThreads⟩ := idle
  rintro (queued | ⟨thread, running⟩)
  · rw [noQueue] at queued
    cases queued
  · rw [noThreads thread] at running
    cases running

@[simp]
theorem not_mem_empty {job : Job} :
    job ∉ ({} : WorkerPool threadCount Job) := by
  rintro (queued | ⟨thread, running⟩)
  · cases queued
  · cases running

section Count

/-! Counting jobs, those of the threads and all of them. -/

variable (counts : Job → Bool)

/-- How many threads are running a job that counts. -/
def running (pool : WorkerPool threadCount Job) : Nat :=
  ∑ thread, (pool.threads thread).toList.countP counts

def count (pool : WorkerPool threadCount Job) : Nat :=
  pool.queue.countP counts + pool.running counts

variable {counts} {pool next : WorkerPool threadCount Job}

theorem running_split (thread : Fin threadCount) :
    pool.running counts = (pool.threads thread).toList.countP counts +
      ∑ other ∈ Finset.univ.erase thread,
        (pool.threads other).toList.countP counts :=
  (Finset.add_sum_erase Finset.univ
    (fun other => (pool.threads other).toList.countP counts)
    (Finset.mem_univ thread)).symm

theorem sum_erase_update (thread : Fin threadCount) (rest : Option Job) :
    ∑ other ∈ Finset.univ.erase thread,
        (Function.update pool.threads thread rest other).toList.countP counts =
      ∑ other ∈ Finset.univ.erase thread,
        (pool.threads other).toList.countP counts := by
  apply Finset.sum_congr rfl
  intro other member
  rw [Function.update_of_ne (Finset.ne_of_mem_erase member)]

theorem running_goOn (thread : Fin threadCount) (rest : Option Job) :
    (pool.goOn thread rest).running counts +
        (pool.threads thread).toList.countP counts =
      pool.running counts + rest.toList.countP counts := by
  rw [running_split thread, running_split thread]
  simp only [goOn, Function.update_self, sum_erase_update]
  omega

theorem count_goOn (thread : Fin threadCount) (rest : Option Job) :
    (pool.goOn thread rest).count counts +
        (pool.threads thread).toList.countP counts =
      pool.count counts + rest.toList.countP counts := by
  have threads := @running_goOn _ _ counts pool thread rest
  unfold count
  simp only [goOn] at threads ⊢
  omega

theorem count_post (job : Job) :
    (pool.post job).count counts = pool.count counts + [job].countP counts := by
  have threads : (pool.post job).running counts = pool.running counts := rfl
  unfold count
  rw [threads, post, List.countP_append]
  omega

theorem count_take {thread : Fin threadCount}
    (taken : pool.take thread = some next) :
    next.count counts = pool.count counts := by
  unfold take at taken
  split at taken
  · rename_i front queue idle queueEq
    cases taken
    unfold count
    rw [running_split thread, running_split thread, queueEq, idle,
      List.countP_cons]
    simp only [Function.update_self, sum_erase_update, Option.toList_some,
      Option.toList_none, List.countP_singleton, List.countP_nil]
    omega
  · cases taken

theorem count_pos {job : Job} (member : job ∈ pool) (isCounted : counts job = true) :
    0 < pool.count counts := by
  unfold count
  rcases member with queued | ⟨thread, runs⟩
  · have positive : 0 < pool.queue.countP counts :=
      List.countP_pos_iff.mpr ⟨job, queued, isCounted⟩
    omega
  · rw [running_split thread, runs, Option.toList_some, List.countP_singleton,
      if_pos isCounted]
    omega

theorem count_eq_zero (none : ∀ job ∈ pool, counts job = false) :
    pool.count counts = 0 := by
  have noQueued : pool.queue.countP counts = 0 := by
    rw [List.countP_eq_zero]
    intro job queued
    simp [none job (Or.inl queued)]
  have noRunning : pool.running counts = 0 := by
    apply Finset.sum_eq_zero
    intro thread _
    rw [List.countP_eq_zero]
    intro job runs
    simp [none job (Or.inr ⟨thread, Option.mem_toList.mp runs⟩)]
  unfold count
  omega

/-- With every thread running a job that counts, all of them are counted. -/
theorem running_eq_of_forall
    (all : ∀ thread, ∃ job, pool.threads thread = some job ∧
      counts job = true) : pool.running counts = threadCount := by
  have each : ∀ thread ∈ Finset.univ,
      (pool.threads thread).toList.countP counts = 1 := by
    intro thread _
    obtain ⟨job, runs, isCounted⟩ := all thread
    rw [runs, Option.toList_some, List.countP_singleton, if_pos isCounted]
  unfold running
  rw [Finset.sum_const_nat each, Finset.card_univ, Fintype.card_fin,
    Nat.mul_one]

end Count

section InReach

/-! Jobs of a kind that a limited number of other jobs can be ahead of. -/

variable (counts isGoal : Job → Bool) (limit : Nat)

/-- Each queued job of the kind has fewer than `limit` jobs that count ahead of
it, those of the threads included. -/
def InReach (pool : WorkerPool threadCount Job) : Prop :=
  ∀ ahead goal behind, pool.queue = ahead ++ goal :: behind →
    isGoal goal = true → pool.running counts + ahead.countP counts < limit

variable {counts isGoal limit} {pool next : WorkerPool threadCount Job}

theorem InReach.running_lt (inReach : pool.InReach counts isGoal limit)
    {goal : Job} (queued : goal ∈ pool.queue) (isOne : isGoal goal = true) :
    pool.running counts < limit := by
  obtain ⟨ahead, behind, queueEq⟩ := List.append_of_mem queued
  have fewer := inReach ahead goal behind queueEq isOne
  omega

theorem inReach_of_count_lt (few : pool.count counts < limit) :
    pool.InReach counts isGoal limit := by
  intro ahead goal behind queueEq _
  unfold count at few
  rw [queueEq, List.countP_append] at few
  omega

theorem InReach.post (inReach : pool.InReach counts isGoal limit) {job : Job}
    (room : isGoal job = true → pool.count counts < limit) :
    (pool.post job).InReach counts isGoal limit := by
  intro ahead goal behind queueEq isOne
  have threads : (pool.post job).running counts = pool.running counts := rfl
  rw [threads]
  rcases List.eq_nil_or_concat behind with rfl | ⟨init, last, rfl⟩
  · have sameQueue : pool.queue = ahead ∧ [job] = [goal] :=
      List.append_inj' queueEq rfl
    obtain ⟨rfl, jobEq⟩ := sameQueue
    cases jobEq
    have few := room isOne
    unfold count at few
    omega
  · rw [List.concat_eq_append] at queueEq
    have regrouped : pool.queue ++ [job] = (ahead ++ goal :: init) ++ [last] := by
      rw [List.append_assoc, List.cons_append]
      exact queueEq
    exact inReach ahead goal init (List.append_inj' regrouped rfl).1 isOne

theorem InReach.take (inReach : pool.InReach counts isGoal limit)
    {thread : Fin threadCount} (taken : pool.take thread = some next) :
    next.InReach counts isGoal limit := by
  have counted := @count_take _ _ counts pool next thread taken
  unfold WorkerPool.take at taken
  split at taken
  · rename_i front queue idle queueEq
    cases taken
    intro ahead goal behind tailEq isOne
    have fewer := inReach (front :: ahead) goal behind
      (by rw [queueEq, List.cons_append]; exact congrArg _ tailEq) isOne
    unfold count at counted
    rw [queueEq] at counted
    dsimp only at counted
    rw [List.countP_cons] at fewer counted
    omega
  · cases taken

theorem InReach.goOn (inReach : pool.InReach counts isGoal limit)
    {thread : Fin threadCount} {rest : Option Job}
    (lighter : rest.toList.countP counts ≤
      (pool.threads thread).toList.countP counts) :
    (pool.goOn thread rest).InReach counts isGoal limit := by
  intro ahead goal behind queueEq isOne
  have fewer := inReach ahead goal behind queueEq isOne
  have threads := @running_goOn _ _ counts pool thread rest
  omega

end InReach

end WorkerPool

end ScorbitSdk
