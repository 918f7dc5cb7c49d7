import Mathlib.Data.List.Nodup

/-!
# Queues with many producers

Such a queue loses nothing, and what one producer enqueues comes out in order;
between the items of two producers there is no order.  Each item is numbered by
the items enqueued before it.
-/

namespace ScorbitSdk

structure QueueEntry (Producer Item : Type*) where
  number : Nat
  producer : Producer
  item : Item
  deriving DecidableEq

/-- The entries that are queued, the oldest first. -/
structure ProducerQueue (Producer Item : Type*) where
  numbered : Nat := 0
  entries : List (QueueEntry Producer Item) := []

namespace ProducerQueue

variable {Producer Item : Type*} {queue : ProducerQueue Producer Item}
  {enqueued dequeued : List (QueueEntry Producer Item)}

/-- The entry that `item` gets when it is enqueued. -/
def nextEntry (queue : ProducerQueue Producer Item) (producer : Producer)
    (item : Item) : QueueEntry Producer Item :=
  ⟨queue.numbered, producer, item⟩

def enqueue (queue : ProducerQueue Producer Item) (producer : Producer)
    (item : Item) : ProducerQueue Producer Item where
  numbered := queue.numbered + 1
  entries := queue.entries ++ [queue.nextEntry producer item]

variable [DecidableEq Producer]

/-- The oldest entry of a producer. -/
def front (queue : ProducerQueue Producer Item) (producer : Producer) :
    Option (QueueEntry Producer Item) :=
  queue.entries.find? (·.producer = producer)

def dequeue (queue : ProducerQueue Producer Item) (producer : Producer) :
    Option (QueueEntry Producer Item × ProducerQueue Producer Item) :=
  (queue.front producer).map fun entry =>
    (entry,
      { queue with entries := queue.entries.eraseP (·.producer = producer) })

/-- The queue holds what has been enqueued and not been dequeued, both listed in
the order of the calls. -/
structure Accounts (queue : ProducerQueue Producer Item)
    (enqueued dequeued : List (QueueEntry Producer Item)) : Prop where
  numbers_lt : ∀ entry ∈ enqueued, entry.number < queue.numbered
  increasing : enqueued.Pairwise (·.number < ·.number)
  sublist : queue.entries.Sublist enqueued
  split : ∀ producer,
    dequeued.filter (·.producer = producer) ++
        queue.entries.filter (·.producer = producer) =
      enqueued.filter (·.producer = producer)

omit [DecidableEq Producer] in
@[simp]
theorem entries_enqueue (queue : ProducerQueue Producer Item)
    (producer : Producer) (item : Item) :
    (queue.enqueue producer item).entries =
      queue.entries ++ [queue.nextEntry producer item] :=
  rfl

theorem accounts_empty :
    Accounts ({} : ProducerQueue Producer Item) [] [] where
  numbers_lt := nofun
  increasing := List.Pairwise.nil
  sublist := List.Sublist.refl []
  split := fun _ => rfl

theorem Accounts.enqueue (accounts : Accounts queue enqueued dequeued)
    (producer : Producer) (item : Item) :
    Accounts (queue.enqueue producer item)
      (enqueued ++ [queue.nextEntry producer item]) dequeued where
  numbers_lt := by
    intro entry member
    rcases List.mem_append.mp member with old | new
    · exact Nat.lt_succ_of_lt (accounts.numbers_lt entry old)
    · obtain rfl := List.mem_singleton.mp new
      exact Nat.lt_succ_self _
  increasing := by
    refine List.pairwise_append.mpr
      ⟨accounts.increasing, List.pairwise_singleton _ _, ?_⟩
    intro entry old other new
    obtain rfl := List.mem_singleton.mp new
    exact accounts.numbers_lt entry old
  sublist := accounts.sublist.append (List.Sublist.refl _)
  split := by
    intro other
    rw [entries_enqueue, List.filter_append, List.filter_append,
      ← List.append_assoc, accounts.split other]

/-- The chosen producer's oldest entry leaves, and no other one. -/
theorem dequeue_split {producer : Producer}
    {entry : QueueEntry Producer Item} {rest : ProducerQueue Producer Item}
    (taken : queue.dequeue producer = some (entry, rest)) :
    entry.producer = producer ∧ rest.numbered = queue.numbered ∧
      ∃ before after, queue.entries = before ++ entry :: after ∧
        rest.entries = before ++ after ∧
        ∀ other ∈ before, other.producer ≠ producer := by
  obtain ⟨found, isFront, same⟩ := Option.map_eq_some_iff.mp taken
  obtain ⟨rfl, rfl⟩ := Prod.mk.inj same
  obtain ⟨isProducer, before, after, entries, others⟩ :=
    List.find?_eq_some_iff_append.mp isFront
  have others : ∀ other ∈ before, other.producer ≠ producer := by
    simpa using others
  refine ⟨of_decide_eq_true isProducer, rfl, before, after, entries, ?_, others⟩
  have removed : (found :: after).eraseP (·.producer = producer) = after :=
    List.eraseP_cons_of_pos isProducer
  change queue.entries.eraseP _ = _
  rw [entries, List.eraseP_append_right _ (by simpa using others), removed]

theorem Accounts.dequeue (accounts : Accounts queue enqueued dequeued)
    {producer : Producer} {entry : QueueEntry Producer Item}
    {rest : ProducerQueue Producer Item}
    (taken : queue.dequeue producer = some (entry, rest)) :
    Accounts rest enqueued (dequeued ++ [entry]) := by
  obtain ⟨isProducer, sameNumber, before, after, entries, remaining, others⟩ :=
    dequeue_split taken
  have leaves : rest.entries.Sublist queue.entries := by
    rw [remaining, entries]
    exact (List.Sublist.refl before).append (List.sublist_cons_self entry after)
  refine ⟨?_, accounts.increasing, leaves.trans accounts.sublist, ?_⟩
  · intro other member
    exact sameNumber ▸ accounts.numbers_lt other member
  · intro other
    rw [← accounts.split other, remaining, entries]
    by_cases same : entry.producer = other
    · have noneBefore : before.filter (·.producer = other) = [] := by
        rw [List.filter_eq_nil_iff]
        intro earlier member
        have differs := others earlier member
        simp only [decide_eq_true_eq]
        rwa [← same, isProducer]
      simp [same, noneBefore]
    · simp [same]

/-- Each entry that was enqueued either waits or has been dequeued, once. -/
theorem Accounts.count_add_count [DecidableEq Item]
    (accounts : Accounts queue enqueued dequeued)
    {entry : QueueEntry Producer Item} (member : entry ∈ enqueued) :
    dequeued.count entry + queue.entries.count entry = 1 := by
  have count_filter (entries : List (QueueEntry Producer Item)) :
      (entries.filter (·.producer = entry.producer)).count entry =
        entries.count entry :=
    List.count_filter (by simp)
  have nodup : enqueued.Nodup :=
    accounts.increasing.imp fun less same => by
      rw [same] at less
      exact Nat.lt_irrefl _ less
  have split := congrArg (List.count entry) (accounts.split entry.producer)
  rw [List.count_append, count_filter, count_filter, count_filter] at split
  rw [split, nodup.count, if_pos member]

/-- The oldest entry of all is the one before which everything has been
dequeued. -/
theorem Accounts.head?_iff [DecidableEq Item]
    (accounts : Accounts queue enqueued dequeued)
    {entry : QueueEntry Producer Item} (waits : entry ∈ queue.entries) :
    queue.entries.head? = some entry ↔
      ∀ other ∈ enqueued, other.number < entry.number → other ∈ dequeued := by
  have increasing := accounts.increasing.sublist accounts.sublist
  obtain ⟨oldest, later, entries⟩ := List.exists_cons_of_ne_nil
    (List.ne_nil_of_mem waits)
  rw [entries, List.pairwise_cons] at increasing
  rw [entries, List.head?_cons, Option.some.injEq]
  constructor
  · rintro rfl other member less
    have counted := accounts.count_add_count member
    have waitsNot : other ∉ queue.entries := by
      rw [entries, List.mem_cons]
      rintro (rfl | behind)
      · exact Nat.lt_irrefl _ less
      · exact Nat.lt_asymm less (increasing.1 other behind)
    rw [List.count_eq_zero_of_not_mem waitsNot] at counted
    exact List.count_pos_iff.mp (by omega)
  · intro gone
    rw [entries, List.mem_cons] at waits
    rcases waits with same | behind
    · exact same.symm
    · have isOldest : oldest ∈ queue.entries := entries ▸ List.mem_cons_self
      have member := accounts.sublist.subset isOldest
      have counted := accounts.count_add_count member
      have taken := gone oldest member (increasing.1 entry behind)
      have takenOnce := List.count_pos_iff.mpr taken
      have waitsOnce := List.count_pos_iff.mpr isOldest
      omega

/-- A producer's entries are dequeued in the order in which it enqueued them. -/
theorem Accounts.dequeued_isPrefix (accounts : Accounts queue enqueued dequeued)
    (producer : Producer) :
    dequeued.filter (·.producer = producer) <+:
      enqueued.filter (·.producer = producer) :=
  ⟨_, accounts.split producer⟩

end ProducerQueue

end ScorbitSdk
