import Mathlib.Data.List.Induction
import ScorbitSdk.FiniteMaps
import ScorbitSdk.NodeLists
import ScorbitSdk.TransitionRuns

/-!
# The least recently used cache

`LRUCache` keeps a list of its keys, the one used last in front, and a map from
the keys to their values and to their places in the list.  It behaves as one
list of entries from which the entry at the back is dropped to make room.
-/

namespace ScorbitSdk

/-- Entries with distinct keys, the one used last in front.  Inserting an entry
puts it in front, in place of one with the same key. -/
abbrev RecencyList (Key Value : Type) := AList fun _ : Key => Value

inductive LruOp (Key Value : Type)
  | put (key : Key) (value : Value)
  | get (key : Key)
  | has (key : Key)
  | erase (key : Key)

namespace LruOp

variable {Key Value : Type}

/-- The operation puts or gets the key. -/
def Uses (key : Key) : LruOp Key Value → Prop
  | put used _ => used = key
  | get used => used = key
  | _ => False

/-- The operation neither puts nor erases the key. -/
def Leaves (key : Key) : LruOp Key Value → Prop
  | put used _ => used ≠ key
  | erase erased => erased ≠ key
  | _ => True

end LruOp

/-- Since `oldest` was put or got last, `other` has been put or got. -/
def UsedBefore {Key Value : Type} (ops : List (LruOp Key Value))
    (oldest other : Key) : Prop :=
  ∃ before after, ops = before ++ after ∧
    (∀ op ∈ after, ¬ op.Uses oldest) ∧ ∃ op ∈ after, op.Uses other

section UsedBefore

variable {Key Value : Type} {ops : List (LruOp Key Value)}
  {op : LruOp Key Value} {oldest other : Key}

theorem UsedBefore.snoc (used : UsedBefore ops oldest other)
    (notUsed : ¬ op.Uses oldest) : UsedBefore (ops ++ [op]) oldest other := by
  obtain ⟨before, after, rfl, notAfter, later, member, uses⟩ := used
  refine ⟨before, after ++ [op], List.append_assoc .., ?_, later,
    List.mem_append_left _ member, uses⟩
  rw [List.forall_mem_append]
  exact ⟨notAfter, List.forall_mem_singleton.mpr notUsed⟩

theorem usedBefore_last (uses : op.Uses other) (notUsed : ¬ op.Uses oldest) :
    UsedBefore (ops ++ [op]) oldest other :=
  ⟨ops, [op], rfl, List.forall_mem_singleton.mpr notUsed, op,
    List.mem_singleton_self _, uses⟩

end UsedBefore

namespace RecencyList

variable {Key Value : Type} [DecidableEq Key]

def get (self : RecencyList Key Value) (key : Key) : RecencyList Key Value :=
  match self.lookup key with
  | none => self
  | some value => self.insert key value

/-- Drop the entry at the back. -/
def evict (self : RecencyList Key Value) : RecencyList Key Value :=
  match self.keys.getLast? with
  | none => self
  | some oldest => self.erase oldest

def put (capacity : Nat) (self : RecencyList Key Value) (key : Key)
    (value : Value) : RecencyList Key Value :=
  if key ∈ self then self.insert key value
  else if self.keys.length = capacity then self.evict.insert key value
  else self.insert key value

def step (capacity : Nat) (self : RecencyList Key Value) :
    LruOp Key Value → RecencyList Key Value
  | .put key value => self.put capacity key value
  | .get key => self.get key
  | .has _ => self
  | .erase key => self.erase key

/-- What is left after the operations on an empty list. -/
def ofOps (capacity : Nat) (ops : List (LruOp Key Value)) :
    RecencyList Key Value :=
  ops.foldl (step capacity) ∅

variable {capacity : Nat} {entries : RecencyList Key Value} {key : Key}
  {ops : List (LruOp Key Value)} {op : LruOp Key Value}

theorem ofOps_snoc :
    ofOps capacity (ops ++ [op]) = step capacity (ofOps capacity ops) op := by
  simp [ofOps]

theorem evict_eq {oldest : Key} (isLast : entries.keys.getLast? = some oldest) :
    entries.evict = entries.erase oldest := by
  simp [evict, isLast]

/-- A new entry goes in front of all others, or of those that are left when
room is made. -/
theorem put_cases (capacity : Nat) (entries : RecencyList Key Value)
    (key : Key) (value : Value) :
    entries.put capacity key value = entries.insert key value ∨
      (key ∉ entries ∧ entries.keys.length = capacity ∧
        entries.put capacity key value = entries.evict.insert key value) := by
  unfold put
  split
  · exact Or.inl rfl
  · rename_i missing
    split
    · rename_i isFull
      exact Or.inr ⟨missing, isFull, rfl⟩
    · exact Or.inl rfl

theorem keys_evict_sublist (entries : RecencyList Key Value) :
    entries.evict.keys.Sublist entries.keys := by
  unfold evict
  split
  · exact List.Sublist.refl _
  · rw [AList.keys_erase]
    exact List.erase_sublist

/-- Room is made for one entry. -/
theorem length_keys_evict (nonempty : entries.keys ≠ []) :
    entries.evict.keys.length + 1 = entries.keys.length := by
  have isLast := List.getLast?_eq_some_getLast nonempty
  rw [evict_eq isLast, AList.keys_erase,
    List.length_erase_of_mem (List.getLast_mem nonempty)]
  have := List.length_pos_of_ne_nil nonempty
  omega

theorem length_keys_put (positive : 1 ≤ capacity)
    (bounded : entries.keys.length ≤ capacity) (key : Key) (value : Value) :
    (entries.put capacity key value).keys.length ≤ capacity := by
  unfold put
  split
  · rename_i isThere
    rw [AList.keys_insert, List.length_cons,
      List.length_erase_of_mem (AList.mem_keys.mp isThere)]
    have := List.length_pos_of_mem (AList.mem_keys.mp isThere)
    omega
  · split
    · rename_i isFull
      have nonempty : entries.keys ≠ [] := by
        intro isEmpty
        rw [isEmpty, List.length_nil] at isFull
        omega
      have room := length_keys_evict nonempty
      have := List.length_erase_le (a := key) (l := entries.evict.keys)
      rw [AList.keys_insert, List.length_cons]
      omega
    · have := List.length_erase_le (a := key) (l := entries.keys)
      rw [AList.keys_insert, List.length_cons]
      omega

theorem length_keys_step (positive : 1 ≤ capacity)
    (bounded : entries.keys.length ≤ capacity) (op : LruOp Key Value) :
    (entries.step capacity op).keys.length ≤ capacity := by
  cases op with
  | put key value => exact length_keys_put positive bounded key value
  | get key =>
      unfold step get
      dsimp only
      split
      · exact bounded
      · rename_i value present
        have isThere : key ∈ entries.keys :=
          AList.mem_keys.mp (AList.lookup_isSome.mp (by rw [present]; rfl))
        rw [AList.keys_insert, List.length_cons,
          List.length_erase_of_mem isThere]
        have := List.length_pos_of_mem isThere
        omega
  | has key => exact bounded
  | erase key =>
      refine le_trans ?_ bounded
      change (AList.erase key entries).keys.length ≤ entries.keys.length
      rw [AList.keys_erase]
      exact List.length_erase_le

theorem length_keys_ofOps (positive : 1 ≤ capacity)
    (ops : List (LruOp Key Value)) :
    (ofOps capacity ops).keys.length ≤ capacity := by
  induction ops using List.reverseRecOn with
  | nil => exact Nat.zero_le capacity
  | append_singleton ops op ih =>
      rw [ofOps_snoc]
      exact length_keys_step positive ih op

/-- The keys are in the order of their last uses. -/
def InOrder (ops : List (LruOp Key Value)) (keys : List Key) : Prop :=
  keys.Pairwise fun newer older => UsedBefore ops older newer

omit [DecidableEq Key] in
theorem InOrder.unused {keys kept : List Key} (inOrder : InOrder ops keys)
    (sublist : kept.Sublist keys) (unused : ∀ key ∈ kept, ¬ op.Uses key) :
    InOrder (ops ++ [op]) kept :=
  (inOrder.sublist sublist).imp_of_mem fun _ olderMember used =>
    used.snoc (unused _ olderMember)

theorem InOrder.used {keys kept : List Key} (inOrder : InOrder ops keys)
    (sublist : kept.Sublist keys) (nodup : kept.Nodup)
    (uses : ∀ other, op.Uses other ↔ other = key) :
    InOrder (ops ++ [op]) (key :: kept.erase key) := by
  have unused : ∀ other ∈ kept.erase key, ¬ op.Uses other := by
    intro other member isUsed
    exact (nodup.mem_erase_iff.mp member).1 ((uses other).mp isUsed)
  refine List.pairwise_cons.mpr ⟨fun other member => ?_, ?_⟩
  · exact usedBefore_last ((uses key).mpr rfl) (unused other member)
  · exact inOrder.unused (List.erase_sublist.trans sublist) unused

theorem InOrder.step (inOrder : InOrder ops entries.keys)
    (op : LruOp Key Value) :
    InOrder (ops ++ [op]) (entries.step capacity op).keys := by
  cases op with
  | put key value =>
      have uses : ∀ other, (LruOp.put key value).Uses other ↔ other = key :=
        fun _ => eq_comm
      change InOrder _ (entries.put capacity key value).keys
      rcases put_cases capacity entries key value with same | ⟨-, -, same⟩
      · rw [same, AList.keys_insert]
        exact inOrder.used (List.Sublist.refl _) entries.keys_nodup uses
      · rw [same, AList.keys_insert]
        exact inOrder.used (keys_evict_sublist entries)
          (AList.keys_nodup _) uses
  | get key =>
      have uses : ∀ other,
          (LruOp.get key : LruOp Key Value).Uses other ↔ other = key :=
        fun _ => eq_comm
      change InOrder _ (entries.get key).keys
      unfold get
      split
      · rename_i missing
        refine inOrder.unused (List.Sublist.refl _) fun other member isUsed => ?_
        rw [(uses other).mp isUsed] at member
        exact AList.lookup_eq_none.mp missing (AList.mem_keys.mpr member)
      · rw [AList.keys_insert]
        exact inOrder.used (List.Sublist.refl _) entries.keys_nodup uses
  | has key => exact inOrder.unused (List.Sublist.refl _) fun _ _ => id
  | erase key =>
      change InOrder _ (AList.erase key entries).keys
      rw [AList.keys_erase]
      exact inOrder.unused List.erase_sublist fun _ _ => id

theorem inOrder_ofOps (ops : List (LruOp Key Value)) :
    InOrder ops (ofOps capacity ops).keys := by
  induction ops using List.reverseRecOn with
  | nil => exact List.Pairwise.nil
  | append_singleton ops op ih =>
      rw [ofOps_snoc]
      exact ih.step op

/-- An operation that neither puts nor erases a key leaves its value, or drops
the entry. -/
theorem lookup_step (leaves : op.Leaves key) :
    (entries.step capacity op).lookup key = entries.lookup key ∨
      (entries.step capacity op).lookup key = none := by
  have evicted : entries.evict.lookup key = entries.lookup key ∨
      entries.evict.lookup key = none := by
    unfold evict
    split
    · exact Or.inl rfl
    · rename_i oldest isLast
      by_cases same : key = oldest
      · exact Or.inr (same ▸ AList.lookup_erase key entries)
      · exact Or.inl (AList.lookup_erase_ne same)
  cases op with
  | put used value =>
      change (entries.put capacity used value).lookup key = _ ∨
        (entries.put capacity used value).lookup key = none
      rcases put_cases capacity entries used value with same | ⟨-, -, same⟩
      · rw [same, AList.lookup_insert_ne (Ne.symm leaves)]
        exact Or.inl rfl
      · rw [same, AList.lookup_insert_ne (Ne.symm leaves)]
        exact evicted
  | get used =>
      left
      change (entries.get used).lookup key = _
      unfold get
      split
      · rfl
      · rename_i value present
        by_cases same : key = used
        · rw [same, AList.lookup_insert, present]
        · rw [AList.lookup_insert_ne same]
  | has used => exact Or.inl rfl
  | erase erased => exact Or.inl (AList.lookup_erase_ne (Ne.symm leaves))

theorem lookup_put (capacity : Nat) (entries : RecencyList Key Value)
    (key : Key) (value : Value) :
    (entries.put capacity key value).lookup key = some value := by
  rcases put_cases capacity entries key value with same | ⟨-, -, same⟩ <;>
    rw [same, AList.lookup_insert]

end RecencyList

/-- A cache with a list of its keys and a map that has, for each of them, its
value and the iterator of its place in the list. -/
structure LruCache (Key Value : Type) where
  capacity : Nat
  usage : NodeList Key
  cache : Finmap fun _ : Key => Value × Nat

namespace LruCache

variable {Key Value : Type} [DecidableEq Key]

def empty (capacity : Nat) : LruCache Key Value where
  capacity := capacity
  usage := .empty
  cache := ∅

def size (self : LruCache Key Value) : Nat :=
  self.cache.keys.card

def has (self : LruCache Key Value) (key : Key) : Bool :=
  (self.cache.lookup key).isSome

/-- The cache afterwards and the value, if there is one. -/
def get (self : LruCache Key Value) (key : Key) :
    Option (LruCache Key Value × Option Value) :=
  match self.cache.lookup key with
  | none => some (self, none)
  | some (value, iterator) =>
      (self.usage.spliceFront iterator).map fun usage =>
        ({ self with usage := usage }, some value)

/-- Make room for a new entry. -/
def evict (self : LruCache Key Value) : Option (LruCache Key Value) := do
  let last ← self.usage.back?
  let usage ← self.usage.popBack
  some { self with usage := usage, cache := self.cache.erase last }

def addFront (self : LruCache Key Value) (key : Key) (value : Value) :
    LruCache Key Value :=
  { self with
    usage := self.usage.pushFront key
    cache := self.cache.insert key (value, self.usage.nextNode) }

def put (self : LruCache Key Value) (key : Key) (value : Value) :
    Option (LruCache Key Value) :=
  match self.cache.lookup key with
  | some (_, iterator) =>
      (self.usage.spliceFront iterator).map fun usage =>
        { self with
          usage := usage, cache := self.cache.insert key (value, iterator) }
  | none =>
      if self.size = self.capacity then
        self.evict.map fun self => self.addFront key value
      else some (self.addFront key value)

def erase (self : LruCache Key Value) (key : Key) :
    Option (LruCache Key Value) :=
  match self.cache.lookup key with
  | none => some self
  | some (_, iterator) =>
      (self.usage.erase iterator).map fun usage =>
        { self with usage := usage, cache := self.cache.erase key }

def step (self : LruCache Key Value) :
    LruOp Key Value → Option (LruCache Key Value)
  | .put key value => self.put key value
  | .get key => (self.get key).map Prod.fst
  | .has _ => some self
  | .erase key => self.erase key

/-- The two structures hold the entries of a recency list. -/
structure Represents (lru : LruCache Key Value)
    (entries : RecencyList Key Value) : Prop where
  usage : lru.usage.toList = entries.keys
  cached : ∀ key, (lru.cache.lookup key).map Prod.fst = entries.lookup key
  iterators : ∀ key value iterator,
    lru.cache.lookup key = some (value, iterator) →
      lru.usage.get? iterator = some key

variable {self next : LruCache Key Value} {entries : RecencyList Key Value}
  {key : Key} {value : Value} {iterator : Nat}

theorem represents_empty (capacity : Nat) :
    (empty capacity : LruCache Key Value).Represents ∅ where
  usage := rfl
  cached _ := rfl
  iterators _ _ _ present := by simp [empty] at present

namespace Represents

theorem nodup (represents : self.Represents entries) :
    self.usage.toList.Nodup :=
  represents.usage ▸ entries.keys_nodup

theorem mem (represents : self.Represents entries) (key : Key) :
    key ∈ self.cache ↔ key ∈ entries := by
  rw [← Finmap.lookup_isSome, ← AList.lookup_isSome, ← represents.cached key,
    Option.isSome_map]

theorem has (represents : self.Represents entries) (key : Key) :
    self.has key = true ↔ key ∈ entries :=
  Finmap.lookup_isSome.trans (represents.mem key)

theorem size (represents : self.Represents entries) :
    self.size = entries.keys.length :=
  Finmap.card_keys_eq_length entries.keys_nodup fun key =>
    (represents.mem key).trans AList.mem_keys

theorem lookup (represents : self.Represents entries)
    (present : self.cache.lookup key = some (value, iterator)) :
    entries.lookup key = some value := by
  rw [← represents.cached key, present, Option.map_some]

theorem absent (represents : self.Represents entries)
    (missing : self.cache.lookup key = none) : key ∉ entries := by
  rw [← AList.lookup_eq_none, ← represents.cached key, missing,
    Option.map_none]

/-- Moving an entry to the front, with a value of any kind. -/
theorem moveToFront (represents : self.Represents entries) {old : Value}
    (present : self.cache.lookup key = some (old, iterator)) (value : Value) :
    ∃ usage, self.usage.spliceFront iterator = some usage ∧
      Represents { self with
        usage := usage, cache := self.cache.insert key (value, iterator) }
        (entries.insert key value) := by
  obtain ⟨usage, spliced, toListEq, kept⟩ := NodeList.spliceFront_spec
    represents.nodup (represents.iterators key old iterator present)
  refine ⟨usage, spliced, ?_, fun other => ?_,
    fun other otherValue otherIterator otherPresent => ?_⟩
  · rw [AList.keys_insert, ← represents.usage]
    exact toListEq
  · by_cases same : other = key
    · rw [same, Finmap.lookup_insert, AList.lookup_insert, Option.map_some]
    · rw [Finmap.lookup_insert_of_ne _ same, AList.lookup_insert_ne same]
      exact represents.cached other
  · apply kept
    rcases Finmap.lookup_insert_cases otherPresent with ⟨rfl, isNew⟩ | ⟨-, was⟩
    · obtain ⟨-, rfl⟩ := Prod.mk.inj isNew
      exact represents.iterators other old iterator present
    · exact represents.iterators other otherValue otherIterator was

theorem get (represents : self.Represents entries) (key : Key) :
    ∃ next, self.get key = some (next, entries.lookup key) ∧
      next.Represents (RecencyList.get entries key) := by
  unfold LruCache.get RecencyList.get
  cases present : self.cache.lookup key with
  | none =>
      have missing := represents.absent present
      rw [AList.lookup_eq_none.mpr missing]
      exact ⟨self, rfl, represents⟩
  | some entry =>
      obtain ⟨value, iterator⟩ := entry
      obtain ⟨usage, spliced, after⟩ := represents.moveToFront present value
      rw [represents.lookup present]
      refine ⟨{ self with usage := usage },
        by simp only [spliced, Option.map_some], ?_⟩
      have sameCache : self.cache.insert key (value, iterator) = self.cache :=
        Finmap.ext_lookup fun other => by
          by_cases same : other = key
          · rw [same, Finmap.lookup_insert, present]
          · rw [Finmap.lookup_insert_of_ne _ same]
      exact sameCache ▸ after

theorem evict (represents : self.Represents entries)
    (nonempty : entries.keys ≠ []) :
    ∃ next, self.evict = some next ∧
      next.Represents (RecencyList.evict entries) := by
  obtain ⟨oldest, isLast⟩ : ∃ oldest, entries.keys.getLast? = some oldest :=
    ⟨_, List.getLast?_eq_some_getLast nonempty⟩
  have isBack : self.usage.back? = some oldest := by
    rw [NodeList.back?, represents.usage, isLast]
  obtain ⟨usage, popped, toListEq, kept⟩ :=
    NodeList.popBack_spec represents.nodup isBack
  refine ⟨{ self with usage := usage, cache := self.cache.erase oldest }, ?_,
    ?_⟩
  · simp [LruCache.evict, isBack, popped]
  · rw [RecencyList.evict, isLast]
    refine ⟨?_, fun other => ?_,
      fun other value iterator otherPresent => ?_⟩
    · rw [AList.keys_erase, ← represents.usage]
      exact toListEq
    · by_cases same : other = oldest
      · rw [same, Finmap.lookup_erase, AList.lookup_erase, Option.map_none]
      · rw [Finmap.lookup_erase_ne same, AList.lookup_erase_ne same]
        exact represents.cached other
    · obtain ⟨different, was⟩ := Finmap.lookup_of_erase otherPresent
      exact kept iterator other different
        (represents.iterators other value iterator was)

theorem addFront (represents : self.Represents entries)
    (missing : key ∉ entries) (value : Value) :
    (self.addFront key value).Represents (entries.insert key value) := by
  refine ⟨?_, fun other => ?_, fun other otherValue iterator present => ?_⟩
  · rw [AList.keys_insert, List.erase_of_not_mem (mt AList.mem_keys.mpr missing),
      ← represents.usage]
    rfl
  · by_cases same : other = key
    · rw [LruCache.addFront, same, Finmap.lookup_insert, AList.lookup_insert,
        Option.map_some]
    · rw [LruCache.addFront, Finmap.lookup_insert_of_ne _ same,
        AList.lookup_insert_ne same]
      exact represents.cached other
  · rcases Finmap.lookup_insert_cases present with ⟨rfl, isNew⟩ | ⟨-, was⟩
    · obtain ⟨-, rfl⟩ := Prod.mk.inj isNew
      exact NodeList.get?_pushFront_new self.usage other
    · exact NodeList.get?_pushFront
        (represents.iterators other otherValue iterator was) key

theorem put {capacity : Nat} (positive : 1 ≤ capacity)
    (represents : self.Represents entries)
    (sameCapacity : self.capacity = capacity) (key : Key) (value : Value) :
    ∃ next, self.put key value = some next ∧ next.capacity = capacity ∧
      next.Represents (RecencyList.put capacity entries key value) := by
  unfold LruCache.put RecencyList.put
  cases present : self.cache.lookup key with
  | some entry =>
      obtain ⟨old, iterator⟩ := entry
      obtain ⟨usage, spliced, after⟩ := represents.moveToFront present value
      have isThere : key ∈ entries :=
        AList.lookup_isSome.mp (by rw [represents.lookup present]; rfl)
      rw [if_pos isThere]
      refine ⟨_, ?_, ?_, after⟩
      · simp only [spliced, Option.map_some]
      · exact sameCapacity
  | none =>
      have missing := represents.absent present
      dsimp only
      rw [if_neg missing, represents.size, sameCapacity]
      split
      · rename_i isFull
        have nonempty : entries.keys ≠ [] := by
          rintro isEmpty
          simp [isEmpty] at isFull
          omega
        obtain ⟨room, evicted, after⟩ := represents.evict nonempty
        have roomCapacity : room.capacity = capacity := by
          simp only [LruCache.evict, Option.bind_eq_bind,
            Option.bind_eq_some_iff, Option.some.injEq] at evicted
          obtain ⟨_, -, _, -, rfl⟩ := evicted
          exact sameCapacity
        have stillMissing : key ∉ RecencyList.evict entries := by
          unfold RecencyList.evict
          split
          · exact missing
          · exact fun there => missing (AList.mem_erase.mp there).2
        refine ⟨_, ?_, ?_, after.addFront stillMissing value⟩
        · rw [evicted, Option.map_some]
        · exact roomCapacity
      · exact ⟨_, rfl, sameCapacity, represents.addFront missing value⟩

theorem erase (represents : self.Represents entries) (key : Key) :
    ∃ next, self.erase key = some next ∧ next.capacity = self.capacity ∧
      next.Represents (entries.erase key) := by
  unfold LruCache.erase
  cases present : self.cache.lookup key with
  | none =>
      have missing := represents.absent present
      refine ⟨self, rfl, rfl, ?_, fun other => ?_, represents.iterators⟩
      · rw [AList.keys_erase,
          List.erase_of_not_mem (mt AList.mem_keys.mpr missing)]
        exact represents.usage
      · by_cases same : other = key
        · rw [same, present, AList.lookup_erase, Option.map_none]
        · rw [AList.lookup_erase_ne same]
          exact represents.cached other
  | some entry =>
      obtain ⟨value, iterator⟩ := entry
      have points := represents.iterators key value iterator present
      refine ⟨{ self with
        usage := self.usage.without iterator, cache := self.cache.erase key },
        by simp only [NodeList.erase_eq_some points, Option.map_some], rfl, ?_,
        fun other => ?_, fun other otherValue otherIterator otherPresent => ?_⟩
      · rw [AList.keys_erase, ← represents.usage]
        exact NodeList.toList_without represents.nodup points
      · by_cases same : other = key
        · rw [same, Finmap.lookup_erase, AList.lookup_erase, Option.map_none]
        · rw [Finmap.lookup_erase_ne same, AList.lookup_erase_ne same]
          exact represents.cached other
      · obtain ⟨different, was⟩ := Finmap.lookup_of_erase otherPresent
        exact NodeList.get?_without points
          (represents.iterators other otherValue otherIterator was) different

theorem has_put {capacity : Nat} (positive : 1 ≤ capacity)
    (represents : self.Represents entries)
    (sameCapacity : self.capacity = capacity)
    (put : self.put key value = some next) : next.has key = true := by
  obtain ⟨other, otherPut, -, otherRepresents⟩ :=
    represents.put positive sameCapacity key value
  rw [put, Option.some.injEq] at otherPut
  subst otherPut
  rw [otherRepresents.has, ← AList.lookup_isSome, RecencyList.lookup_put]
  rfl

theorem has_get {found : Option Value} (represents : self.Represents entries)
    (got : self.get key = some (next, found)) (other : Key) :
    next.has other = self.has other := by
  obtain ⟨after, otherGot, afterRepresents⟩ := represents.get key
  rw [got, Option.some.injEq] at otherGot
  obtain ⟨rfl, -⟩ := Prod.mk.inj otherGot
  rw [Bool.eq_iff_iff, afterRepresents.has, represents.has]
  unfold RecencyList.get
  split
  · rfl
  · rename_i value present
    rw [AList.mem_insert]
    refine ⟨?_, Or.inr⟩
    rintro (rfl | was)
    · exact AList.lookup_isSome.mp (by rw [present]; rfl)
    · exact was

theorem has_erase (represents : self.Represents entries)
    (erased : self.erase key = some next) {other : Key}
    (different : other ≠ key) (was : self.has other = true) :
    next.has other = true := by
  obtain ⟨after, otherErased, -, afterRepresents⟩ := represents.erase key
  rw [erased, Option.some.injEq] at otherErased
  subst otherErased
  rw [afterRepresents.has, AList.mem_erase]
  exact ⟨different, (represents.has other).mp was⟩

/-- Every operation is that of the list, and none is undefined. -/
theorem step {capacity : Nat} (positive : 1 ≤ capacity)
    (represents : self.Represents entries)
    (sameCapacity : self.capacity = capacity) (op : LruOp Key Value) :
    ∃ next, self.step op = some next ∧ next.capacity = capacity ∧
      next.Represents (RecencyList.step capacity entries op) := by
  cases op with
  | put key value => exact represents.put positive sameCapacity key value
  | get key =>
      obtain ⟨next, got, after⟩ := represents.get key
      refine ⟨next, by rw [LruCache.step, got, Option.map_some], ?_, after⟩
      rw [← sameCapacity]
      unfold LruCache.get at got
      split at got
      · simp only [Option.some.injEq, Prod.mk.injEq] at got
        rw [got.1]
      · simp only [Option.map_eq_some_iff, Prod.mk.injEq] at got
        obtain ⟨_, -, rfl, -⟩ := got
        rfl
  | has key => exact ⟨self, rfl, sameCapacity, represents⟩
  | erase key =>
      obtain ⟨next, erased, sameSize, after⟩ := represents.erase key
      exact ⟨next, erased, sameSize.trans sameCapacity, after⟩

end Represents

/-- Every list of operations can be run, and what is left are the entries of
the recency list. -/
theorem represents_ofOps {capacity : Nat} (positive : 1 ≤ capacity)
    (ops : List (LruOp Key Value)) :
    ∃ final, Transition.run step (empty capacity) ops = some final ∧
      final.capacity = capacity ∧
      final.Represents (RecencyList.ofOps capacity ops) := by
  suffices general : ∀ (self : LruCache Key Value) entries,
      self.capacity = capacity → self.Represents entries →
        ∃ final, Transition.run step self ops = some final ∧
          final.capacity = capacity ∧
          final.Represents (ops.foldl (RecencyList.step capacity) entries) from
    general (empty capacity) ∅ rfl (represents_empty capacity)
  induction ops with
  | nil => exact fun self entries sameCapacity represents =>
      ⟨self, rfl, sameCapacity, represents⟩
  | cons op ops ih =>
      intro self entries sameCapacity represents
      obtain ⟨next, taken, nextCapacity, nextRepresents⟩ :=
        represents.step positive sameCapacity op
      obtain ⟨final, reached, finalHolds⟩ :=
        ih next _ nextCapacity nextRepresents
      exact ⟨final, Transition.run_cons.mpr ⟨next, taken, reached⟩, finalHolds⟩

/-- The operation drops the entry of a key that it neither puts nor erases. -/
def Evicts (self : LruCache Key Value) (key : Key) (op : LruOp Key Value) :
    Prop :=
  key ∈ self.cache ∧ op.Leaves key ∧
    ∀ next, self.step op = some next → key ∉ next.cache

/-- The value was put last for the key, and the key has neither been erased nor
evicted since. -/
def PutAndKept (capacity : Nat) (ops : List (LruOp Key Value)) (key : Key)
    (value : Value) : Prop :=
  ∃ before after stored, ops = before ++ .put key value :: after ∧
    Transition.run step (empty capacity) (before ++ [.put key value]) =
      some stored ∧
    Transition.HoldsAlong step
      (fun state op => op.Leaves key ∧ ¬ state.Evicts key op) stored after

/-- What a cache is after a run of operations. -/
structure Sound (lru : LruCache Key Value) (capacity : Nat)
    (ops : List (LruOp Key Value)) : Prop where
  represents : lru.Represents (RecencyList.ofOps capacity ops)
  distinct : lru.usage.toList.Nodup
  listed : ∀ key, key ∈ lru.usage.toList ↔ key ∈ lru.cache
  iterators : ∀ key value iterator,
    lru.cache.lookup key = some (value, iterator) →
      lru.usage.get? iterator = some key
  bounded : lru.size ≤ capacity
  got : ∀ key, ∃ next found, lru.get key = some (next, found) ∧
    ∀ value, found = some value ↔ PutAndKept capacity ops key value
  evicted : ∀ key value, lru.has key = false → lru.size = capacity →
    ∃ oldest next, lru.put key value = some next ∧ oldest ∈ lru.cache ∧
      (∀ other ∈ lru.cache, other ≠ oldest → UsedBefore ops oldest other) ∧
      ∀ other, other ∈ next.cache ↔
        other = key ∨ (other ∈ lru.cache ∧ other ≠ oldest)
  has : ∀ key, (lru.has key = true ↔ key ∈ lru.cache) ∧
    lru.step (.has key) = some lru

/-- A step gives a key a value by putting it, or leaves the value it had. -/
theorem lookup_step_iff {capacity : Nat} {op : LruOp Key Value}
    (represents : self.Represents entries)
    (taken : self.step op = some next)
    (nextRepresents : next.Represents (entries.step capacity op)) :
    (next.cache.lookup key).map Prod.fst = some value ↔
      op = .put key value ∨
        ((self.cache.lookup key).map Prod.fst = some value ∧
          op.Leaves key ∧ ¬ self.Evicts key op) := by
  rw [nextRepresents.cached, represents.cached]
  constructor
  · intro present
    by_cases leaves : op.Leaves key
    · rcases RecencyList.lookup_step leaves with same | gone
      · refine Or.inr ⟨same ▸ present, leaves, fun evicts => ?_⟩
        refine evicts.2.2 next taken ((nextRepresents.mem key).mpr ?_)
        exact AList.lookup_isSome.mp (by rw [present]; rfl)
      · rw [present] at gone
        cases gone
    · cases op with
      | put used stored =>
          obtain rfl : used = key := not_not.mp leaves
          rw [RecencyList.step, RecencyList.lookup_put,
            Option.some.injEq] at present
          exact Or.inl (present ▸ rfl)
      | get used => exact absurd trivial leaves
      | has used => exact absurd trivial leaves
      | erase erased =>
          obtain rfl : erased = key := not_not.mp leaves
          rw [RecencyList.step, AList.lookup_erase] at present
          cases present
  · rintro (rfl | ⟨present, leaves, notEvicted⟩)
    · exact RecencyList.lookup_put capacity entries key value
    · rcases RecencyList.lookup_step leaves with same | gone
      · exact same.trans present
      · refine absurd ⟨?_, leaves, fun other otherTaken there => ?_⟩ notEvicted
        · exact (represents.mem key).mpr
            (AList.lookup_isSome.mp (by rw [present]; rfl))
        · rw [taken, Option.some.injEq] at otherTaken
          subst otherTaken
          exact AList.lookup_eq_none.mp gone ((nextRepresents.mem key).mp there)

/-- The value of a key is the one that was put last and kept. -/
theorem lookup_iff_putAndKept {capacity : Nat} (positive : 1 ≤ capacity)
    {ops : List (LruOp Key Value)} {final : LruCache Key Value}
    (reached : Transition.run step (empty capacity) ops = some final) :
    (final.cache.lookup key).map Prod.fst = some value ↔
      PutAndKept capacity ops key value := by
  have preserved : ∀ (state : LruCache Key Value) op next,
      (state.capacity = capacity ∧ ∃ entries, state.Represents entries) →
        state.step op = some next →
          next.capacity = capacity ∧ ∃ entries, next.Represents entries := by
    rintro state op next ⟨sameCapacity, entries, represents⟩ taken
    obtain ⟨other, otherTaken, otherCapacity, otherRepresents⟩ :=
      represents.step positive sameCapacity op
    rw [taken, Option.some.injEq] at otherTaken
    subst otherTaken
    exact ⟨otherCapacity, _, otherRepresents⟩
  have exact : ∀ (state : LruCache Key Value) op next,
      (state.capacity = capacity ∧ ∃ entries, state.Represents entries) →
        state.step op = some next →
          ((next.cache.lookup key).map Prod.fst = some value ↔
            op = .put key value ∨
              ((state.cache.lookup key).map Prod.fst = some value ∧
                op.Leaves key ∧ ¬ state.Evicts key op)) := by
    rintro state op next ⟨sameCapacity, entries, represents⟩ taken
    obtain ⟨other, otherTaken, -, otherRepresents⟩ :=
      represents.step positive sameCapacity op
    rw [taken, Option.some.injEq] at otherTaken
    subst otherTaken
    exact lookup_step_iff represents taken otherRepresents
  rw [Transition.since_iff preserved exact
    ⟨rfl, ∅, represents_empty capacity⟩ reached]
  constructor
  · rintro (⟨atStart, -⟩ | ⟨before, op, after, stored, split, rfl, toStored,
      along⟩)
    · simp [empty] at atStart
    · exact ⟨before, after, stored, split, toStored, along⟩
  · rintro ⟨before, after, stored, split, toStored, along⟩
    exact Or.inr ⟨before, _, after, stored, split, rfl, toStored, along⟩

omit [DecidableEq Key] in
/-- The key at the back has been put or got before all others. -/
theorem usedBefore_of_getLast {ops : List (LruOp Key Value)}
    {keys : List Key} {oldest : Key}
    (inOrder : RecencyList.InOrder ops keys)
    (isLast : keys.getLast? = some oldest) :
    ∀ other ∈ keys, other ≠ oldest → UsedBefore ops oldest other := by
  obtain ⟨newer, rfl⟩ := List.getLast?_eq_some_iff.mp isLast
  intro other member different
  rcases List.mem_append.mp member with isNewer | isOldest
  · exact (List.pairwise_append.mp inOrder).2.2 other isNewer oldest
      (List.mem_singleton_self oldest)
  · exact absurd (List.mem_singleton.mp isOldest) different

/-- A cache refines the recency list: after any operations its list has no
duplicates and lists the keys of its map, every iterator points at its own key,
no entry too many is kept, a value is found if it was put last and kept, and
room is made by dropping the entry that was used before all others. -/
theorem refinesRecencyList {capacity : Nat} (positive : 1 ≤ capacity)
    (ops : List (LruOp Key Value)) :
    ∃ final, Transition.run step (empty capacity) ops = some final ∧
      final.Sound capacity ops := by
  obtain ⟨final, reached, sameCapacity, represents⟩ :=
    represents_ofOps positive ops
  refine ⟨final, reached, ?_⟩
  exact {
    represents := represents
    distinct := represents.nodup
    listed := fun key => by
      rw [represents.usage, represents.mem key, AList.mem_keys]
    iterators := represents.iterators
    bounded := by
      rw [represents.size]
      exact RecencyList.length_keys_ofOps positive ops
    got := fun key => by
      obtain ⟨next, got, -⟩ := represents.get key
      refine ⟨next, _, got, fun value => ?_⟩
      rw [← represents.cached key]
      exact lookup_iff_putAndKept positive reached
    evicted := fun key value isNew isFull => by
      have missing : key ∉ RecencyList.ofOps capacity ops := by
        rw [← represents.has key, isNew]
        exact Bool.false_ne_true
      rw [represents.size] at isFull
      obtain ⟨oldest, isLast⟩ :
          ∃ oldest, (RecencyList.ofOps capacity ops).keys.getLast? =
            some oldest := by
        refine ⟨_, List.getLast?_eq_some_getLast fun isEmpty => ?_⟩
        rw [isEmpty, List.length_nil] at isFull
        omega
      obtain ⟨next, put, -, nextRepresents⟩ :=
        represents.put positive sameCapacity key value
      refine ⟨oldest, next, put, ?_, fun other member => ?_, fun other => ?_⟩
      · rw [represents.mem, AList.mem_keys]
        exact List.mem_of_getLast? isLast
      · rw [represents.mem, AList.mem_keys] at member
        exact usedBefore_of_getLast (RecencyList.inOrder_ofOps ops) isLast
          other member
      · rw [nextRepresents.mem, represents.mem, RecencyList.put,
          if_neg missing, if_pos isFull, RecencyList.evict_eq isLast,
          AList.mem_insert, AList.mem_erase, and_comm]
    has := fun key => ⟨by rw [represents.has, represents.mem], rfl⟩ }

/-- Two entries, of which the older one is used again, and a third one. -/
def refreshedUsage : List (LruOp String Nat) :=
  [.put "url1" 1, .put "url2" 2, .get "url1", .put "url3" 3]

theorem refinesRecencyList_refreshedUsage :
    (RecencyList.ofOps 2 refreshedUsage).keys = ["url3", "url1"] ∧
      ∃ final, Transition.run step (empty 2) refreshedUsage = some final ∧
        final.Sound 2 refreshedUsage :=
  ⟨by decide, refinesRecencyList (by decide) refreshedUsage⟩

end LruCache

end ScorbitSdk
