import Mathlib.Data.List.Nodup

/-!
# Lists with iterators

Each element of such a list sits in a node of its own, and an iterator is the
name of a node.  It stays good while other nodes are added and removed, and
while its own node is moved.  The operations return nothing where an iterator
does not belong to the list, or the list has no last element.
-/

namespace ScorbitSdk

/-- A list of named nodes; no name is used twice. -/
structure NodeList (Value : Type*) where
  nodes : List (Nat × Value)
  nextNode : Nat
  distinct : (nodes.map Prod.fst).Nodup
  named : ∀ node ∈ nodes, node.1 < nextNode

namespace NodeList

variable {Value : Type*}

def empty : NodeList Value where
  nodes := []
  nextNode := 0
  distinct := List.nodup_nil
  named _ member := absurd member List.not_mem_nil

def toList (self : NodeList Value) : List Value :=
  self.nodes.map Prod.snd

/-- The element that an iterator points at. -/
def get? (self : NodeList Value) (iterator : Nat) : Option Value :=
  (self.nodes.find? (·.1 == iterator)).map Prod.snd

theorem get?_eq_some {self : NodeList Value} {iterator : Nat} {value : Value} :
    self.get? iterator = some value ↔ (iterator, value) ∈ self.nodes := by
  have distinct := self.distinct
  unfold get?
  generalize self.nodes = nodes at distinct
  induction nodes with
  | nil => simp
  | cons node nodes ih =>
      obtain ⟨name, other⟩ := node
      rw [List.map_cons, List.nodup_cons] at distinct
      by_cases same : name = iterator
      · subst same
        have notLater : (name, value) ∉ nodes := fun later =>
          distinct.1 (List.mem_map.mpr ⟨_, later, rfl⟩)
        simp [notLater, eq_comm]
      · simp [same, ih distinct.2, Ne.symm same]

theorem mem_toList {self : NodeList Value} {iterator : Nat} {value : Value}
    (points : self.get? iterator = some value) : value ∈ self.toList :=
  List.mem_map_of_mem (get?_eq_some.mp points)

/-- Add an element in front; its iterator is the name that was next. -/
def pushFront (self : NodeList Value) (value : Value) : NodeList Value where
  nodes := (self.nextNode, value) :: self.nodes
  nextNode := self.nextNode + 1
  distinct := by
    rw [List.map_cons, List.nodup_cons]
    refine ⟨fun used => ?_, self.distinct⟩
    obtain ⟨node, member, name⟩ := List.mem_map.mp used
    have := self.named node member
    omega
  named := by
    intro node member
    rcases List.mem_cons.mp member with rfl | old
    · exact Nat.lt_succ_self _
    · exact Nat.lt_succ_of_lt (self.named node old)

@[simp]
theorem toList_pushFront (self : NodeList Value) (value : Value) :
    (self.pushFront value).toList = value :: self.toList :=
  rfl

theorem get?_pushFront_new (self : NodeList Value) (value : Value) :
    (self.pushFront value).get? self.nextNode = some value :=
  get?_eq_some.mpr (List.mem_cons_self ..)

theorem get?_pushFront {self : NodeList Value} {iterator : Nat}
    {value : Value} (points : self.get? iterator = some value)
    (other : Value) :
    (self.pushFront other).get? iterator = some value :=
  get?_eq_some.mpr (List.mem_cons_of_mem _ (get?_eq_some.mp points))

/-- The nodes other than that of the iterator. -/
def without (self : NodeList Value) (iterator : Nat) : NodeList Value where
  nodes := self.nodes.filter (·.1 ≠ iterator)
  nextNode := self.nextNode
  distinct := self.distinct.sublist (List.filter_sublist.map _)
  named node member := self.named node (List.mem_of_mem_filter member)

def erase (self : NodeList Value) (iterator : Nat) :
    Option (NodeList Value) :=
  (self.get? iterator).map fun _ => self.without iterator

/-- Move the node of the iterator to the front. -/
def spliceFront (self : NodeList Value) (iterator : Nat) :
    Option (NodeList Value) :=
  match points : self.get? iterator with
  | none => none
  | some value => some
      { nodes := (iterator, value) :: (self.without iterator).nodes
        nextNode := self.nextNode
        distinct := by
          rw [List.map_cons, List.nodup_cons]
          refine ⟨fun kept => ?_, (self.without iterator).distinct⟩
          obtain ⟨node, member, name⟩ := List.mem_map.mp kept
          simp only [without, List.mem_filter, decide_eq_true_eq] at member
          exact member.2 name
        named := by
          intro node member
          rcases List.mem_cons.mp member with rfl | kept
          · exact self.named _ (get?_eq_some.mp points)
          · exact (self.without iterator).named node kept }

def back? (self : NodeList Value) : Option Value :=
  self.toList.getLast?

def popBack (self : NodeList Value) : Option (NodeList Value) :=
  self.nodes.getLast?.map fun node => self.without node.1

section Elements

variable {self : NodeList Value} {iterator : Nat} {value : Value}

theorem get?_without {other : Nat} {otherValue : Value}
    (points : self.get? iterator = some value)
    (otherPoints : self.get? other = some otherValue)
    (different : otherValue ≠ value) :
    (self.without iterator).get? other = some otherValue := by
  refine get?_eq_some.mpr (List.mem_filter.mpr
    ⟨get?_eq_some.mp otherPoints, decide_eq_true ?_⟩)
  rintro rfl
  rw [points, Option.some.injEq] at otherPoints
  exact different otherPoints.symm

theorem erase_eq_some (points : self.get? iterator = some value) :
    self.erase iterator = some (self.without iterator) := by
  rw [erase, points, Option.map_some]

variable [DecidableEq Value]

/-- In a list without duplicates the node that is left out is the one of its
element. -/
theorem toList_without (nodup : self.toList.Nodup)
    (points : self.get? iterator = some value) :
    (self.without iterator).toList = self.toList.erase value := by
  have sameNodes : ∀ node ∈ self.nodes,
      decide (node.1 ≠ iterator) = decide (node.2 ≠ value) := by
    intro node member
    rw [decide_eq_decide, not_iff_not]
    have own := get?_eq_some.mp points
    constructor
    · intro sameName
      have found : self.get? node.1 = some node.2 := get?_eq_some.mpr member
      rw [sameName, points, Option.some.injEq] at found
      exact found.symm
    · intro sameValue
      exact congrArg Prod.fst (List.inj_on_of_nodup_map nodup member own
        sameValue)
  rw [List.Nodup.erase_eq_filter nodup]
  change (self.nodes.filter fun node => decide (node.1 ≠ iterator)).map
    Prod.snd = (self.nodes.map Prod.snd).filter (· != value)
  rw [List.filter_congr sameNodes, List.filter_map]
  refine congrArg (List.map Prod.snd) (List.filter_congr fun node _ => ?_)
  rw [Bool.eq_iff_iff]
  simp

/-- Moving a node to the front moves its element there and leaves every
iterator good. -/
theorem spliceFront_spec (nodup : self.toList.Nodup)
    (points : self.get? iterator = some value) :
    ∃ next, self.spliceFront iterator = some next ∧
      next.toList = value :: self.toList.erase value ∧
      ∀ other otherValue, self.get? other = some otherValue →
        next.get? other = some otherValue := by
  unfold spliceFront
  split
  · rename_i noValue
    rw [points] at noValue
    cases noValue
  · rename_i found isFound
    rw [points, Option.some.injEq] at isFound
    subst isFound
    refine ⟨_, rfl, ?_, fun other otherValue otherPoints => ?_⟩
    · exact congrArg (value :: ·) (toList_without nodup points)
    · by_cases same : other = iterator
      · subst same
        rw [points, Option.some.injEq] at otherPoints
        exact get?_eq_some.mpr (otherPoints ▸ List.mem_cons_self ..)
      · refine get?_eq_some.mpr (List.mem_cons_of_mem _ (List.mem_filter.mpr
          ⟨get?_eq_some.mp otherPoints, decide_eq_true same⟩))

/-- Dropping the last node of a list drops its last element. -/
theorem popBack_spec (nodup : self.toList.Nodup)
    (isLast : self.back? = some value) :
    ∃ next, self.popBack = some next ∧
      next.toList = self.toList.erase value ∧
      ∀ other otherValue, otherValue ≠ value →
        self.get? other = some otherValue →
          next.get? other = some otherValue := by
  unfold back? toList at isLast
  rw [List.getLast?_map, Option.map_eq_some_iff] at isLast
  obtain ⟨node, lastNode, rfl⟩ := isLast
  have points : self.get? node.1 = some node.2 :=
    get?_eq_some.mpr (List.mem_of_getLast? lastNode)
  refine ⟨self.without node.1, ?_, toList_without nodup points,
    fun other otherValue different otherPoints =>
      get?_without points otherPoints different⟩
  rw [popBack, lastNode, Option.map_some]

end Elements

end NodeList

end ScorbitSdk
