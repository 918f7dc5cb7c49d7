import Mathlib.Logic.Basic
import ScorbitSdk.JsonNodes

/-!
# Reading documents that may have any shape

A member of a document is read with a check that throws where it is missing,
without one, which is undefined behaviour then, or with a value in its place.
A handler catches what is thrown; nothing helps against undefined behaviour.
-/

namespace ScorbitSdk

/-- How a computation on a document ends. -/
inductive JsonOutcome (Value : Type*)
  | value (value : Value)
  | throws
  | undefined

namespace JsonOutcome

variable {Value Result : Type*}

def bind (outcome : JsonOutcome Value) (next : Value → JsonOutcome Result) :
    JsonOutcome Result :=
  match outcome with
  | value result => next result
  | throws => throws
  | undefined => undefined

def ofOption : Option Value → JsonOutcome Value
  | some result => value result
  | none => throws

/-- `try` with a handler for every exception. -/
def catching (fallback : Value) : JsonOutcome Value → JsonOutcome Value
  | value result => value result
  | throws => value fallback
  | undefined => undefined

def Returns : JsonOutcome Value → Prop
  | value _ => True
  | throws => False
  | undefined => False

def IsDefined : JsonOutcome Value → Prop
  | value _ => True
  | throws => True
  | undefined => False

@[simp]
theorem isDefined_value (result : Value) :
    (value result).IsDefined ↔ True :=
  Iff.rfl

@[simp]
theorem isDefined_throws : (throws : JsonOutcome Value).IsDefined ↔ True :=
  Iff.rfl

@[simp]
theorem returns_value (result : Value) : (value result).Returns ↔ True :=
  Iff.rfl

@[simp]
theorem isDefined_ofOption (found : Option Value) :
    (ofOption found).IsDefined := by
  cases found <;> trivial

theorem returns_iff_isDefined {outcome : JsonOutcome Value}
    (notThrown : outcome ≠ throws) : outcome.Returns ↔ outcome.IsDefined := by
  cases outcome with
  | value result => exact Iff.rfl
  | throws => exact absurd rfl notThrown
  | undefined => exact Iff.rfl

theorem isDefined_bind {outcome : JsonOutcome Value}
    {next : Value → JsonOutcome Result} :
    (outcome.bind next).IsDefined ↔ outcome.IsDefined ∧
      ∀ result, outcome = value result → (next result).IsDefined := by
  cases outcome with
  | value result => simp [bind]
  | throws => simp [bind]
  | undefined => exact ⟨False.elim, And.left⟩

theorem returns_bind {outcome : JsonOutcome Value}
    {next : Value → JsonOutcome Result} :
    (outcome.bind next).Returns ↔
      ∃ result, outcome = value result ∧ (next result).Returns := by
  cases outcome with
  | value result => simp [bind]
  | throws => exact ⟨False.elim, nofun⟩
  | undefined => exact ⟨False.elim, nofun⟩

/-- A handler leaves undefined behaviour only. -/
theorem returns_catching {fallback : Value} {outcome : JsonOutcome Value} :
    (outcome.catching fallback).Returns ↔ outcome.IsDefined := by
  cases outcome <;> exact Iff.rfl

theorem isDefined_catching {fallback : Value} {outcome : JsonOutcome Value} :
    (outcome.catching fallback).IsDefined ↔ outcome.IsDefined := by
  cases outcome <;> exact Iff.rfl

end JsonOutcome

open JsonOutcome

namespace JsonNode

def isString : JsonNode → Bool
  | string _ => true
  | _ => false

def isObject : JsonNode → Bool
  | object _ => true
  | _ => false

def isArray : JsonNode → Bool
  | array _ => true
  | _ => false

def isBoolean : JsonNode → Bool
  | boolean _ => true
  | _ => false

def isNumber : JsonNode → Bool
  | unsigned _ => true
  | integer _ => true
  | float _ => true
  | _ => false

def isNumberInteger : JsonNode → Bool
  | unsigned _ => true
  | integer _ => true
  | _ => false

/-- `get<unsigned>`, for which a boolean is a number. -/
def getUnsigned32 : JsonNode → Option (BitVec 32)
  | unsigned number => some (number.setWidth 32)
  | integer number => some (number.setWidth 32)
  | float truncated => some (BitVec.ofInt 32 truncated)
  | boolean truth => some (if truth then 1 else 0)
  | _ => none

/-- An integer that is not negative. -/
def natural? : JsonNode → Option Nat
  | unsigned number => some number.toNat
  | integer number => if 0 ≤ number.toInt then some number.toNat else none
  | _ => none

theorem natural?_bits {node : JsonNode} {number : Nat}
    (isNatural : node.natural? = some number) :
    ∃ bits : BitVec 64, bits.toNat = number ∧
      getUnsigned64 node = some bits ∧
      getUnsigned32 node = some (bits.setWidth 32) := by
  cases node with
  | unsigned bits => exact ⟨bits, Option.some.inj isNatural, rfl, rfl⟩
  | integer bits =>
      simp only [natural?, Option.ite_none_right_eq_some] at isNatural
      exact ⟨bits, Option.some.inj isNatural.2, rfl, rfl⟩
  | _ => cases isNatural

/-- What a range-based loop goes through. -/
def elements : JsonNode → List JsonNode
  | array elements => elements
  | object members => members.map Prod.snd
  | null => []
  | node => [node]

/-- How a missing member is met: `at` throws, `operator[]` of a constant document
is undefined, and `value` has a default. -/
inductive MemberAccess
  | checked
  | unchecked
  | withDefault
deriving DecidableEq

structure MemberRead where
  access : MemberAccess
  key : String
  hasType : JsonNode → Bool

/-- What is no object throws whichever way it is accessed. -/
def readMember (node : JsonNode) (read : MemberRead) : JsonOutcome Unit :=
  match node with
  | object members =>
      match members.lookup read.key with
      | some found => if read.hasType found then value () else throws
      | none =>
          match read.access with
          | .checked => throws
          | .unchecked => undefined
          | .withDefault => value ()
  | _ => throws

/-- One member after another, up to the first one that throws. -/
def readMembers (node : JsonNode) : List MemberRead → JsonOutcome Unit
  | [] => value ()
  | read :: reads => (node.readMember read).bind fun _ => node.readMembers reads

/-- The members that are read without a check are there, as far as the reading
gets. -/
def HasReached (node : JsonNode) : List MemberRead → Prop
  | [] => True
  | read :: reads =>
      (read.access = .unchecked → node.isObject = true →
        (node.find? read.key).isSome = true) ∧
      (node.readMember read = value () → node.HasReached reads)

theorem isDefined_readMember {node : JsonNode} {read : MemberRead} :
    (node.readMember read).IsDefined ↔
      (read.access = .unchecked → node.isObject = true →
        (node.find? read.key).isSome = true) := by
  obtain ⟨access, key, hasType⟩ := read
  cases node with
  | object members =>
      simp only [readMember, find?, isObject, forall_const]
      cases members.lookup key with
      | some found =>
          simp only [Option.isSome_some, implies_true, iff_true]
          split <;> trivial
      | none => cases access <;> simp [IsDefined]
  | _ => simp [readMember, isObject]

theorem isDefined_readMembers {node : JsonNode} {reads : List MemberRead} :
    (node.readMembers reads).IsDefined ↔ node.HasReached reads := by
  induction reads with
  | nil => exact Iff.rfl
  | cons read reads ih =>
      rw [readMembers, isDefined_bind, isDefined_readMember, HasReached]
      refine and_congr_right fun _ => ?_
      constructor
      · intro next isRead
        exact ih.mp (next () isRead)
      · rintro reached ⟨⟩ isRead
        exact ih.mpr (reached isRead)

/-- Nothing is undefined where every access is checked. -/
theorem hasReached_of_checked {node : JsonNode} {reads : List MemberRead}
    (checked : ∀ read ∈ reads, read.access ≠ .unchecked) :
    node.HasReached reads := by
  induction reads with
  | nil => trivial
  | cons read reads ih =>
      rw [List.forall_mem_cons] at checked
      exact ⟨fun isUnchecked => absurd isUnchecked checked.1,
        fun _ => ih checked.2⟩

/-- `operator[]` of a constant document. -/
def index (node : JsonNode) (key : String) : JsonOutcome JsonNode :=
  match node with
  | object members =>
      match members.lookup key with
      | some found => value found
      | none => undefined
  | _ => throws

theorem isDefined_index {node : JsonNode} {key : String} :
    (node.index key).IsDefined ↔
      (node.isObject = true → (node.find? key).isSome = true) := by
  cases node with
  | object members =>
      simp only [index, find?, isObject, forall_const]
      cases members.lookup key <;> simp [IsDefined]
  | _ => simp [index, isObject]

theorem index_eq_value_iff {node found : JsonNode} {key : String} :
    node.index key = value found ↔ node.find? key = some found := by
  cases node with
  | object members =>
      simp only [index, find?]
      cases members.lookup key <;> simp
  | _ => simp [index, find?]

/-- `operator[]` and `get`. -/
def indexAs {Value : Type*} (node : JsonNode) (key : String)
    (get : JsonNode → Option Value) : JsonOutcome Value :=
  (node.index key).bind fun found => ofOption (get found)

theorem isDefined_indexAs {Value : Type*} {node : JsonNode} {key : String}
    {get : JsonNode → Option Value} :
    (node.indexAs key get).IsDefined ↔
      (node.isObject = true → (node.find? key).isSome = true) := by
  rw [indexAs, isDefined_bind, isDefined_index]
  exact and_iff_left fun found _ => isDefined_ofOption (get found)

theorem indexAs_eq_value_iff {Value : Type*} {node : JsonNode} {key : String}
    {get : JsonNode → Option Value} {result : Value} :
    node.indexAs key get = value result ↔
      (node.find? key).bind get = some result := by
  unfold indexAs
  cases node with
  | object members =>
      simp only [index, find?]
      cases members.lookup key with
      | none => simp [JsonOutcome.bind]
      | some found =>
          simp only [JsonOutcome.bind, Option.bind_some]
          cases get found <;> simp [ofOption]
  | _ => simp [index, find?, JsonOutcome.bind]

/-- A member that is read without a check is read as by `operator[]` and `get`. -/
theorem readMember_of_unchecked {Value : Type*} {node : JsonNode} {key : String}
    {hasType : JsonNode → Bool} {get : JsonNode → Option Value}
    (typed : ∀ found, hasType found = (get found).isSome) :
    node.readMember ⟨.unchecked, key, hasType⟩ =
      (node.indexAs key get).bind fun _ => value () := by
  cases node with
  | object members =>
      simp only [readMember, indexAs, index]
      cases members.lookup key with
      | none => rfl
      | some found =>
          simp only [typed, JsonOutcome.bind]
          cases get found <;> rfl
  | _ => rfl

/-- `find`, and what is done with a member of the right type. -/
def whenMember (node : JsonNode) (key : String) (hasType : JsonNode → Bool)
    (use : JsonNode → JsonOutcome Unit) : JsonOutcome Unit :=
  match node.find? key with
  | some found => if hasType found then use found else value ()
  | none => value ()

theorem isDefined_whenMember {node : JsonNode} {key : String}
    {hasType : JsonNode → Bool} {use : JsonNode → JsonOutcome Unit} :
    (node.whenMember key hasType use).IsDefined ↔
      ∀ found, node.find? key = some found → hasType found = true →
        (use found).IsDefined := by
  unfold whenMember
  cases node.find? key with
  | none => simp
  | some found =>
      cases isTyped : hasType found <;> simp [isTyped]

theorem whenMember_ne_throws {node : JsonNode} {key : String}
    {hasType : JsonNode → Bool} {use : JsonNode → JsonOutcome Unit}
    (notThrown : ∀ found, use found ≠ throws) :
    node.whenMember key hasType use ≠ throws := by
  unfold whenMember
  split
  · split
    · exact notThrown _
    · nofun
  · nofun

/-- A loop over elements, up to the first one that throws. -/
def forEach (use : JsonNode → JsonOutcome Unit) :
    List JsonNode → JsonOutcome Unit
  | [] => value ()
  | element :: elements => (use element).bind fun _ => forEach use elements

theorem isDefined_forEach {use : JsonNode → JsonOutcome Unit}
    (defined : ∀ element, (use element).IsDefined) (elements : List JsonNode) :
    (forEach use elements).IsDefined := by
  induction elements with
  | nil => trivial
  | cons element elements ih =>
      rw [forEach, isDefined_bind]
      exact ⟨defined element, fun _ _ => ih⟩

end JsonNode

end ScorbitSdk
