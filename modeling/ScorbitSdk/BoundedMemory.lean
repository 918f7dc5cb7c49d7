import Mathlib.Data.List.Basic
import Mathlib.Data.List.Infix
import Mathlib.Tactic.Common

/-!
# Memory that is read and written within bounds

A block of memory is the list of its elements.  An operation that would touch
anything outside of the block returns nothing.  Numbers of several bytes are
kept with their lower half first, at every width.
-/

namespace ScorbitSdk.BoundedMemory

section Blocks

variable {Value : Type*}

/-- The elements of the block from `start` on. -/
def slice (block : List Value) (start length : Nat) : Option (List Value) :=
  if start + length ≤ block.length then some ((block.drop start).take length)
  else none

/-- Copy elements into the block, from `start` on. -/
def memcpyInto (block : List Value) (start : Nat) (source : List Value) :
    Option (List Value) :=
  if start + source.length ≤ block.length then
    some (block.take start ++ source ++ block.drop (start + source.length))
  else none

/-- The first place of a value among `count` elements, which are read one by
one. -/
def memchr [DecidableEq Value] (block : List Value) (wanted : Value) :
    Nat → Nat → Option (Option Nat)
  | _, 0 => some none
  | start, count + 1 =>
      match block[start]? with
      | none => none
      | some value =>
          if value = wanted then some (some start)
          else memchr block wanted (start + 1) count

theorem slice_append (before text rest : List Value) :
    slice (before ++ text ++ rest) before.length text.length = some text := by
  simp [slice, List.append_assoc]

theorem memcpyInto_append {before rest source : List Value}
    (fits : source.length ≤ rest.length) :
    memcpyInto (before ++ rest) before.length source =
      some (before ++ source ++ rest.drop source.length) := by
  rw [memcpyInto, if_pos (by simpa using fits)]
  simp [List.drop_append]

variable [DecidableEq Value]

theorem memchr_append {text : List Value} {wanted : Value}
    (absent : wanted ∉ text) (before rest : List Value) (more : Nat) :
    memchr (before ++ text ++ wanted :: rest) wanted before.length
      (text.length + (more + 1)) = some (some (before.length + text.length)) := by
  induction text generalizing before with
  | nil => simp [memchr]
  | cons value text ih =>
      obtain ⟨other, absent⟩ := not_or.mp (List.mem_cons.not.mp absent)
      have later := ih absent (before ++ [value])
      rw [List.append_assoc before, List.singleton_append, List.length_append,
        List.length_singleton] at later
      have here : (before ++ value :: text ++ wanted :: rest)[before.length]? =
          some value := by simp
      rw [List.length_cons, Nat.add_right_comm, memchr, here]
      simp only [if_neg (Ne.symm other), later]
      rw [Nat.add_assoc, Nat.add_comm 1]

/-- A search within the block ends, with a place among those searched. -/
theorem memchr_inside (block : List Value) (wanted : Value)
    (start count : Nat) (inside : start + count ≤ block.length) :
    ∃ found, memchr block wanted start count = some found ∧
      ∀ place, found = some place → start ≤ place ∧ place < start + count := by
  induction count generalizing start with
  | zero => exact ⟨none, rfl, nofun⟩
  | succ count ih =>
      have present : start < block.length := by omega
      simp only [memchr, List.getElem?_eq_getElem present]
      split
      · refine ⟨_, rfl, fun place found => ?_⟩
        obtain rfl := Option.some.inj found
        omega
      · obtain ⟨found, searched, bounds⟩ := ih (start + 1) (by omega)
        refine ⟨found, searched, fun place here => ?_⟩
        have := bounds place here
        omega

end Blocks

/-! ## Numbers, lower half first -/

abbrev Byte := BitVec 8

/-- Reads a number at a place of a block whose length is given. -/
abbrev WordReader (width : Nat) := List Byte → Nat → Nat → Option (BitVec width)

/-- Writes a number, and tells whether it did. -/
abbrev WordWriter (width : Nat) :=
  List Byte → Nat → Nat → BitVec width → Option (Bool × List Byte)

def readByte : WordReader 8 :=
  fun data _ pos => data[pos]?

def writeByte : WordWriter 8 :=
  fun data _ pos value => (memcpyInto data pos [value]).map (true, ·)

variable {width bytes : Nat}

/-- Read a number from its two halves. -/
def readHalves (bytes : Nat) (readHalf : WordReader width) :
    WordReader (width + width) :=
  fun data dataLen pos =>
    if pos + (bytes + bytes) > dataLen then some 0
    else do
      let low ← readHalf data dataLen pos
      let high ← readHalf data dataLen (pos + bytes)
      some (low.setWidth (width + width) |||
        high.setWidth (width + width) <<< width)

/-- Write a number as its two halves. -/
def writeHalves (bytes : Nat) (writeHalf : WordWriter width) :
    WordWriter (width + width) :=
  fun data dataLen pos value =>
    if pos + (bytes + bytes) > dataLen then some (false, data)
    else do
      let (_, data) ← writeHalf data dataLen pos (value.setWidth width)
      let (_, data) ← writeHalf data dataLen (pos + bytes)
        ((value >>> width).setWidth width)
      some (true, data)

/-- A number is what its two halves make. -/
theorem halves_or (value : BitVec (width + width)) :
    (value.setWidth width).setWidth (width + width) |||
      ((value >>> width).setWidth width).setWidth (width + width) <<< width =
        value := by
  ext place inside
  simp only [BitVec.getElem_or, BitVec.getElem_setWidth, BitVec.getLsbD_setWidth,
    BitVec.getElem_shiftLeft, BitVec.getLsbD_ushiftRight]
  by_cases low : place < width
  · simp [low, BitVec.getLsbD_eq_getElem inside]
  · have high : place - width < width := by omega
    simp [low, high, inside, Nat.add_sub_of_le (Nat.le_of_not_lt low)]

/-- The reader and the writer agree on the bytes of each number. -/
structure WordCodec (bytes : Nat) (encode : BitVec width → List Byte)
    (read : WordReader width) (write : WordWriter width) : Prop where
  length_encode : ∀ value, (encode value).length = bytes
  write_append : ∀ (before rest : List Byte) (value dataLen),
    bytes ≤ rest.length → before.length + bytes ≤ dataLen →
      write (before ++ rest) dataLen before.length value =
        some (true, before ++ encode value ++ rest.drop bytes)
  read_append : ∀ (before rest : List Byte) (value dataLen),
    before.length + bytes ≤ dataLen →
      read (before ++ encode value ++ rest) dataLen before.length = some value
  read_inside : ∀ (data : List Byte) (pos : Nat),
    pos + bytes ≤ data.length → ∃ value, read data data.length pos = some value

theorem byteCodec : WordCodec 1 (fun value => [value]) readByte writeByte where
  length_encode _ := rfl
  write_append before rest value _ fits _ := by
    have stored : memcpyInto (before ++ rest) before.length [value] =
        some (before ++ [value] ++ rest.drop 1) := memcpyInto_append fits
    rw [writeByte, stored, Option.map_some]
  read_append before rest value _ _ := by simp [readByte]
  read_inside data pos inside :=
    ⟨data[pos], List.getElem?_eq_getElem (by omega)⟩

/-- The bytes of a number, those of its lower half first. -/
def encodeHalves (encode : BitVec width → List Byte)
    (value : BitVec (width + width)) : List Byte :=
  encode (value.setWidth width) ++ encode ((value >>> width).setWidth width)

/-- Reader and writer of the halves give those of the number. -/
theorem WordCodec.halves {encode : BitVec width → List Byte}
    {read : WordReader width} {write : WordWriter width}
    (half : WordCodec bytes encode read write) :
    WordCodec (bytes + bytes) (encodeHalves encode) (readHalves bytes read)
      (writeHalves bytes write) where
  length_encode value := by simp [encodeHalves, half.length_encode]
  write_append before rest value dataLen fits inside := by
    have low := half.write_append before rest (value.setWidth width) dataLen
      (by omega) (by omega)
    have high := half.write_append (before ++ encode (value.setWidth width))
      (rest.drop bytes) ((value >>> width).setWidth width) dataLen
      (by rw [List.length_drop]; omega)
      (by rw [List.length_append, half.length_encode]; omega)
    rw [List.length_append, half.length_encode] at high
    simp only [writeHalves, if_neg (Nat.not_lt.mpr inside), low, high,
      Option.bind_eq_bind, Option.bind_some]
    simp [encodeHalves, List.append_assoc, List.drop_drop]
  read_append before rest value dataLen inside := by
    have low := half.read_append before
      (encode ((value >>> width).setWidth width) ++ rest) (value.setWidth width)
      dataLen (by omega)
    have high := half.read_append (before ++ encode (value.setWidth width)) rest
      ((value >>> width).setWidth width) dataLen
      (by rw [List.length_append, half.length_encode]; omega)
    rw [List.length_append, half.length_encode] at high
    simp only [List.append_assoc] at low high
    simp only [readHalves, if_neg (Nat.not_lt.mpr inside), encodeHalves,
      List.append_assoc, low, high, Option.bind_eq_bind, Option.bind_some,
      halves_or]
  read_inside data pos inside := by
    obtain ⟨low, readLow⟩ := half.read_inside data pos (by omega)
    obtain ⟨high, readHigh⟩ := half.read_inside data (pos + bytes) (by omega)
    refine ⟨low.setWidth (width + width) |||
      high.setWidth (width + width) <<< width, ?_⟩
    simp only [readHalves, if_neg (Nat.not_lt.mpr inside), readLow, readHigh,
      Option.bind_eq_bind, Option.bind_some]

end ScorbitSdk.BoundedMemory
