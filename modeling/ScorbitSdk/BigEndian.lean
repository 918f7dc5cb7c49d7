import ScorbitSdk.BoundedMemory
import Mathlib.Data.List.GetD
import Mathlib.Tactic.Ring

/-!
# Numbers of several bytes, the highest byte first

A number is written in a given count of bytes, from which only its lowest part
can be read back, and bytes are read as one number.
-/

namespace ScorbitSdk.BigEndian

open BoundedMemory

/-- The number that bytes make. -/
def value (bytes : List Byte) : Nat :=
  bytes.foldl (fun number byte => 256 * number + byte.toNat) 0

/-- The lowest `count` bytes of a number. -/
def encode : Nat → Nat → List Byte
  | 0, _ => []
  | count + 1, number => encode count (number / 256) ++ [BitVec.ofNat 8 number]

@[simp]
theorem value_nil : value [] = 0 :=
  rfl

theorem value_concat (bytes : List Byte) (byte : Byte) :
    value (bytes ++ [byte]) = 256 * value bytes + byte.toNat := by
  simp [value]

@[simp]
theorem length_encode (count number : Nat) :
    (encode count number).length = count := by
  induction count generalizing number with
  | zero => rfl
  | succ count ih => simp [encode, ih]

theorem value_encode (count number : Nat) :
    value (encode count number) = number % 256 ^ count := by
  induction count generalizing number with
  | zero => simp [encode, Nat.mod_one]
  | succ count ih =>
      have split : number % (256 * 256 ^ count) =
          number % 256 + 256 * (number / 256 % 256 ^ count) := Nat.mod_mul
      rw [encode, value_concat, ih, pow_succ' 256 count, split, Nat.add_comm]
      rfl

theorem value_encode_of_lt {count number : Nat} (fits : number < 256 ^ count) :
    value (encode count number) = number := by
  rw [value_encode, Nat.mod_eq_of_lt fits]

/-- A word is read back from its bytes. -/
theorem ofNat_value_encode {width count : Nat} (word : BitVec width)
    (fits : 2 ^ width ≤ 256 ^ count) :
    BitVec.ofNat width (value (encode count word.toNat)) = word := by
  rw [value_encode_of_lt (Nat.lt_of_lt_of_le word.isLt fits),
    BitVec.ofNat_toNat, BitVec.setWidth_eq]

end ScorbitSdk.BigEndian
