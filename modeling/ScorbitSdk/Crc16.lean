import ScorbitSdk.BoundedMemory
import ScorbitSdk.ShiftRegisters
import Mathlib.Tactic.IntervalCases

/-!
# The checksum of TPM packets

`Util::Crc16` goes through the bits of each byte from the lowest to the highest.
It is the remainder of the message by the polynomial of CRC-16/IBM, and so the
reflected algorithm with its result's bits inverted.
-/

namespace ScorbitSdk

open BoundedMemory ShiftRegisters Polynomial

namespace Crc16

def polynom : BitVec 16 := 0x8005

/-- What the inner loop's register holds, from its first one until it is shifted
out. -/
def shiftRegisters : List Byte :=
  (List.range 8).map (1#8 <<< ·)

/-- The inner loop's body. -/
def crc16Bit (byte : Byte) (crc : BitVec 16) (shiftRegister : Byte) : BitVec 16 :=
  let dataBit : Byte := if byte &&& shiftRegister ≠ 0 then 1 else 0
  let crcBit : Byte := (crc >>> 15).setWidth 8
  let crc := crc <<< 1
  if dataBit ≠ crcBit then crc ^^^ polynom else crc

/-- `Util::Crc16`. -/
def crc16 (data : List Byte) : BitVec 16 :=
  data.foldl (fun crc byte => shiftRegisters.foldl (crc16Bit byte) crc) 0

/-- The bits of a message as they are sent, the lowest bit of a byte first. -/
def messageBits (data : List Byte) : List Bool :=
  data.flatMap (lowBits 8)

/-! ## Division by the polynomial -/

theorem crcBit_eq (crc : BitVec 16) :
    (crc >>> 15).setWidth 8 = if crc.msb then 1 else 0#8 := by
  apply BitVec.eq_of_toNat_eq
  have bound := crc.isLt
  rw [BitVec.msb_eq_decide, BitVec.toNat_setWidth, BitVec.toNat_ushiftRight,
    Nat.shiftRight_eq_div_pow]
  simp only [decide_eq_true_eq]
  split
  · next high =>
    have one : crc.toNat / 2 ^ 15 = 1 := by omega
    rw [one]
    rfl
  · next low =>
    have zero : crc.toNat / 2 ^ 15 = 0 := by omega
    rw [zero]
    rfl

/-- The body shifts one bit of the byte into the register. -/
theorem crc16Bit_eq (byte : Byte) (crc : BitVec 16) {i : Nat} (inside : i < 8) :
    crc16Bit byte crc (1#8 <<< i) = shiftIn polynom crc (byte.getLsbD i) := by
  have single : 1#8 <<< i = BitVec.twoPow 8 i := rfl
  have nonzero : BitVec.twoPow 8 i ≠ 0 := by
    intro zero
    have bit := congrArg (·.getLsbD i) zero
    simp [inside] at bit
  simp only [crc16Bit, crcBit_eq, shiftIn]
  rw [single, BitVec.and_twoPow]
  cases byte.getLsbD i <;> cases crc.msb <;> simp_all

theorem crc16Byte_eq (byte : Byte) (crc : BitVec 16) :
    shiftRegisters.foldl (crc16Bit byte) crc =
      shiftAllIn polynom crc (lowBits 8 byte) := by
  rw [shiftRegisters, shiftAllIn, lowBits, List.foldl_map, List.foldl_map]
  apply List.foldl_ext
  intro register i member
  exact crc16Bit_eq byte register (List.mem_range.mp member)

/-- The function shifts the bits of the message into the register. -/
theorem crc16_eq (data : List Byte) :
    crc16 data = shiftAllIn polynom 0 (messageBits data) := by
  unfold crc16 messageBits
  generalize (0 : BitVec 16) = crc
  induction data generalizing crc with
  | nil => rfl
  | cons byte data ih =>
      rw [List.foldl_cons, ih, crc16Byte_eq, List.flatMap_cons, shiftAllIn_append]

theorem generator_eq : generator polynom = X ^ 16 + X ^ 15 + X ^ 2 + 1 := by
  have low : ofWord polynom = X ^ 15 + X ^ 2 + 1 := by
    simp [ofWord, polynom, Finset.sum_range_succ]
    ring
  rw [generator, low]
  ring

/-! ## The reflected algorithm -/

/-- A shift of the reflected CRC-16/IBM. -/
def reflectedShift (crc : BitVec 16) : BitVec 16 :=
  if crc &&& 1 = 1 then (crc >>> 1) ^^^ 0xA001 else crc >>> 1

/-- The reflected CRC-16/IBM with the initial value 0: a byte is laid over the
register, which then is shifted eight times. -/
def crcReflected (data : List Byte) : BitVec 16 :=
  data.foldl (fun crc byte => reflectedShift^[8] (crc ^^^ byte.setWidth 16)) 0

/-- The inversion of bits that the function's comment spells out. -/
def invertBits (crc : BitVec 16) : BitVec 16 :=
  let crc := ((crc &&& 0x5555) <<< 1) ||| ((crc >>> 1) &&& 0x5555)
  let crc := ((crc &&& 0x3333) <<< 2) ||| ((crc >>> 2) &&& 0x3333)
  let crc := ((crc &&& 0x0F0F) <<< 4) ||| ((crc >>> 4) &&& 0x0F0F)
  (crc <<< 8) ||| (crc >>> 8)

theorem reflectedShift_eq :
    reflectedShift = (shiftInReflected polynom.reverse · false) := by
  funext crc
  have reversed : polynom.reverse = 0xA001 := by decide
  have low : (crc &&& 1 = 1) ↔ crc.getLsbD 0 = true := by
    have bit := BitVec.and_one_eq_setWidth_ofBool_getLsbD (x := crc)
    change crc &&& 1#16 = 1#16 ↔ _
    rw [bit]
    cases crc.getLsbD 0 <;> decide
  simp only [reflectedShift, shiftInReflected, reversed, low]
  cases crc.getLsbD 0 <;> rfl

theorem lowBits_setWidth (byte : Byte) :
    lowBits 8 (byte.setWidth 16) = lowBits 8 byte := by
  unfold lowBits
  apply List.map_congr_left
  intro i member
  have inside := List.mem_range.mp member
  simp [BitVec.getLsbD_setWidth]
  omega

theorem crcReflectedByte_eq (byte : Byte) (crc : BitVec 16) :
    reflectedShift^[8] (crc ^^^ byte.setWidth 16) =
      (lowBits 8 byte).foldl (shiftInReflected polynom.reverse) crc := by
  have few : byte.setWidth 16 >>> 8 = 0 := by
    apply BitVec.eq_of_toNat_eq
    have bound := byte.isLt
    simp [Nat.shiftRight_eq_div_pow]
    omega
  rw [reflectedShift_eq, iterate_shiftInReflected _ _ _ _ few, lowBits_setWidth]

/-- The reflected algorithm has the bits of the register in reverse. -/
theorem reverse_crcReflected (data : List Byte) :
    (crcReflected data).reverse = crc16 data := by
  have shifted : crcReflected data =
      (messageBits data).foldl (shiftInReflected polynom.reverse) 0 := by
    unfold crcReflected messageBits
    generalize (0 : BitVec 16) = crc
    induction data generalizing crc with
    | nil => rfl
    | cons byte data ih =>
        rw [List.foldl_cons, ih, crcReflectedByte_eq, List.flatMap_cons,
          List.foldl_append]
  have zero : (0 : BitVec 16).reverse = 0 := by decide
  rw [shifted, reverse_foldl_shiftInReflected, zero, crc16_eq]

theorem invertBits_eq_reverse (crc : BitVec 16) : invertBits crc = crc.reverse := by
  apply BitVec.eq_of_getLsbD_eq
  intro i inside
  rw [BitVec.getLsbD_reverse]
  -- Each bit is followed through the four exchanges.
  interval_cases i <;> simp [invertBits, BitVec.getMsbD]

/-- The checksum is the remainder of the message, moved up by sixteen powers, and
the reflected CRC-16/IBM with its bits in reverse, as the comment says. -/
theorem crc16_remainder (data : List Byte) :
    ofWord (crc16 data) = (message (messageBits data) * X ^ 16) %ₘ
        (X ^ 16 + X ^ 15 + X ^ 2 + 1) ∧
      crc16 data = (crcReflected data).reverse ∧
      crc16 data = invertBits (crcReflected data) := by
  refine ⟨?_, (reverse_crcReflected data).symm, ?_⟩
  · rw [crc16_eq, ofWord_shiftAllIn (by decide), generator_eq]
  · rw [invertBits_eq_reverse, reverse_crcReflected]

/-- The digits from 1 to 9, whose CRC-16/IBM is well known. -/
example : crcReflected [0x31, 0x32, 0x33, 0x34, 0x35, 0x36, 0x37, 0x38, 0x39] =
    0xBB3D := by decide +kernel

end Crc16

end ScorbitSdk
