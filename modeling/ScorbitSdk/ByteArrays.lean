import ScorbitSdk.JsonText
import ScorbitSdk.BoundedMemory

/-!
# Byte arrays

`utils::ByteArray`: bytes from and to hexadecimal text, and the masking of
bytes by those of another array.
-/

namespace ScorbitSdk

open BoundedMemory

namespace ByteArrays

/-! ## Hexadecimal text -/

/-- `std::isspace`, as the classic locale has it. -/
def isSpace (c : Char) : Bool :=
  c = ' ' || (9 ≤ c.toNat && c.toNat ≤ 13)

/-- `std::stoi` of two characters that are no white space, in base 16.  It reads
as many digits as there are behind a sign, and throws where there is none. -/
def stoi (first second : Char) : Option Int :=
  match Json.hexDigit? first, Json.hexDigit? second with
  | some high, some low => some (16 * high + low)
  | some digit, none => some digit
  | none, some digit =>
      if first = '+' then some digit
      else if first = '-' then some (-digit)
      else none
  | none, none => none

/-- The bytes that pairs of characters denote. -/
def ofPairs : List Char → Option (List Byte)
  | first :: second :: rest => do
      let value ← stoi first second
      let bytes ← ofPairs rest
      some (BitVec.ofInt 8 value :: bytes)
  | _ => some []

/-- `ByteArray(std::string)`; nothing where the text is no hexadecimal one. -/
def ofHex (hexArray : List Char) : List Byte :=
  let hexArray := hexArray.filter (!isSpace ·)
  if hexArray.length % 2 = 1 then []
  else (ofPairs hexArray).getD []

inductive Case
  | lowerCase
  | upperCase
deriving DecidableEq

/-- A digit as `std::format` writes it in base 16. -/
def digitChar (strCase : Case) (digit : Nat) : Char :=
  if digit < 10 then Char.ofNat ('0'.toNat + digit)
  else match strCase with
    | .lowerCase => Char.ofNat ('a'.toNat + (digit - 10))
    | .upperCase => Char.ofNat ('A'.toNat + (digit - 10))

/-- `fmt::format` of a byte with `{:02x}` or `{:02X}`. -/
def formatByte (strCase : Case) (byte : Byte) : List Char :=
  [digitChar strCase (byte.toNat / 16), digitChar strCase (byte.toNat % 16)]

/-- `ByteArray::hex` with all of its arguments. -/
def hexWith (strCase : Case) (separator prefixed : List Char) :
    List Byte → List Char
  | [] => []
  | byte :: bytes =>
      prefixed ++ formatByte strCase byte ++
        bytes.flatMap fun byte =>
          separator ++ (prefixed ++ formatByte strCase byte)

/-- `ByteArray::hex` as it is called nearly everywhere, in lower case with nothing
between. -/
def hex (bytes : List Byte) : List Char :=
  hexWith .lowerCase [] [] bytes

theorem hex_cons (byte : Byte) (bytes : List Byte) :
    hex (byte :: bytes) = digitChar .lowerCase (byte.toNat / 16) ::
      digitChar .lowerCase (byte.toNat % 16) :: hex bytes := by
  cases bytes <;> simp [hex, hexWith, formatByte]

theorem hexDigit?_digitChar (strCase : Case) {digit : Nat} (small : digit < 16) :
    Json.hexDigit? (digitChar strCase digit) = some digit ∧
      isSpace (digitChar strCase digit) = false := by
  have all : ∀ digit < 16,
      (Json.hexDigit? (digitChar .lowerCase digit) = some digit ∧
        isSpace (digitChar .lowerCase digit) = false) ∧
      Json.hexDigit? (digitChar .upperCase digit) = some digit ∧
        isSpace (digitChar .upperCase digit) = false := by decide
  cases strCase with
  | lowerCase => exact (all digit small).1
  | upperCase => exact (all digit small).2

/-- The two digits of a byte are read as the byte. -/
theorem stoi_digitChar (strCase : Case) (byte : Byte) :
    (stoi (digitChar strCase (byte.toNat / 16))
      (digitChar strCase (byte.toNat % 16))).map (BitVec.ofInt 8) = some byte := by
  have bound := byte.isLt
  have high := (hexDigit?_digitChar strCase (show byte.toNat / 16 < 16 by omega)).1
  have low := (hexDigit?_digitChar strCase (show byte.toNat % 16 < 16 by omega)).1
  simp only [stoi, high, low, Option.map_some, Option.some.injEq]
  have value : (16 * (byte.toNat / 16 : Nat) + (byte.toNat % 16 : Nat) : Int) =
      byte.toNat := by omega
  rw [value, BitVec.ofInt_natCast, BitVec.ofNat_toNat]
  exact BitVec.setWidth_eq byte

theorem length_hex (bytes : List Byte) : (hex bytes).length = 2 * bytes.length := by
  induction bytes with
  | nil => rfl
  | cons byte bytes ih =>
      rw [hex_cons, List.length_cons, List.length_cons, ih, List.length_cons]
      omega

theorem filter_hex (bytes : List Byte) :
    (hex bytes).filter (!isSpace ·) = hex bytes := by
  induction bytes with
  | nil => rfl
  | cons byte bytes ih =>
      have bound := byte.isLt
      have high :=
        (hexDigit?_digitChar .lowerCase (show byte.toNat / 16 < 16 by omega)).2
      have low :=
        (hexDigit?_digitChar .lowerCase (show byte.toNat % 16 < 16 by omega)).2
      rw [hex_cons, List.filter_cons_of_pos (by simp [high]),
        List.filter_cons_of_pos (by simp [low]), ih]

theorem ofPairs_hex (bytes : List Byte) : ofPairs (hex bytes) = some bytes := by
  induction bytes with
  | nil => rfl
  | cons byte bytes ih =>
      obtain ⟨value, read, same⟩ := Option.map_eq_some_iff.mp
        (stoi_digitChar .lowerCase byte)
      rw [hex_cons, ofPairs]
      simp only [read, ih, Option.bind_eq_bind, Option.bind_some, same]

/-- Bytes written in hexadecimal are read back. -/
theorem ofHex_hex (bytes : List Byte) : ofHex (hex bytes) = bytes := by
  have even : ¬(hex bytes).length % 2 = 1 := by
    rw [length_hex]
    omega
  simp only [ofHex, filter_hex, if_neg even, ofPairs_hex, Option.getD_some]

/-! ## Masking -/

/-- The loop of `ByteArray::initialize`; `left` is what the iterator has not passed of
`initArray`. -/
def initializeFrom (initArray : List Byte) : List Byte → List Byte → List Byte
  | [], _ => []
  | byte :: bytes, mask :: left =>
      (byte ^^^ mask) :: initializeFrom initArray bytes left
  | byte :: bytes, [] =>
      match initArray with
      | mask :: left => (byte ^^^ mask) :: initializeFrom initArray bytes left
      | [] => byte :: bytes

def initializeBytes (bytes initArray : List Byte) : List Byte :=
  if initArray = [] then bytes
  else initializeFrom initArray bytes initArray

theorem length_initializeFrom (initArray bytes left : List Byte) :
    (initializeFrom initArray bytes left).length = bytes.length := by
  induction bytes generalizing left with
  | nil => simp [initializeFrom]
  | cons byte bytes ih =>
      cases left with
      | cons mask left => simp [initializeFrom, ih]
      | nil => cases initArray <;> simp [initializeFrom, ih]

theorem length_initializeBytes (bytes initArray : List Byte) :
    (initializeBytes bytes initArray).length = bytes.length := by
  unfold initializeBytes
  split
  · rfl
  · exact length_initializeFrom ..

theorem initializeFrom_initializeFrom (initArray bytes left : List Byte) :
    initializeFrom initArray (initializeFrom initArray bytes left) left =
      bytes := by
  induction bytes generalizing left with
  | nil => simp [initializeFrom]
  | cons byte bytes ih =>
      cases left with
      | cons mask left =>
          rw [initializeFrom, initializeFrom, ih, BitVec.xor_assoc,
            BitVec.xor_self, BitVec.xor_zero]
      | nil =>
          cases initArray with
          | nil => simp [initializeFrom]
          | cons mask left =>
              rw [initializeFrom, initializeFrom, ih, BitVec.xor_assoc,
                BitVec.xor_self, BitVec.xor_zero]

/-- Masking twice takes the mask off. -/
theorem initializeBytes_initializeBytes (bytes initArray : List Byte) :
    initializeBytes (initializeBytes bytes initArray) initArray = bytes := by
  unfold initializeBytes
  split
  · rfl
  · exact initializeFrom_initializeFrom ..

end ByteArrays

end ScorbitSdk
