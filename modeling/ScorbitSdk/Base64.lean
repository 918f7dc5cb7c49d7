import Mathlib.Data.List.Basic

/-!
# Base64

Three bytes are four digits of six bits each; the bytes that are left at the end are
two or three digits.  The padded form fills these up to four with `=`, and the form
for URLs has two other digits and no padding.
-/

namespace ScorbitSdk

namespace Base64

/-- The values of the digits. -/
def sextets : List UInt8 → List Nat
  | a :: b :: c :: bytes =>
      a.toNat / 4 :: (a.toNat % 4 * 16 + b.toNat / 16) ::
        (b.toNat % 16 * 4 + c.toNat / 64) :: c.toNat % 64 :: sextets bytes
  | [a, b] =>
      [a.toNat / 4, a.toNat % 4 * 16 + b.toNat / 16, b.toNat % 16 * 4]
  | [a] => [a.toNat / 4, a.toNat % 4 * 16]
  | [] => []

def commonDigits : List Char :=
  "ABCDEFGHIJKLMNOPQRSTUVWXYZabcdefghijklmnopqrstuvwxyz0123456789".toList

def alphabet : List Char :=
  commonDigits ++ ['+', '/']

def urlAlphabet : List Char :=
  commonDigits ++ ['-', '_']

def digit (value : Nat) : Char :=
  alphabet.getD value '='

def urlDigit (value : Nat) : Char :=
  urlAlphabet.getD value '='

/-- How many characters are missing to a multiple of four. -/
def missing (length : Nat) : Nat :=
  (4 - length % 4) % 4

def encode (bytes : List UInt8) : List Char :=
  let digits := (sextets bytes).map digit
  digits ++ List.replicate (missing digits.length) '='

/-- The form for URLs, without padding. -/
def encodeUrl (bytes : List UInt8) : List Char :=
  (sextets bytes).map urlDigit

end Base64

end ScorbitSdk
