import Mathlib.Algebra.Field.ZMod
import Mathlib.Algebra.Polynomial.BigOperators
import Mathlib.Algebra.Polynomial.Div
import Mathlib.Tactic.LinearCombination

/-!
# Shift registers that divide polynomials

The bits of a word are the coefficients of a polynomial over two elements.  A
register that is shifted by one bit, and takes a fixed word where the bit that
leaves it differs from the one that comes, keeps the remainder of what has come
after division by that word with a leading one.  The same goes for the register
that is shifted the other way, with its bits in reverse.
-/

namespace ScorbitSdk.ShiftRegisters

open Polynomial

variable {width : Nat}

/-! ## Words as polynomials -/

/-- The polynomial with the bits of a word as its coefficients. -/
noncomputable def ofWord (word : BitVec width) : (ZMod 2)[X] :=
  ∑ i ∈ Finset.range width, if word.getLsbD i then X ^ i else 0

/-- The word with a leading one before it. -/
noncomputable def generator (polynom : BitVec width) : (ZMod 2)[X] :=
  X ^ width + ofWord polynom

/-- The polynomial of a row of bits, the first of which has the highest power. -/
noncomputable def message (bits : List Bool) : (ZMod 2)[X] :=
  bits.foldl (fun sum bit => X * sum + if bit then 1 else 0) 0

theorem coeff_ofWord (word : BitVec width) (i : Nat) :
    (ofWord word).coeff i = if word.getLsbD i then 1 else 0 := by
  have single : ∀ j, (if word.getLsbD j then X ^ j else 0 : (ZMod 2)[X]).coeff i =
      if i = j then if word.getLsbD i then 1 else 0 else 0 := by
    intro j
    by_cases same : i = j
    · subst same
      cases word.getLsbD i <;> simp
    · cases word.getLsbD j <;> simp [coeff_X_pow, same]
  rw [ofWord, finsetSum_coeff, Finset.sum_congr rfl fun j _ => single j]
  rw [Finset.sum_ite_eq]
  split
  · rfl
  · next outside =>
    have beyond := Nat.not_lt.mp fun inside => outside (Finset.mem_range.mpr inside)
    rw [BitVec.getLsbD_of_ge word i beyond]
    rfl

theorem degree_ofWord_lt (word : BitVec width) : (ofWord word).degree < width := by
  rw [degree_lt_iff_coeff_zero]
  intro i beyond
  rw [coeff_ofWord, BitVec.getLsbD_of_ge word i beyond]
  rfl

theorem ofWord_zero : ofWord (BitVec.ofNat width 0) = 0 := by
  ext i
  simp [coeff_ofWord]

/-- Exclusive or adds the polynomials. -/
theorem ofWord_xor (first second : BitVec width) :
    ofWord (first ^^^ second) = ofWord first + ofWord second := by
  ext i
  rw [coeff_add, coeff_ofWord, coeff_ofWord, coeff_ofWord, BitVec.getLsbD_xor]
  cases first.getLsbD i <;> cases second.getLsbD i <;> decide

theorem monic_generator (polynom : BitVec width) : (generator polynom).Monic :=
  monic_X_pow_add (degree_ofWord_lt polynom)

theorem degree_generator (polynom : BitVec width) :
    (generator polynom).degree = width := by
  rw [generator, degree_add_eq_left_of_degree_lt]
  · exact degree_X_pow width
  · rw [degree_X_pow]
    exact degree_ofWord_lt polynom

/-- The bit that leaves the word has the power of its width. -/
theorem ofWord_shiftLeft (positive : 0 < width) (word : BitVec width) :
    ofWord (word <<< 1) + (if word.msb then X ^ width else 0) = X * ofWord word := by
  ext i
  have leaves : (if word.msb then X ^ width else 0 : (ZMod 2)[X]).coeff i =
      if i = width then if word.msb then 1 else 0 else 0 := by
    cases word.msb <;> simp [coeff_X_pow]
  rw [coeff_add, leaves, coeff_ofWord, BitVec.getLsbD_shiftLeft]
  cases i with
  | zero => simp [Nat.ne_of_lt positive]
  | succ i =>
      rw [coeff_X_mul, coeff_ofWord]
      rcases Nat.lt_trichotomy (i + 1) width with inside | atEnd | beyond
      · simp [inside, Nat.ne_of_lt inside]
      · subst atEnd
        simp [BitVec.msb_eq_getLsbD_last]
      · have outside : word.getLsbD i = false :=
          BitVec.getLsbD_of_ge word i (by omega)
        simp [outside, Nat.ne_of_gt beyond, Nat.not_lt.mpr (Nat.le_of_lt beyond)]

/-! ## The register -/

/-- One bit comes and one leaves; where they differ, the word is added. -/
def shiftIn (polynom register : BitVec width) (bit : Bool) : BitVec width :=
  if bit != register.msb then (register <<< 1) ^^^ polynom else register <<< 1

/-- The register after a row of bits. -/
def shiftAllIn (polynom register : BitVec width) (bits : List Bool) :
    BitVec width :=
  bits.foldl (shiftIn polynom) register

theorem shiftAllIn_append (polynom register : BitVec width)
    (first second : List Bool) :
    shiftAllIn polynom register (first ++ second) =
      shiftAllIn polynom (shiftAllIn polynom register first) second :=
  List.foldl_append ..

/-- A step multiplies by the indeterminate, adds the bit at the top, and takes the
remainder. -/
theorem ofWord_shiftIn (positive : 0 < width) (polynom register : BitVec width)
    (bit : Bool) :
    ofWord (shiftIn polynom register bit) =
      (X * ofWord register + (if bit then 1 else 0) * X ^ width) %ₘ
        generator polynom := by
  have shifted := ofWord_shiftLeft positive register
  have differ : shiftIn polynom register bit = (register <<< 1) ^^^
      (if bit != register.msb then polynom else 0) := by
    unfold shiftIn
    split <;> simp
  -- The generator goes into what has come just where the bits differ.
  have divided : ofWord (shiftIn polynom register bit) + generator polynom *
      (if bit != register.msb then 1 else 0) =
        X * ofWord register + (if bit then 1 else 0) * X ^ width := by
    have twicePolynom := CharTwo.add_self_eq_zero (ofWord polynom)
    have twicePower := CharTwo.add_self_eq_zero (X ^ width : (ZMod 2)[X])
    rw [differ, ofWord_xor, ← shifted, generator]
    cases bit with
    | false =>
        cases register.msb with
        | false => simp [ofWord_zero]
        | true =>
            simp only [Bool.false_bne, Bool.false_eq_true, if_true, if_false]
            linear_combination twicePolynom
    | true =>
        cases register.msb with
        | false =>
            simp only [Bool.true_bne, Bool.not_false, Bool.false_eq_true, if_true,
              if_false]
            linear_combination twicePolynom
        | true =>
            simp only [bne_self_eq_false, Bool.false_eq_true, if_true, if_false,
              BitVec.ofNat_eq_ofNat, ofWord_zero]
            linear_combination -twicePower
  refine ((div_modByMonic_unique _ _ (monic_generator polynom)
    ⟨divided, ?_⟩).2).symm
  rw [degree_generator]
  exact degree_ofWord_lt _

theorem message_concat (bits : List Bool) (bit : Bool) :
    message (bits ++ [bit]) = X * message bits + if bit then 1 else 0 := by
  rw [message, message, List.foldl_append, List.foldl_cons, List.foldl_nil]

/-- The register has the remainder of all that has come, moved up by the width. -/
theorem ofWord_shiftAllIn (positive : 0 < width) (polynom : BitVec width)
    (bits : List Bool) :
    ofWord (shiftAllIn polynom 0 bits) =
      (message bits * X ^ width) %ₘ generator polynom := by
  induction bits using List.reverseRecOn with
  | nil => simp [shiftAllIn, message, ofWord_zero]
  | append_singleton bits bit ih =>
      have monic := monic_generator polynom
      rw [shiftAllIn_append, shiftAllIn, List.foldl_cons, List.foldl_nil,
        ofWord_shiftIn positive, ih, message_concat]
      -- A multiple of the generator more does not change the remainder.
      have remains : (X * ((message bits * X ^ width) %ₘ generator polynom)) %ₘ
          generator polynom =
            (X * (message bits * X ^ width)) %ₘ generator polynom := by
        have again := (modByMonic_eq_self_iff monic).mpr
          (degree_modByMonic_lt (message bits * X ^ width) monic)
        rw [mul_modByMonic, again, ← mul_modByMonic]
      rw [add_modByMonic, remains, ← add_modByMonic]
      congr 1
      ring

/-! ## The reflected register -/

/-- The register with the bits in reverse: they leave at the lower end. -/
def shiftInReflected (reversed register : BitVec width) (bit : Bool) :
    BitVec width :=
  if bit != register.getLsbD 0 then (register >>> 1) ^^^ reversed
  else register >>> 1

theorem reverse_xor (first second : BitVec width) :
    (first ^^^ second).reverse = first.reverse ^^^ second.reverse := by
  apply BitVec.eq_of_getLsbD_eq
  intro i inside
  simp [BitVec.getLsbD_reverse, BitVec.getMsbD_xor]

theorem reverse_ushiftRight_one (word : BitVec width) :
    (word >>> 1).reverse = word.reverse <<< 1 := by
  apply BitVec.eq_of_getLsbD_eq
  intro i inside
  rw [BitVec.getLsbD_reverse, BitVec.getLsbD_shiftLeft, BitVec.getLsbD_reverse,
    BitVec.getMsbD_ushiftRight]
  cases i <;> simp [inside]

/-- Reversed, it is the register above. -/
theorem reverse_shiftInReflected (polynom register : BitVec width) (bit : Bool) :
    (shiftInReflected polynom.reverse register bit).reverse =
      shiftIn polynom register.reverse bit := by
  unfold shiftInReflected shiftIn
  rw [BitVec.msb_reverse]
  split
  · rw [reverse_xor, BitVec.reverse_reverse_eq, reverse_ushiftRight_one]
  · rw [reverse_ushiftRight_one]

theorem reverse_foldl_shiftInReflected (polynom register : BitVec width)
    (bits : List Bool) :
    (bits.foldl (shiftInReflected polynom.reverse) register).reverse =
      shiftAllIn polynom register.reverse bits := by
  induction bits generalizing register with
  | nil => rfl
  | cons bit bits ih =>
      rw [List.foldl_cons, ih, reverse_shiftInReflected]
      rfl

/-- The lowest bits of a word, the lowest one first. -/
def lowBits (count : Nat) (word : BitVec width) : List Bool :=
  (List.range count).map word.getLsbD

theorem lowBits_succ (count : Nat) (word : BitVec width) :
    lowBits (count + 1) word = word.getLsbD 0 :: lowBits count (word >>> 1) := by
  rw [lowBits, List.range_succ_eq_map, List.map_cons, List.map_map, lowBits]
  congr 1
  apply List.map_congr_left
  intro i _
  simp [Nat.add_comm 1 i]

/-- Of bits that are laid over the register, the lowest comes in and the others
move down. -/
theorem shiftInReflected_xor (reversed register bits : BitVec width) :
    shiftInReflected reversed (register ^^^ bits) false =
      shiftInReflected reversed register (bits.getLsbD 0) ^^^ (bits >>> 1) := by
  unfold shiftInReflected
  rw [BitVec.getLsbD_xor, BitVec.ushiftRight_xor_distrib]
  cases register.getLsbD 0 <;> cases bits.getLsbD 0 <;> simp <;> ac_rfl

/-- Bits may be laid over the register at once, and no more come in while it is
shifted. -/
theorem iterate_shiftInReflected (reversed register bits : BitVec width)
    (count : Nat) (few : bits >>> count = 0) :
    (shiftInReflected reversed · false)^[count] (register ^^^ bits) =
      (lowBits count bits).foldl (shiftInReflected reversed) register := by
  induction count generalizing register bits with
  | zero =>
      rw [BitVec.ushiftRight_zero] at few
      simp [few, lowBits]
  | succ count ih =>
      have fewer : bits >>> 1 >>> count = 0 := by
        rw [← BitVec.shiftRight_add, Nat.add_comm 1 count]
        exact few
      rw [Function.iterate_succ_apply, shiftInReflected_xor, ih _ _ fewer,
        lowBits_succ, List.foldl_cons]

end ScorbitSdk.ShiftRegisters
