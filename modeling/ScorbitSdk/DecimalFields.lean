import Mathlib.Data.List.Infix

/-!
# Decimal numbers between other texts

A decimal number written behind a text can be read back only if it has one
digit and no longer decimal ends with the text's last characters and that digit.
-/

namespace ScorbitSdk

/-- `std::to_string` of an unsigned number. -/
def decimal (number : Nat) : List Char :=
  Nat.toDigits 10 number

namespace DecimalFields

theorem decimal_ne_nil (number : Nat) : decimal number ≠ [] :=
  Nat.toDigits_ne_nil

theorem decimal_inj {first second : Nat} :
    decimal first = decimal second ↔ first = second := by
  constructor
  · intro same
    have values := congrArg (Nat.ofDigitChars 10 · 0) same
    simpa [decimal, Nat.ofDigitChars_ten_toDigits] using values
  · rintro rfl
    rfl

theorem length_decimal_of_lt {number : Nat} (small : number < 10) :
    (decimal number).length = 1 := by
  simp [decimal, Nat.toDigits_of_lt_base small]

/-- The last digit of a longer decimal is a decimal too. -/
theorem decimal_of_le {number : Nat} (large : 10 ≤ number) :
    decimal number = decimal (number / 10) ++ decimal (number % 10) := by
  have last : number % 10 < 10 := Nat.mod_lt _ (by decide)
  simp only [decimal]
  rw [Nat.toDigits_of_lt_base last, Nat.toDigits_of_base_le (by decide) large]

/-- No other text with a number below the bound behind it gives the same
characters. -/
def SplitsOnce (bound : Nat) (text : List Char) (number : Nat) : Prop :=
  ∀ otherText otherNumber, otherNumber < bound →
    otherText ++ decimal otherNumber = text ++ decimal number →
      otherText = text ∧ otherNumber = number

/-- No last part of the text makes a longer decimal below the bound with the
number. -/
def NoLongerDecimal (bound : Nat) (text : List Char) (number : Nat) : Prop :=
  ∀ before part longer, part ≠ [] → text = before ++ part → longer < bound →
    decimal longer ≠ part ++ decimal number

variable {bound number : Nat} {text : List Char}

theorem SplitsOnce.lt_ten (splitsOnce : SplitsOnce bound text number)
    (bounded : number < bound) : number < 10 := by
  by_contra large
  have ofLe := decimal_of_le (Nat.not_lt.mp large)
  -- All digits but the last one move behind the text.
  have moved := (splitsOnce (text ++ decimal (number / 10)) (number % 10)
    (Nat.lt_of_le_of_lt (Nat.mod_le number 10) bounded) (by
      rw [List.append_assoc, ← ofLe])).1
  exact decimal_ne_nil _ (List.append_right_eq_self.mp moved)

theorem SplitsOnce.noLongerDecimal (splitsOnce : SplitsOnce bound text number) :
    NoLongerDecimal bound text number := by
  intro before part longer nonempty split bounded isLonger
  have moved := (splitsOnce before longer bounded (by
    rw [isLonger, split, List.append_assoc])).1
  rw [split] at moved
  exact nonempty (List.append_right_eq_self.mp moved.symm)

theorem NoLongerDecimal.splitsOnce
    (noLonger : NoLongerDecimal bound text number) (small : number < 10) :
    SplitsOnce bound text number := by
  intro otherText otherNumber bounded same
  have oneDigit := length_decimal_of_lt small
  rcases List.append_eq_append_iff.mp same with
    ⟨part, textSplit, longer⟩ | ⟨part, otherSplit, rest⟩
  · by_cases isEmpty : part = []
    · subst isEmpty
      simp only [List.append_nil, List.nil_append] at textSplit longer
      exact ⟨textSplit.symm, decimal_inj.mp longer⟩
    · exact absurd longer
        (noLonger otherText part otherNumber isEmpty textSplit bounded)
  · have lengths := congrArg List.length rest
    have atLeastOne := List.length_pos_iff.mpr (decimal_ne_nil otherNumber)
    rw [List.length_append] at lengths
    have isEmpty : part = [] := List.length_eq_zero_iff.mp (by omega)
    subst isEmpty
    simp only [List.append_nil, List.nil_append] at otherSplit rest
    exact ⟨otherSplit, (decimal_inj.mp rest).symm⟩

/-- When a text and the number behind it can be told apart. -/
theorem splitsOnce_iff (bounded : number < bound) :
    SplitsOnce bound text number ↔
      number < 10 ∧ NoLongerDecimal bound text number := by
  constructor
  · intro splitsOnce
    exact ⟨splitsOnce.lt_ten bounded, splitsOnce.noLongerDecimal⟩
  · rintro ⟨small, noLonger⟩
    exact noLonger.splitsOnce small

end DecimalFields

end ScorbitSdk
