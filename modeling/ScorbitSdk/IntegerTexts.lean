import Mathlib.Data.List.TakeWhile
import Mathlib.Data.List.TakeDrop
import Mathlib.Tactic.Common

/-!
# Integers at the beginning of a text

The functions around `strtol` read white space, a sign, a mark of the base behind
a zero, and as many digits as there are, and leave the rest of the text.  The
characters of each kind are parameters.
-/

namespace ScorbitSdk.IntegerTexts

/-- The characters that the numbers of a base are written with.  A letter that
marks the base is read between a zero and further digits. -/
structure Numerals where
  base : Nat
  isSpace : Char → Bool
  digit? : Char → Option Nat
  marksBase : Char → Bool
  digit?_zero : digit? '0' = some 0
  digit?_plus : digit? '+' = none
  digit?_minus : digit? '-' = none
  isSpace_plus : isSpace '+' = false
  isSpace_minus : isSpace '-' = false
  digit?_of_isSpace : ∀ c, isSpace c = true → digit? c = none
  digit?_of_marksBase : ∀ c, marksBase c = true → digit? c = none

/-- What has been read, and the text behind it. -/
structure Scan where
  negative : Bool
  magnitude : Nat
  rest : List Char
deriving DecidableEq

/-- The number with its sign. -/
def Scan.value (scan : Scan) : Int :=
  if scan.negative then -scan.magnitude else scan.magnitude

namespace Numerals

variable (numerals : Numerals)

def isDigit (c : Char) : Bool :=
  (numerals.digit? c).isSome

/-- The number that digits denote. -/
def valueOf (digits : List Char) : Nat :=
  digits.foldl
    (fun value c => numerals.base * value + (numerals.digit? c).getD 0) 0

/-- Whether a minus has been read, and the text behind the sign. -/
def readSign : List Char → Bool × List Char
  | '-' :: rest => (true, rest)
  | '+' :: rest => (false, rest)
  | text => (false, text)

/-- The text behind the mark of the base; a mark without digits is none. -/
def skipMark : List Char → List Char
  | '0' :: mark :: c :: rest =>
      if numerals.marksBase mark && numerals.isDigit c then c :: rest
      else '0' :: mark :: c :: rest
  | text => text

/-- Read an integer; nothing where there are no digits. -/
def scan (text : List Char) : Option Scan :=
  let (negative, unsigned) := readSign (text.dropWhile numerals.isSpace)
  let digits := numerals.skipMark unsigned
  if digits.takeWhile numerals.isDigit = [] then none
  else some
    { negative
      magnitude := numerals.valueOf (digits.takeWhile numerals.isDigit)
      rest := digits.dropWhile numerals.isDigit }

/-! ## What is read to its end -/

/-- A text that is an integer and nothing else, by its parts. -/
structure Integer where
  blanks : List Char
  sign : List Char
  mark : List Char
  digits : List Char
  blanks_spaces : ∀ c ∈ blanks, numerals.isSpace c = true
  sign_cases : sign = [] ∨ sign = ['+'] ∨ sign = ['-']
  mark_cases : mark = [] ∨ ∃ c, numerals.marksBase c = true ∧ mark = ['0', c]
  digits_ne_nil : digits ≠ []
  digits_digits : ∀ c ∈ digits, numerals.isDigit c = true

namespace Integer

variable {numerals}

def text (integer : numerals.Integer) : List Char :=
  integer.blanks ++ (integer.sign ++ (integer.mark ++ integer.digits))

def negative (integer : numerals.Integer) : Bool :=
  integer.sign = ['-']

def magnitude (integer : numerals.Integer) : Nat :=
  numerals.valueOf integer.digits

/-- The number with its sign. -/
def value (integer : numerals.Integer) : Int :=
  if integer.negative then -integer.magnitude else integer.magnitude

/-- Nothing but digits. -/
def IsPlain (integer : numerals.Integer) : Prop :=
  integer.blanks = [] ∧ integer.sign = [] ∧ integer.mark = []

theorem text_ne_nil (integer : numerals.Integer) : integer.text ≠ [] := by
  simp [text, integer.digits_ne_nil]

/-- Digits alone are an integer. -/
def ofDigits (digits : List Char) (nonempty : digits ≠ [])
    (areDigits : ∀ c ∈ digits, numerals.isDigit c = true) :
    numerals.Integer where
  blanks := []
  sign := []
  mark := []
  digits := digits
  blanks_spaces := nofun
  sign_cases := .inl rfl
  mark_cases := .inl rfl
  digits_ne_nil := nonempty
  digits_digits := areDigits

end Integer

variable {numerals}

theorem isDigit_zero : numerals.isDigit '0' = true := by
  simp [isDigit, numerals.digit?_zero]

theorem isDigit_plus : numerals.isDigit '+' = false := by
  simp [isDigit, numerals.digit?_plus]

theorem isDigit_minus : numerals.isDigit '-' = false := by
  simp [isDigit, numerals.digit?_minus]

theorem not_isSpace_of_isDigit {c : Char} (digit : numerals.isDigit c = true) :
    numerals.isSpace c = false := by
  cases space : numerals.isSpace c with
  | false => rfl
  | true =>
      have none := numerals.digit?_of_isSpace c space
      simp [isDigit, none] at digit

theorem isDigit_of_marksBase {c : Char} (marks : numerals.marksBase c = true) :
    numerals.isDigit c = false := by
  simp [isDigit, numerals.digit?_of_marksBase c marks]

theorem readSign_of_ne {c : Char} {rest : List Char} (notPlus : c ≠ '+')
    (notMinus : c ≠ '-') : readSign (c :: rest) = (false, c :: rest) := by
  rw [readSign]
  · exact fun _ same => notMinus (List.cons.inj same).1
  · exact fun _ same => notPlus (List.cons.inj same).1

/-- A text that begins with a digit has no sign. -/
theorem readSign_of_isDigit {c : Char} {rest : List Char}
    (digit : numerals.isDigit c = true) :
    readSign (c :: rest) = (false, c :: rest) := by
  apply readSign_of_ne
  · rintro rfl
    simp [isDigit_plus] at digit
  · rintro rfl
    simp [isDigit_minus] at digit

/-- What is behind the sign begins with a digit, whatever the mark. -/
theorem Integer.exists_unsigned (integer : numerals.Integer) :
    ∃ c rest, integer.mark ++ integer.digits = c :: rest ∧
      numerals.isDigit c = true := by
  rcases integer.mark_cases with none | ⟨mark, -, marked⟩
  · obtain ⟨c, rest, digits⟩ := List.exists_cons_of_ne_nil integer.digits_ne_nil
    refine ⟨c, rest, by rw [none, digits, List.nil_append], ?_⟩
    exact integer.digits_digits c (by simp [digits])
  · exact ⟨'0', mark :: integer.digits, by simp [marked], isDigit_zero⟩

/-- The sign of an integer is read as its sign. -/
theorem Integer.readSign_eq (integer : numerals.Integer) :
    readSign (integer.sign ++ (integer.mark ++ integer.digits)) =
      (integer.negative, integer.mark ++ integer.digits) := by
  obtain ⟨c, rest, unsigned, digit⟩ := integer.exists_unsigned
  rcases integer.sign_cases with sign | sign | sign
  · rw [unsigned, sign, List.nil_append, readSign_of_isDigit digit, negative, sign]
    simp
  · simp [sign, readSign, negative]
  · simp [sign, readSign, negative]

theorem skipMark_digits {digits : List Char}
    (areDigits : ∀ c ∈ digits, numerals.isDigit c = true) :
    numerals.skipMark digits = digits := by
  match digits with
  | [] => rfl
  | [c] =>
      rw [skipMark]
      exact fun _ _ _ same => by simp at same
  | [c, d] =>
      rw [skipMark]
      exact fun _ _ _ same => by simp at same
  | first :: mark :: c :: rest =>
      rcases eq_or_ne first '0' with rfl | notZero
      · have noMark : numerals.marksBase mark = false := by
          cases marks : numerals.marksBase mark with
          | false => rfl
          | true =>
              have digit := areDigits mark (by simp)
              rw [isDigit_of_marksBase marks] at digit
              exact absurd digit Bool.false_ne_true
        simp [skipMark, noMark]
      · rw [skipMark]
        exact fun _ _ _ same => notZero (List.cons.inj same).1

theorem Integer.skipMark_eq (integer : numerals.Integer) :
    numerals.skipMark (integer.mark ++ integer.digits) = integer.digits := by
  rcases integer.mark_cases with none | ⟨mark, marks, marked⟩
  · rw [none, List.nil_append, skipMark_digits integer.digits_digits]
  · obtain ⟨c, rest, digits⟩ := List.exists_cons_of_ne_nil integer.digits_ne_nil
    have digit := integer.digits_digits c (by simp [digits])
    simp [marked, digits, skipMark, marks, digit]

/-- The blanks are skipped, and nothing else. -/
theorem Integer.dropWhile_text (integer : numerals.Integer) :
    integer.text.dropWhile numerals.isSpace =
      integer.sign ++ (integer.mark ++ integer.digits) := by
  rw [text, List.dropWhile_append_of_pos integer.blanks_spaces]
  obtain ⟨c, rest, unsigned, digit⟩ := integer.exists_unsigned
  rw [unsigned]
  rcases integer.sign_cases with sign | sign | sign
  · simp [sign, not_isSpace_of_isDigit digit]
  · simp [sign, numerals.isSpace_plus]
  · simp [sign, numerals.isSpace_minus]

/-- An integer is read to its end. -/
theorem Integer.scan_text (integer : numerals.Integer) :
    numerals.scan integer.text =
      some ⟨integer.negative, integer.magnitude, []⟩ := by
  have taken := List.takeWhile_eq_self_iff.mpr integer.digits_digits
  have dropped := List.dropWhile_eq_nil_iff.mpr integer.digits_digits
  simp only [scan, integer.dropWhile_text, integer.readSign_eq,
    integer.skipMark_eq, taken, dropped, if_neg integer.digits_ne_nil, magnitude]

/-- The sign that has been read is what the text begins with. -/
theorem readSign_spec (text : List Char) :
    ∃ sign, (sign = [] ∨ sign = ['+'] ∨ sign = ['-']) ∧
      text = sign ++ (readSign text).2 ∧
      (readSign text).1 = decide (sign = ['-']) := by
  unfold readSign
  split
  · exact ⟨['-'], by simp, rfl, by simp⟩
  · exact ⟨['+'], by simp, rfl, by simp⟩
  · exact ⟨[], by simp, rfl, by simp⟩

theorem skipMark_spec (text : List Char) :
    ∃ mark, (mark = [] ∨ ∃ c, numerals.marksBase c = true ∧ mark = ['0', c]) ∧
      text = mark ++ numerals.skipMark text := by
  unfold skipMark
  split
  · split
    · next mark c rest skips =>
      simp only [Bool.and_eq_true] at skips
      exact ⟨['0', mark], .inr ⟨mark, skips.1, rfl⟩, rfl⟩
    · exact ⟨[], .inl rfl, rfl⟩
  · exact ⟨[], .inl rfl, rfl⟩

/-- What is read to its end is an integer. -/
theorem exists_integer_of_scan {text : List Char} {negative : Bool}
    {magnitude : Nat}
    (scanned : numerals.scan text = some ⟨negative, magnitude, []⟩) :
    ∃ integer : numerals.Integer, integer.text = text ∧
      integer.negative = negative ∧ integer.magnitude = magnitude := by
  obtain ⟨sign, signCases, signed, minus⟩ :=
    readSign_spec (text.dropWhile numerals.isSpace)
  obtain ⟨mark, markCases, marked⟩ := numerals.skipMark_spec
    (readSign (text.dropWhile numerals.isSpace)).2
  simp only [scan] at scanned
  split at scanned
  · exact absurd scanned (by simp)
  · next nonempty =>
    simp only [Option.some.injEq, Scan.mk.injEq] at scanned
    obtain ⟨rfl, rfl, toEnd⟩ := scanned
    have areDigits := List.dropWhile_eq_nil_iff.mp toEnd
    rw [List.takeWhile_eq_self_iff.mpr areDigits] at nonempty ⊢
    let integer : numerals.Integer :=
      { blanks := text.takeWhile numerals.isSpace
        sign := sign
        mark := mark
        digits := numerals.skipMark (readSign (text.dropWhile numerals.isSpace)).2
        blanks_spaces := fun c member => List.mem_takeWhile_imp member
        sign_cases := signCases
        mark_cases := markCases
        digits_ne_nil := nonempty
        digits_digits := areDigits }
    refine ⟨integer, ?_, minus.symm, rfl⟩
    calc
      integer.text = text.takeWhile numerals.isSpace ++ (sign ++
          (readSign (text.dropWhile numerals.isSpace)).2) := by
        rw [Integer.text, ← marked]
      _ = text := by rw [← signed, List.takeWhile_append_dropWhile]

/-- An integer has nothing but digits exactly where its text has. -/
theorem Integer.isPlain_iff (integer : numerals.Integer) :
    integer.IsPlain ↔ ∀ c ∈ integer.text, numerals.isDigit c = true := by
  constructor
  · rintro ⟨noBlanks, noSign, noMark⟩
    simpa [text, noBlanks, noSign, noMark] using integer.digits_digits
  · intro areDigits
    refine ⟨?_, ?_, ?_⟩
    · refine List.eq_nil_iff_forall_not_mem.mpr fun c member => ?_
      have space := integer.blanks_spaces c member
      rw [not_isSpace_of_isDigit (areDigits c (by simp [text, member]))] at space
      exact Bool.false_ne_true space
    · rcases integer.sign_cases with none | plus | minus
      · exact none
      · have digit := areDigits '+' (by simp [text, plus])
        simp [isDigit_plus] at digit
      · have digit := areDigits '-' (by simp [text, minus])
        simp [isDigit_minus] at digit
    · rcases integer.mark_cases with none | ⟨c, marks, marked⟩
      · exact none
      · have digit := areDigits c (by simp [text, marked])
        simp [isDigit_of_marksBase marks] at digit

/-- Digits alone have no minus. -/
theorem Integer.value_of_isPlain {integer : numerals.Integer}
    (plain : integer.IsPlain) : integer.value = integer.magnitude := by
  simp [value, negative, plain.2.1]

end Numerals

end ScorbitSdk.IntegerTexts
