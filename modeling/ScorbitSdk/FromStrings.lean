import ScorbitSdk.HexCodecs
import Mathlib.Algebra.Ring.Int.Defs
import Mathlib.Data.List.DropRight

/-!
# Numbers from strings

`Util::FromString` takes a sign and a hexadecimal prefix off by itself and leaves
what is behind them to `std::stoll` or `std::stoull`, which take white space, a
sign and a prefix of their own.
-/

namespace ScorbitSdk

open IntegerTexts

namespace FromString

/-! ## The standard library -/

inductive Base
  | decimal
  | hexadecimal
deriving DecidableEq

/-- The characters of decimal numbers, as the standard library reads them. -/
def decimals : Numerals where
  base := 10
  isSpace := ByteArrays.isSpace
  digit? := fun c => if '0' ≤ c ∧ c ≤ '9' then some (c.toNat - '0'.toNat) else none
  marksBase := fun _ => false
  digit?_zero := rfl
  digit?_plus := rfl
  digit?_minus := rfl
  isSpace_plus := ByteArrays.isSpace_plus
  isSpace_minus := ByteArrays.isSpace_minus
  digit?_of_isSpace := by
    intro c space
    have none := ByteArrays.hexadecimal.digit?_of_isSpace c space
    change Json.hexDigit? c = Option.none at none
    unfold Json.hexDigit? at none
    split at none
    · exact absurd none (by simp)
    · next noDigit => exact if_neg noDigit
  digit?_of_marksBase := nofun

def Base.numerals : Base → Numerals
  | decimal => decimals
  | hexadecimal => ByteArrays.hexadecimal

/-- `std::stoll`, and how far it has read; nothing where it throws. -/
def stoll (text : List Char) (base : Base) : Option (Int × Nat) := do
  let scan ← base.numerals.scan text
  if scan.value < -2 ^ 63 ∨ 2 ^ 63 - 1 < scan.value then none
  else some (scan.value, text.length - scan.rest.length)

/-- `std::stoull`, in which a minus wraps around. -/
def stoull (text : List Char) (base : Base) : Option (Int × Nat) := do
  let scan ← base.numerals.scan text
  if 2 ^ 64 ≤ scan.magnitude then none
  else some (scan.value % 2 ^ 64, text.length - scan.rest.length)

/-! ## The code -/

def whitespace : List Char :=
  [' ', '\t', '\n', '\r', Char.ofNat 12, Char.ofNat 11]

def lTrim (s : List Char) : List Char :=
  s.dropWhile (· ∈ whitespace)

def rTrim (s : List Char) : List Char :=
  s.rdropWhile (· ∈ whitespace)

def trim (s : List Char) : List Char :=
  rTrim (lTrim s)

/-- `parse[0] == '+' || parse[0] == '-'`, of a text that is not empty. -/
def startsWithSign (parse : List Char) : Bool :=
  parse.head? = some '+' || parse.head? = some '-'

/-- The base, and the text behind a hexadecimal prefix. -/
def dropPrefix : List Char → Base × List Char
  | '0' :: mark :: c :: rest =>
      if mark = 'x' || mark = 'X' then (.hexadecimal, c :: rest)
      else (.decimal, '0' :: mark :: c :: rest)
  | parse => (.decimal, parse)

/-- The text behind its first sign. -/
def behindSign (parse : List Char) : List Char :=
  if startsWithSign parse then parse.tail else parse

/-- What the functions have in common: a number behind its sign, converted from the
first to the last character. -/
def readNumber (convert : List Char → Base → Option (Int × Nat))
    (parse : List Char) : Option Int :=
  if startsWithSign parse then none
  else
    let (base, parse) := dropPrefix parse
    if parse = [] then none
    else do
      let (raw, idx) ← convert parse base
      if idx ≠ parse.length then none else some raw

/-- `FromString` for `int32_t`: whether it has read a number, and the value. -/
def fromStringInt32 (s : List Char) : Bool × Int :=
  let parse := trim s
  let negative : Bool := parse.head? = some '-'
  match readNumber stoll (behindSign parse) with
  | none => (false, 0)
  | some raw =>
      let raw := if negative then -raw else raw
      if raw < -2 ^ 31 ∨ 2 ^ 31 - 1 < raw then (false, 0) else (true, raw)

/-- `FromString` for the unsigned types, by their largest number. -/
def fromStringUnsigned (max : Int) (s : List Char) : Bool × Int :=
  if s.head? = some '-' then (false, 0)
  else
    let parse := if s.head? = some '+' then s.tail else s
    match readNumber stoull parse with
    | none => (false, 0)
    | some raw => if max < raw then (false, 0) else (true, raw)

def fromStringUInt32 : List Char → Bool × Int :=
  fromStringUnsigned (2 ^ 32 - 1)

def fromStringUInt64 : List Char → Bool × Int :=
  fromStringUnsigned (2 ^ 64 - 1)

/-! ## Numbers as they are meant -/

/-- The types that there is a `FromString` for. -/
inductive Target
  | int32
  | uint32
  | uint64
deriving DecidableEq

namespace Target

def fromString : Target → List Char → Bool × Int
  | int32 => fromStringInt32
  | uint32 => fromStringUInt32
  | uint64 => fromStringUInt64

/-- The text that is read: the white space around it is taken off for `int32_t`. -/
def textOf : Target → List Char → List Char
  | int32, s => trim s
  | uint32, s => s
  | uint64, s => s

def least : Target → Int
  | int32 => -2 ^ 31
  | uint32 => 0
  | uint64 => 0

def greatest : Target → Int
  | int32 => 2 ^ 31 - 1
  | uint32 => 2 ^ 32 - 1
  | uint64 => 2 ^ 64 - 1

def Fits (target : Target) (value : Int) : Prop :=
  target.least ≤ value ∧ value ≤ target.greatest

/-- A single sign, or none; only `int32_t` may have a minus. -/
def TakesSign (target : Target) (sign : List Char) : Prop :=
  sign = [] ∨ sign = ['+'] ∨ target = int32 ∧ sign = ['-']

end Target

/-- Nothing before a decimal number, and the prefix before a hexadecimal one. -/
def Base.TakesPrefix : Base → List Char → Prop
  | decimal, text => text = []
  | hexadecimal, text => text = ['0', 'x'] ∨ text = ['0', 'X']

/-- The string is a single sign, or none, and the digits of a number, with its
prefix. -/
def Denotes (target : Target) (s : List Char) (value : Int) : Prop :=
  ∃ (sign marked digits : List Char) (base : Base),
    target.textOf s = sign ++ (marked ++ digits) ∧ target.TakesSign sign ∧
      base.TakesPrefix marked ∧ digits ≠ [] ∧
      (∀ c ∈ digits, base.numerals.isDigit c = true) ∧
      value = if sign = ['-'] then -(base.numerals.valueOf digits : Int)
        else base.numerals.valueOf digits

/-- The strings of numbers in range are read, with their values, and no others. -/
structure ReadsNumbers (target : Target) (s : List Char) : Prop where
  reads : (target.fromString s).1 = true ↔
    ∃ value, Denotes target s value ∧ target.Fits value
  stores : ∀ value, Denotes target s value → target.Fits value →
    (target.fromString s).2 = value
  clears : (target.fromString s).1 = false → (target.fromString s).2 = 0

/-! ## Numbers as they are read -/

/-- What is read: behind the sign and the prefix, an integer with the blanks, the
sign and the mark that the library takes. -/
structure Spelling (target : Target) where
  sign : List Char
  marked : List Char
  base : Base
  number : base.numerals.Integer
  takesSign : target.TakesSign sign
  takesPrefix : base.TakesPrefix marked
  unsigned : startsWithSign (marked ++ number.text) = false

namespace Spelling

variable {target : Target}

def text (spelling : Spelling target) : List Char :=
  spelling.sign ++ (spelling.marked ++ spelling.number.text)

/-- The number with its signs; an unsigned one wraps around. -/
def value (spelling : Spelling target) : Int :=
  match target with
  | .int32 =>
      if spelling.sign = ['-'] then -spelling.number.value
      else spelling.number.value
  | .uint32 => spelling.number.value % 2 ^ 64
  | .uint64 => spelling.number.value % 2 ^ 64

/-- The library does not refuse the number. -/
def Converts (spelling : Spelling target) : Prop :=
  match target with
  | .int32 =>
      -2 ^ 63 ≤ spelling.number.value ∧ spelling.number.value ≤ 2 ^ 63 - 1
  | .uint32 => spelling.number.magnitude < 2 ^ 64
  | .uint64 => spelling.number.magnitude < 2 ^ 64

end Spelling

/-- The string has more than the digits of a number behind its sign and prefix, and
its value is in range all the same. -/
def ReadLoosely (target : Target) (s : List Char) : Prop :=
  ∃ spelling : Spelling target, spelling.text = target.textOf s ∧
    spelling.Converts ∧ target.Fits spelling.value ∧ ¬spelling.number.IsPlain

/-! ## What the library reads to its end -/

/-- Nothing is left exactly where the whole text has been read. -/
theorem length_sub_rest {text rest : List Char} (nonempty : text ≠ []) :
    text.length - rest.length = text.length ↔ rest = [] := by
  have positive := List.length_pos_iff.mpr nonempty
  rw [← List.length_eq_zero_iff]
  omega

theorem stoll_eq_some_iff {text : List Char} {base : Base} {raw : Int}
    (nonempty : text ≠ []) :
    stoll text base = some (raw, text.length) ↔
      ∃ number : base.numerals.Integer, number.text = text ∧
        number.value = raw ∧ -2 ^ 63 ≤ raw ∧ raw ≤ 2 ^ 63 - 1 := by
  constructor
  · intro converted
    simp only [stoll, Option.bind_eq_bind, Option.bind_eq_some_iff] at converted
    obtain ⟨⟨negative, magnitude, rest⟩, scanned, converted⟩ := converted
    split at converted
    · exact absurd converted (by simp)
    · next inRange =>
      simp only [Option.some.injEq, Prod.mk.injEq] at converted
      obtain ⟨rfl, toEnd⟩ := converted
      obtain rfl := (length_sub_rest nonempty).mp toEnd
      obtain ⟨number, written, rfl, rfl⟩ := Numerals.exists_integer_of_scan scanned
      exact ⟨number, written, rfl, by omega, by omega⟩
  · rintro ⟨number, rfl, rfl, above, below⟩
    have scanned := number.scan_text
    have value : Scan.value ⟨number.negative, number.magnitude, []⟩ = number.value :=
      rfl
    have inRange : ¬(number.value < -2 ^ 63 ∨ 2 ^ 63 - 1 < number.value) := by omega
    rw [stoll, scanned, Option.bind_eq_bind, Option.bind_some, value, if_neg inRange]
    rfl

theorem stoull_eq_some_iff {text : List Char} {base : Base} {raw : Int}
    (nonempty : text ≠ []) :
    stoull text base = some (raw, text.length) ↔
      ∃ number : base.numerals.Integer, number.text = text ∧
        number.value % 2 ^ 64 = raw ∧ number.magnitude < 2 ^ 64 := by
  constructor
  · intro converted
    simp only [stoull, Option.bind_eq_bind, Option.bind_eq_some_iff] at converted
    obtain ⟨⟨negative, magnitude, rest⟩, scanned, converted⟩ := converted
    split at converted
    · exact absurd converted (by simp)
    · next inRange =>
      simp only [Option.some.injEq, Prod.mk.injEq] at converted
      obtain ⟨rfl, toEnd⟩ := converted
      obtain rfl := (length_sub_rest nonempty).mp toEnd
      obtain ⟨number, written, rfl, rfl⟩ := Numerals.exists_integer_of_scan scanned
      exact ⟨number, written, rfl, Nat.lt_of_not_le inRange⟩
  · rintro ⟨number, rfl, rfl, small⟩
    have scanned := number.scan_text
    have value : Scan.value ⟨number.negative, number.magnitude, []⟩ = number.value :=
      rfl
    rw [stoull, scanned, Option.bind_eq_bind, Option.bind_some, value,
      if_neg (Nat.not_le.mpr small)]
    rfl

/-! ## The sign and the prefix -/

/-- What a text begins with, a sign or none, and what is behind it. -/
theorem exists_sign (parse : List Char) :
    ∃ sign, (sign = [] ∨ sign = ['+'] ∨ sign = ['-']) ∧
      parse = sign ++ behindSign parse ∧
      (parse.head? = some '-' ↔ sign = ['-']) := by
  rcases parse with _ | ⟨c, rest⟩
  · exact ⟨[], by simp, rfl, by simp⟩
  · rcases eq_or_ne c '+' with rfl | notPlus
    · exact ⟨['+'], by simp, by simp [behindSign, startsWithSign], by simp⟩
    · rcases eq_or_ne c '-' with rfl | notMinus
      · exact ⟨['-'], by simp, by simp [behindSign, startsWithSign], by simp⟩
      · exact ⟨[], by simp, by simp [behindSign, startsWithSign, notPlus, notMinus],
          by simp [notMinus]⟩

theorem behindSign_append {sign unsigned : List Char}
    (signCases : sign = [] ∨ sign = ['+'] ∨ sign = ['-'])
    (noSign : startsWithSign unsigned = false) :
    behindSign (sign ++ unsigned) = unsigned ∧
      ((sign ++ unsigned).head? = some '-' ↔ sign = ['-']) := by
  rcases signCases with rfl | rfl | rfl
  · constructor
    · rw [List.nil_append, behindSign, if_neg (by simp [noSign])]
    · simp only [startsWithSign, Bool.or_eq_false_iff, decide_eq_false_iff_not] at noSign
      simp [noSign.2]
  · simp [behindSign, startsWithSign]
  · simp [behindSign, startsWithSign]

theorem dropPrefix_spec (parse : List Char) :
    ∃ marked, parse = marked ++ (dropPrefix parse).2 ∧
      (dropPrefix parse).1.TakesPrefix marked := by
  unfold dropPrefix
  split
  · next mark c rest =>
    by_cases marks : mark = 'x' ∨ mark = 'X'
    · refine ⟨['0', mark], by simp [marks], ?_⟩
      rcases marks with rfl | rfl <;> simp [Base.TakesPrefix]
    · exact ⟨[], by simp [marks], by simp [marks, Base.TakesPrefix]⟩
  · exact ⟨[], rfl, rfl⟩

theorem not_marked_of_decimal (number : Base.decimal.numerals.Integer) {mark : Char}
    (marks : mark = 'x' ∨ mark = 'X') : mark ∉ number.text := by
  intro member
  have notSpace : Base.decimal.numerals.isSpace mark = false := by
    rcases marks with rfl | rfl <;> rfl
  have notDigit : Base.decimal.numerals.isDigit mark = false := by
    rcases marks with rfl | rfl <;> rfl
  have noMark : number.mark = [] := by
    rcases number.mark_cases with none | ⟨c, marks, -⟩
    · exact none
    · exact absurd marks Bool.false_ne_true
  simp only [Numerals.Integer.text, noMark, List.nil_append, List.mem_append] at member
  rcases member with blank | sign | digit
  · rw [number.blanks_spaces mark blank] at notSpace
    exact absurd notSpace (by decide)
  · rcases number.sign_cases with none | plus | minus
    · simp [none] at sign
    · rw [plus, List.mem_singleton] at sign
      subst sign
      exact absurd marks (by decide)
    · rw [minus, List.mem_singleton] at sign
      subst sign
      exact absurd marks (by decide)
  · rw [number.digits_digits mark digit] at notDigit
    exact absurd notDigit (by decide)

theorem dropPrefix_append {base : Base} {marked : List Char}
    (prefixed : base.TakesPrefix marked) (number : base.numerals.Integer) :
    dropPrefix (marked ++ number.text) = (base, number.text) := by
  cases base with
  | decimal =>
      obtain rfl : marked = [] := prefixed
      rw [List.nil_append, dropPrefix.eq_def]
      split
      · next mark c rest written =>
        have noMark : ¬(mark = 'x' ∨ mark = 'X') := fun marks =>
          not_marked_of_decimal number marks (by rw [written]; simp)
        rw [if_neg (by simpa using noMark), written]
      · rfl
  | hexadecimal =>
      obtain ⟨c, rest, written⟩ := List.exists_cons_of_ne_nil number.text_ne_nil
      rcases prefixed with rfl | rfl <;> simp [dropPrefix, written]

/-! ## The strings that are read -/

theorem readNumber_eq_some_iff {convert : List Char → Base → Option (Int × Nat)}
    {parse : List Char} {raw : Int} :
    readNumber convert parse = some raw ↔
      startsWithSign parse = false ∧ (dropPrefix parse).2 ≠ [] ∧
        convert (dropPrefix parse).2 (dropPrefix parse).1 =
          some (raw, (dropPrefix parse).2.length) := by
  rw [readNumber]
  obtain ⟨base, text⟩ := dropPrefix parse
  cases startsWithSign parse with
  | true => simp
  | false =>
      by_cases empty : text = []
      · simp [empty]
      · cases converted : convert text base with
        | none => simp [converted, empty]
        | some pair =>
            obtain ⟨number, idx⟩ := pair
            by_cases toEnd : idx = text.length <;> simp [converted, empty, toEnd]

theorem Target.TakesSign.cases {target : Target} {sign : List Char}
    (takes : target.TakesSign sign) :
    sign = [] ∨ sign = ['+'] ∨ sign = ['-'] := by
  rcases takes with none | plus | ⟨-, minus⟩
  · exact .inl none
  · exact .inr (.inl plus)
  · exact .inr (.inr minus)

theorem Target.sign_ne_minus {target : Target} {sign : List Char}
    (takes : target.TakesSign sign) (wraps : target ≠ .int32) : sign ≠ ['-'] := by
  rintro rfl
  rcases takes with none | plus | ⟨isInt32, -⟩
  · exact absurd none (by simp)
  · exact absurd plus (by decide)
  · exact wraps isInt32

namespace Spelling

variable {target : Target}

/-- A spelling is taken apart as it is put together. -/
theorem parts (spelling : Spelling target) :
    startsWithSign (behindSign spelling.text) = false ∧
      dropPrefix (behindSign spelling.text) =
        (spelling.base, spelling.number.text) ∧
      (spelling.text.head? = some '-' ↔ spelling.sign = ['-']) := by
  obtain ⟨behind, minus⟩ :=
    behindSign_append spelling.takesSign.cases spelling.unsigned
  rw [text, behind]
  exact ⟨spelling.unsigned,
    dropPrefix_append spelling.takesPrefix spelling.number, minus⟩

/-- The number of a spelling is read as it is converted. -/
theorem readNumber_eq (spelling : Spelling target) {raw : Int}
    {convert : List Char → Base → Option (Int × Nat)}
    (converted : convert spelling.number.text spelling.base =
      some (raw, spelling.number.text.length)) :
    readNumber convert (behindSign spelling.text) = some raw := by
  obtain ⟨unsigned, parts, -⟩ := spelling.parts
  refine readNumber_eq_some_iff.mpr ⟨unsigned, ?_, ?_⟩
  · rw [parts]
    exact spelling.number.text_ne_nil
  · rw [parts]
    exact converted

/-- What has been read is spelled so. -/
theorem exists_of_readNumber {parse : List Char} {raw : Int}
    {convert : List Char → Base → Option (Int × Nat)}
    (takes : parse.head? = some '-' → target = .int32)
    (read : readNumber convert (behindSign parse) = some raw) :
    ∃ (base : Base) (text : List Char), text ≠ [] ∧
      convert text base = some (raw, text.length) ∧
      ∀ number : base.numerals.Integer, number.text = text →
        ∃ spelling : Spelling target, spelling.text = parse ∧
          (spelling.sign = ['-'] ↔ parse.head? = some '-') ∧
          spelling.number.value = number.value ∧
          spelling.number.magnitude = number.magnitude := by
  obtain ⟨unsigned, nonempty, converted⟩ := readNumber_eq_some_iff.mp read
  obtain ⟨sign, signCases, signed, minus⟩ := exists_sign parse
  obtain ⟨marked, prefixed, takesPrefix⟩ := dropPrefix_spec (behindSign parse)
  refine ⟨_, _, nonempty, converted, fun number written => ?_⟩
  have takesSign : target.TakesSign sign := by
    rcases signCases with none | plus | isMinus
    · exact .inl none
    · exact .inr (.inl plus)
    · exact .inr (.inr ⟨takes (minus.mpr isMinus), isMinus⟩)
  let spelling : Spelling target :=
    { sign := sign
      marked := marked
      base := (dropPrefix (behindSign parse)).1
      number := number
      takesSign := takesSign
      takesPrefix := takesPrefix
      unsigned := by rw [written, ← prefixed, unsigned] }
  refine ⟨spelling, ?_, minus.symm, rfl, rfl⟩
  calc
    spelling.text = sign ++ (marked ++ number.text) := rfl
    _ = parse := by rw [written, ← prefixed, ← signed]

end Spelling

theorem Spelling.value_of_ne {target : Target} (wraps : target ≠ .int32)
    (spelling : Spelling target) :
    spelling.value = spelling.number.value % 2 ^ 64 := by
  cases target with
  | int32 => exact absurd rfl wraps
  | uint32 => rfl
  | uint64 => rfl

theorem Spelling.converts_of_ne {target : Target} (wraps : target ≠ .int32)
    (spelling : Spelling target) :
    spelling.Converts ↔ spelling.number.magnitude < 2 ^ 64 := by
  cases target with
  | int32 => exact absurd rfl wraps
  | uint32 => rfl
  | uint64 => rfl

/-- The unsigned types have no minus in front. -/
theorem Spelling.head?_ne_minus {target : Target} (wraps : target ≠ .int32)
    (spelling : Spelling target) : spelling.text.head? ≠ some '-' := by
  intro head
  exact Target.sign_ne_minus spelling.takesSign wraps (spelling.parts.2.2.mp head)

/-- `int32_t`: the numbers are read whose value fits. -/
theorem fromStringInt32_eq_true_iff {s : List Char} {value : Int} :
    fromStringInt32 s = (true, value) ↔
      ∃ spelling : Spelling .int32, spelling.text = trim s ∧
        spelling.Converts ∧ Target.int32.Fits spelling.value ∧
        spelling.value = value := by
  constructor
  · intro result
    rw [fromStringInt32] at result
    split at result
    · exact absurd result (by simp)
    · next raw read =>
      obtain ⟨base, text, nonempty, converted, spelled⟩ :=
        Spelling.exists_of_readNumber (fun _ => rfl) read
      obtain ⟨number, written, valued, above, below⟩ :=
        (stoll_eq_some_iff nonempty).mp converted
      obtain ⟨spelling, parsed, minus, sameValue, -⟩ := spelled number written
      have value : spelling.value =
          if decide ((trim s).head? = some '-') then -raw else raw := by
        simp only [Spelling.value, minus, sameValue, valued, decide_eq_true_eq]
      simp only [← value] at result
      split at result
      · exact absurd result (by simp)
      · next inRange =>
        refine ⟨spelling, parsed, ?_, ?_, (Prod.mk.inj result).2⟩
        · rw [Spelling.Converts, sameValue, valued]
          exact ⟨above, below⟩
        · exact ⟨by simp only [Target.least]; omega,
            by simp only [Target.greatest]; omega⟩
  · rintro ⟨spelling, written, converts, fits, rfl⟩
    have read := spelling.readNumber_eq ((stoll_eq_some_iff
      spelling.number.text_ne_nil).mpr ⟨spelling.number, rfl, rfl, converts⟩)
    have value : spelling.value = if decide ((trim s).head? = some '-') then
        -spelling.number.value else spelling.number.value := by
      simp only [Spelling.value, ← written, spelling.parts.2.2, decide_eq_true_eq]
    have inRange : ¬(spelling.value < -2 ^ 31 ∨ 2 ^ 31 - 1 < spelling.value) := by
      simp only [Target.Fits, Target.least, Target.greatest] at fits
      omega
    rw [written] at read
    simp only [fromStringInt32, read, ← value, if_neg inRange]

/-- The unsigned types: the numbers are read that fit as they wrap around. -/
theorem fromStringUnsigned_eq_true_iff {target : Target} {s : List Char}
    {value : Int} (wraps : target ≠ .int32) :
    fromStringUnsigned target.greatest s = (true, value) ↔
      ∃ spelling : Spelling target, spelling.text = s ∧
        spelling.Converts ∧ target.Fits spelling.value ∧
        spelling.value = value := by
  have least : target.least = 0 := by
    cases target with
    | int32 => exact absurd rfl wraps
    | uint32 => rfl
    | uint64 => rfl
  have behind : s.head? ≠ some '-' →
      (if s.head? = some '+' then s.tail else s) = behindSign s := by
    intro noMinus
    simp [behindSign, startsWithSign, noMinus]
  constructor
  · intro result
    rw [fromStringUnsigned] at result
    split at result
    · exact absurd result (by simp)
    · next noMinus =>
      simp only [behind noMinus] at result
      split at result
      · exact absurd result (by simp)
      · next raw read =>
        have takes : s.head? = some '-' → target = .int32 :=
          fun minus => absurd minus noMinus
        obtain ⟨base, text, nonempty, converted, spelled⟩ :=
          Spelling.exists_of_readNumber takes read
        obtain ⟨number, written, valued, small⟩ :=
          (stoull_eq_some_iff nonempty).mp converted
        obtain ⟨spelling, parsed, -, sameValue, sameMagnitude⟩ :=
          spelled number written
        have value : spelling.value = raw := by
          rw [spelling.value_of_ne wraps, sameValue, valued]
        split at result
        · exact absurd result (by simp)
        · next inRange =>
          refine ⟨spelling, parsed, ?_, ?_, value.trans (Prod.mk.inj result).2⟩
          · rw [spelling.converts_of_ne wraps, sameMagnitude]
            exact small
          · rw [Target.Fits, value, least]
            exact ⟨by omega, by omega⟩
  · rintro ⟨spelling, rfl, converts, fits, rfl⟩
    have noMinus := spelling.head?_ne_minus wraps
    have read := spelling.readNumber_eq ((stoull_eq_some_iff
      spelling.number.text_ne_nil).mpr
        ⟨spelling.number, rfl, rfl, (spelling.converts_of_ne wraps).mp converts⟩)
    rw [← spelling.value_of_ne wraps] at read
    simp only [fromStringUnsigned, if_neg noMinus, behind noMinus, read,
      if_neg (Int.not_lt.mpr fits.2)]

theorem fromString_eq_true_iff {target : Target} {s : List Char} {value : Int} :
    target.fromString s = (true, value) ↔
      ∃ spelling : Spelling target, spelling.text = target.textOf s ∧
        spelling.Converts ∧ target.Fits spelling.value ∧
        spelling.value = value := by
  cases target with
  | int32 => exact fromStringInt32_eq_true_iff
  | uint32 =>
      have wraps : Target.uint32 ≠ .int32 := nofun
      exact fromStringUnsigned_eq_true_iff wraps
  | uint64 =>
      have wraps : Target.uint64 ≠ .int32 := nofun
      exact fromStringUnsigned_eq_true_iff wraps

theorem fromString_clears (target : Target) (s : List Char)
    (refused : (target.fromString s).1 = false) : (target.fromString s).2 = 0 := by
  cases target with
  | int32 =>
      simp only [Target.fromString, fromStringInt32] at refused ⊢
      grind
  | uint32 =>
      simp only [Target.fromString, fromStringUInt32, fromStringUnsigned] at refused ⊢
      grind
  | uint64 =>
      simp only [Target.fromString, fromStringUInt64, fromStringUnsigned] at refused ⊢
      grind

/-! ## Digits alone, and more -/

theorem Target.greatest_lt (target : Target) : target.greatest < 2 ^ 64 := by
  cases target <;> decide

/-- Digits behind a prefix do not begin with a sign. -/
theorem not_startsWithSign_digits {base : Base} {marked digits : List Char}
    (prefixed : base.TakesPrefix marked) (nonempty : digits ≠ [])
    (areDigits : ∀ c ∈ digits, base.numerals.isDigit c = true) :
    startsWithSign (marked ++ digits) = false := by
  obtain ⟨c, rest, rfl⟩ := List.exists_cons_of_ne_nil nonempty
  have digit := areDigits c (by simp)
  cases base with
  | decimal =>
      obtain rfl : marked = [] := prefixed
      rcases eq_or_ne c '+' with rfl | notPlus
      · exact absurd digit (by decide)
      · rcases eq_or_ne c '-' with rfl | notMinus
        · exact absurd digit (by decide)
        · simp [startsWithSign, notPlus, notMinus]
  | hexadecimal =>
      rcases prefixed with rfl | rfl <;> simp [startsWithSign]

/-- The value of digits alone is the value that is meant. -/
theorem Spelling.value_of_isPlain {target : Target} {spelling : Spelling target}
    (plain : spelling.number.IsPlain) (small : spelling.number.magnitude < 2 ^ 64) :
    spelling.value =
      if spelling.sign = ['-'] then -(spelling.number.magnitude : Int)
      else spelling.number.magnitude := by
  have unsigned := Numerals.Integer.value_of_isPlain plain
  by_cases wraps : target = .int32
  · subst wraps
    rw [Spelling.value, unsigned]
  · rw [spelling.value_of_ne wraps, unsigned,
      if_neg (Target.sign_ne_minus spelling.takesSign wraps)]
    omega

theorem Spelling.converts_of_isPlain {target : Target} {spelling : Spelling target}
    (plain : spelling.number.IsPlain)
    (fits : target.Fits (if spelling.sign = ['-'] then
      -(spelling.number.magnitude : Int) else spelling.number.magnitude)) :
    spelling.Converts := by
  by_cases wraps : target = .int32
  · subst wraps
    simp only [Target.Fits, Target.least, Target.greatest] at fits
    rw [Spelling.Converts, Numerals.Integer.value_of_isPlain plain]
    split at fits <;> omega
  · have below := Int.lt_of_le_of_lt fits.2 target.greatest_lt
    rw [if_neg (Target.sign_ne_minus spelling.takesSign wraps)] at below
    rw [spelling.converts_of_ne wraps]
    omega

theorem Spelling.magnitude_lt_of_isPlain {target : Target}
    {spelling : Spelling target} (plain : spelling.number.IsPlain)
    (converts : spelling.Converts) : spelling.number.magnitude < 2 ^ 64 := by
  by_cases wraps : target = .int32
  · subst wraps
    rw [Spelling.Converts, Numerals.Integer.value_of_isPlain plain] at converts
    omega
  · exact (spelling.converts_of_ne wraps).mp converts

/-- What is meant is what is read of digits alone. -/
theorem denotes_and_fits_iff {target : Target} {s : List Char} {value : Int} :
    Denotes target s value ∧ target.Fits value ↔
      ∃ spelling : Spelling target, spelling.text = target.textOf s ∧
        spelling.Converts ∧ target.Fits spelling.value ∧
        spelling.value = value ∧ spelling.number.IsPlain := by
  constructor
  · rintro ⟨⟨sign, marked, digits, base, text, takesSign, takesPrefix, nonempty,
      areDigits, rfl⟩, fits⟩
    let spelling : Spelling target :=
      { sign := sign
        marked := marked
        base := base
        number := .ofDigits digits nonempty areDigits
        takesSign := takesSign
        takesPrefix := takesPrefix
        unsigned := not_startsWithSign_digits takesPrefix nonempty areDigits }
    have plain : spelling.number.IsPlain := ⟨rfl, rfl, rfl⟩
    have converts : spelling.Converts := Spelling.converts_of_isPlain plain fits
    have value := Spelling.value_of_isPlain plain
      (Spelling.magnitude_lt_of_isPlain plain converts)
    refine ⟨spelling, text.symm, converts, ?_, value, plain⟩
    rw [value]
    exact fits
  · rintro ⟨spelling, written, converts, fits, rfl, plain⟩
    refine ⟨⟨spelling.sign, spelling.marked, spelling.number.digits, spelling.base,
      ?_, spelling.takesSign, spelling.takesPrefix, spelling.number.digits_ne_nil,
      spelling.number.digits_digits, ?_⟩, fits⟩
    · rw [← written, Spelling.text, Numerals.Integer.text, plain.1, plain.2.1, plain.2.2]
      rfl
    · exact Spelling.value_of_isPlain plain
        (Spelling.magnitude_lt_of_isPlain plain converts)

/-- A text has one spelling, so that digits alone stay digits alone. -/
theorem Spelling.isPlain_of_text_eq {target : Target} {first second : Spelling target}
    (same : first.text = second.text) (plain : first.number.IsPlain) :
    second.number.IsPlain := by
  have parts := first.parts.2.1
  rw [same, second.parts.2.1, Prod.mk.injEq] at parts
  have areDigits := first.number.isPlain_iff.mp plain
  rw [← parts.2, ← parts.1] at areDigits
  exact second.number.isPlain_iff.mpr areDigits

/-- The numbers in range are read and no others exactly where nothing is read
loosely. -/
theorem readsNumbers_iff (target : Target) (s : List Char) :
    ReadsNumbers target s ↔ ¬ReadLoosely target s := by
  constructor
  · rintro numbers ⟨spelling, written, converts, fits, notPlain⟩
    have read := fromString_eq_true_iff.mpr ⟨spelling, written, converts, fits, rfl⟩
    obtain ⟨value, denoted⟩ := numbers.reads.mp (by rw [read])
    obtain ⟨plain, plainWritten, -, -, -, isPlain⟩ := denotes_and_fits_iff.mp denoted
    exact notPlain (Spelling.isPlain_of_text_eq (plainWritten.trans written.symm) isPlain)
  · intro strict
    have reads : ∀ value, Denotes target s value ∧ target.Fits value →
        target.fromString s = (true, value) := by
      intro value denoted
      obtain ⟨spelling, written, converts, fits, valued, -⟩ :=
        denotes_and_fits_iff.mp denoted
      exact fromString_eq_true_iff.mpr ⟨spelling, written, converts, fits, valued⟩
    refine ⟨⟨fun read => ?_, ?_⟩, ?_, fromString_clears target s⟩
    · obtain ⟨spelling, written, converts, fits, valued⟩ :=
        fromString_eq_true_iff.mp (Prod.ext read rfl)
      have plain : spelling.number.IsPlain := by
        by_contra notPlain
        exact strict ⟨spelling, written, converts, fits, notPlain⟩
      exact ⟨_, denotes_and_fits_iff.mpr
        ⟨spelling, written, converts, fits, valued, plain⟩⟩
    · rintro ⟨value, denoted⟩
      rw [reads value denoted]
    · intro value denoted fits
      rw [reads value ⟨denoted, fits⟩]

/-- A sign of its own behind the prefix, as the library takes it. -/
def signedHex (target : Target) (c : Char)
    (digit : Base.hexadecimal.numerals.isDigit c = true) : Spelling target where
  sign := []
  marked := ['0', 'x']
  base := .hexadecimal
  number :=
    { blanks := []
      sign := ['-']
      mark := []
      digits := [c]
      blanks_spaces := nofun
      sign_cases := .inr (.inr rfl)
      mark_cases := .inl rfl
      digits_ne_nil := nofun
      digits_digits := by simpa using digit }
  takesSign := .inl rfl
  takesPrefix := .inl rfl
  unsigned := rfl

/-- `0x-5` is read, and `0x-1` is the largest unsigned number. -/
theorem not_readsNumbers_signedHex :
    Target.int32.fromString "0x-5".toList = (true, -5) ∧
      Target.uint64.fromString "0x-1".toList = (true, 2 ^ 64 - 1) ∧
      ¬ReadsNumbers .int32 "0x-5".toList ∧
      ¬ReadsNumbers .uint64 "0x-1".toList := by
  have readInt32 : Target.int32.fromString "0x-5".toList = (true, -5) := by
    decide +kernel
  have readUInt64 : Target.uint64.fromString "0x-1".toList = (true, 2 ^ 64 - 1) := by
    decide +kernel
  have notPlain : ∀ target s c digit, (signedHex target c digit).text =
      target.textOf s → ¬∃ value, Denotes target s value ∧ target.Fits value := by
    rintro target s c digit written ⟨value, denoted⟩
    obtain ⟨spelling, same, -, -, -, plain⟩ := denotes_and_fits_iff.mp denoted
    have signed := Spelling.isPlain_of_text_eq (same.trans written.symm) plain
    exact absurd signed.2.1 (by simp [signedHex])
  refine ⟨readInt32, readUInt64, fun numbers => ?_, fun numbers => ?_⟩
  · have denoted := numbers.reads.mp (by rw [readInt32])
    exact notPlain .int32 _ '5' (by decide) (by decide) denoted
  · have denoted := numbers.reads.mp (by rw [readUInt64])
    exact notPlain .uint64 _ '1' (by decide) (by decide) denoted

end FromString

end ScorbitSdk
