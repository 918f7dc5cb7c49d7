import Mathlib.Algebra.GroupWithZero.Nat
import Mathlib.Tactic.Common

/-!
# Reading JSON texts

An executable reader for the JSON grammar: insignificant white space, the three
literal names, numbers, strings with their escapes, arrays and objects, and
nothing after the value.  Numbers without a fraction or an exponent become
integers; the others keep their literal.

The second half measures strings against the text they are read from.  A
string is never longer than the characters it was read from, and it is exactly
as long only if it was written verbatim, without an escape.
-/

namespace ScorbitSdk

inductive Json
  | null
  | bool (value : Bool)
  | int (value : Int)
  | real (literal : List Char)
  | str (value : String)
  | arr (elements : List Json)
  | obj (members : List (String × Json))

namespace Json

def isWhitespace (c : Char) : Bool :=
  c = ' ' || c = '\t' || c = '\n' || c = '\r'

def skipWhitespace : List Char → List Char
  | [] => []
  | c :: rest => if isWhitespace c then skipWhitespace rest else c :: rest

def hexDigit? (c : Char) : Option Nat :=
  if '0' ≤ c ∧ c ≤ '9' then some (c.toNat - '0'.toNat)
  else if 'a' ≤ c ∧ c ≤ 'f' then some (c.toNat - 'a'.toNat + 10)
  else if 'A' ≤ c ∧ c ≤ 'F' then some (c.toNat - 'A'.toNat + 10)
  else none

/-- The UTF-16 code unit that four hexadecimal digits denote. -/
def codeUnit? (d₁ d₂ d₃ d₄ : Char) : Option Nat := do
  let h₁ ← hexDigit? d₁
  let h₂ ← hexDigit? d₂
  let h₃ ← hexDigit? d₃
  let h₄ ← hexDigit? d₄
  return ((h₁ * 16 + h₂) * 16 + h₃) * 16 + h₄

def isHighSurrogate (unit : Nat) : Bool :=
  0xD800 ≤ unit && unit ≤ 0xDBFF

def isLowSurrogate (unit : Nat) : Bool :=
  0xDC00 ≤ unit && unit ≤ 0xDFFF

/-- The character a surrogate pair stands for. -/
def surrogatePair (high low : Nat) : Char :=
  Char.ofNat (0x10000 + (high - 0xD800) * 0x400 + (low - 0xDC00))

/-- The escapes that consist of a backslash and one more character. -/
def simpleEscape? : Char → Option Char
  | '"' => some '"'
  | '\\' => some '\\'
  | '/' => some '/'
  | 'b' => some '\x08'
  | 'f' => some '\x0c'
  | 'n' => some '\n'
  | 'r' => some '\r'
  | 't' => some '\t'
  | _ => none

/-- A character of a string that stands for itself in a JSON text. -/
def VerbatimChar (c : Char) : Prop :=
  c ≠ '"' ∧ c ≠ '\\' ∧ 0x20 ≤ c.toNat

instance (c : Char) : Decidable (VerbatimChar c) :=
  inferInstanceAs (Decidable (_ ∧ _ ∧ _))

/-- A string that can be pasted between quotes without any escaping. -/
def Verbatim (s : String) : Prop :=
  ∀ c ∈ s.toList, VerbatimChar c

instance (s : String) : Decidable (Verbatim s) :=
  inferInstanceAs (Decidable (∀ c ∈ s.toList, VerbatimChar c))

def prependChar (c : Char) (read : Option (List Char × List Char)) :
    Option (List Char × List Char) :=
  read.map fun (content, rest) => (c :: content, rest)

/-- Read the content of a string and its closing quote; the opening quote has
been read. -/
def readString : List Char → Option (List Char × List Char)
  | [] => none
  | c :: rest =>
      if c = '"' then some ([], rest)
      else if c = '\\' then
        match rest with
        | 'u' :: d₁ :: d₂ :: d₃ :: d₄ :: rest =>
            match codeUnit? d₁ d₂ d₃ d₄ with
            | none => none
            | some unit =>
                if isHighSurrogate unit then
                  match rest with
                  | '\\' :: 'u' :: e₁ :: e₂ :: e₃ :: e₄ :: rest =>
                      match codeUnit? e₁ e₂ e₃ e₄ with
                      | none => none
                      | some low =>
                          if isLowSurrogate low then
                            prependChar (surrogatePair unit low)
                              (readString rest)
                          else none
                  | _ => none
                else if isLowSurrogate unit then none
                else prependChar (Char.ofNat unit) (readString rest)
        | e :: rest =>
            match simpleEscape? e with
            | none => none
            | some c => prependChar c (readString rest)
        | [] => none
      else if c.toNat < 0x20 then none
      else prependChar c (readString rest)

def isDigit (c : Char) : Bool :=
  '0' ≤ c && c ≤ '9'

/-- Split off the longest prefix of decimal digits. -/
def spanDigits : List Char → List Char × List Char
  | [] => ([], [])
  | c :: rest =>
      if isDigit c then
        let (digits, rest) := spanDigits rest
        (c :: digits, rest)
      else ([], c :: rest)

/-- The digits of an integer part: a zero alone or a run without a leading
zero. -/
def readIntegerPart (chars : List Char) : Option (List Char × List Char) :=
  match spanDigits chars with
  | ([], _) => none
  | ('0' :: _ :: _, _) => none
  | (digits, rest) => some (digits, rest)

/-- An optional fraction: a point and at least one digit. -/
def readFraction : List Char → Option (List Char × List Char)
  | '.' :: rest =>
      match spanDigits rest with
      | ([], _) => none
      | (digits, rest) => some ('.' :: digits, rest)
  | chars => some ([], chars)

def readExponentSign : List Char → List Char × List Char
  | '+' :: rest => (['+'], rest)
  | '-' :: rest => (['-'], rest)
  | chars => ([], chars)

/-- An optional exponent: `e`, an optional sign and at least one digit. -/
def readExponent : List Char → Option (List Char × List Char)
  | c :: rest =>
      if c = 'e' ∨ c = 'E' then
        let (sign, rest) := readExponentSign rest
        match spanDigits rest with
        | ([], _) => none
        | (digits, rest) => some (c :: sign ++ digits, rest)
      else some ([], c :: rest)
  | [] => some ([], [])

def digitsValue (digits : List Char) : Nat :=
  digits.foldl (fun value c => value * 10 + (c.toNat - '0'.toNat)) 0

def readNumber (negative : Bool) (chars : List Char) :
    Option (Json × List Char) := do
  let (integer, rest) ← readIntegerPart chars
  let (fraction, rest) ← readFraction rest
  let (exponent, rest) ← readExponent rest
  if fraction.isEmpty && exponent.isEmpty then
    let magnitude : Int := digitsValue integer
    return (.int (if negative then -magnitude else magnitude), rest)
  else
    let sign := if negative then ['-'] else []
    return (.real (sign ++ integer ++ fraction ++ exponent), rest)

/-- Read a fixed literal name. -/
def readLiteral (literal : List Char) (value : Json) (chars : List Char) :
    Option (Json × List Char) :=
  if literal.isPrefixOf chars then
    some (value, chars.drop literal.length)
  else none

/-- Read the name of a member with the colon behind it. -/
def readName (chars : List Char) : Option (String × List Char) :=
  match skipWhitespace chars with
  | '"' :: rest =>
      match readString rest with
      | none => none
      | some (name, rest) =>
          match skipWhitespace rest with
          | ':' :: rest => some (String.ofList name, rest)
          | _ => none
  | _ => none

mutual

/-- Read one value.  Every array or object that is entered, and every element
or member in it, takes one unit of fuel. -/
def readValue : Nat → List Char → Option (Json × List Char)
  | 0, _ => none
  | fuel + 1, chars =>
      match skipWhitespace chars with
      | [] => none
      | c :: rest =>
          if c = '"' then
            (readString rest).map fun (content, rest) =>
              (.str (String.ofList content), rest)
          else if c = '[' then
            match skipWhitespace rest with
            | ']' :: rest => some (.arr [], rest)
            | _ =>
                (readElements fuel rest).map fun (elements, rest) =>
                  (.arr elements, rest)
          else if c = '{' then
            match skipWhitespace rest with
            | '}' :: rest => some (.obj [], rest)
            | _ =>
                (readMembers fuel rest).map fun (members, rest) =>
                  (.obj members, rest)
          else if c = 't' then readLiteral "rue".toList (.bool true) rest
          else if c = 'f' then readLiteral "alse".toList (.bool false) rest
          else if c = 'n' then readLiteral "ull".toList .null rest
          else if c = '-' then readNumber true rest
          else readNumber false (c :: rest)

/-- Read the elements of a non-empty array with its closing bracket. -/
def readElements : Nat → List Char → Option (List Json × List Char)
  | 0, _ => none
  | fuel + 1, chars =>
      match readValue fuel chars with
      | none => none
      | some (element, rest) =>
          match skipWhitespace rest with
          | [] => none
          | c :: rest =>
              if c = ',' then
                (readElements fuel rest).map fun (elements, rest) =>
                  (element :: elements, rest)
              else if c = ']' then some ([element], rest)
              else none

/-- Read the members of a non-empty object with its closing brace. -/
def readMembers : Nat → List Char → Option (List (String × Json) × List Char)
  | 0, _ => none
  | fuel + 1, chars =>
      match readName chars with
      | none => none
      | some (name, rest) =>
          match readValue fuel rest with
          | none => none
          | some (value, rest) =>
              match skipWhitespace rest with
              | [] => none
              | c :: rest =>
                  if c = ',' then
                    (readMembers fuel rest).map fun (members, rest) =>
                      ((name, value) :: members, rest)
                  else if c = '}' then some ([(name, value)], rest)
                  else none

end

/-- The value of a JSON text, if it is one.  Entering an array or an object and
reading one of its elements consumes at least one character for two units of
fuel. -/
def parse (text : String) : Option Json :=
  match readValue (2 * text.toList.length + 2) text.toList with
  | none => none
  | some (value, rest) =>
      match skipWhitespace rest with
      | [] => some value
      | _ => none

theorem readString_verbatim {content : List Char} (rest : List Char)
    (verbatim : ∀ c ∈ content, VerbatimChar c) :
    readString (content ++ '"' :: rest) = some (content, rest) := by
  induction content with
  | nil =>
      unfold readString
      simp
  | cons c content ih =>
      obtain ⟨notQuote, notBackslash, printable⟩ :=
        verbatim c List.mem_cons_self
      have tailRead := ih fun d mem => verbatim d (List.mem_cons_of_mem _ mem)
      rw [List.cons_append]
      unfold readString
      simp [notQuote, notBackslash, Nat.not_lt.mpr printable, tailRead, prependChar]

/-- The content read and its closing quote are no longer than the characters
they were read from, and as long only if all of them stand for themselves. -/
def MeasuredRead (chars content rest : List Char) : Prop :=
  content.length + 1 + rest.length ≤ chars.length ∧
    (chars.length ≤ content.length + 1 + rest.length →
      ∀ c ∈ content, VerbatimChar c)

/-- Reading one more character that took `cost` characters of the text. -/
private theorem measuredRead_prepend (cost : Nat) {c : Char}
    {chars tail content rest : List Char}
    (read : prependChar c (readString tail) = some (content, rest))
    (sizeEq : chars.length = tail.length + cost) (positive : 0 < cost)
    (single : cost = 1 → VerbatimChar c)
    (ih : ∀ {content rest}, readString tail = some (content, rest) →
      MeasuredRead tail content rest) :
    MeasuredRead chars content rest := by
  simp only [prependChar, Option.map_eq_some_iff, Prod.mk.injEq,
    Prod.exists] at read
  obtain ⟨tailContent, tailRest, tailRead, rfl, rfl⟩ := read
  obtain ⟨bound, tight⟩ := ih tailRead
  simp only [MeasuredRead, List.length_cons]
  refine ⟨by omega, fun sizeLe d mem => ?_⟩
  rcases List.mem_cons.mp mem with rfl | mem
  · exact single (by omega)
  · exact tight (by omega) d mem

/-- Escapes are longer than the characters they denote. -/
theorem readString_measured {chars content rest : List Char}
    (read : readString chars = some (content, rest)) :
    MeasuredRead chars content rest := by
  fun_induction readString chars generalizing content rest <;>
    try (simp at read; done)
  case case2 =>
      obtain ⟨rfl, rfl⟩ : [] = content ∧ _ = rest := by simpa using read
      simp [MeasuredRead]
      omega
  case case5 ih =>
      exact measuredRead_prepend 12 read rfl (by omega) (by omega) ih
  case case9 ih =>
      exact measuredRead_prepend 6 read rfl (by omega) (by omega) ih
  case case11 ih =>
      exact measuredRead_prepend 2 read rfl (by omega) (by omega) ih
  case case14 notQuote notBackslash printable ih =>
      exact measuredRead_prepend 1 read rfl (by omega)
        (fun _ => ⟨notQuote, notBackslash, Nat.not_lt.mp printable⟩) ih

theorem skipWhitespace_length_le (chars : List Char) :
    (skipWhitespace chars).length ≤ chars.length := by
  induction chars with
  | nil => simp [skipWhitespace]
  | cons c rest ih =>
      simp only [skipWhitespace]
      split
      · exact Nat.le_succ_of_le ih
      · exact Nat.le_refl _

theorem readNumber_ne_str {negative : Bool} {chars rest : List Char}
    {value : String} :
    readNumber negative chars ≠ some (.str value, rest) := by
  intro read
  simp only [readNumber, bind, Option.bind_eq_some_iff] at read
  obtain ⟨integer, _, fraction, _, exponent, _, result⟩ := read
  split at result <;> simp at result

theorem readLiteral_ne_str {literal chars rest : List Char} {value : Json}
    {content : String} (notStr : value ≠ .str content) :
    readLiteral literal value chars ≠ some (.str content, rest) := by
  simp [readLiteral, notStr]

/-- A string value is read from its content and two quotes at least. -/
theorem readValue_str {fuel : Nat} {chars rest : List Char} {content : String}
    (read : readValue fuel chars = some (.str content, rest)) :
    content.length + 2 + rest.length ≤ chars.length ∧
      (chars.length ≤ content.length + 2 + rest.length →
        Verbatim content) := by
  cases fuel with
  | zero => simp [readValue] at read
  | succ fuel =>
      have skipped := skipWhitespace_length_le chars
      simp only [readValue] at read
      split at read
      · simp at read
      · rename_i c tail start
        rw [start, List.length_cons] at skipped
        split_ifs at read
        · simp only [Option.map_eq_some_iff, Prod.mk.injEq, Json.str.injEq,
            Prod.exists] at read
          obtain ⟨chars', tailRest, tailRead, rfl, rfl⟩ := read
          obtain ⟨bound, tight⟩ := readString_measured tailRead
          simp only [String.length_ofList]
          refine ⟨by omega, fun sizeLe d mem => ?_⟩
          rw [String.toList_ofList] at mem
          exact tight (by omega) d mem
        · split at read <;> simp at read
        · split at read <;> simp at read
        · exact absurd read (readLiteral_ne_str (by simp))
        · exact absurd read (readLiteral_ne_str (by simp))
        · exact absurd read (readLiteral_ne_str (by simp))
        · exact absurd read readNumber_ne_str
        · exact absurd read readNumber_ne_str

/-- The characters that pasting strings as array elements takes: the content,
two quotes and a separator each. -/
def pastedLength (contents : List String) : Nat :=
  (contents.map fun content => content.length + 3).sum

/-- Strings read as the elements of an array are no longer than when pasted,
and as long only if every one of them can be pasted. -/
theorem readElements_strs {fuel : Nat} {chars rest : List Char}
    {contents : List String}
    (read : readElements fuel chars = some (contents.map .str, rest)) :
    pastedLength contents + rest.length ≤ chars.length ∧
      (chars.length ≤ pastedLength contents + rest.length →
        ∀ content ∈ contents, Verbatim content) := by
  induction fuel generalizing chars contents with
  | zero => simp [readElements] at read
  | succ fuel ih =>
      simp only [readElements] at read
      split at read
      · simp at read
      · rename_i element afterElement elementRead
        have skipped := skipWhitespace_length_le afterElement
        split at read
        · simp at read
        · rename_i c tail start
          rw [start, List.length_cons] at skipped
          split_ifs at read
          · simp only [Option.map_eq_some_iff, Prod.mk.injEq,
              Prod.exists] at read
            obtain ⟨elements, tailRest, tailRead, contentsEq, rfl⟩ := read
            cases contents with
            | nil => simp at contentsEq
            | cons content contents =>
                obtain ⟨rfl, rfl⟩ := List.cons_eq_cons.mp contentsEq
                obtain ⟨headBound, headTight⟩ := readValue_str elementRead
                obtain ⟨tailBound, tailTight⟩ := ih tailRead
                simp only [pastedLength, List.map_cons, List.sum_cons]
                  at tailBound tailTight ⊢
                refine ⟨by omega, fun sizeLe => ?_⟩
                simp only [List.forall_mem_cons]
                exact ⟨headTight (by omega), tailTight (by omega)⟩
          · simp only [Option.some.injEq, Prod.mk.injEq] at read
            obtain ⟨contentsEq, rfl⟩ := read
            cases contents with
            | nil => simp at contentsEq
            | cons content contents =>
                obtain ⟨rfl, tailNil⟩ := List.cons_eq_cons.mp contentsEq
                obtain rfl := List.map_eq_nil_iff.mp tailNil.symm
                obtain ⟨headBound, headTight⟩ := readValue_str elementRead
                simp only [pastedLength, List.map_cons, List.map_nil,
                  List.sum_cons, List.sum_nil]
                refine ⟨by omega, fun sizeLe => ?_⟩
                simp only [List.forall_mem_cons, List.not_mem_nil,
                  false_implies, implies_true, and_true]
                exact headTight (by omega)

/-- The text of array elements that are pasted between quotes, with the closing
bracket. -/
def pasteElements : String → List String → List Char
  | front, [] => '"' :: front.toList ++ ['"', ']']
  | front, next :: rest =>
      '"' :: front.toList ++ '"' :: ',' :: pasteElements next rest

theorem pasteElements_length (front : String) (rest : List String) :
    (pasteElements front rest).length = pastedLength (front :: rest) := by
  induction rest generalizing front with
  | nil => simp [pasteElements, pastedLength, String.length_toList]
  | cons next rest ih =>
      have tailLength := ih next
      simp only [pastedLength, List.map_cons, List.sum_cons] at tailLength
      simp only [pasteElements, pastedLength, List.map_cons, List.sum_cons,
        List.length_cons, List.length_append, String.length_toList, tailLength]
      omega

theorem readElements_pasteElements {fuel : Nat} (front : String)
    (rest : List String) (enough : rest.length + 2 ≤ fuel)
    (verbatim : ∀ content ∈ front :: rest, Verbatim content) :
    readElements fuel (pasteElements front rest) =
      some ((front :: rest).map .str, []) := by
  induction rest generalizing front fuel with
  | nil =>
      obtain ⟨fuel, rfl⟩ : ∃ n, fuel = n + 2 := ⟨fuel - 2, by simp at enough; omega⟩
      have frontRead := readString_verbatim [']'] (verbatim front (by simp))
      simp [pasteElements, readElements, readValue, skipWhitespace,
        isWhitespace, frontRead]
  | cons next rest ih =>
      obtain ⟨fuel, rfl⟩ : ∃ n, fuel = n + 2 := ⟨fuel - 2, by simp at enough; omega⟩
      have frontRead := readString_verbatim (',' :: pasteElements next rest)
        (verbatim front (by simp))
      have restEnough : rest.length + 2 ≤ fuel + 1 := by
        simp at enough
        omega
      have restRead := ih next restEnough
        (fun content mem => verbatim content (List.mem_cons_of_mem _ mem))
      rw [readElements.eq_2]
      simp [pasteElements, readValue, skipWhitespace, isWhitespace, frontRead,
        restRead]

theorem length_le_pastedLength (contents : List String) :
    contents.length ≤ pastedLength contents := by
  induction contents with
  | nil => simp
  | cons content contents ih =>
      simp only [pastedLength, List.map_cons, List.sum_cons,
        List.length_cons] at ih ⊢
      omega

/-- Pasting strings between the brackets and quotes of an array gives a text
that reads back as these strings exactly when none of them needs escaping. -/
theorem parse_pasteElements (front : String) (rest : List String) :
    parse (String.ofList ('[' :: pasteElements front rest)) =
        some (.arr ((front :: rest).map .str)) ↔
      ∀ content ∈ front :: rest, Verbatim content := by
  obtain ⟨tail, tailEq⟩ : ∃ tail, pasteElements front rest = '"' :: tail := by
    cases rest <;> exact ⟨_, rfl⟩
  have textLength := pasteElements_length front rest
  have readArray (fuel : Nat) :
      readValue (fuel + 1) ('[' :: pasteElements front rest) =
        (readElements fuel (pasteElements front rest)).map
          fun (elements, rest) => (.arr elements, rest) := by
    simp [readValue, skipWhitespace, isWhitespace, tailEq]
  have enough : rest.length + 2 ≤
      2 * ('[' :: pasteElements front rest).length + 1 := by
    have countLe := length_le_pastedLength (front :: rest)
    simp only [List.length_cons] at countLe ⊢
    omega
  rw [parse, String.toList_ofList, readArray]
  constructor
  · intro parsed
    cases read : readElements
        (2 * ('[' :: pasteElements front rest).length + 1)
        (pasteElements front rest) with
    | none =>
        rw [read] at parsed
        cases parsed
    | some result =>
        obtain ⟨elements, afterElements⟩ := result
        rw [read, Option.map_some] at parsed
        dsimp only at parsed
        split at parsed
        · simp only [Option.some.injEq, Json.arr.injEq] at parsed
          subst parsed
          exact (readElements_strs read).2 (by omega)
        · cases parsed
  · intro verbatim
    rw [readElements_pasteElements front rest enough verbatim]
    rfl

end Json

end ScorbitSdk
