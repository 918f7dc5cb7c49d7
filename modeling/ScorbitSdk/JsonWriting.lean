import ScorbitSdk.JsonText
import Mathlib.Data.List.Sort
import Mathlib.Data.String.Basic
import Mathlib.Tactic.IntervalCases

/-!
# Writing JSON texts

A value is written without white space, and of a string only what has to be
escaped is.  What is written is read back, whatever the value is; of numbers with
a fraction or an exponent there are none.
-/

namespace ScorbitSdk

namespace Json

/-- A control character without an escape of its own is written as a code
unit. -/
def escapeChar (c : Char) : List Char :=
  if c = '"' then ['\\', '"']
  else if c = '\\' then ['\\', '\\']
  else if c = '\x08' then ['\\', 'b']
  else if c = '\x0c' then ['\\', 'f']
  else if c = '\n' then ['\\', 'n']
  else if c = '\r' then ['\\', 'r']
  else if c = '\t' then ['\\', 't']
  else if c.toNat < 0x20 then
    ['\\', 'u', '0', '0', (c.toNat / 16).digitChar, (c.toNat % 16).digitChar]
  else [c]

def writeString (content : String) : List Char :=
  '"' :: content.toList.flatMap escapeChar ++ ['"']

def writeInt : Int → List Char
  | .ofNat magnitude => Nat.toDigits 10 magnitude
  | .negSucc magnitude => '-' :: Nat.toDigits 10 (magnitude + 1)

mutual

def write : Json → List Char
  | null => ['n', 'u', 'l', 'l']
  | bool true => ['t', 'r', 'u', 'e']
  | bool false => ['f', 'a', 'l', 's', 'e']
  | int value => writeInt value
  | real literal => literal
  | str value => writeString value
  | arr [] => ['[', ']']
  | arr (element :: elements) =>
      '[' :: (write element ++ writeElements elements)
  | obj [] => ['{', '}']
  | obj ((name, value) :: members) =>
      '{' :: (writeString name ++ ':' :: (write value ++ writeMembers members))

/-- The elements behind the first one, with the closing bracket. -/
def writeElements : List Json → List Char
  | [] => [']']
  | element :: elements => ',' :: (write element ++ writeElements elements)

def writeMembers : List (String × Json) → List Char
  | [] => ['}']
  | (name, value) :: members =>
      ',' :: (writeString name ++ ':' :: (write value ++ writeMembers members))

end

/-- `dump`. -/
def dump (value : Json) : String :=
  String.ofList (write value)

mutual

/-- There is no number with a fraction or an exponent in the value. -/
def IsExact : Json → Prop
  | real _ => False
  | arr elements => AreExact elements
  | obj members => MembersExact members
  | _ => True

def AreExact : List Json → Prop
  | [] => True
  | element :: elements => element.IsExact ∧ AreExact elements

def MembersExact : List (String × Json) → Prop
  | [] => True
  | (_, value) :: members => value.IsExact ∧ MembersExact members

end

/-! ## Strings -/

theorem codeUnit?_control {unit : Nat} (control : unit < 0x20) :
    codeUnit? '0' '0' (unit / 16).digitChar (unit % 16).digitChar =
      some unit := by
  revert unit
  decide

theorem readString_escapeChar (c : Char) (rest : List Char) :
    readString (escapeChar c ++ rest) = prependChar c (readString rest) := by
  unfold escapeChar
  split_ifs with quote backslash backspace formFeed lineFeed return' tab control
  case pos => subst quote; rfl
  case pos => subst backslash; rfl
  case pos => subst backspace; rfl
  case pos => subst formFeed; rfl
  case pos => subst lineFeed; rfl
  case pos => subst return'; rfl
  case pos => subst tab; rfl
  case pos =>
    have notHigh : isHighSurrogate c.toNat = false := by
      simp only [isHighSurrogate, Bool.and_eq_false_iff, decide_eq_false_iff_not]
      omega
    have notLow : isLowSurrogate c.toNat = false := by
      simp only [isLowSurrogate, Bool.and_eq_false_iff, decide_eq_false_iff_not]
      omega
    simp only [List.cons_append, List.nil_append]
    rw [readString.eq_def]
    simp [codeUnit?_control control, notHigh, notLow, Char.ofNat_toNat]
  case neg =>
    rw [List.singleton_append, readString.eq_def]
    simp [quote, backslash, control]

theorem readString_writeString (content rest : List Char) :
    readString (content.flatMap escapeChar ++ '"' :: rest) =
      some (content, rest) := by
  induction content with
  | nil =>
      unfold readString
      simp
  | cons c content ih =>
      rw [List.flatMap_cons, List.append_assoc, readString_escapeChar, ih]
      rfl

/-! ## Numbers -/

/-- Nothing that would go on with a number. -/
def EndsNumber (rest : List Char) : Prop :=
  ∀ c ∈ rest.head?, isDigit c = false ∧ c ≠ '.' ∧ c ≠ 'e' ∧ c ≠ 'E'

theorem spanDigits_append {digits rest : List Char}
    (all : ∀ c ∈ digits, isDigit c = true)
    (ends : ∀ c ∈ rest.head?, isDigit c = false) :
    spanDigits (digits ++ rest) = (digits, rest) := by
  induction digits with
  | nil =>
      cases rest with
      | nil => rfl
      | cons c rest =>
          have notDigit := ends c (by simp)
          simp [spanDigits, notDigit]
  | cons digit digits ih =>
      rw [List.forall_mem_cons] at all
      rw [List.cons_append, spanDigits, if_pos all.1, ih all.2]

theorem isDigit_of_mem_toDigits (number : Nat) {c : Char}
    (member : c ∈ Nat.toDigits 10 number) : isDigit c = true := by
  have digit := Nat.isDigit_of_mem_toDigits (by decide) (by decide) member
  simp only [Char.isDigit, Bool.and_eq_true, decide_eq_true_eq] at digit
  simp only [isDigit, Bool.and_eq_true, decide_eq_true_eq]
  exact digit

/-- A decimal number begins with a zero only if it is zero. -/
theorem head_toDigits_ne {number : Nat} (positive : 0 < number) :
    ∃ digit digits, Nat.toDigits 10 number = digit :: digits ∧ digit ≠ '0' := by
  induction number using Nat.strongRecOn with
  | ind number ih =>
      by_cases small : number < 10
      · refine ⟨number.digitChar, [], Nat.toDigits_of_lt_base small, ?_⟩
        interval_cases number <;> decide
      · obtain ⟨digit, digits, split, notZero⟩ :=
          ih (number / 10) (by omega) (by omega)
        refine ⟨digit, digits ++ [(number % 10).digitChar], ?_, notZero⟩
        rw [Nat.toDigits_of_base_le (by decide) (by omega), split]
        rfl

theorem digitsValue_toDigits (number : Nat) :
    digitsValue (Nat.toDigits 10 number) = number := by
  have value : Nat.ofDigitChars 10 (Nat.toDigits 10 number) 0 = number :=
    Nat.ofDigitChars_ten_toDigits
  rw [Nat.ofDigitChars_eq_foldl] at value
  simpa only [digitsValue, Nat.mul_comm] using value

theorem readIntegerPart_toDigits {number : Nat} {rest : List Char}
    (ends : EndsNumber rest) :
    readIntegerPart (Nat.toDigits 10 number ++ rest) =
      some (Nat.toDigits 10 number, rest) := by
  have spanned := spanDigits_append
    (fun c member => isDigit_of_mem_toDigits number member)
    (fun c member => (ends c member).1)
  rw [readIntegerPart, spanned]
  rcases Nat.eq_zero_or_pos number with rfl | positive
  · rfl
  · obtain ⟨digit, digits, split, notZero⟩ := head_toDigits_ne positive
    rw [split]
    cases digits <;> simp [notZero]

theorem readNumber_toDigits (negative : Bool) (number : Nat) {rest : List Char}
    (ends : EndsNumber rest) :
    readNumber negative (Nat.toDigits 10 number ++ rest) =
      some (.int (if negative then -number else number), rest) := by
  have noFraction : readFraction rest = some ([], rest) := by
    cases rest with
    | nil => rfl
    | cons c rest =>
        obtain ⟨-, notPoint, -⟩ := ends c (by simp)
        rw [readFraction.eq_def]
        split <;> simp_all
  have noExponent : readExponent rest = some ([], rest) := by
    cases rest with
    | nil => rfl
    | cons c rest =>
        obtain ⟨-, -, notSmall, notLarge⟩ := ends c (by simp)
        simp [readExponent, notSmall, notLarge]
  simp [readNumber, readIntegerPart_toDigits ends, noFraction, noExponent,
    digitsValue_toDigits]

/-! ## Values -/

mutual

/-- The fuel that reading a value takes. -/
def steps : Json → Nat
  | arr elements => 1 + stepsElements elements
  | obj members => 1 + stepsMembers members
  | _ => 1

def stepsElements : List Json → Nat
  | [] => 0
  | element :: elements => 1 + element.steps + stepsElements elements

def stepsMembers : List (String × Json) → Nat
  | [] => 0
  | (_, value) :: members => 1 + value.steps + stepsMembers members

end

theorem length_writeInt_pos (value : Int) : 0 < (writeInt value).length := by
  cases value with
  | ofNat magnitude => exact List.length_pos_iff.mpr Nat.toDigits_ne_nil
  | negSucc magnitude => exact Nat.succ_pos _

mutual

/-- A value takes fewer steps than twice its characters. -/
theorem steps_lt : ∀ value : Json, value.IsExact →
    value.steps < 2 * (write value).length
  | null, _ => by simp [steps, write]
  | bool true, _ => by simp [steps, write]
  | bool false, _ => by simp [steps, write]
  | int value, _ => by
      have := length_writeInt_pos value
      simp only [steps, write]
      omega
  | str value, _ => by
      simp only [steps, write, writeString, List.length_append, List.length_cons]
      omega
  | arr [], _ => by simp [steps, stepsElements, write]
  | arr (element :: elements), exact => by
      have first := steps_lt element exact.1
      have others := stepsElements_lt elements exact.2
      simp only [steps, stepsElements, write, List.length_cons,
        List.length_append]
      omega
  | obj [], _ => by simp [steps, stepsMembers, write]
  | obj ((name, value) :: members), exact => by
      have first := steps_lt value exact.1
      have others := stepsMembers_lt members exact.2
      simp only [steps, stepsMembers, write, List.length_cons,
        List.length_append]
      omega

theorem stepsElements_lt : ∀ elements : List Json, AreExact elements →
    stepsElements elements < 2 * (writeElements elements).length
  | [], _ => by simp [stepsElements, writeElements]
  | element :: elements, exact => by
      have first := steps_lt element exact.1
      have others := stepsElements_lt elements exact.2
      simp only [stepsElements, writeElements, List.length_cons,
        List.length_append]
      omega

theorem stepsMembers_lt : ∀ members : List (String × Json),
    MembersExact members →
      stepsMembers members < 2 * (writeMembers members).length
  | [], _ => by simp [stepsMembers, writeMembers]
  | (name, value) :: members, exact => by
      have first := steps_lt value exact.1
      have others := stepsMembers_lt members exact.2
      simp only [stepsMembers, writeMembers, List.length_cons,
        List.length_append]
      omega

end

/-- A character with which a value may begin. -/
def BeginsValue (c : Char) : Prop :=
  isWhitespace c = false ∧ c ≠ ']' ∧ c ≠ '}'

theorem beginsValue_of_isDigit {c : Char} (digit : isDigit c = true) :
    BeginsValue c := by
  refine ⟨?_, ?_, ?_⟩
  · simp only [isWhitespace, Bool.or_eq_false_iff, decide_eq_false_iff_not]
    refine ⟨⟨⟨?_, ?_⟩, ?_⟩, ?_⟩ <;> rintro rfl <;> exact absurd digit (by decide)
  · rintro rfl
    exact absurd digit (by decide)
  · rintro rfl
    exact absurd digit (by decide)

/-- Digits are read as a number, and nothing else begins with one. -/
theorem toDigits_eq_cons (number : Nat) :
    ∃ digit digits, Nat.toDigits 10 number = digit :: digits ∧
      isDigit digit = true := by
  obtain ⟨digit, digits, split⟩ :=
    List.exists_cons_of_ne_nil (Nat.toDigits_ne_nil (n := number) (b := 10))
  refine ⟨digit, digits, split, isDigit_of_mem_toDigits number ?_⟩
  rw [split]
  exact List.mem_cons_self

theorem write_eq_cons {value : Json} (exact : value.IsExact) :
    ∃ c tail, write value = c :: tail ∧ BeginsValue c := by
  have plain {c : Char} (begins : isWhitespace c = false ∧ c ≠ ']' ∧ c ≠ '}') :
      BeginsValue c := begins
  cases value with
  | null => exact ⟨_, _, rfl, plain (by decide)⟩
  | bool value => cases value <;> exact ⟨_, _, rfl, plain (by decide)⟩
  | int value =>
      cases value with
      | ofNat magnitude =>
          obtain ⟨digit, digits, split, isDigit⟩ := toDigits_eq_cons magnitude
          exact ⟨digit, digits, split, beginsValue_of_isDigit isDigit⟩
      | negSucc magnitude => exact ⟨_, _, rfl, plain (by decide)⟩
  | real literal => exact exact.elim
  | str value => exact ⟨_, _, rfl, plain (by decide)⟩
  | arr elements => cases elements <;> exact ⟨_, _, rfl, plain (by decide)⟩
  | obj members =>
      rcases members with - | ⟨⟨name, value⟩, members⟩ <;>
        exact ⟨_, _, rfl, plain (by decide)⟩

theorem skipWhitespace_of_begins {c : Char} (begins : isWhitespace c = false)
    (rest : List Char) : skipWhitespace (c :: rest) = c :: rest := by
  rw [skipWhitespace, begins]
  rfl

theorem readName_writeString (name : String) (rest : List Char) :
    readName (writeString name ++ ':' :: rest) = some (name, rest) := by
  have read := readString_writeString name.toList (':' :: rest)
  simp only [readName, writeString, List.cons_append, List.append_assoc,
    List.nil_append]
  rw [skipWhitespace_of_begins (by decide)]
  simp [read, skipWhitespace, isWhitespace]

theorem readValue_int {fuel : Nat} {value : Int} {rest : List Char}
    (ends : EndsNumber rest) :
    readValue (fuel + 1) (writeInt value ++ rest) = some (.int value, rest) := by
  cases value with
  | ofNat magnitude =>
      obtain ⟨digit, digits, split, isDigit⟩ := toDigits_eq_cons magnitude
      have read := readNumber_toDigits false magnitude ends
      have begins := beginsValue_of_isDigit isDigit
      rw [writeInt, split] at *
      rw [List.cons_append, readValue, skipWhitespace_of_begins begins.1]
      have other {c : Char} (notDigit : Json.isDigit c = false) : digit ≠ c := by
        rintro rfl
        rw [isDigit] at notDigit
        cases notDigit
      simp only [other (c := '"') (by decide), other (c := '[') (by decide),
        other (c := '{') (by decide), other (c := 't') (by decide),
        other (c := 'f') (by decide), other (c := 'n') (by decide),
        other (c := '-') (by decide), if_false]
      exact read
  | negSucc magnitude =>
      have read := readNumber_toDigits true (magnitude + 1) ends
      simp only [writeInt, List.cons_append]
      rw [readValue, skipWhitespace_of_begins (by decide)]
      simp only [Char.reduceEq, if_false, if_true]
      exact read

theorem endsNumber_cons {c : Char} {rest : List Char}
    (ends : isDigit c = false ∧ c ≠ '.' ∧ c ≠ 'e' ∧ c ≠ 'E') :
    EndsNumber (c :: rest) := by
  intro other isHead
  obtain rfl := Option.some.inj isHead
  exact ends

theorem endsNumber_writeElements (elements : List Json) (rest : List Char) :
    EndsNumber (writeElements elements ++ rest) := by
  cases elements with
  | nil => exact endsNumber_cons (by decide)
  | cons element elements => exact endsNumber_cons (by decide)

theorem endsNumber_writeMembers (members : List (String × Json))
    (rest : List Char) : EndsNumber (writeMembers members ++ rest) := by
  cases members with
  | nil => exact endsNumber_cons (by decide)
  | cons member members => exact endsNumber_cons (by decide)

theorem readValue_writeString (fuel : Nat) (value : String) (rest : List Char) :
    readValue (fuel + 1) (writeString value ++ rest) =
      some (.str value, rest) := by
  have read := readString_writeString value.toList rest
  simp only [writeString, List.cons_append, List.append_assoc, List.nil_append]
  rw [readValue, skipWhitespace_of_begins (by decide)]
  simp [read]

/-- An array is read by its elements, and an object by its members. -/
theorem readValue_arr {fuel : Nat} {element : Json} {elements : List Json}
    {rest : List Char} (exact : element.IsExact)
    (read : readElements fuel
      (write element ++ (writeElements elements ++ rest)) =
        some (element :: elements, rest)) :
    readValue (fuel + 1) (write (.arr (element :: elements)) ++ rest) =
      some (.arr (element :: elements), rest) := by
  obtain ⟨c, tail, split, begins⟩ := write_eq_cons exact
  rw [split] at read
  simp only [write, split, List.cons_append, List.append_assoc] at read ⊢
  rw [readValue, skipWhitespace_of_begins (by decide)]
  simp only [Char.reduceEq, if_false, if_true]
  rw [skipWhitespace_of_begins begins.1]
  split
  · rename_i closed
    exact absurd (List.cons.inj closed).1 begins.2.1
  · rw [read]
    rfl

theorem readValue_obj {fuel : Nat} {name : String} {value : Json}
    {members : List (String × Json)} {rest : List Char}
    (read : readMembers fuel (writeString name ++
      ':' :: (write value ++ (writeMembers members ++ rest))) =
        some ((name, value) :: members, rest)) :
    readValue (fuel + 1) (write (.obj ((name, value) :: members)) ++ rest) =
      some (.obj ((name, value) :: members), rest) := by
  simp only [write, writeString, List.cons_append, List.append_assoc,
    List.nil_append] at read ⊢
  rw [readValue, skipWhitespace_of_begins (by decide)]
  simp only [Char.reduceEq, if_false, if_true]
  rw [skipWhitespace_of_begins (by decide)]
  simp [read]

mutual

/-- A value is read from what was written, up to its end. -/
theorem readValue_write : ∀ (value : Json) (fuel : Nat) (rest : List Char),
    value.IsExact → value.steps ≤ fuel + 1 → EndsNumber rest →
      readValue (fuel + 1) (write value ++ rest) = some (value, rest)
  | null, _, _, _, _, _ => rfl
  | bool true, _, _, _, _, _ => rfl
  | bool false, _, _, _, _, _ => rfl
  | int _, _, _, _, _, ends => readValue_int ends
  | str value, fuel, rest, _, _, _ => readValue_writeString fuel value rest
  | arr [], _, _, _, _, _ => rfl
  | arr (element :: elements), fuel, rest, exact, enough, _ => by
      obtain ⟨less, rfl⟩ : ∃ less, fuel = less + 1 := by
        refine ⟨fuel - 1, ?_⟩
        simp only [steps, stepsElements] at enough
        omega
      simp only [steps] at enough
      exact readValue_arr exact.1 (readElements_write (element :: elements) less
        rest exact (by omega) element elements rfl)
  | obj [], _, _, _, _, _ => rfl
  | obj ((name, value) :: members), fuel, rest, exact, enough, _ => by
      obtain ⟨less, rfl⟩ : ∃ less, fuel = less + 1 := by
        refine ⟨fuel - 1, ?_⟩
        simp only [steps, stepsMembers] at enough
        omega
      simp only [steps] at enough
      exact readValue_obj (readMembers_write ((name, value) :: members) less
        rest exact (by omega) name value members rfl)

theorem readElements_write : ∀ (elements : List Json) (fuel : Nat)
    (rest : List Char), AreExact elements → stepsElements elements ≤ fuel + 1 →
      ∀ first others, elements = first :: others →
        readElements (fuel + 1)
            (write first ++ (writeElements others ++ rest)) =
          some (elements, rest)
  | [], _, _, _, _, _, _, impossible => by cases impossible
  | element :: elements, fuel, rest, exact, enough, first, others, split => by
      obtain ⟨rfl, rfl⟩ := List.cons.inj split
      have positive : 0 < element.steps := by cases element <;> simp [steps]
      rw [stepsElements] at enough
      obtain ⟨less, rfl⟩ : ∃ less, fuel = less + 1 := ⟨fuel - 1, by omega⟩
      have read := readValue_write element less (writeElements elements ++ rest)
        exact.1 (by omega) (endsNumber_writeElements elements rest)
      rw [readElements, read]
      cases tail : elements with
      | nil => simp [writeElements, skipWhitespace, isWhitespace]
      | cons next more =>
          have readRest := readElements_write elements less rest exact.2
            (by omega) next more tail
          rw [tail] at readRest
          simp [writeElements, skipWhitespace, isWhitespace, readRest]

theorem readMembers_write : ∀ (members : List (String × Json)) (fuel : Nat)
    (rest : List Char), MembersExact members →
      stepsMembers members ≤ fuel + 1 →
      ∀ name value others, members = (name, value) :: others →
        readMembers (fuel + 1) (writeString name ++
            ':' :: (write value ++ (writeMembers others ++ rest))) =
          some (members, rest)
  | [], _, _, _, _, _, _, _, impossible => by cases impossible
  | (ownName, own) :: members, fuel, rest, exact, enough, name, value, others,
      split => by
      obtain ⟨same, rfl⟩ := List.cons.inj split
      obtain ⟨rfl, rfl⟩ := Prod.mk.inj same
      have positive : 0 < own.steps := by cases own <;> simp [steps]
      rw [stepsMembers] at enough
      obtain ⟨less, rfl⟩ : ∃ less, fuel = less + 1 := ⟨fuel - 1, by omega⟩
      have read := readValue_write own less (writeMembers members ++ rest)
        exact.1 (by omega) (endsNumber_writeMembers members rest)
      rw [readMembers, readName_writeString]
      simp only [read]
      cases tail : members with
      | nil => simp [writeMembers, skipWhitespace, isWhitespace]
      | cons next more =>
          obtain ⟨nextName, next⟩ := next
          have readRest := readMembers_write members less rest exact.2
            (by omega) nextName next more tail
          rw [tail] at readRest
          simp [writeMembers, skipWhitespace, isWhitespace, readRest]

end

/-- What is written is read back. -/
theorem parse_dump {value : Json} (exact : value.IsExact) :
    parse (dump value) = some value := by
  have short := steps_lt value exact
  have read := readValue_write value (2 * (write value).length + 1) [] exact
    (by omega) (by intro c isHead; cases isHead)
  rw [List.append_nil] at read
  rw [parse, dump, String.toList_ofList, read]
  rfl

/-! ## Documents -/

theorem areExact_iff {elements : List Json} :
    AreExact elements ↔ ∀ element ∈ elements, element.IsExact := by
  induction elements with
  | nil => simp [AreExact]
  | cons element elements ih => rw [AreExact, ih, List.forall_mem_cons]

theorem membersExact_iff {members : List (String × Json)} :
    MembersExact members ↔ ∀ member ∈ members, member.2.IsExact := by
  induction members with
  | nil => simp [MembersExact]
  | cons member members ih => rw [MembersExact, ih, List.forall_mem_cons]

/-- An object; its members are kept in the order of their names. -/
def object (members : List (String × Json)) : Json :=
  obj (members.insertionSort (·.1 ≤ ·.1))

def member? (name : String) : Json → Option Json
  | obj members => members.lookup name
  | _ => none

theorem isExact_object {members : List (String × Json)} :
    (object members).IsExact ↔ ∀ member ∈ members, member.2.IsExact := by
  rw [object, IsExact, membersExact_iff]
  simp only [List.mem_insertionSort]

theorem lookup_of_perm {first second : List (String × Json)}
    (perm : first.Perm second) (nodup : (first.map Prod.fst).Nodup)
    (name : String) : first.lookup name = second.lookup name := by
  induction perm with
  | nil => rfl
  | cons member perm ih =>
      rw [List.map_cons, List.nodup_cons] at nodup
      rw [List.lookup_cons, List.lookup_cons, ih nodup.2]
  | swap later sooner rest =>
      have different : later.1 ≠ sooner.1 := by
        intro same
        simp [same] at nodup
      obtain ⟨laterName, later⟩ := later
      obtain ⟨soonerName, sooner⟩ := sooner
      rw [List.lookup_cons, List.lookup_cons, List.lookup_cons,
        List.lookup_cons]
      by_cases isLater : name = laterName
      · subst isLater
        have notSooner : (name == soonerName) = false := by simpa using different
        simp [notSooner]
      · have notLater : (name == laterName) = false := by simpa using isLater
        simp [notLater]
  | trans perm later ih laterIh =>
      have sameNames := perm.map Prod.fst
      rw [ih nodup, laterIh (sameNames.nodup_iff.mp nodup)]

/-- The order of the members is of no account to who looks one up. -/
theorem member?_object {members : List (String × Json)}
    (nodup : (members.map Prod.fst).Nodup) (name : String) :
    (object members).member? name = members.lookup name := by
  have sorted := List.perm_insertionSort (·.1 ≤ ·.1) members
  exact (lookup_of_perm sorted.symm nodup name).symm

end Json

end ScorbitSdk
