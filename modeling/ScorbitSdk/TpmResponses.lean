import ScorbitSdk.HexCodecs

/-!
# Responses of the TPM

`CdcTpm::ParseTpmResponse` reads the bytes behind the first parenthesis of a
response, each with a `sscanf` of its own, and goes on two characters further.
It looks for the closing parenthesis and for the end of the response there only.
-/

namespace ScorbitSdk

open BoundedMemory IntegerTexts ByteArrays

namespace CdcTpm

/-! ## The code -/

/-- What comes of a call: the number of bytes and the bytes, or a read behind the
end of the response. -/
inductive Parse
  | returns (count : Nat) (outData : List Byte)
  | readsPastEnd
deriving DecidableEq

/-- The prefix of a hexadecimal number without digits. -/
def isBareMark (item : List Char) : Bool :=
  item = ['0', 'x'] || item = ['0', 'X']

/-- `sscanf` with the format `%02hhX`: two characters at most, behind white space,
read as `strtol` reads them.  A prefix without digits is a zero for some libraries
and nothing for others. -/
def sscanf (bareMark : Bool) (start : List Char) : Option Byte :=
  let item := (start.dropWhile isSpace).take 2
  if !bareMark && isBareMark item then none
  else (hexadecimal.scan item).map fun scan => BitVec.ofInt 8 scan.value

/-- The loop of the parser.  The text ends where the response has its `NUL`. -/
@[simp]
def parseBytes (bareMark : Bool) (outDataCapacity : Int) :
    List Char → List Byte → Parse
  | [], outData => .returns outData.length outData
  | c :: start, outData =>
      if c = ')' then .returns outData.length outData
      else if outDataCapacity ≤ outData.length then .returns 0 outData
      else
        match sscanf bareMark (c :: start), start with
        | none, _ => .returns 0 outData
        | some _, [] => .readsPastEnd
        | some byte, _ :: start =>
            parseBytes bareMark outDataCapacity start (outData ++ [byte])

/-- The text behind the first parenthesis, as `strchr` finds it. -/
def behindParenthesis (rx : List Char) : Option (List Char) :=
  match rx.dropWhile (· ≠ '(') with
  | [] => none
  | _ :: start => some start

/-- `static_cast<int>` of the capacity. -/
def intCapacity (outDataCapacity : Nat) : Int :=
  (BitVec.ofNat 32 outDataCapacity).toInt

/-- `ParseTpmResponse`, with a response or a null pointer, and the capacity of the
buffer or a null pointer. -/
def parseTpmResponse (bareMark : Bool) :
    Option (List Char) → Option Nat → Parse
  | some rx, some outDataCapacity =>
      if outDataCapacity = 0 then .returns 0 []
      else
        match behindParenthesis rx with
        | none => .returns 0 []
        | some start => parseBytes bareMark (intCapacity outDataCapacity) start []
  | _, _ => .returns 0 []

/-! ## Responses as they are meant -/

/-- Hexadecimal digits of the bytes, and a closing parenthesis. -/
def Encloses (start : List Char) (bytes : List Byte) : Prop :=
  ∃ digits rest, start = digits ++ ')' :: rest ∧
    (∀ c ∈ digits, isHexDigit c = true) ∧ digits.length = 2 * bytes.length ∧
      bytes = bytesOf digits

/-- What is behind the first parenthesis of a response. -/
def Opens (rx start : List Char) : Prop :=
  ∃ before, rx = before ++ '(' :: start ∧ '(' ∉ before

/-- The parser stays within the response, and returns a number other than zero only
for the bytes between parentheses, which it stores. -/
def ParsesResponse (bareMark : Bool) (rx : List Char) (outDataCapacity : Nat) :
    Prop :=
  ∃ count outData,
    parseTpmResponse bareMark (some rx) (some outDataCapacity) =
      .returns count outData ∧
    (0 < count → outData.length = count ∧ count ≤ outDataCapacity ∧
      ∃ start, Opens rx start ∧ Encloses start outData)

/-! ## Responses as they are read -/

/-- A byte is read here: a digit alone at the end, a digit and whatever is behind
it, or a sign and a digit, with white space before. -/
def ReadsByte (bareMark : Bool) (start : List Char) : Prop :=
  match (start.dropWhile isSpace).take 2 with
  | [] => False
  | [digit] => isHexDigit digit = true
  | first :: second :: _ =>
      ReadsPair (first, second) ∧
        (bareMark = true ∨ isBareMark [first, second] = false)

/-- A byte is read at each second character of the text. -/
def ReadsBytes (bareMark : Bool) (count : Nat) (start : List Char) : Prop :=
  ∀ i < count, ReadsByte bareMark (start.drop (2 * i))

/-- Bytes are read to the end of the text, or up to a parenthesis over something
else than their digits. -/
def Misread (bareMark : Bool) (rx : List Char) (outDataCapacity : Nat) : Prop :=
  ∃ (start : List Char) (count : Nat), Opens rx start ∧ 0 < count ∧
    (count : Int) ≤ intCapacity outDataCapacity ∧
      ReadsBytes bareMark count start ∧
        (start.length ≤ 2 * count ∨
          start[2 * count]? = some ')' ∧
            ∃ c ∈ start.take (2 * count), isHexDigit c = false)

/-! ## One byte -/

theorem behindParenthesis_eq_some_iff {rx start : List Char} :
    behindParenthesis rx = some start ↔ Opens rx start := by
  constructor
  · intro found
    have parts : rx.takeWhile (· ≠ '(') ++ rx.dropWhile (· ≠ '(') = rx :=
      List.takeWhile_append_dropWhile
    unfold behindParenthesis at found
    split at found
    · exact absurd found (by simp)
    · next c later dropped =>
      obtain rfl := Option.some.inj found
      have stops := List.head?_dropWhile_not (· ≠ '(') rx
      rw [dropped] at stops
      obtain rfl : c = '(' := by simpa using stops
      refine ⟨rx.takeWhile (· ≠ '('), by rw [← dropped, parts], ?_⟩
      intro member
      simpa using List.mem_takeWhile_imp member
  · rintro ⟨before, rfl, first⟩
    have skipped : (before ++ '(' :: start).dropWhile (· ≠ '(') = '(' :: start := by
      rw [List.dropWhile_append_of_pos]
      · simp
      · intro c member
        have notFirst : c ≠ '(' := fun same => first (by rwa [← same])
        simp [notFirst]
    rw [behindParenthesis, skipped]

theorem scan_nil : hexadecimal.scan [] = none :=
  rfl

theorem scan_singleton_isSome_iff {c : Char} (solid : isSpace c = false) :
    (hexadecimal.scan [c]).isSome = true ↔ isHexDigit c = true := by
  have unspaced : [c].dropWhile isSpace = [c] := by simp [solid]
  rcases eq_or_ne c '+' with rfl | notPlus
  · decide
  · rcases eq_or_ne c '-' with rfl | notMinus
    · decide
    · have signed : Numerals.readSign ([c].dropWhile isSpace) = (false, [c]) := by
        rw [unspaced, Numerals.readSign_of_ne notPlus notMinus]
      rw [scan_single signed, Option.isSome_map, isHexDigit_eq]

theorem scan_pair_isSome_iff {first second : Char} (solid : isSpace first = false) :
    (hexadecimal.scan [first, second]).isSome = true ↔ ReadsPair (first, second) := by
  rw [← stoi_isSome_iff, stoi_eq_scan solid, Option.isSome_map]

/-- What the parser finds in a text is what it takes for a byte. -/
theorem sscanf_isSome_iff {bareMark : Bool} {start : List Char} :
    (sscanf bareMark start).isSome = true ↔ ReadsByte bareMark start := by
  have solid := List.head?_dropWhile_not isSpace start
  unfold sscanf ReadsByte
  match skipped : start.dropWhile isSpace with
  | [] => simp [isBareMark, scan_nil]
  | [c] =>
      have solid : isSpace c = false := by simpa [skipped] using solid
      have found := scan_singleton_isSome_iff solid
      simp [isBareMark, found]
  | first :: second :: rest =>
      have solid : isSpace first = false := by simpa [skipped] using solid
      have found : (hexadecimal.scan [first, second]).isSome = true ↔ _ :=
        scan_pair_isSome_iff solid
      cases bareMark <;> cases bare : isBareMark [first, second] <;>
        simp [bare, found]

theorem ReadsByte.exists_cons {bareMark : Bool} {start : List Char}
    (reads : ReadsByte bareMark start) : ∃ c rest, start = c :: rest ∧ c ≠ ')' := by
  rcases start with _ | ⟨c, rest⟩
  · simp [ReadsByte] at reads
  · refine ⟨c, rest, rfl, ?_⟩
    rintro rfl
    have solid : isSpace ')' = false := rfl
    have noDigit : isHexDigit ')' = false := rfl
    rcases rest with _ | ⟨d, rest⟩ <;> simp [ReadsByte, solid, noDigit, ReadsPair] at reads

/-- Two digits are read as the byte that they denote. -/
theorem sscanf_of_digits (bareMark : Bool) {first second : Char} {rest : List Char}
    (high : isHexDigit first = true) (low : isHexDigit second = true) :
    sscanf bareMark (first :: second :: rest) =
      some (BitVec.ofNat 8 (16 * (Json.hexDigit? first).getD 0 +
        (Json.hexDigit? second).getD 0)) := by
  have solid : isSpace first = false := Numerals.not_isSpace_of_isDigit high
  have noMark : isBareMark [first, second] = false := by
    have notSmall : second ≠ 'x' := by rintro rfl; exact absurd low (by decide)
    have notLarge : second ≠ 'X' := by rintro rfl; exact absurd low (by decide)
    simp [isBareMark, notSmall, notLarge]
  have item : ((first :: second :: rest).dropWhile isSpace).take 2 =
      [first, second] := by
    simp [solid]
  have value := stoi_of_digits high low
  rw [stoi_eq_scan solid, Option.map_map] at value
  simp only [sscanf, item, noMark, Bool.and_false, Bool.false_eq_true, if_false]
  exact value

/-! ## All of the bytes -/

/-- The bytes that are read at each second character. -/
def readBytes (bareMark : Bool) : Nat → List Char → List Byte
  | 0, _ => []
  | count + 1, start =>
      (sscanf bareMark start).getD 0 :: readBytes bareMark count (start.drop 2)

theorem length_readBytes (bareMark : Bool) (count : Nat) (start : List Char) :
    (readBytes bareMark count start).length = count := by
  induction count generalizing start with
  | zero => rfl
  | succ count ih => rw [readBytes, List.length_cons, ih]

theorem readsBytes_succ_iff {bareMark : Bool} {count : Nat} {start : List Char} :
    ReadsBytes bareMark (count + 1) start ↔
      ReadsByte bareMark start ∧ ReadsBytes bareMark count (start.drop 2) := by
  rw [ReadsBytes, Nat.forall_lt_succ_left]
  simp only [Nat.mul_zero, List.drop_zero, ReadsBytes, List.drop_drop]
  have later : ∀ i, 2 * (i + 1) = 2 + 2 * i := fun i => by omega
  simp only [later]

section Steps

variable {bareMark : Bool} {outDataCapacity : Int} {outData : List Byte}

theorem parseBytes_end {start : List Char}
    (ends : start = [] ∨ start.head? = some ')') :
    parseBytes bareMark outDataCapacity start outData =
      .returns outData.length outData := by
  rw [parseBytes.eq_def]
  rcases start with _ | ⟨c, start⟩
  · rfl
  · obtain rfl : c = ')' := by simpa using ends
    exact if_pos rfl

theorem parseBytes_full {c : Char} {start : List Char} (more : c ≠ ')')
    (full : outDataCapacity ≤ outData.length) :
    parseBytes bareMark outDataCapacity (c :: start) outData =
      .returns 0 outData := by
  rw [parseBytes.eq_def]
  simp only [if_neg more, if_pos full]

theorem parseBytes_unread {c : Char} {start : List Char} (more : c ≠ ')')
    (unread : sscanf bareMark (c :: start) = none) :
    parseBytes bareMark outDataCapacity (c :: start) outData =
      .returns 0 outData := by
  rw [parseBytes.eq_def]
  simp only [if_neg more, unread, ite_self]

theorem parseBytes_last {c : Char} {byte : Byte} (more : c ≠ ')')
    (room : ¬outDataCapacity ≤ outData.length)
    (read : sscanf bareMark [c] = some byte) :
    parseBytes bareMark outDataCapacity [c] outData = .readsPastEnd := by
  rw [parseBytes.eq_def]
  simp only [if_neg more, if_neg room, read]

theorem parseBytes_next {c d : Char} {start : List Char} {byte : Byte}
    (more : c ≠ ')') (room : ¬outDataCapacity ≤ outData.length)
    (read : sscanf bareMark (c :: d :: start) = some byte) :
    parseBytes bareMark outDataCapacity (c :: d :: start) outData =
      parseBytes bareMark outDataCapacity start (outData ++ [byte]) := by
  rw [parseBytes.eq_def]
  simp only [if_neg more, if_neg room, read]

end Steps

/-- The parser reads all the bytes there are, and then goes on; with an odd number
of characters it is behind the end. -/
theorem parseBytes_of_readsBytes {bareMark : Bool} {outDataCapacity : Int}
    {count : Nat} {start : List Char} {outData : List Byte}
    (room : (outData.length + count : Int) ≤ outDataCapacity)
    (reads : ReadsBytes bareMark count start) :
    parseBytes bareMark outDataCapacity start outData =
      if 2 * count ≤ start.length then
        parseBytes bareMark outDataCapacity (start.drop (2 * count))
          (outData ++ readBytes bareMark count start)
      else .readsPastEnd := by
  induction count generalizing start outData with
  | zero => simp [readBytes]
  | succ count ih =>
      obtain ⟨first, later⟩ := readsBytes_succ_iff.mp reads
      obtain ⟨byte, read⟩ := Option.isSome_iff_exists.mp (sscanf_isSome_iff.mpr first)
      obtain ⟨c, rest, rfl, more⟩ := first.exists_cons
      have roomNow : ¬outDataCapacity ≤ outData.length := by omega
      rcases rest with _ | ⟨d, rest⟩
      · have short : ¬2 * (count + 1) ≤ [c].length := by
          simp only [List.length_singleton]
          omega
        rw [parseBytes_last more roomNow read, if_neg short]
      · have roomNext : ((outData ++ [byte]).length + count : Int) ≤
            outDataCapacity := by
          simp only [List.length_append, List.length_singleton]
          omega
        have lengths : 2 * count + 1 + 1 ≤ (c :: d :: rest).length ↔
            2 * count ≤ rest.length := by
          simp only [List.length_cons]
          omega
        have double : 2 * (count + 1) = 2 * count + 1 + 1 := by omega
        have later : ReadsBytes bareMark count rest := later
        rw [parseBytes_next more roomNow read, ih roomNext later]
        simp only [lengths, double, List.drop_succ_cons, List.drop_zero, readBytes, read,
          Option.getD_some, List.append_assoc, List.singleton_append]

/-- How the parser ends: at the end of the text or behind it, with an error, or at a
closing parenthesis. -/
theorem parseBytes_cases (bareMark : Bool) (outDataCapacity : Int)
    (start : List Char) (outData : List Byte) :
    ∃ count, ReadsBytes bareMark count start ∧
      (count = 0 ∨ (outData.length + count : Int) ≤ outDataCapacity) ∧
      (start.length ≤ 2 * count ∨ start[2 * count]? = some ')' ∨
        ∃ stored, parseBytes bareMark outDataCapacity start outData =
          .returns 0 stored) := by
  have none : ReadsBytes bareMark 0 start := nofun
  rcases start with _ | ⟨c, start⟩
  · exact ⟨0, none, .inl rfl, .inl (by simp)⟩
  · rcases eq_or_ne c ')' with rfl | more
    · exact ⟨0, none, .inl rfl, .inr (.inl rfl)⟩
    · by_cases room : outDataCapacity ≤ outData.length
      · exact ⟨0, none, .inl rfl, .inr (.inr ⟨_, parseBytes_full more room⟩)⟩
      · cases read : sscanf bareMark (c :: start) with
        | none =>
            exact ⟨0, none, .inl rfl, .inr (.inr ⟨_, parseBytes_unread more read⟩)⟩
        | some byte =>
            have first := sscanf_isSome_iff.mp (Option.isSome_of_eq_some read)
            rcases start with _ | ⟨d, start⟩
            · refine ⟨1, readsBytes_succ_iff.mpr ⟨first, nofun⟩, .inr (by omega),
                .inl (by simp)⟩
            · obtain ⟨count, later, bound, ends⟩ := parseBytes_cases bareMark
                outDataCapacity start (outData ++ [byte])
              simp only [List.length_append, List.length_singleton] at bound
              refine ⟨count + 1, readsBytes_succ_iff.mpr ⟨first, later⟩,
                .inr (by omega), ?_⟩
              have double : 2 * (count + 1) = 2 * count + 1 + 1 := by omega
              rw [parseBytes_next more room read, double, List.getElem?_cons_succ,
                List.getElem?_cons_succ]
              simp only [List.length_cons]
              rcases ends with short | closed | failed
              · exact .inl (by omega)
              · exact .inr (.inl closed)
              · exact .inr (.inr failed)

/-- Digits are read as the bytes that they denote. -/
theorem readBytes_of_digits {bareMark : Bool} {count : Nat} {start : List Char}
    (long : 2 * count ≤ start.length)
    (digits : ∀ c ∈ start.take (2 * count), isHexDigit c = true) :
    readBytes bareMark count start = bytesOf (start.take (2 * count)) := by
  induction count generalizing start with
  | zero => simp [readBytes, bytesOf, pairs]
  | succ count ih =>
      have double : 2 * (count + 1) = 2 * count + 1 + 1 := by omega
      rcases start with _ | ⟨first, _ | ⟨second, rest⟩⟩
      · simp at long
      · simp only [List.length_singleton] at long
        omega
      · rw [double, List.take_succ_cons, List.take_succ_cons] at digits ⊢
        simp only [List.forall_mem_cons] at digits
        obtain ⟨high, low, digits⟩ := digits
        simp only [List.length_cons] at long
        rw [readBytes, sscanf_of_digits bareMark high low, Option.getD_some,
          List.drop_succ_cons, List.drop_succ_cons, List.drop_zero,
          ih (by omega) digits, bytesOf, bytesOf, pairs, List.map_cons]

/-! ## Whole responses -/

theorem intCapacity_le (outDataCapacity : Nat) :
    intCapacity outDataCapacity ≤ outDataCapacity := by
  rw [intCapacity, BitVec.toInt_eq_toNat_cond, BitVec.toNat_ofNat]
  split <;> omega

/-- Only the first parenthesis opens a response. -/
theorem Opens.unique {rx first second : List Char} (one : Opens rx first)
    (other : Opens rx second) : first = second := by
  have found := behindParenthesis_eq_some_iff.mpr one
  rw [behindParenthesis_eq_some_iff.mpr other] at found
  exact (Option.some.inj found).symm

/-- Digits and a parenthesis are behind the first parenthesis exactly where they
are read up to it. -/
theorem encloses_iff {start : List Char} {bytes : List Byte} :
    Encloses start bytes ↔
      start[2 * bytes.length]? = some ')' ∧
        (∀ c ∈ start.take (2 * bytes.length), isHexDigit c = true) ∧
          bytes = bytesOf (start.take (2 * bytes.length)) := by
  constructor
  · rintro ⟨digits, rest, rfl, areDigits, length, denoted⟩
    rw [← length, List.take_left, List.getElem?_append_right (Nat.le_refl _)]
    exact ⟨by simp, areDigits, denoted⟩
  · rintro ⟨closed, areDigits, denoted⟩
    obtain ⟨inside, closes⟩ := List.getElem?_eq_some_iff.mp closed
    refine ⟨_, start.drop (2 * bytes.length + 1), ?_, areDigits, ?_, denoted⟩
    · rw [← closes, ← List.drop_eq_getElem_cons inside, List.take_append_drop]
    · rw [List.length_take]
      omega

/-- The result where bytes are read up to the end or up to a parenthesis. -/
theorem parseTpmResponse_of_readsBytes {bareMark : Bool} {rx start : List Char}
    {count outDataCapacity : Nat} (opens : Opens rx start) (positive : 0 < count)
    (room : (count : Int) ≤ intCapacity outDataCapacity)
    (reads : ReadsBytes bareMark count start)
    (ends : start.length ≤ 2 * count ∨ start[2 * count]? = some ')') :
    parseTpmResponse bareMark (some rx) (some outDataCapacity) =
      if 2 * count ≤ start.length then
        .returns count (readBytes bareMark count start)
      else .readsPastEnd := by
  have some_ : outDataCapacity ≠ 0 := by
    have := intCapacity_le outDataCapacity
    omega
  have ended : start.drop (2 * count) = [] ∨
      (start.drop (2 * count)).head? = some ')' := by
    rw [List.drop_eq_nil_iff, List.head?_drop]
    exact ends
  have roomNow : (([] : List Byte).length + count : Int) ≤
      intCapacity outDataCapacity := by simpa using room
  simp only [parseTpmResponse, if_neg some_, behindParenthesis_eq_some_iff.mpr opens]
  rw [parseBytes_of_readsBytes roomNow reads, parseBytes_end ended, List.nil_append,
    length_readBytes]

/-- Nothing is expected of a response for which 0 is returned. -/
theorem parsesResponse_of_returns_zero {bareMark : Bool} {rx : List Char}
    {outDataCapacity : Nat} {stored : List Byte}
    (result : parseTpmResponse bareMark (some rx) (some outDataCapacity) =
      .returns 0 stored) : ParsesResponse bareMark rx outDataCapacity :=
  ⟨0, stored, result, fun positive => absurd positive (Nat.lt_irrefl 0)⟩

/-- Digits up to the parenthesis are returned as their bytes. -/
theorem parsesResponse_of_closed {bareMark : Bool} {rx start : List Char}
    {count outDataCapacity : Nat} (opens : Opens rx start) (positive : 0 < count)
    (room : (count : Int) ≤ intCapacity outDataCapacity)
    (reads : ReadsBytes bareMark count start)
    (closed : start[2 * count]? = some ')')
    (digits : ∀ c ∈ start.take (2 * count), isHexDigit c = true) :
    ParsesResponse bareMark rx outDataCapacity := by
  have long : 2 * count ≤ start.length := by
    have := (List.getElem?_eq_some_iff.mp closed).choose
    omega
  have length := length_readBytes bareMark count start
  have read := parseTpmResponse_of_readsBytes opens positive room reads (.inr closed)
  rw [if_pos long] at read
  refine ⟨count, _, read, fun _ => ⟨length, ?_, start, opens, ?_⟩⟩
  · have := intCapacity_le outDataCapacity
    omega
  · rw [encloses_iff, length]
    exact ⟨closed, digits, readBytes_of_digits long digits⟩

/-- What is misread is returned without its parenthesis or its digits, or not at
all. -/
theorem Misread.not_parsesResponse {bareMark : Bool} {rx : List Char}
    {outDataCapacity : Nat} (misread : Misread bareMark rx outDataCapacity) :
    ¬ParsesResponse bareMark rx outDataCapacity := by
  rintro ⟨count, outData, result, stored⟩
  obtain ⟨start, read, opens, positive, room, reads, ending⟩ := misread
  have ends : start.length ≤ 2 * read ∨ start[2 * read]? = some ')' :=
    ending.imp_right And.left
  rw [parseTpmResponse_of_readsBytes opens positive room reads ends] at result
  split at result
  · simp only [Parse.returns.injEq] at result
    obtain ⟨rfl, rfl⟩ := result
    obtain ⟨length, -, other, opensOther, encloses⟩ := stored positive
    obtain rfl := opensOther.unique opens
    rw [encloses_iff, length] at encloses
    rcases ending with short | ⟨-, c, member, noDigit⟩
    · rw [List.getElem?_eq_none short] at encloses
      exact absurd encloses.1 (by simp)
    · rw [encloses.2.1 c member] at noDigit
      exact absurd noDigit (by simp)
  · exact absurd result (by simp)

theorem parsesResponse_of_opens {bareMark : Bool} {rx start : List Char}
    {outDataCapacity : Nat} (some_ : outDataCapacity ≠ 0) (opens : Opens rx start)
    (notMisread : ¬Misread bareMark rx outDataCapacity) :
    ParsesResponse bareMark rx outDataCapacity := by
  have result : parseTpmResponse bareMark (some rx) (some outDataCapacity) =
      parseBytes bareMark (intCapacity outDataCapacity) start [] := by
    simp only [parseTpmResponse, if_neg some_,
      behindParenthesis_eq_some_iff.mpr opens]
  obtain ⟨count, reads, room, ends⟩ :=
    parseBytes_cases bareMark (intCapacity outDataCapacity) start []
  rcases Nat.eq_zero_or_pos count with rfl | positive
  · rcases ends with empty | closed | ⟨stored, failed⟩
    · have ended := List.length_eq_zero_iff.mp (Nat.le_zero.mp empty)
      exact parsesResponse_of_returns_zero (result.trans (parseBytes_end (.inl ended)))
    · rw [Nat.mul_zero, ← List.head?_eq_getElem?] at closed
      exact parsesResponse_of_returns_zero (result.trans (parseBytes_end (.inr closed)))
    · exact parsesResponse_of_returns_zero (result.trans failed)
  · have room : (count : Int) ≤ intCapacity outDataCapacity := by
      rcases room with zero | room
      · omega
      · simpa using room
    rcases ends with short | closed | ⟨stored, failed⟩
    · exact absurd ⟨start, count, opens, positive, room, reads, .inl short⟩ notMisread
    · apply parsesResponse_of_closed opens positive room reads closed
      intro c member
      by_contra noDigit
      exact notMisread ⟨start, count, opens, positive, room, reads,
        .inr ⟨closed, c, member, eq_false_of_ne_true noDigit⟩⟩
    · exact parsesResponse_of_returns_zero (result.trans failed)

/-- The parser does what it is meant to exactly where nothing is misread. -/
theorem parsesResponse_iff (bareMark : Bool) (rx : List Char)
    (outDataCapacity : Nat) :
    ParsesResponse bareMark rx outDataCapacity ↔
      ¬Misread bareMark rx outDataCapacity := by
  constructor
  · exact fun parses misread => misread.not_parsesResponse parses
  · intro notMisread
    by_cases none : outDataCapacity = 0
    · have result : parseTpmResponse bareMark (some rx) (some outDataCapacity) =
          .returns 0 [] := by simp [parseTpmResponse, none]
      exact parsesResponse_of_returns_zero result
    · cases found : behindParenthesis rx with
      | none =>
          have result : parseTpmResponse bareMark (some rx) (some outDataCapacity) =
              .returns 0 [] := by simp [parseTpmResponse, found]
          exact parsesResponse_of_returns_zero result
      | some start =>
          exact parsesResponse_of_opens none
            (behindParenthesis_eq_some_iff.mp found) notMisread

/-- Without a closing parenthesis the byte is returned all the same, and half a byte
leads behind the end. -/
theorem not_parsesResponse_unclosed :
    (∀ bareMark, parseTpmResponse bareMark (some ['(', 'A', 'B']) (some 512) =
        .returns 1 [0xAB] ∧
      parseTpmResponse bareMark (some ['(', 'A']) (some 512) = .readsPastEnd) ∧
    ∀ bareMark, ¬ParsesResponse bareMark ['(', 'A', 'B'] 512 ∧
      ¬ParsesResponse bareMark ['(', 'A'] 512 := by
  have results : ∀ bareMark,
      parseTpmResponse bareMark (some ['(', 'A', 'B']) (some 512) =
        .returns 1 [0xAB] ∧
      parseTpmResponse bareMark (some ['(', 'A']) (some 512) = .readsPastEnd := by
    decide +kernel
  refine ⟨results, fun bareMark => ⟨?_, ?_⟩⟩
  · rintro ⟨count, outData, result, stored⟩
    rw [(results bareMark).1, Parse.returns.injEq] at result
    obtain ⟨rfl, rfl⟩ := result
    obtain ⟨-, -, start, opens, encloses⟩ := stored Nat.one_pos
    have opened : Opens ['(', 'A', 'B'] ['A', 'B'] := ⟨[], rfl, by simp⟩
    obtain rfl := opens.unique opened
    exact absurd (encloses_iff.mp encloses).1 (by decide)
  · rintro ⟨count, outData, result, -⟩
    rw [(results bareMark).2] at result
    exact absurd result (by simp)

end CdcTpm

end ScorbitSdk
