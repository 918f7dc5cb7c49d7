import ScorbitSdk.ByteArrays
import ScorbitSdk.IntegerTexts

/-!
# Hexadecimal text of byte arrays

What `ByteArray::hex` writes with its case, separator and prefix, and which texts
the constructor from a text reads.  The constructor leaves pairs of characters to
`std::stoi`, which stops at the first character that is no digit and takes a sign.
-/

namespace ScorbitSdk

open BoundedMemory IntegerTexts

namespace ByteArrays

/-! ## Pairs of characters -/

theorem isSpace_plus : isSpace '+' = false :=
  rfl

theorem isSpace_minus : isSpace '-' = false :=
  rfl

/-- The characters of hexadecimal numbers, as the standard library reads them. -/
def hexadecimal : Numerals where
  base := 16
  isSpace := isSpace
  digit? := Json.hexDigit?
  marksBase := fun c => c = 'x' || c = 'X'
  digit?_zero := rfl
  digit?_plus := rfl
  digit?_minus := rfl
  isSpace_plus := isSpace_plus
  isSpace_minus := isSpace_minus
  digit?_of_isSpace := by
    intro c space
    have code : c.toNat ≤ 32 := by
      simp only [isSpace, Bool.or_eq_true, decide_eq_true_eq,
        Bool.and_eq_true] at space
      rcases space with rfl | space
      · decide
      · omega
    have below : ∀ d : Char, 32 < d.toNat → ¬d ≤ c := by
      intro d large le
      have := Char.le_def.mp le
      exact absurd (Nat.le_trans (UInt32.le_iff_toNat_le.mp this) code) (by
        exact Nat.not_le.mpr large)
    rw [Json.hexDigit?, if_neg fun digit => below '0' (by decide) digit.1,
      if_neg fun digit => below 'a' (by decide) digit.1,
      if_neg fun digit => below 'A' (by decide) digit.1]
  digit?_of_marksBase := by
    intro c marks
    simp only [Bool.or_eq_true, decide_eq_true_eq] at marks
    rcases marks with rfl | rfl <;> rfl

/-- Whether the character is a hexadecimal digit. -/
def isHexDigit (c : Char) : Bool :=
  hexadecimal.isDigit c

theorem isHexDigit_eq (c : Char) : isHexDigit c = (Json.hexDigit? c).isSome :=
  rfl

theorem scan_single {text : List Char} {negative : Bool} {c : Char}
    (signed : Numerals.readSign (text.dropWhile isSpace) = (negative, [c])) :
    hexadecimal.scan text =
      (Json.hexDigit? c).map fun digit => ⟨negative, digit, []⟩ := by
  have unmarked : hexadecimal.skipMark [c] = [c] := by
    rw [Numerals.skipMark]
    exact fun _ _ _ same => by simp at same
  have space : hexadecimal.isSpace = isSpace := rfl
  have isDigit : hexadecimal.isDigit c = (Json.hexDigit? c).isSome := rfl
  simp only [Numerals.scan, space, signed, unmarked, List.takeWhile, List.dropWhile,
    isDigit]
  cases read : Json.hexDigit? c with
  | none => rfl
  | some digit =>
      have value : hexadecimal.valueOf [c] = digit := by
        simp [Numerals.valueOf, hexadecimal, read]
      simp [value]

theorem scan_pair {text : List Char} {negative : Bool} {first second : Char}
    (signed : Numerals.readSign (text.dropWhile isSpace) =
      (negative, [first, second])) :
    (hexadecimal.scan text).map Scan.value =
      match Json.hexDigit? first, Json.hexDigit? second with
      | some high, some low =>
          some (Scan.value ⟨negative, 16 * high + low, []⟩)
      | some high, none => some (Scan.value ⟨negative, high, [second]⟩)
      | none, _ => none := by
  have unmarked : hexadecimal.skipMark [first, second] = [first, second] := by
    rw [Numerals.skipMark]
    exact fun _ _ _ same => by simp at same
  have space : hexadecimal.isSpace = isSpace := rfl
  have isDigit : ∀ c, hexadecimal.isDigit c = (Json.hexDigit? c).isSome :=
    fun _ => rfl
  simp only [Numerals.scan, space, signed, unmarked, List.takeWhile, List.dropWhile,
    isDigit]
  cases high : Json.hexDigit? first with
  | none => rfl
  | some highDigit =>
      cases low : Json.hexDigit? second <;>
        simp [Numerals.valueOf, hexadecimal, high, low]

/-- A pair is read as `std::stoi` reads any text. -/
theorem stoi_eq_scan {first second : Char} (solid : isSpace first = false) :
    stoi first second = (hexadecimal.scan [first, second]).map Scan.value := by
  have unspaced : [first, second].dropWhile isSpace = [first, second] := by
    simp [solid]
  rcases eq_or_ne first '+' with rfl | notPlus
  · rw [scan_single (by rw [unspaced]; rfl), stoi]
    have none : Json.hexDigit? '+' = none := rfl
    rw [none]
    cases Json.hexDigit? second <;> rfl
  · rcases eq_or_ne first '-' with rfl | notMinus
    · rw [scan_single (by rw [unspaced]; rfl), stoi]
      have none : Json.hexDigit? '-' = none := rfl
      rw [none]
      cases Json.hexDigit? second <;> rfl
    · have noSign : Numerals.readSign [first, second] = (false, [first, second]) :=
        Numerals.readSign_of_ne notPlus notMinus
      rw [scan_pair (by rw [unspaced, noSign]), stoi]
      cases Json.hexDigit? first <;> cases Json.hexDigit? second <;>
        simp [Scan.value, notPlus, notMinus]

/-- The pairs that a text is cut into. -/
def pairs : List Char → List (Char × Char)
  | first :: second :: rest => (first, second) :: pairs rest
  | _ => []

/-- Whether `std::stoi` finds a digit at the beginning of the pair, or behind a
sign there. -/
def ReadsPair (pair : Char × Char) : Prop :=
  isHexDigit pair.1 = true ∨
    (pair.1 = '+' ∨ pair.1 = '-') ∧ isHexDigit pair.2 = true

theorem stoi_isSome_iff (first second : Char) :
    (stoi first second).isSome = true ↔ ReadsPair (first, second) := by
  unfold stoi ReadsPair
  simp only [isHexDigit_eq]
  split
  · next digit _ high _ => simp [high]
  · next digit high _ => simp [high]
  · next digit high low =>
    simp only [high, low, Option.isSome_none, Option.isSome_some, and_true,
      Bool.false_eq_true, false_or]
    split
    · next plus => simp [plus]
    · next notPlus =>
      split
      · next minus => simp [minus]
      · next notMinus => simp [notPlus, notMinus]
  · next high low => simp [high, low]

/-- The bytes that pairs of hexadecimal digits denote. -/
def bytesOf (text : List Char) : List Byte :=
  (pairs text).map fun pair =>
    BitVec.ofNat 8 (16 * (Json.hexDigit? pair.1).getD 0 +
      (Json.hexDigit? pair.2).getD 0)

theorem stoi_of_digits {first second : Char}
    (high : isHexDigit first = true) (low : isHexDigit second = true) :
    (stoi first second).map (BitVec.ofInt 8) =
      some (BitVec.ofNat 8 (16 * (Json.hexDigit? first).getD 0 +
        (Json.hexDigit? second).getD 0)) := by
  obtain ⟨highDigit, highRead⟩ := Option.isSome_iff_exists.mp high
  obtain ⟨lowDigit, lowRead⟩ := Option.isSome_iff_exists.mp low
  change Json.hexDigit? first = some highDigit at highRead
  change Json.hexDigit? second = some lowDigit at lowRead
  simp only [stoi, highRead, lowRead, Option.map_some, Option.getD_some,
    Option.some.injEq]
  rw [← BitVec.ofInt_natCast]
  push_cast
  rfl

theorem ofPairs_cons (first second : Char) (rest : List Char) :
    ofPairs (first :: second :: rest) =
      (stoi first second).bind fun value =>
        (ofPairs rest).map (BitVec.ofInt 8 value :: ·) := by
  rw [ofPairs]
  cases stoi first second with
  | none => rfl
  | some value =>
      cases ofPairs rest <;> rfl

/-- Something is read from a text exactly where each of its pairs is read. -/
theorem ofPairs_isSome_iff (text : List Char) :
    (ofPairs text).isSome = true ↔ ∀ pair ∈ pairs text, ReadsPair pair := by
  induction text using pairs.induct with
  | case1 first second rest ih =>
      rw [pairs, List.forall_mem_cons, ← ih, ← stoi_isSome_iff, ofPairs_cons]
      cases stoi first second <;> cases ofPairs rest <;> simp
  | case2 text short =>
      rw [pairs, ofPairs]
      · simp
      · exact short
      · exact short

theorem length_ofPairs {text : List Char} {bytes : List Byte}
    (read : ofPairs text = some bytes) : bytes.length = text.length / 2 := by
  induction text using pairs.induct generalizing bytes with
  | case1 first second rest ih =>
      rw [ofPairs_cons] at read
      obtain ⟨value, -, read⟩ := Option.bind_eq_some_iff.mp read
      obtain ⟨later, laterRead, rfl⟩ := Option.map_eq_some_iff.mp read
      have length := ih laterRead
      simp only [List.length_cons]
      omega
  | case2 text short =>
      rw [ofPairs] at read
      · obtain rfl := Option.some.inj read
        rcases text with _ | ⟨first, _ | ⟨second, rest⟩⟩
        · rfl
        · simp
        · exact absurd rfl (short first second rest)
      · exact short

/-- Digits are read as the bytes that they denote. -/
theorem ofPairs_of_digits {text : List Char}
    (digits : ∀ c ∈ text, isHexDigit c = true) :
    ofPairs text = some (bytesOf text) := by
  induction text using pairs.induct with
  | case1 first second rest ih =>
      simp only [List.forall_mem_cons] at digits
      obtain ⟨high, low, digits⟩ := digits
      obtain ⟨value, read, byte⟩ :=
        Option.map_eq_some_iff.mp (stoi_of_digits high low)
      rw [ofPairs_cons, read, ih digits, Option.bind_some, Option.map_some, byte]
      rfl
  | case2 text short =>
      rw [ofPairs, bytesOf, pairs]
      · rfl
      · exact short
      · exact short

/-! ## Writing -/

theorem formatByte_spec (strCase : Case) (byte : Byte) :
    (∀ c ∈ formatByte strCase byte, isHexDigit c = true ∧ isSpace c = false) ∧
      bytesOf (formatByte strCase byte) = [byte] := by
  have bound := byte.isLt
  obtain ⟨high, highSolid⟩ := hexDigit?_digitChar strCase
    (show byte.toNat / 16 < 16 by omega)
  obtain ⟨low, lowSolid⟩ := hexDigit?_digitChar strCase
    (show byte.toNat % 16 < 16 by omega)
  constructor
  · intro c member
    simp only [formatByte, List.mem_cons, List.not_mem_nil, or_false] at member
    rcases member with rfl | rfl
    · exact ⟨by simp [isHexDigit_eq, high], highSolid⟩
    · exact ⟨by simp [isHexDigit_eq, low], lowSolid⟩
  · have value : 16 * (byte.toNat / 16) + byte.toNat % 16 = byte.toNat := by omega
    simp only [bytesOf, formatByte, pairs, List.map_cons, List.map_nil, high, low,
      Option.getD_some, value, List.cons.injEq, and_true]
    rw [BitVec.ofNat_toNat]
    exact BitVec.setWidth_eq byte

/-- White space between the bytes is taken out before they are read. -/
theorem filter_hexWith (strCase : Case) {separator : List Char}
    (spaces : ∀ c ∈ separator, isSpace c = true) (bytes : List Byte) :
    (hexWith strCase separator [] bytes).filter (!isSpace ·) =
      bytes.flatMap (formatByte strCase) := by
  have noSpaces : ∀ byte, (formatByte strCase byte).filter (!isSpace ·) =
      formatByte strCase byte := by
    intro byte
    rw [List.filter_eq_self]
    intro c member
    simp [((formatByte_spec strCase byte).1 c member).2]
  have nothing : separator.filter (!isSpace ·) = [] := by
    rw [List.filter_eq_nil_iff]
    intro c member
    simp [spaces c member]
  cases bytes with
  | nil => rfl
  | cons byte bytes =>
      simp only [hexWith, List.nil_append, List.filter_append, noSpaces,
        List.filter_flatMap, nothing, List.flatMap_cons]

theorem bytesOf_flatMap (strCase : Case) (bytes : List Byte) :
    bytesOf (bytes.flatMap (formatByte strCase)) = bytes := by
  induction bytes with
  | nil => rfl
  | cons byte bytes ih =>
      have written := (formatByte_spec strCase byte).2
      rw [List.flatMap_cons, formatByte, List.cons_append, List.cons_append,
        List.nil_append, bytesOf, pairs, List.map_cons]
      rw [formatByte, bytesOf, pairs, List.map_cons] at written
      rw [(List.cons.inj written).1]
      exact congrArg (byte :: ·) ih

theorem length_flatMap_formatByte (strCase : Case) (bytes : List Byte) :
    (bytes.flatMap (formatByte strCase)).length = 2 * bytes.length := by
  induction bytes with
  | nil => rfl
  | cons byte bytes ih =>
      rw [List.flatMap_cons, List.length_append, ih, formatByte]
      simp only [List.length_cons, List.length_nil]
      omega

/-! ## Reading -/

/-- Bytes are read back, in either case and with any white space between. -/
theorem ofHex_hexWith (strCase : Case) {separator : List Char}
    (spaces : ∀ c ∈ separator, isSpace c = true) (bytes : List Byte) :
    ofHex (hexWith strCase separator [] bytes) = bytes := by
  have digits : ∀ c ∈ bytes.flatMap (formatByte strCase),
      isHexDigit c = true := by
    intro c member
    obtain ⟨byte, -, member⟩ := List.mem_flatMap.mp member
    exact ((formatByte_spec strCase byte).1 c member).1
  have even : ¬(bytes.flatMap (formatByte strCase)).length % 2 = 1 := by
    rw [length_flatMap_formatByte]
    omega
  rw [ofHex, filter_hexWith strCase spaces, if_neg even, ofPairs_of_digits digits,
    Option.getD_some, bytesOf_flatMap]

/-- What is left of a text without its white space. -/
def unspaced (hexArray : List Char) : List Char :=
  hexArray.filter (!isSpace ·)

/-- When the constructor gives any bytes. -/
theorem ofHex_ne_nil_iff (hexArray : List Char) :
    ofHex hexArray ≠ [] ↔ (unspaced hexArray).length % 2 = 0 ∧
      unspaced hexArray ≠ [] ∧ ∀ pair ∈ pairs (unspaced hexArray), ReadsPair pair := by
  rw [← ofPairs_isSome_iff, ofHex]
  change (if (unspaced hexArray).length % 2 = 1 then []
    else (ofPairs (unspaced hexArray)).getD []) ≠ [] ↔ _
  split
  · next odd =>
    simp [odd]
  · next even =>
    have isEven : (unspaced hexArray).length % 2 = 0 := by omega
    cases read : ofPairs (unspaced hexArray) with
    | none => simp
    | some bytes =>
        have length := length_ofPairs read
        simp only [Option.getD_some, isEven, Option.isSome_some, and_true, true_and,
          ← List.length_pos_iff]
        omega

/-- Bytes come from hexadecimal digits only, and are those that the digits
denote. -/
def DecodesHex (hexArray : List Char) : Prop :=
  ofHex hexArray ≠ [] →
    unspaced hexArray ≠ [] ∧ (unspaced hexArray).length % 2 = 0 ∧
      (∀ c ∈ unspaced hexArray, isHexDigit c = true) ∧
        ofHex hexArray = bytesOf (unspaced hexArray)

/-- Bytes that are written in either case with white space between are read
back. -/
def RereadsHex : Prop :=
  ∀ (bytes : List Byte) (strCase : Case) (separator : List Char),
    (∀ c ∈ separator, isSpace c = true) →
      ofHex (hexWith strCase separator [] bytes) = bytes

/-- The text has an odd number of characters, nothing but digits, or a pair that
`std::stoi` throws on. -/
def ReadsNoOther (hexArray : List Char) : Prop :=
  (unspaced hexArray).length % 2 = 1 ∨
    (∀ c ∈ unspaced hexArray, isHexDigit c = true) ∨
      ∃ pair ∈ pairs (unspaced hexArray), ¬ReadsPair pair

theorem ofHex_of_digits {hexArray : List Char}
    (even : (unspaced hexArray).length % 2 = 0)
    (digits : ∀ c ∈ unspaced hexArray, isHexDigit c = true) :
    ofHex hexArray = bytesOf (unspaced hexArray) := by
  change (if (unspaced hexArray).length % 2 = 1 then []
    else (ofPairs (unspaced hexArray)).getD []) = _
  rw [if_neg (by omega), ofPairs_of_digits digits, Option.getD_some]

/-- For which texts the constructor gives bytes only for hexadecimal digits;
what `hex` has written is always read back. -/
theorem hexCodec_iff (hexArray : List Char) :
    DecodesHex hexArray ∧ RereadsHex ↔ ReadsNoOther hexArray := by
  have rereads : RereadsHex := fun bytes strCase separator spaces =>
    ofHex_hexWith strCase spaces bytes
  constructor
  · rintro ⟨decodes, -⟩
    by_cases something : ofHex hexArray ≠ []
    · exact .inr (.inl (decodes something).2.2.1)
    · rw [ofHex_ne_nil_iff] at something
      by_cases even : (unspaced hexArray).length % 2 = 0
      · by_cases nonempty : unspaced hexArray ≠ []
        · have unread : ¬∀ pair ∈ pairs (unspaced hexArray), ReadsPair pair :=
            fun all => something ⟨even, nonempty, all⟩
          push Not at unread
          exact .inr (.inr unread)
        · have empty := not_not.mp nonempty
          exact .inr (.inl (by simp [empty]))
      · exact .inl (by omega)
  · intro noOther
    refine ⟨fun something => ?_, rereads⟩
    obtain ⟨even, nonempty, all⟩ := (ofHex_ne_nil_iff hexArray).mp something
    rcases noOther with odd | digits | ⟨pair, member, unread⟩
    · omega
    · exact ⟨nonempty, even, digits, ofHex_of_digits even digits⟩
    · exact absurd (all pair member) unread

/-- The text "0x12" gives two bytes, the first of them for its prefix. -/
theorem not_decodesHex_prefix :
    ofHex ['0', 'x', '1', '2'] = [0x00, 0x12] ∧
      ¬(DecodesHex ['0', 'x', '1', '2'] ∧ RereadsHex) := by
  refine ⟨by decide, fun codec => ?_⟩
  have digits := (codec.1 (by decide)).2.2.1
  exact absurd (digits 'x' (by decide)) (by decide)

end ByteArrays

end ScorbitSdk
