import Mathlib.Data.List.Basic
import Mathlib.Data.Option.Basic

/-!
# Reading comma-separated records

A reader for the comma-separated format of RFC 4180, as a state machine over
the characters.  A line may end in a line feed alone or in the carriage return
and line feed that the standard asks for, and the last line may lack its end.
-/

namespace ScorbitSdk

namespace Csv

abbrev CsvRecord := List String

inductive ReadState
  /-- Outside quotes. -/
  | plain
  /-- Between the quotes of a field. -/
  | quoted
  /-- After a quote met between the quotes of a field. -/
  | closed

/-- Read the rest of the input: `fields` are the fields of the current record
read so far and `field` is what has been read of the next one. -/
@[simp]
def readFrom : ReadState → CsvRecord → List Char → List Char →
    Option (List CsvRecord)
  | .plain, fields, field, [] =>
      if fields = [] ∧ field = [] then some []
      else some [fields ++ [String.ofList field]]
  | .quoted, _, _, [] => none
  | .closed, fields, field, [] => some [fields ++ [String.ofList field]]
  | .quoted, fields, field, '"' :: input =>
      readFrom .closed fields field input
  | .quoted, fields, field, char :: input =>
      readFrom .quoted fields (field ++ [char]) input
  | .closed, fields, field, '"' :: input =>
      readFrom .quoted fields (field ++ ['"']) input
  | _, fields, field, ',' :: input =>
      readFrom .plain (fields ++ [String.ofList field]) [] input
  | _, fields, field, '\n' :: input =>
      (readFrom .plain [] [] input).map
        fun records => (fields ++ [String.ofList field]) :: records
  | _, fields, field, '\r' :: '\n' :: input =>
      (readFrom .plain [] [] input).map
        fun records => (fields ++ [String.ofList field]) :: records
  | _, _, _, '\r' :: _ => none
  | .plain, fields, field, '"' :: input =>
      if field = [] then readFrom .quoted fields [] input else none
  | .plain, fields, field, char :: input =>
      readFrom .plain fields (field ++ [char]) input
  | .closed, _, _, _ :: _ => none

def read (text : String) : Option (List CsvRecord) :=
  readFrom .plain [] [] text.toList

/-- The value a record has in the named column of the header. -/
def column (header record : CsvRecord) (name : String) : Option String :=
  record[header.idxOf name]?

/-- The characters that stand for themselves in a field without quotes. -/
def PlainChar (char : Char) : Prop :=
  char ≠ ',' ∧ char ≠ '"' ∧ char ≠ '\n' ∧ char ≠ '\r'

theorem readFrom_plain_char {char : Char} (isPlain : PlainChar char)
    (fields : CsvRecord) (field input : List Char) :
    readFrom .plain fields field (char :: input) =
      readFrom .plain fields (field ++ [char]) input := by
  obtain ⟨notComma, notQuote, notFeed, notReturn⟩ := isPlain
  rw [readFrom] <;> simp_all

theorem readFrom_quoted_char {char : Char} (notQuote : char ≠ '"')
    (fields : CsvRecord) (field input : List Char) :
    readFrom .quoted fields field (char :: input) =
      readFrom .quoted fields (field ++ [char]) input := by
  rw [readFrom]
  simpa using notQuote

theorem readFrom_plain_text {text : List Char}
    (isPlain : ∀ char ∈ text, PlainChar char)
    (fields : CsvRecord) (field input : List Char) :
    readFrom .plain fields field (text ++ input) =
      readFrom .plain fields (field ++ text) input := by
  induction text generalizing field with
  | nil => simp
  | cons char text ih =>
      rw [List.cons_append, readFrom_plain_char
        (isPlain char List.mem_cons_self)]
      rw [ih (fun other member =>
        isPlain other (List.mem_cons_of_mem char member))]
      simp

theorem readFrom_quoted_text {text : List Char} (notQuote : '"' ∉ text)
    (fields : CsvRecord) (field input : List Char) :
    readFrom .quoted fields field (text ++ input) =
      readFrom .quoted fields (field ++ text) input := by
  induction text generalizing field with
  | nil => simp
  | cons char text ih =>
      rw [List.mem_cons, not_or] at notQuote
      rw [List.cons_append, readFrom_quoted_char (Ne.symm notQuote.1)]
      rw [ih notQuote.2]
      simp

/-- A plain field and the comma after it. -/
theorem readFrom_plain_field {text : List Char}
    (isPlain : ∀ char ∈ text, PlainChar char)
    (fields : CsvRecord) (input : List Char) :
    readFrom .plain fields [] (text ++ ',' :: input) =
      readFrom .plain (fields ++ [String.ofList text]) [] input := by
  rw [readFrom_plain_text isPlain, readFrom]
  all_goals simp

/-- Plain fields, each with a comma after it. -/
theorem readFrom_plain_fields {texts : List String}
    (isPlain : ∀ text ∈ texts, ∀ char ∈ text.toList, PlainChar char)
    (fields : CsvRecord) (input : List Char) :
    readFrom .plain fields []
        ((String.join (texts.map (· ++ ","))).toList ++ input) =
      readFrom .plain (fields ++ texts) [] input := by
  induction texts generalizing fields with
  | nil => simp
  | cons text texts ih =>
      have split : (String.join ((text :: texts).map (· ++ ","))).toList ++
          input = text.toList ++ ',' ::
            ((String.join (texts.map (· ++ ","))).toList ++ input) := by
        simp
      rw [split, readFrom_plain_field (isPlain text List.mem_cons_self)]
      rw [ih fun other member => isPlain other (List.mem_cons_of_mem text member)]
      simp

/-- A plain field and the end of the line after it. -/
theorem readFrom_plain_last {text : List Char}
    (isPlain : ∀ char ∈ text, PlainChar char)
    (fields : CsvRecord) (input : List Char) :
    readFrom .plain fields [] (text ++ '\n' :: input) =
      (readFrom .plain [] [] input).map
        fun records => (fields ++ [String.ofList text]) :: records := by
  rw [readFrom_plain_text isPlain, readFrom]
  all_goals simp

/-- A field between quotes and the end of the line after it. -/
theorem readFrom_quoted_last {text : List Char} (notQuote : '"' ∉ text)
    (fields : CsvRecord) (input : List Char) :
    readFrom .plain fields [] ('"' :: (text ++ '"' :: '\n' :: input)) =
      (readFrom .plain [] [] input).map
        fun records => (fields ++ [String.ofList text]) :: records := by
  have opened :
      readFrom .plain fields [] ('"' :: (text ++ '"' :: '\n' :: input)) =
        readFrom .quoted fields [] (text ++ '"' :: '\n' :: input) := by
    simp
  have ended : readFrom .quoted fields text ('"' :: '\n' :: input) =
      readFrom .closed fields text ('\n' :: input) := by
    rw [readFrom]
  rw [opened, readFrom_quoted_text notQuote, List.nil_append, ended]
  simp

/-- Quotes inside a quoted field are doubled. -/
def escape (text : List Char) : List Char :=
  text.flatMap fun char => if char = '"' then ['"', '"'] else [char]

theorem count_escape {char : Char} (notQuote : char ≠ '"')
    (text : List Char) : (escape text).count char = text.count char := by
  induction text with
  | nil => rfl
  | cons head text ih =>
      have split : escape (head :: text) =
          (if head = '"' then ['"', '"'] else [head]) ++ escape text := rfl
      rw [split, List.count_append, ih]
      by_cases isQuote : head = '"'
      · simp [isQuote, notQuote.symm]
      · simp [isQuote, List.count_cons, Nat.add_comm]

theorem length_lt_escape {text : List Char} (hasQuote : '"' ∈ text) :
    text.length < (escape text).length := by
  have grows : ∀ text : List Char, text.length ≤ (escape text).length := by
    intro text
    induction text with
    | nil => exact Nat.le_refl 0
    | cons head text ih =>
        rw [escape, List.flatMap_cons, List.length_append]
        change text.length ≤ (escape text).length at ih
        change _ ≤ _ + (escape text).length
        split <;> simp <;> omega
  induction text with
  | nil => cases hasQuote
  | cons head text ih =>
      have split : escape (head :: text) =
          (if head = '"' then ['"', '"'] else [head]) ++ escape text := rfl
      rw [split, List.length_append, List.length_cons]
      by_cases isQuote : head = '"'
      · have tailGrows := grows text
        simp only [isQuote, if_true, List.length_cons, List.length_nil]
        omega
      · have later : '"' ∈ text := by
          rcases List.mem_cons.mp hasQuote with same | later
          · exact absurd same.symm isQuote
          · exact later
        have tailGrows := ih later
        simp only [isQuote, if_false, List.length_cons, List.length_nil]
        omega

/-- What is read between quotes stands escaped in the input. -/
theorem readFrom_quoted_some (input : List Char) :
    (∀ fields field records,
      readFrom .quoted fields field input = some records →
        ∃ text rest, input = escape text ++ '"' :: rest ∧
          rest.head? ≠ some '"' ∧
          readFrom .closed fields (field ++ text) rest = some records) ∧
    ∀ fields field records,
      readFrom .closed fields field input = some records →
        ∃ text rest, '"' :: input = escape text ++ '"' :: rest ∧
          rest.head? ≠ some '"' ∧
          readFrom .closed fields (field ++ text) rest = some records := by
  induction input with
  | nil =>
      constructor
      · intro fields field records accepted
        simp at accepted
      · intro fields field records accepted
        exact ⟨[], [], rfl, by simp, by simpa using accepted⟩
  | cons char input ih =>
      obtain ⟨fromQuoted, fromClosed⟩ := ih
      constructor
      · intro fields field records accepted
        by_cases isQuote : char = '"'
        · subst isQuote
          rw [readFrom] at accepted
          exact fromClosed fields field records accepted
        · rw [readFrom_quoted_char isQuote] at accepted
          obtain ⟨text, rest, inputEq, notQuote, restRead⟩ :=
            fromQuoted fields (field ++ [char]) records accepted
          refine ⟨char :: text, rest, ?_, notQuote, ?_⟩
          · simp [escape, isQuote, inputEq]
          · simpa using restRead
      · intro fields field records accepted
        by_cases isQuote : char = '"'
        · subst isQuote
          rw [readFrom] at accepted
          obtain ⟨text, rest, inputEq, notQuote, restRead⟩ :=
            fromQuoted fields (field ++ ['"']) records accepted
          refine ⟨'"' :: text, rest, ?_, notQuote, ?_⟩
          · simp [escape, inputEq]
          · simpa using restRead
        · exact ⟨[], char :: input, rfl, by simpa using isQuote,
            by simpa using accepted⟩

/-- The fields read so far stay at the front of the record. -/
theorem readFrom_prefix {state : ReadState} {fields : CsvRecord}
    {field input : List Char} {records : List CsvRecord}
    (started : fields ≠ [])
    (accepted : readFrom state fields field input = some records) :
    ∃ record others, records = record :: others ∧ fields <+: record := by
  fun_induction readFrom state fields field input generalizing records <;>
    simp_all
  case case2 | case4 =>
    subst accepted
    exact ⟨_, ⟨[], rfl⟩, List.prefix_append _ _⟩
  case case8 ih =>
    obtain ⟨record, isHead, extended⟩ := ih
    exact ⟨record, isHead, (List.prefix_append _ _).trans extended⟩
  case case9 | case10 =>
    obtain ⟨others, -, rfl⟩ := accepted
    exact ⟨_, ⟨others, rfl⟩, List.prefix_append _ _⟩

/-- A closed field that no quote follows is the next one of the record. -/
theorem readFrom_closed_some {fields : CsvRecord} {field rest : List Char}
    {records : List CsvRecord} (notQuote : rest.head? ≠ some '"')
    (accepted : readFrom .closed fields field rest = some records) :
    ∃ record others, records = record :: others ∧
      fields ++ [String.ofList field] <+: record := by
  rcases rest with _ | ⟨char, rest⟩
  · simp only [readFrom, Option.some.injEq] at accepted
    exact ⟨_, [], accepted.symm, List.prefix_rfl⟩
  have ended : ∀ {line : List Char},
      ((readFrom .plain [] [] line).map
        fun records => (fields ++ [String.ofList field]) :: records) =
          some records →
        ∃ record others, records = record :: others ∧
          fields ++ [String.ofList field] <+: record := by
    intro line lineRead
    obtain ⟨others, -, rfl⟩ := Option.map_eq_some_iff.mp lineRead
    exact ⟨_, others, rfl, List.prefix_rfl⟩
  by_cases isComma : char = ','
  · subst isComma
    rw [readFrom] at accepted
    · exact readFrom_prefix (by simp) accepted
    · simp
  by_cases isFeed : char = '\n'
  · subst isFeed
    rw [readFrom] at accepted
    · exact ended accepted
    · simp
  by_cases isReturn : char = '\r'
  · subst isReturn
    rcases rest with _ | ⟨feed, rest⟩
    · simp at accepted
    by_cases isFeed : feed = '\n'
    · subst isFeed
      rw [readFrom] at accepted
      · exact ended accepted
      · simp
    · simp [isFeed] at accepted
  · have isOther : readFrom .closed fields field (char :: rest) = none := by
      rw [readFrom]
      all_goals simp_all
    rw [isOther] at accepted
    cases accepted

/-- A quoted field that ends the line but contains an undoubled quote is not
read back as it is. -/
theorem readFrom_unescaped {text : List Char} (hasQuote : '"' ∈ text)
    {fields : CsvRecord} {input : List Char} {records : List CsvRecord}
    (accepted : readFrom .plain fields []
      ('"' :: (text ++ '"' :: '\n' :: input)) = some records) :
    ∃ record others, records = record :: others ∧
      record[fields.length]? ≠ some (String.ofList text) := by
  have opened : readFrom .quoted fields []
      (text ++ '"' :: '\n' :: input) = some records := by
    simpa using accepted
  obtain ⟨field, rest, inputEq, notQuote, restRead⟩ :=
    (readFrom_quoted_some _).1 _ _ _ opened
  obtain ⟨record, others, recordsEq, extended⟩ :=
    readFrom_closed_some notQuote restRead
  refine ⟨record, others, recordsEq, ?_⟩
  have fieldRead : record[fields.length]? = some (String.ofList field) := by
    obtain ⟨more, rfl⟩ := extended
    simp
  rw [fieldRead]
  intro same
  have fieldEq : field = text := by
    have chars := congrArg (Option.map String.toList) same
    simpa using chars
  subst fieldEq
  -- The escaped field is longer than the field, so the input up to its closing
  -- quote reaches over the quote that was meant to close it, and then over the
  -- line feed, which the field does not have more often than its escaped form.
  have longer : field.length < (escape field).length :=
    length_lt_escape hasQuote
  have beyond : field ++ ['"', '\n'] <+: escape field ++ ['"'] := by
    have first : field ++ ['"', '\n'] <+: escape field ++ '"' :: rest := by
      rw [← inputEq]
      exact ⟨input, by simp⟩
    have second : escape field ++ ['"'] <+: escape field ++ '"' :: rest :=
      ⟨rest, by simp⟩
    apply List.prefix_of_prefix_length_le first second
    · simp only [List.length_append, List.length_cons, List.length_nil]
      omega
  have feeds : (field ++ ['"', '\n']).count '\n' ≤
      (escape field ++ ['"']).count '\n' := beyond.sublist.count_le _
  rw [List.count_append, List.count_append, count_escape (by decide)] at feeds
  have extra : (['"', '\n'] : List Char).count '\n' = 1 := by decide
  have none : (['"'] : List Char).count '\n' = 0 := by decide
  omega

end Csv

end ScorbitSdk
