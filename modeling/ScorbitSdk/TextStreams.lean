import Mathlib.Data.List.Infix
import Mathlib.Data.List.TakeWhile

/-!
# Texts read through streams

`getline` up to a delimiter, the lines that a loop over it reads, and the words
that `>>` reads one after another.
-/

namespace ScorbitSdk

namespace TextStream

/-- What is read, and what is left; nothing where the stream is at its end. -/
def getline (delimiter : Char) (stream : List Char) :
    Option (List Char × List Char) :=
  if stream = [] then none
  else
    some (stream.takeWhile (· ≠ delimiter),
      (stream.dropWhile (· ≠ delimiter)).tail)

/-- A loop over `getline`: what follows the last delimiter is a line unless it is
empty. -/
def lines (delimiter : Char) (stream : List Char) : List (List Char) :=
  let parts := stream.splitOn delimiter
  if parts.getLast? = some [] then parts.dropLast else parts

/-- The white space of the classic locale. -/
def isSpace (c : Char) : Bool :=
  c = ' ' || c = '\t' || c = '\n' || c = '\x0b' || c = '\x0c' || c = '\r'

def words (text : List Char) : List (List Char) :=
  (text.splitOnP isSpace).filter (· ≠ [])

variable {delimiter : Char}

theorem getline_nil : getline delimiter [] = none :=
  rfl

theorem takeWhile_part {part : List Char} (free : delimiter ∉ part)
    (rest : List Char) :
    (part ++ delimiter :: rest).takeWhile (· ≠ delimiter) = part ∧
      (part ++ delimiter :: rest).dropWhile (· ≠ delimiter) =
        delimiter :: rest := by
  have all : ∀ c ∈ part, decide (c ≠ delimiter) = true := by
    intro c member
    exact decide_eq_true fun same => free (same ▸ member)
  constructor
  · rw [List.takeWhile_append_of_pos all]
    simp
  · rw [List.dropWhile_append_of_pos all]
    simp

/-- A part and the delimiter after it. -/
theorem getline_part {part : List Char} (free : delimiter ∉ part)
    (rest : List Char) :
    getline delimiter (part ++ delimiter :: rest) = some (part, rest) := by
  obtain ⟨taken, dropped⟩ := takeWhile_part free rest
  rw [getline, if_neg (by simp), taken, dropped, List.tail_cons]

theorem lines_nil : lines delimiter [] = [] :=
  rfl

/-- A line and the delimiter after it. -/
theorem lines_cons {line : List Char} (free : delimiter ∉ line)
    (rest : List Char) :
    lines delimiter (line ++ delimiter :: rest) = line :: lines delimiter rest := by
  have split := List.splitOn_append_cons_self_of_not_mem free rest
  unfold lines
  rw [split]
  dsimp only
  have nonempty := List.splitOn_ne_nil delimiter rest
  rw [List.getLast?_cons_of_ne_nil nonempty, List.dropLast_cons_of_ne_nil nonempty]
  split <;> rfl

/-- The lines are what `getline` reads one after another, to the end of the
stream. -/
theorem lines_eq (stream : List Char) :
    lines delimiter stream =
      match getline delimiter stream with
      | some (line, rest) => line :: lines delimiter rest
      | none => [] := by
  by_cases isEnd : stream = []
  · rw [isEnd, getline_nil, lines_nil]
  · by_cases delimited : delimiter ∈ stream
    · obtain ⟨line, rest, rfl, free⟩ := List.eq_append_cons_of_mem delimited
      rw [lines_cons free, getline_part free]
    · have all : ∀ c ∈ stream, decide (c ≠ delimiter) = true := by
        intro c member
        exact decide_eq_true fun same => delimited (same ▸ member)
      have last : lines delimiter stream = [stream] := by
        rw [lines, List.splitOn_eq_singleton delimited]
        exact if_neg fun same => isEnd (Option.some.inj same)
      rw [getline, if_neg isEnd, List.takeWhile_eq_self_iff.mpr all,
        List.dropWhile_eq_nil_iff.mpr all, last]
      rfl

/-- Where blanks are the only white space and no two of them meet, the words are
what lies between blanks. -/
theorem words_eq_splitOn {text : List Char}
    (blanks : ∀ c ∈ text, isSpace c = true → c = ' ')
    (noneEmpty : [] ∉ text.splitOn ' ') : words text = text.splitOn ' ' := by
  have same : text.splitOnP isSpace = text.splitOn ' ' := by
    rw [List.splitOn_eq_splitOnP]
    clear noneEmpty
    induction text with
    | nil => rfl
    | cons c text ih =>
        rw [List.forall_mem_cons] at blanks
        have agree : isSpace c = (c == ' ') := by
          apply Bool.eq_iff_iff.mpr
          rw [beq_iff_eq]
          exact ⟨blanks.1, fun isBlank => isBlank ▸ rfl⟩
        rw [List.splitOnP_cons_eq_if_modifyHead,
          List.splitOnP_cons_eq_if_modifyHead, agree, ih blanks.2]
  rw [words, same, List.filter_eq_self]
  intro part member
  exact decide_eq_true fun isEmpty => noneEmpty (isEmpty ▸ member)

/-- An element between separators is a part of the whole. -/
theorem infix_of_mem_splitOn {element text : List Char}
    (member : element ∈ text.splitOn delimiter) : element <:+: text := by
  induction text generalizing element with
  | nil =>
      rw [List.splitOn_nil, List.mem_singleton] at member
      rw [member]
  | cons c text ih =>
      rw [List.splitOn_cons_eq_if_modifyHead] at member
      split at member
      · rcases List.mem_cons.mp member with rfl | later
        · exact List.nil_infix
        · exact (ih later).trans (List.suffix_cons c text).isInfix
      · obtain ⟨first, others, isSplit⟩ :=
          List.exists_cons_of_ne_nil (List.splitOn_ne_nil delimiter text)
        rw [isSplit, List.modifyHead_cons] at member
        rcases List.mem_cons.mp member with rfl | later
        · have joined : [delimiter].intercalate (text.splitOn delimiter) = text :=
            List.intercalate_splitOn delimiter
          rw [isSplit] at joined
          have begins : first <+: text := by
            rw [← joined]
            cases others with
            | nil => simp
            | cons second others => simp [List.intercalate_cons_cons]
          exact ((List.prefix_cons_inj c).mpr begins).isInfix
        · have inText : element ∈ text.splitOn delimiter := by
            rw [isSplit]
            exact List.mem_cons_of_mem first later
          exact (ih inText).trans (List.suffix_cons c text).isInfix

end TextStream

end ScorbitSdk
