import Mathlib.Data.List.TakeWhile

/-!
# Format strings with replacement fields

Outside of replacement fields a format string is copied, with `\x7b\x7b` and
`\x7d\x7d` for a brace each.  Where the values that are put in have no braces, a
text is formatted to itself exactly if it has none.
-/

namespace ScorbitSdk

def isBrace (c : Char) : Bool :=
  c = '{' || c = '}'

def NoBraces (text : List Char) : Prop :=
  ∀ c ∈ text, isBrace c = false

instance (text : List Char) : Decidable (NoBraces text) :=
  List.decidableBAll (fun c => isBrace c = false) text

/-- What a format string can be formatted to.  Where the arguments have no
braces (`plain`), a value has none, since a brace is not used to fill. -/
inductive Formatted (plain : Prop) : List Char → List Char → Prop
  | nil : Formatted plain [] []
  | text (c : Char) {rest formatted : List Char} : isBrace c = false →
      Formatted plain rest formatted →
        Formatted plain (c :: rest) (c :: formatted)
  | escaped (c : Char) {rest formatted : List Char} : isBrace c = true →
      Formatted plain rest formatted →
        Formatted plain (c :: c :: rest) (c :: formatted)
  | field (name value : List Char) {rest formatted : List Char} :
      (plain → NoBraces value) → Formatted plain rest formatted →
        Formatted plain ('{' :: (name ++ '}' :: rest)) (value ++ formatted)

/-- How format strings are read, for arguments of which some have no braces. -/
structure FormatLaws {Arguments : Type*}
    (format : List Char → Arguments → Option (List Char))
    (plain : Arguments → Prop) : Prop where
  copied : ∀ text arguments, NoBraces text → format text arguments = some text
  formatted : ∀ text arguments result, format text arguments = some result →
    Formatted (plain arguments) text result

theorem NoBraces.countP {text : List Char} (noBraces : NoBraces text) :
    text.countP isBrace = 0 :=
  List.countP_eq_zero.mpr fun c member => by simp [noBraces c member]

namespace Formatted

variable {plain : Prop} {text formatted : List Char}

/-- Every brace of a format string is paired with another one that is not
copied, or belongs to a field. -/
theorem countP_le (isFormatted : Formatted plain text formatted)
    (isPlain : plain) :
    2 * formatted.countP isBrace ≤ text.countP isBrace := by
  induction isFormatted with
  | nil => simp
  | text c isText _ ih => simpa [List.countP_cons, isText] using ih
  | escaped c isBrace _ ih =>
      simp only [List.countP_cons, isBrace, if_true]
      omega
  | field name value isPlainValue _ ih =>
      have noBraces := (isPlainValue isPlain).countP
      simp only [List.countP_cons, List.countP_append, noBraces]
      omega

/-- What is formatted begins with the text before the first brace. -/
theorem takeWhile_prefix (isFormatted : Formatted plain text formatted) :
    text.takeWhile (!isBrace ·) <+: formatted := by
  induction isFormatted with
  | nil => exact List.prefix_rfl
  | text c isText _ ih => simpa [isText] using ih
  | escaped c isBrace _ _ => simp [isBrace]
  | field name value _ _ _ => simp [isBrace]

theorem noBraces_prefix {before rest : List Char} (noBraces : NoBraces before)
    (isFormatted : Formatted plain (before ++ rest) formatted) :
    before <+: formatted := by
  refine List.IsPrefix.trans ?_ isFormatted.takeWhile_prefix
  rw [List.takeWhile_append_of_pos fun c member => by simp [noBraces c member]]
  exact List.prefix_append _ _

/-- Nothing is put before the text that a text is formatted to. -/
theorem ne_append {before : List Char} (noBraces : NoBraces before)
    (nonempty : before ≠ []) : ¬ Formatted plain (before ++ formatted) formatted := by
  intro isFormatted
  have plainBefore : ∀ c ∈ before, (!isBrace c) = true :=
    fun c member => by simp [noBraces c member]
  obtain ⟨rest, isRest⟩ := isFormatted.takeWhile_prefix
  rw [List.takeWhile_append_of_pos plainBefore] at isRest
  have longer := congrArg (List.takeWhile (!isBrace ·)) isRest
  rw [List.takeWhile_append_of_pos (fun c member =>
    (List.mem_append.mp member).elim (plainBefore c) List.mem_takeWhile_imp)]
    at longer
  have length := congrArg List.length longer
  have positive := List.length_pos_iff.mpr nonempty
  simp only [List.length_append] at length
  omega

end Formatted

namespace FormatLaws

variable {Arguments : Type*} {format : List Char → Arguments → Option (List Char)}
  {plain : Arguments → Prop} {arguments : Arguments} {text : List Char}

/-- Where the arguments have no braces, a text is formatted to itself exactly if
it has none. -/
theorem format_eq_self_iff (laws : FormatLaws format plain)
    (isPlain : plain arguments) :
    format text arguments = some text ↔ NoBraces text := by
  constructor
  · intro same
    have fewer := (laws.formatted _ _ _ same).countP_le isPlain
    have noneLeft : text.countP isBrace = 0 := by omega
    intro c member
    simpa using List.countP_eq_zero.mp noneLeft c member
  · exact laws.copied text arguments

end FormatLaws

end ScorbitSdk
