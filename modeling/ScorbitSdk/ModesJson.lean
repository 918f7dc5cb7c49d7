import ScorbitSdk.Modes
import ScorbitSdk.JsonText

/-!
# The JSON text of the modes

`Modes.jsonStr` pastes the mode strings between quotes.  The text it builds is
parsed again before a score message is published, and parsing gives the modes
back exactly when every one of them can stand in a JSON string as it is.
-/

namespace ScorbitSdk

namespace Modes

theorem pasteElements_append (front next : String) (rest : List String) :
    Json.pasteElements (front ++ "\",\"" ++ next) rest =
      '"' :: front.toList ++ '"' :: ',' :: Json.pasteElements next rest := by
  cases rest <;> simp [Json.pasteElements]

theorem foldl_paste (front : String) (rest : List String) :
    '"' :: (rest.foldl (fun a b => a ++ "\",\"" ++ b) front).toList ++
        ['"', ']'] =
      Json.pasteElements front rest := by
  induction rest generalizing front with
  | nil => rfl
  | cons next rest ih =>
      rw [List.foldl_cons, ih, pasteElements_append, Json.pasteElements]

/-- The text is an array whose elements are pasted between quotes. -/
theorem jsonStr_eq_paste {self : Modes} {front : String} {rest : List String}
    (modesEq : self.modes = front :: rest) :
    self.jsonStr = String.ofList ('[' :: Json.pasteElements front rest) := by
  rw [← String.toList_inj, String.toList_ofList, ← foldl_paste]
  simp [jsonStr, modesEq]

/-- Parsing the text gives the modes back, in order, exactly when none of them
contains a quote, a backslash or a control character. -/
theorem parse_jsonStr (self : Modes) :
    Json.parse self.jsonStr = some (.arr (self.modes.map .str)) ↔
      ∀ mode ∈ self.modes, Json.Verbatim mode := by
  cases modesEq : self.modes with
  | nil =>
      have emptyText : self.jsonStr = "[]" := by simp [jsonStr, modesEq]
      simp only [emptyText, List.map_nil, List.not_mem_nil, false_implies,
        implies_true, iff_true]
      simp [Json.parse, Json.readValue, Json.skipWhitespace,
        Json.isWhitespace]
  | cons front rest =>
      rw [jsonStr_eq_paste modesEq]
      exact Json.parse_pasteElements front rest

/-- The modes that any sequence of operations leaves behind survive the round
trip through `jsonStr` exactly when all of them are verbatim; in particular
they always do when the operations add verbatim modes only. -/
theorem parse_jsonStr_ofOps (ops : List (SteadyTime × ModesOp)) :
    (Json.parse (ofOps ops).jsonStr =
        some (.arr ((ofOps ops).modes.map .str)) ↔
      ∀ mode ∈ (ofOps ops).modes, Json.Verbatim mode) ∧
    ((∀ timed ∈ ops, ∀ mode, timed.2.added? = some mode →
        Json.Verbatim mode) →
      ∀ before, before <+: ops →
        Json.parse (ofOps before).jsonStr =
          some (.arr ((ofOps before).modes.map .str))) := by
  refine ⟨parse_jsonStr _, fun verbatim before isPrefix => ?_⟩
  rw [parse_jsonStr]
  intro mode mem
  obtain ⟨timed, timedMem, adds⟩ := mem_ofOps mem
  exact verbatim timed (isPrefix.subset timedMem) mode adds

/-- A quote in a mode ends its string early, and parsing the text fails. -/
theorem parse_jsonStr_quote :
    Json.parse (ofOps [(0, .addMode "MB:\"Jackpot\"")]).jsonStr = none := by
  rw [← Option.isNone_iff_eq_none]
  decide +kernel

end Modes

end ScorbitSdk
