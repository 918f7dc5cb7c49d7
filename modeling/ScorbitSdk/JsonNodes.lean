import Mathlib.Data.List.Basic
import Mathlib.Data.String.Basic

/-!
# JSON documents

Documents as a JSON library for C++ keeps them, with the accessors that throw
where a member is missing or a value has another type: nothing is returned then.
Writing and parsing are parameters.
-/

namespace ScorbitSdk

/-- A document.  Of a floating-point number only its whole part is kept. -/
inductive JsonNode
  | null
  | boolean (value : Bool)
  | unsigned (value : BitVec 64)
  | integer (value : BitVec 64)
  | float (truncated : Int)
  | string (text : List Char)
  | array (elements : List JsonNode)
  | object (members : List (String × JsonNode))

namespace JsonNode

/-- `find`, which finds nothing in what is no object; `at` throws there. -/
def find? (key : String) : JsonNode → Option JsonNode
  | object members => members.lookup key
  | _ => none

def getString : JsonNode → Option (List Char)
  | string text => some text
  | _ => none

/-- `get<std::uint64_t>`, for which a boolean is no number. -/
def getUnsigned64 : JsonNode → Option (BitVec 64)
  | unsigned value => some value
  | integer value => some value
  | float truncated => some (BitVec.ofInt 64 truncated)
  | _ => none

/-- `value(key, fallback)` for a text; it throws where the document is no
object. -/
def stringValue (key : String) (fallback : List Char) :
    JsonNode → Option (List Char)
  | object members =>
      match members.lookup key with
      | some found => found.getString
      | none => some fallback
  | _ => none

/-- Texts and unsigned numbers. -/
def IsScalar : JsonNode → Prop
  | unsigned _ => True
  | string _ => True
  | _ => False

/-- Objects whose members are scalars, in the order of their keys. -/
def IsFlat : JsonNode → Prop
  | object members =>
      (members.map Prod.fst).Pairwise (· < ·) ∧
        ∀ member ∈ members, member.2.IsScalar
  | _ => False

end JsonNode

/-- Writing, which throws where a text is no UTF-8, and parsing, which throws
where a text is no JSON. -/
structure JsonTexts where
  dump : JsonNode → Option (List Char)
  parse : List Char → Option JsonNode

/-- The empty text is no JSON, and a flat object is parsed as it was written. -/
structure JsonTexts.Correct (texts : JsonTexts) : Prop where
  parse_nil : texts.parse [] = none
  parse_dump : ∀ node text, node.IsFlat → texts.dump node = some text →
    texts.parse text = some node

theorem JsonTexts.Correct.ne_nil {texts : JsonTexts} (correct : texts.Correct)
    {node : JsonNode} {text : List Char} (isFlat : node.IsFlat)
    (written : texts.dump node = some text) : text ≠ [] := by
  rintro rfl
  have parsed := correct.parse_dump node [] isFlat written
  rw [correct.parse_nil] at parsed
  cases parsed

end ScorbitSdk
