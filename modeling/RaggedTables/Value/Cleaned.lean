import RaggedTables.Fault
import RaggedTables.Text.Ansi
import RaggedTables.Text.Clean

/-! Cleaning values: the cleaning of texts, which only texts admit, and two questions that any value
answers. -/

namespace RaggedTables.Value

/-- The cleaned text of a cell. -/
def sanitised : Value → Except Fault String
  | .text s => .ok (Text.sanitise s)
  | v => .error (.noAttribute v.fullKind "replace")

/-- A change of texts, on values. -/
def changed (change : String → String) : Value → Except Fault String
  | .text s => .ok (change s)
  | v => .error (.kind (.notText v.fullKind))

/-- A text without control sequences and without blanks at its ends. -/
def withoutAnsi : Value → Except Fault String := changed Text.stripAnsi

/-- The letters, digits and underscores of a text. -/
def words : Value → Except Fault String := changed Text.wordsOnly

/-- Whether a value shows nothing: it is no text, or blank. -/
def isBlank : Value → Bool
  | .text s => Text.isBlankText s
  | _ => true

/-- The items of a list in one text; other values, and the empty list, as they are. -/
def joined (v separator : Value) : Except Fault Value :=
  match v with
  | .list (item :: items) =>
    match separator with
    | .text s => .ok (.text (s.intercalate ((item :: items).map plain)))
    | other => .error (.noAttribute other.fullKind "join")
  | v => .ok v

end RaggedTables.Value
