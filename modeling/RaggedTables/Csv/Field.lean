import RaggedTables.Value.Shown

/-! Fields of CSV text: a value is written plainly, what counts as nothing as the empty text; zero
is written, and so is true. -/

namespace RaggedTables.Value

/-- The text of a value in a field. -/
def field (v : Value) : String :=
  match v with
  | .bool true => "true"
  | .bool false => ""
  | v =>
    if v.isEmpty then
      match v.worth? with
      | some _ => "0"
      | none => ""
    else v.plain

end RaggedTables.Value
