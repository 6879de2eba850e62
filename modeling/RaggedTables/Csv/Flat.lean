import RaggedTables.Csv.Document
import RaggedTables.Text.Pieces

/-! CSV text of flat records, one line each: the keys of the first record are the headers, and the
qualifier is taken out of the values. -/

namespace RaggedTables.FlatCsv

open Text (without)

/-- Renders the values that hold several: from a header and its value. -/
abbrev Render := (header : String) → Value → Except Fault Value

/-- Texts joined by a separator; anything else is refused. -/
def joinTexts (separator : String) (items : List Value) : Except Fault String :=
  let rec texts : Nat → List Value → Except Fault (List String)
    | _, [] => .ok []
    | i, .text s :: rest => do return s :: (← texts (i + 1) rest)
    | i, v :: _ => .error (.kind (.notJoinable i v.fullKind))
  do return separator.intercalate (← texts 0 items)

/-- The texts among values. -/
def textsOf (items : List Value) : List String :=
  items.filterMap fun v =>
    match v with
    | .text s => some s
    | _ => none

/-- A text between qualifiers, without those in it. -/
def qualify (qualifier text : String) : String := qualifier ++ without qualifier text ++ qualifier

/-- The value that is written for a header. -/
def rendered (render : Option Render) (header : String) (v : Value) : Except Fault Value :=
  match v with
  | .list _ | .tuple _ | .map _ =>
    match render with
    | none => .error (.kind (.unrendered (.text header) v.kind))
    | some render => render header v
  | v => .ok v

/-- The text of a value that is written. -/
def written : Value → String
  | .null => ""
  | v => v.plain

/-- The fields of a record. -/
def fieldsOf (render : Option Render) (record : Value) : List String → Except Fault (List String)
  | [] => .ok []
  | header :: rest =>
    match record with
    | .map entries => do
      let v ← rendered render header ((Fields.get? entries (.text header)).getD .null)
      return written v :: (← fieldsOf render record rest)
    | v => .error (.noAttribute v.fullKind "get")

/-- The number of fields of a record. -/
def sizeOf (record : Value) : Except Fault Nat :=
  match record.items? with
  | some items => .ok items.length
  | none => .error (.kind (.noLength record.fullKind))

/-- The lines of records. -/
def linesOf (headers : List String) (render : Option Render) (qualifier : String) :
    List Value → Except Fault (List String)
  | [] => .ok []
  | record :: rest => do
    let size ← sizeOf record
    if size ≠ headers.length then
      throw (.report (.cardinality headers.length size "Record"))
    let fields ← fieldsOf render record headers
    return ",".intercalate (fields.map (qualify qualifier)) ::
      (← linesOf headers render qualifier rest)

/-- The text of records; every line ends with a line break. -/
def generate (records : List Value) (render : Option Render) (qualifier : String) :
    Except Fault String :=
  match records with
  | [] => .ok ""
  | .map first :: _ => do
    let keys := first.map Prod.fst
    let head ← joinTexts (qualifier ++ "," ++ qualifier) keys
    let lines ← linesOf (textsOf keys) render qualifier records
    return String.join (((qualifier ++ head ++ qualifier) :: lines).map (· ++ "\n"))
  | v :: _ => .error (.noAttribute v.fullKind "keys")

end RaggedTables.FlatCsv
