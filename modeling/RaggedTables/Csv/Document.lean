import RaggedTables.Csv.Entry
import RaggedTables.Csv.Field
import RaggedTables.Csv.Options

/-! CSV documents: headers, options and entries. Rows are written one to a line, each field between
qualifiers and with delimiters between fields; nothing inside a field is escaped. -/

namespace RaggedTables

structure CsvDocument where
  headers : List Value
  options : CsvOptions
  entries : List CsvEntry
deriving Inhabited

/-- A list of values from one that holds some. -/
def Value.itemsOf (v : Value) : Except Fault (List Value) :=
  match v.items? with
  | some items => .ok items
  | none => .error (.kind (.notIterable v.fullKind))

namespace CsvDocument

/-- An empty document; a mapping gives its keys as headers. -/
def ofValues (headers options : Value) : Except Fault CsvDocument := do
  let headers ← headers.itemsOf
  let options ← CsvOptions.ofValue options
  return ⟨headers, options, []⟩

/-! ### Entries -/

/-- Adds an entry from cells in the order of the headers. -/
def addLine (doc : CsvDocument) (line : Value) : Except Fault (CsvDocument × CsvEntry) := do
  let entry ← CsvEntry.ofValue doc.headers line
  return ({ doc with entries := doc.entries ++ [entry] }, entry)

/-- Fills an entry with values by header. -/
def fill (entry : CsvEntry) : List (Value × Value) → Except Fault CsvEntry
  | [] => .ok entry
  | (key, v) :: rest => do
    if entry.headers.any fun h => h == key then fill (← entry.add key v) rest
    else throw (.report (.unknownField key (.list entry.headers)))

/-- Adds an entry from a mapping with one key for each header. -/
def addObject (doc : CsvDocument) (object : Value) : Except Fault (CsvDocument × CsvEntry) :=
  match object with
  | .map entries =>
    if entries.length ≠ doc.headers.length then
      .error (.report (.cardinality doc.headers.length entries.length "Object"))
    else do
      let entry ← CsvEntry.ofValue doc.headers .null
      let entry ← fill entry entries
      return ({ doc with entries := doc.entries ++ [entry] }, entry)
  | v => .error (.kind (.notMapping v.kind))

/-- Adds objects up to the first that is refused; what was added before it stays. -/
def addEach (doc : CsvDocument) : List Value → CsvDocument × Except Fault Unit
  | [] => (doc, .ok ())
  | object :: rest =>
    match doc.addObject object with
    | .ok (doc, _) => addEach doc rest
    | .error fault => (doc, .error fault)

/-- Adds the objects that a value holds. -/
def addObjects (doc : CsvDocument) (objects : Value) : CsvDocument × Except Fault Unit :=
  match objects.itemsOf with
  | .ok items => addEach doc items
  | .error fault => (doc, .error fault)

/-- The place of an index in a list of `size`; a negative index counts from the end. -/
def place? (size : Nat) (index : Int) : Option Nat :=
  let i := if index < 0 then index + size else index
  if 0 ≤ i ∧ i < size then some i.toNat else none

/-- Adds a value to a cell of an entry. -/
def addToEntry (doc : CsvDocument) (index : Int) (header v : Value) : Except Fault CsvDocument :=
  match place? doc.entries.length index with
  | none => .error .outOfRange
  | some i =>
    match doc.entries[i]? with
    | none => .error .outOfRange
    | some entry => do
      let entry ← entry.add header v
      return { doc with entries := doc.entries.set i entry }

/-! ### Text -/

/-- The rows of entries one after the other. -/
def entryRows : List CsvEntry → Traced (List (List Value))
  | [] => pure []
  | entry :: rest => do
    let first ← entry.outputRows
    let others ← entryRows rest
    pure (first ++ others)

/-- The headers and then the rows of every entry. -/
def rows (doc : CsvDocument) : Traced (List (List Value)) := do
  let rows ← entryRows doc.entries
  pure (doc.headers :: rows)

/-- A line of fields that are rendered. -/
def line (options : CsvOptions) (fields : List String) : String :=
  options.delimiter.intercalate (fields.map fun f => options.qualifier ++ f ++ options.qualifier)

/-- Rendered rows as text, without a line break at the end. -/
def encode (options : CsvOptions) (rows : List (List String)) : String :=
  "\n".intercalate (rows.map (line options))

/-- The traced text of a document. -/
def toText (doc : CsvDocument) : Traced String :=
  .call "CsvDocument.to_text"
    [.object "<candi.export.csv_document.CsvDocument object at 0x0>"]
    (fun text => .value (.text text))
    (do
      let rows ← doc.rows
      pure (encode doc.options (rows.map fun row => row.map Value.field)))

/-! ### Records -/

/-- The keys of records in the order in which they are first seen. -/
def keysOf : List Value → List Value → Except Fault (List Value)
  | seen, [] => .ok seen
  | seen, record :: rest => do
    let keys ← record.itemsOf
    match Value.unfitItem? keys with
    | some kind => throw (.kind (.unfitKey kind))
    | none =>
      keysOf (keys.foldl (fun seen key => if seen.contains key then seen else seen ++ [key]) seen)
        rest

/-- A mapping as a list of its entries, each a text; other values as they are. -/
def cellOf : Value → Value
  | .map entries => .list (entries.map fun entry => .text (entry.1.plain ++ ": " ++ entry.2.plain))
  | v => v

/-- The object of a record: a value for every header. -/
def objectOf (headers : List Value) (record : Value) : Except Fault Value :=
  match record with
  | .map entries =>
    .ok (.ofEntries (headers.map fun header =>
      (header, cellOf ((Fields.get? entries header).getD .null))))
  | v => if headers.isEmpty then .ok (.map []) else .error (.noAttribute v.fullKind "get")

/-- Adds the records of a table. -/
def addRecords (doc : CsvDocument) : List Value → Except Fault CsvDocument
  | [] => .ok doc
  | record :: rest => do
    let object ← objectOf doc.headers record
    let (doc, _) ← doc.addObject object
    addRecords doc rest

/-- The document of a list of records. Its headers are all their keys. -/
def fromRecords (records : List Value) (options : Value) : Except Fault CsvDocument := do
  let headers ← keysOf [] records
  let options ← CsvOptions.ofValue options
  addRecords ⟨headers, options, []⟩ records

end CsvDocument

end RaggedTables
