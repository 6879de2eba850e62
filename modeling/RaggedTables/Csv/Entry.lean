import RaggedTables.Trace.Basic

/-! Entries of a CSV document. An entry has one cell for each header; a cell with several values
makes the entry as many rows high as there are values, and each column is filled from the top. -/

namespace RaggedTables

/-- A cell for each header. -/
structure CsvEntry where
  headers : List Value
  cells : List Value
deriving Inhabited

namespace CsvEntry

/-! ### Rows -/

/-- The empty text stands in slots that nothing fills. -/
def blank : Value := .text ""

/-- Puts a value into the first free slot of a column; a slot is free while it holds what counts as
nothing. -/
def place? : List Value → Value → Option (List Value)
  | [], _ => none
  | slot :: rest, v =>
    if slot.isEmpty then some (v :: rest) else (place? rest v).map (slot :: ·)

/-- Puts values into a column in order. -/
def placeAll? : List Value → List Value → Option (List Value)
  | slots, [] => some slots
  | slots, v :: rest =>
    match place? slots v with
    | some slots => placeAll? slots rest
    | none => none

/-- The number of values of a cell with several, else nothing. -/
def several (cell : Value) : Nat := (cell.several?.map List.length).getD 0

/-- The height of an entry: that of its longest cell, at least one. -/
def height (cells : List Value) : Nat := cells.foldl (fun h cell => max h (several cell)) 1

/-- The column of a cell. -/
def column? (height : Nat) (cell : Value) : Option (List Value) :=
  match cell.several? with
  | some items => placeAll? (List.replicate height blank) items
  | none => some (cell :: List.replicate (height - 1) blank)

/-- The rows of columns of one height. -/
def rowsOf (height : Nat) (columns : List (List Value)) : List (List Value) :=
  (List.range height).map fun i => columns.map fun column => column.getD i blank

/-- The rows of an entry. -/
def expand (headers cells : List Value) : Except Fault (List (List Value)) :=
  if cells.length ≠ headers.length then
    .error (.report (.cardinality headers.length cells.length "Entry"))
  else
    match cells.mapM (column? (height cells)) with
    | some columns => .ok (rowsOf (height cells) columns)
    | none => .error .outOfRange

/-- The items of a value that has a size. -/
def sizedItems (v : Value) : Except Fault (List Value) :=
  match v.items? with
  | some items => .ok items
  | none => .error (.kind (.noLength v.fullKind))

/-- The rows of the cells and headers that two values hold. -/
def expandValues (headers cells : Value) : Except Fault (List (List Value)) := do
  let cells ← sizedItems cells
  expand (← sizedItems headers) cells

/-! ### Cells -/

/-- An entry from a list of cells, or an empty one from no value. -/
def ofValue (headers : List Value) (data : Value) : Except Fault CsvEntry :=
  match data with
  | .null => .ok ⟨headers, headers.map fun _ => .null⟩
  | .list cells | .tuple cells =>
    if cells.length = headers.length then .ok ⟨headers, cells⟩
    else .error (.report (.cardinality headers.length cells.length "Line"))
  | v => .error (.kind (.notCells v.kind))

/-- The place of a header. -/
def indexOf (entry : CsvEntry) (header : Value) : Except Fault Nat :=
  match entry.headers.findIdx? fun h => h == header with
  | some i => .ok i
  | none => .error (.report (.unknownField header (.list entry.headers)))

/-- The cell under a header. -/
def get (entry : CsvEntry) (header : Value) : Except Fault Value := do
  let i ← entry.indexOf header
  match entry.cells[i]? with
  | some cell => return cell
  | none => throw .outOfRange

/-- A cell after a value is added to it: what counts as nothing gives way, anything else becomes the
first of several. -/
def extended (cell v : Value) : Value :=
  if cell.isEmpty then v
  else
    match cell with
    | .list items => .list (items ++ [v])
    | cell => .list [cell, v]

/-- Adds a value under a header; a mapping is refused. -/
def add (entry : CsvEntry) (header v : Value) : Except Fault CsvEntry :=
  match v with
  | .map _ => .error (.kind .mappingInCell)
  | v => do
    let i ← entry.indexOf header
    return { entry with cells := entry.cells.modify i fun cell => extended cell v }

/-! ### Text -/

/-- An entry as text: its cells by header. A header that cannot be a key has no text. -/
def text (entry : CsvEntry) : Except Fault String :=
  let pairs := entry.headers.zip entry.cells
  match Value.unfitItem? (pairs.map Prod.fst) with
  | some kind => .error (.kind (.unfitKey kind))
  | none => .ok ("CsvEntry(" ++ (Value.ofEntries pairs).shown ++ ")")

/-- What a trace shows of an entry. -/
def traced (entry : CsvEntry) : Shown :=
  .object (match entry.text with
    | .ok text => text
    | .error _ => "<CsvEntry instance at 0x0>")

/-- The traced rows of an entry. -/
def outputRows (entry : CsvEntry) : Traced (List (List Value)) :=
  .call "CsvEntry.output_rows" [entry.traced] (fun rows => .value (.list (rows.map .list)))
    (.lift (expand entry.headers entry.cells))

end CsvEntry

end RaggedTables
