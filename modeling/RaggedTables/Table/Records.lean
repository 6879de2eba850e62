import RaggedTables.Page.Lookup
import RaggedTables.Record.Assembly
import RaggedTables.Table.BodyRows
import RaggedTables.Table.Cells

/-! From a table to records. The templates are compiled once, the rows are selected, and every row
becomes a record; no row is left out and their order is kept. -/

namespace RaggedTables

/-- Where a table or a row comes from: a text of markup, an element of a page, or an element whose
page is not known. -/
inductive TableSource where
  | markup (text : String)
  | element (e : PageElement)
  | bare (e : PageElement)
deriving Inhabited

namespace Table

/-- What a trace shows of an element. -/
def elementShown : Shown :=
  .object "<candi.common.checked_html.CheckedHtmlElement object at 0x0>"

/-- What a trace shows of a processor. -/
def processorShown (processor : Option CellProcessor) : Shown :=
  match processor with
  | none => .value .null
  | some processor => .object ("<function " ++ processor.name ++ " at 0x0>")

/-- What a trace shows of records. -/
def recordsShown (records : List Record) : Shown := .value (.list (records.map .ofFields))

/-! ### Sources -/

/-- The element of a source. -/
def elementOf : TableSource → Except Fault PageElement
  | .markup text => PageElement.parse text
  | .element e => .ok e
  | .bare e => .ok { e with url := "" }

/-- What a trace shows of a source. -/
def sourceShown : TableSource → Shown
  | .markup text => .value (.text text)
  | .element _ => elementShown
  | .bare e => .object ("<Element " ++ e.tag ++ " at 0x0>")

/-! ### Rows -/

/-- The record of a row. -/
def rowRecord (row : PageElement) (headers : List (Option Header))
    (processor : Option CellProcessor) : Traced Record := do
  let cells ← Traced.lift (rowCells row processor)
  assembleRecord cells headers

/-- The record of a row from any source. -/
def sourceRecord (row : TableSource) (headers : List (Option Header))
    (processor : Option CellProcessor) : Traced Record := do
  let row ← Traced.lift (elementOf row)
  rowRecord row headers processor

/-- A fault in a row of a batch: a mismatch learns the number of its row. -/
def inRow (row : Nat) : Fault → Fault
  | .report report => .report (report.withRow row)
  | fault => fault

/-- The records of rows, the first of which has number `index`. -/
def recordsFrom (headers : List (Option Header)) (processor : Option CellProcessor) (index : Nat) :
    List TableSource → Traced (List Record)
  | [] => pure []
  | row :: rest => do
    let record ← (sourceRecord row headers processor).mapFault (inRow index)
    let more ← recordsFrom headers processor (index + 1) rest
    pure (record :: more)

/-- The traced records of rows. -/
def rowsToRecords (rows : List TableSource) (headers : List (Option Header))
    (processor : Option CellProcessor) : Traced (List Record) :=
  .call "rows_to_records"
    [.list (rows.map sourceShown), .headers headers, processorShown processor]
    recordsShown (recordsFrom headers processor 0 rows)

/-! ### Tables -/

/-- The rows of a table: its body rows, or those that a selector selects. -/
def selectRows (table : PageElement) (rows : Option String) : Except Fault (List PageElement) :=
  match rows with
  | none => .ok (table.others (bodyRows table.document table.place))
  | some selector => table.select selector "table rows" { least := 0 }

/-- The records of a table; `args` are the arguments that a trace shows. -/
def recordsOf (args : List Shown) (source : TableSource) (templates : List (Option String))
    (processor : Option CellProcessor) (rows : Option String) : Traced (List Record) :=
  .call "table_to_records" args recordsShown
    (do
      let headers ← compileHeaders templates
      let table ← Traced.lift (elementOf source)
      let rows ← Traced.lift (selectRows table rows)
      rowsToRecords (rows.map .element) headers processor)

/-- What a trace shows of templates. -/
def templatesShown (templates : List (Option String)) : Shown :=
  .value (.list (templates.map Value.template))

/-- The traced records of a table. -/
def tableToRecords (source : TableSource) (templates : List (Option String))
    (processor : Option CellProcessor) (rows : Option String) : Traced (List Record) :=
  recordsOf
    [sourceShown source, templatesShown templates, processorShown processor,
      .value (Report.optionalText rows)]
    source templates processor rows

/-- The traced records of an element whose cells stand as they are. -/
def elementRecords (table : PageElement) (templates : List (Option String))
    (rows : Option String) : Traced (List Record) :=
  recordsOf [elementShown, templatesShown templates, .value (Report.optionalText rows)]
    (.element table) templates none rows

end Table

end RaggedTables
