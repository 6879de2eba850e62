import RaggedTables.Page.Element
import RaggedTables.Text.Clean

/-! The cells of a row: the cleaned text of each child element, which a processor may replace. -/

namespace RaggedTables

/-- Replaces the text of cells. It is given the number of the column from one on, the markup inside
the cell and its text; what it gives back counts unless it is the markup unchanged. -/
structure CellProcessor where
  name : String
  replace : (column : Nat) → (markup text : String) → Except Fault Value

namespace Table

/-- The value of a cell. -/
def cellValue (processor : Option CellProcessor) (column : Nat) (cell : PageElement) :
    Except Fault Value :=
  let text := Text.sanitise cell.textContent
  match processor with
  | none => .ok (.text text)
  | some processor => do
    let markup := cell.innerMarkup
    let v ← processor.replace column markup text
    return if v == .text markup then .text text else v

/-- The values of cells from a column on. -/
def cellValues (processor : Option CellProcessor) (column : Nat) :
    List PageElement → Except Fault (List Value)
  | [] => .ok []
  | cell :: rest => do
    let v ← cellValue processor column cell
    return v :: (← cellValues processor (column + 1) rest)

/-- The cells of a row: one for each child element, in order. -/
def rowCells (row : PageElement) (processor : Option CellProcessor) : Except Fault (List Value) :=
  cellValues processor 1 row.children

end Table

end RaggedTables
