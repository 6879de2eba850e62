import RaggedTables.Table.Records

/-! Tables as grids of data cells, and the texts of their header cells. -/

namespace RaggedTables.Table

open Markup

/-- The data cells of a row: its children of that name. -/
def dataCells (row : PageElement) : List PageElement :=
  row.others ((namedNodes "td" (placedChildren row.document row.place)).map Prod.fst)

/-- The data cells of every row at an element or below it. -/
def gridCells (table : PageElement) : List (List PageElement) :=
  (table.others ((namedNodes "tr" (selfAndBelow table.document table.place)).map Prod.fst)).map
    dataCells

/-- A row of a grid with the value of each cell, none where that counts as nothing; columns are
numbered from one on. -/
def fillRow (fill : PageElement → Nat → Except Fault Value) (column : Nat) :
    List PageElement → Except Fault (List Value)
  | [] => .ok []
  | cell :: rest => do
    let v ← fill cell column
    return (if v.isEmpty then .null else v) :: (← fillRow fill (column + 1) rest)

/-- The grid of a table with the value of each cell. -/
def fillGrid (table : PageElement) (fill : PageElement → Nat → Except Fault Value) :
    Except Fault (List (List Value)) :=
  (gridCells table).mapM (fillRow fill 1)

/-- The cleaned texts of the header cells at an element or below it, in document order. -/
def headerTexts (table : PageElement) : List String :=
  (table.others ((namedNodes "th" (selfAndBelow table.document table.place)).map Prod.fst)).map
    fun cell => Text.sanitise cell.textContent

end RaggedTables.Table
