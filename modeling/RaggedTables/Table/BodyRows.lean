import RaggedTables.Markup.Order

/-! The body rows of tables. Markup may leave out the bodies of tables; rows count as body rows when
they stand inside a body, or directly in a table that has none, unless they hold header cells
alone. -/

namespace RaggedTables.Table

open Markup

/-- Whether a node has a child of the given name. -/
def hasChild (tag : String) (node : Node) : Bool := node.children.any (Node.isNamed tag)

/-- Nodes of the given name. -/
def namedNodes (tag : String) (found : List (Place × Node)) : List (Place × Node) :=
  found.filter fun entry => entry.2.isNamed tag

/-- The rows inside the bodies of the tables at a place or below it. -/
def rowsInBodies (nodes : List Node) (place : Place) : List Place :=
  (namedNodes "tbody" (selfAndBelow nodes place)).flatMap fun body =>
    (namedNodes "tr" (descendants nodes body.1)).map Prod.fst

/-- A row with data: one that holds a data cell, or no header cell. -/
def isDataRow (node : Node) : Bool := hasChild "td" node || !hasChild "th" node

/-- The rows with data that stand directly in tables without a body. -/
def rowsOfBareTables (nodes : List Node) (place : Place) : List Place :=
  ((namedNodes "table" (selfAndBelow nodes place)).filter fun table =>
    !hasChild "tbody" table.2).flatMap fun table =>
      ((namedNodes "tr" (placedChildren nodes table.1)).filter fun row =>
        isDataRow row.2).map Prod.fst

/-- The body rows at a place or below it, in document order. -/
def bodyRows (nodes : List Node) (place : Place) : List Place :=
  inOrder (rowsInBodies nodes place ++ rowsOfBareTables nodes place)

end RaggedTables.Table
