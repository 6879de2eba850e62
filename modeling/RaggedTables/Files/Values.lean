import RaggedTables.Files.Tree
import RaggedTables.Json.Reader
import RaggedTables.Json.Writer

/-! Values in files, as JSON. -/

namespace RaggedTables

/-- The layout of a value in a file: levels indented by tabs, or everything on one line. -/
def Json.Style.inFile (pretty : Bool) : Style := if pretty then .tabbed else .compact

namespace FileTree

/-- Writes a value to a file. -/
def writeValue (tree : FileTree) (path : String) (v : Value) (pretty : Bool) (now : Int) :
    Except Fault FileTree := do
  tree.write path (← Json.write (.inFile pretty) v) now

/-- The value that a file holds. -/
def readValue (tree : FileTree) (path : String) : Except Fault Value := do
  Json.read (← tree.read path)

end FileTree

end RaggedTables
