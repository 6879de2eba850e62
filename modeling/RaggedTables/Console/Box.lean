import RaggedTables.Fault
import RaggedTables.Text.Ansi
import RaggedTables.Text.Pieces

/-! A box of double lines around text. -/

namespace RaggedTables.Console

/-- What is written for a line of output. -/
def echo (line : String) : String := Text.plainOutput line ++ "\n"

/-- The width of a line without its control sequences and the blanks around it. -/
def widthOf (line : String) : Nat := (Text.stripAnsi line).length

/-- Horizontal border of a width, between two corners. -/
def border (left right : String) (width : Nat) : String :=
  left ++ String.ofList (List.replicate width '═') ++ right

/-- A line of the box, filled up to the width. -/
def boxed (width : Nat) (line : String) : String :=
  "║" ++ line ++ String.ofList (List.replicate (width - widthOf line) ' ') ++ "║"

/-- The lines of a box. -/
def boxLines (lines : List String) : List String :=
  let lines := lines.map Text.strip
  let width := (lines.map widthOf).foldl max 0
  border "╔" "╗" width :: lines.map (boxed width) ++ [border "╚" "╝" width]

/-- A box around lines. -/
def box (lines : List String) : String := "\n".intercalate (boxLines lines)

/-- Texts among which nothing else stands. -/
def textsOf : List Value → Except Fault (List String)
  | [] => .ok []
  | .text s :: rest => do return s :: (← textsOf rest)
  | v :: _ => .error (.noAttribute v.fullKind "strip")

/-- The lines of a text. -/
def linesOf (text : String) : List String := Text.splitAt "\n" text

/-- The lines of a value: those of a text, or the texts that it holds. -/
def valueLines (v : Value) : Except Fault (List String) :=
  match v with
  | .text s => .ok (linesOf s)
  | v =>
    match v.items? with
    | some items => textsOf items
    | none => .error (.kind (.notIterable v.fullKind))

end RaggedTables.Console
