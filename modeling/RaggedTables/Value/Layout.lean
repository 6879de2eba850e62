import RaggedTables.Text.Blank
import RaggedTables.Value.Order
import RaggedTables.Value.Shown

/-! Layout of values on lines of eighty characters. A value that fits is shown on one line; a longer
list is filled line by line, a longer map gets a line for each entry, and a longer text is cut after
blanks. What lies deeper than the given number of levels is left out. Maps are in the order of their
keys. -/

namespace RaggedTables.Value

/-- The width of a line. -/
def pageWidth : Nat := 80

mutual

/-- A value with all its maps in the order of their keys. -/
def arranged : Value → Value
  | .list items => .list (arrangedItems items)
  | .tuple items => .tuple (arrangedItems items)
  | .map entries => .map (groupedEntries (arrangedEntries entries))
  | v => v

def arrangedItems : List Value → List Value
  | [] => []
  | v :: rest => arranged v :: arrangedItems rest

def arrangedEntries : List (Value × Value) → List (Value × Value)
  | [] => []
  | (k, v) :: rest => (k, arranged v) :: arrangedEntries rest

end

/-- One level fewer; without a number there is no limit. -/
def inner (levels : Option Nat) : Option Nat := levels.map (· - 1)

mutual

/-- A value on one line, with dots for what lies deeper than `levels`. -/
def outline (levels : Option Nat) : Value → String
  | .list [] => "[]"
  | .list items =>
    if levels = some 0 then "[...]" else bracketed "[" "]" (outlineItems (inner levels) items)
  | .tuple [] => "()"
  | .tuple [item] =>
    if levels = some 0 then "(...,)" else "(" ++ outline (inner levels) item ++ ",)"
  | .tuple items =>
    if levels = some 0 then "(...)" else bracketed "(" ")" (outlineItems (inner levels) items)
  | .map [] => "\x7b\x7d"
  | .map entries =>
    if levels = some 0 then "\x7b...\x7d"
    else bracketed "\x7b" "\x7d" (outlineEntries (inner levels) entries)
  | v => v.shown

def outlineItems (levels : Option Nat) : List Value → List String
  | [] => []
  | v :: rest => outline levels v :: outlineItems levels rest

def outlineEntries (levels : Option Nat) : List (Value × Value) → List String
  | [] => []
  | (k, v) :: rest =>
    (outline levels k ++ ": " ++ outline levels v) :: outlineEntries levels rest

end

/-- A line break and an indentation. -/
def newLine (indent : Nat) : String := "\n" ++ String.ofList (List.replicate indent ' ')

/-! ### Texts -/

/-- The ends of lines inside a text. -/
def isLineEnd (c : Char) : Bool :=
  let n := c.toNat
  (0xa ≤ n && n ≤ 0xd) || (0x1c ≤ n && n ≤ 0x1e) || n == 0x85 || n == 0x2028 || n == 0x2029

/-- The lines of a text with their ends; `line` holds what the current line has so far, reversed. -/
def linesWithEnds (line : List Char) : List Char → List (List Char)
  | [] => if line.isEmpty then [] else [line.reverse]
  | '\r' :: '\n' :: rest => ('\n' :: '\r' :: line).reverse :: linesWithEnds [] rest
  | c :: rest =>
    if isLineEnd c then (c :: line).reverse :: linesWithEnds [] rest
    else linesWithEnds (c :: line) rest

/-- A text cut after every run of blanks; `word` holds the current piece, reversed. -/
def wordsWithBlanks (word : List Char) : List Char → List (List Char)
  | [] => if word.isEmpty then [] else [word.reverse]
  | c :: rest =>
    if !Text.isBlank c && (word.head?.map Text.isBlank).getD false then
      word.reverse :: wordsWithBlanks [c] rest
    else wordsWithBlanks (c :: word) rest

/-- The quoted form of characters. -/
def quotedChars (cs : List Char) : String := Text.quoted (String.ofList cs)

/-- Pieces joined into quoted chunks of at most `width` characters, the last of at most `last`. -/
def fillChunks (width last : Int) (current : List Char) : List (List Char) → List String
  | [] => if current.isEmpty then [] else [quotedChars current]
  | piece :: rest =>
    let room := if rest.isEmpty then last else width
    let candidate := current ++ piece
    if room < (quotedChars candidate).length then
      (if current.isEmpty then [] else [quotedChars current]) ++ fillChunks width last piece rest
    else fillChunks width last candidate rest

/-- The chunks of the lines of a text. -/
def textChunks (width : Int) (allowance : Nat) : List (List Char) → List String
  | [] => []
  | line :: rest =>
    let last := if rest.isEmpty then width - allowance else width
    let whole := quotedChars line
    (if last < whole.length then fillChunks width last [] (wordsWithBlanks [] line) else [whole]) ++
      textChunks width allowance rest

/-- A text that is too long for its line. -/
def layoutText (indent allowance : Nat) (s : String) : String :=
  if s.isEmpty then Text.quoted s
  else
    (newLine indent).intercalate
      (textChunks ((pageWidth : Int) - indent) allowance (linesWithEnds [] s.toList))

/-! ### Values -/

/-- Whether a text fits on the line after `indent` characters and before `allowance` more. -/
def fits (indent allowance : Nat) (text : String) : Bool :=
  indent + allowance + text.length ≤ pageWidth

mutual

/-- The layout of a value that starts after `indent` characters and is followed by `allowance`. -/
def layoutAt (indent allowance : Nat) (levels : Option Nat) : Value → String
  | .list items =>
    let whole := outline levels (.list items)
    if fits indent allowance whole then whole
    else
      "[" ++ layoutItems (indent + 1) (allowance + 1)
        (inner levels) "" (pageWidth - indent) items ++ "]"
  | .tuple items =>
    let whole := outline levels (.tuple items)
    if fits indent allowance whole then whole
    else
      let last := if items.length = 1 then ",)" else ")"
      "(" ++ layoutItems (indent + 1) (allowance + last.length) (inner levels) ""
        (pageWidth - indent) items ++ last
  | .map entries =>
    let whole := outline levels (.map entries)
    if fits indent allowance whole then whole
    else "\x7b" ++ layoutEntries (indent + 1) (allowance + 1) (inner levels) entries ++ "\x7d"
  | .text s =>
    let whole := Text.quoted s
    if fits indent allowance whole then whole else layoutText indent allowance s
  | v => outline levels v

/-- Items that fill lines; `room` is what is left of the current line, and `mark` what goes before
the next item. -/
def layoutItems (indent allowance : Nat) (levels : Option Nat) (mark : String) (room : Int) :
    List Value → String
  | [] => ""
  | v :: rest =>
    let taken : Nat := if rest.isEmpty then allowance else 0
    let most : Int := (pageWidth : Int) - indent + 1 - taken
    let whole := outline levels v
    let size : Int := whole.length + 2
    let short : Bool := room - taken < size
    let room := if short then most else room - taken
    let mark := if short && !mark.isEmpty then "," ++ newLine indent else mark
    if size ≤ room then
      mark ++ whole ++ layoutItems indent allowance levels ", " (room - size) rest
    else
      mark ++ layoutAt indent (if rest.isEmpty then allowance else 1) levels v ++
        layoutItems indent allowance levels ("," ++ newLine indent) room rest

/-- Entries, one to a line. -/
def layoutEntries (indent allowance : Nat) (levels : Option Nat) : List (Value × Value) → String
  | [] => ""
  | (k, v) :: rest =>
    let key := outline levels k
    key ++ ": " ++
      layoutAt (indent + key.length + 2) (if rest.isEmpty then allowance else 1) levels v ++
      (if rest.isEmpty then ""
      else "," ++ newLine indent ++ layoutEntries indent allowance levels rest)

end

/-- The layout of a value to a depth. -/
def layout (levels : Option Nat) (v : Value) : String := layoutAt 0 0 levels v.arranged

end RaggedTables.Value
