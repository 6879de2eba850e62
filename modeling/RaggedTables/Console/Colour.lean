import RaggedTables.Fault
import RaggedTables.Text.Pieces

/-! Colours and styles of terminal text, named as in `red`, `bgBlue`, `greenBright` or `bold`. -/

namespace RaggedTables.Console

open Text (without)

/-- The eight colours in the order of their codes. -/
def colours : List String := ["black", "red", "green", "yellow", "blue", "magenta", "cyan", "white"]

/-- Other words for bright black. -/
def greys : List String := ["gray", "grey"]

/-- Styles with their codes. -/
def styles : List (String × Nat) :=
  [("bold", 1), ("dim", 2), ("italic", 3), ("underline", 4), ("overline", 53), ("inverse", 7),
    ("strikethrough", 9), ("blink", 5)]

/-- A text without a beginning, if it starts with it. -/
def dropFront (front s : String) : String :=
  if s.startsWith front then String.ofList (s.toList.drop front.length) else s

/-- The code that a tag stands for. -/
def code? (tag : String) : Option Nat :=
  let name := Text.lower (String.ofList (tag.toList.filter fun c => !Text.isBlank c))
  let dark := without "bright" name
  let bright := dark != name
  let background := dark.startsWith "bg" || dark.startsWith "background"
  let word := dropFront "bg" (dropFront "background" dark)
  match if background || bright then none else styles.lookup word with
  | some style => some style
  | none =>
    let base := if background then 40 else 30
    if greys.contains word then some (base + 60)
    else (colours.findIdx? (· == word)).map fun i => base + i + if bright then 60 else 0

/-- A text between the sequence of a code and the reset. -/
def styled (code : Nat) (text : String) : String :=
  "\x1b[" ++ toString code ++ "m" ++ text ++ "\x1b[0m"

/-- Styles a text by tags from left to right. -/
def colourText (text : String) : List String → Except Fault String
  | [] => .ok text
  | tag :: rest =>
    match code? tag with
    | some code => colourText (styled code text) rest
    | none => .error (.value (.badColour tag))

/-- The tag of a colour that may be missing. -/
def tags (colour : Option String) : List String :=
  match colour with
  | some tag => if tag.isEmpty then [] else [tag]
  | none => []

/-- Items with a separator between them, both in their colours. -/
def prettyArray (items : Value) (separator : String)
    (elementColour separatorColour : Option String) :
    Except Fault String := do
  let between ← colourText separator (tags separatorColour)
  match items.items? with
  | none => throw (.kind (.notIterable items.fullKind))
  | some items => return between.intercalate (← items.mapM fun item =>
      colourText item.plain (tags elementColour))

end RaggedTables.Console
