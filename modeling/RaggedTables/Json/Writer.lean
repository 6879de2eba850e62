import RaggedTables.Fault

/-! Writing values as JSON. As elsewhere, an integer is written whole, also one of more than the
4300 digits that are read back. -/

namespace RaggedTables.Json

/-- How JSON is laid out: the indentation of one level, on one line without one; whether only ASCII
is written; and whether a value without a JSON form is written as its text. -/
structure Style where
  indent : Option String
  asciiOnly : Bool
  textForOthers : Bool

/-- One line, everything beyond ASCII escaped, other values by their text. -/
def Style.shown : Style := ⟨none, true, true⟩

/-- One line. -/
def Style.compact : Style := ⟨none, false, false⟩

/-- Levels indented by tabs. -/
def Style.tabbed : Style := ⟨some "\t", false, false⟩

/-- Levels indented by two spaces. -/
def Style.spaced : Style := ⟨some "  ", false, false⟩

/-- The escape of a 16-bit unit. -/
def unitEscape (n : Nat) : List Char := '\\' :: 'u' :: Text.hexDigits 4 n

/-- The escape of a character beyond the printable ASCII characters. -/
def codeEscape (n : Nat) : List Char :=
  if n < 0x10000 then unitEscape n
  else unitEscape (0xd800 + (n - 0x10000) / 0x400) ++ unitEscape (0xdc00 + (n - 0x10000) % 0x400)

/-- A character inside quotes. -/
def escaped (asciiOnly : Bool) (c : Char) : List Char :=
  match c with
  | '"' => ['\\', '"']
  | '\\' => ['\\', '\\']
  | '\n' => ['\\', 'n']
  | '\r' => ['\\', 'r']
  | '\t' => ['\\', 't']
  | '\x0c' => ['\\', 'f']
  | '\x08' => ['\\', 'b']
  | c =>
    if c.toNat < 0x20 then unitEscape c.toNat
    else if asciiOnly && 0x7e < c.toNat then codeEscape c.toNat
    else [c]

/-- A text between quotes. -/
def quoted (asciiOnly : Bool) (s : String) : String :=
  String.ofList ('"' :: s.toList.flatMap (escaped asciiOnly) ++ ['"'])

/-- The text of a key. A layout on one line names a kind that is no key in full. -/
def keyText (style : Style) : Value → Except Fault String
  | .text s => .ok s
  | .float x => .ok (Number.jsonFloat.write x)
  | .bool b => .ok (if b then "true" else "false")
  | .null => .ok "null"
  | .int n => .ok (toString n)
  | v => .error (.kind (.badWrittenKey (if style.indent.isNone then v.fullKind else v.kind)))

/-- Parts between brackets, each on a line of its own where the style indents. -/
def enclose (style : Style) (level : Nat) (first last : String) (parts : List String) : String :=
  match parts, style.indent with
  | [], _ => first ++ last
  | parts, none => first ++ ", ".intercalate parts ++ last
  | parts, some indent =>
    let line (n : Nat) := "\n" ++ String.join (List.replicate n indent)
    first ++ line (level + 1) ++ ("," ++ line (level + 1)).intercalate parts ++ line level ++ last

mutual

/-- A value at a level of indentation. -/
def writeAt (style : Style) (level : Nat) : Value → Except Fault String
  | .null => .ok "null"
  | .bool b => .ok (if b then "true" else "false")
  | .int n => .ok (toString n)
  | .float x => .ok (Number.jsonFloat.write x)
  | .text s => .ok (quoted style.asciiOnly s)
  | .list items => do
    return enclose style level "[" "]" (← writeItems style (level + 1) items)
  | .tuple items => do
    return enclose style level "[" "]" (← writeItems style (level + 1) items)
  | .map entries => do
    return enclose style level "\x7b" "\x7d" (← writeEntries style (level + 1) entries)
  | v =>
    if style.textForOthers then .ok (quoted style.asciiOnly v.plain)
    else .error (.kind (.notWritable v.kind))

def writeItems (style : Style) (level : Nat) : List Value → Except Fault (List String)
  | [] => .ok []
  | v :: rest => do
    let first ← writeAt style level v
    return first :: (← writeItems style level rest)

def writeEntries (style : Style) (level : Nat) : List (Value × Value) → Except Fault (List String)
  | [] => .ok []
  | (k, v) :: rest => do
    let key ← keyText style k
    let first ← writeAt style level v
    return (quoted style.asciiOnly key ++ ": " ++ first) :: (← writeEntries style level rest)

end

/-- A value as JSON. -/
def write (style : Style) (v : Value) : Except Fault String := writeAt style 0 v

end RaggedTables.Json
