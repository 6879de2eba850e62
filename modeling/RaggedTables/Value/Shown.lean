import RaggedTables.Text.Quoted
import RaggedTables.Value

/-! The text of a value: shown, as it would be written in source text with texts quoted, and plain,
which differs for a text alone and for decimals and fractions. Integers are written whole: the limit
of 4300 digits, beyond which they are no longer read, is not one of writing here, though a runtime
may refuse to write longer ones. -/

namespace RaggedTables.Value

open Number (plainFloat)

/-- Items between brackets. -/
def bracketed (first last : String) (items : List String) : String :=
  first ++ ", ".intercalate items ++ last

mutual

/-- A value as it is shown inside other values. -/
def shown : Value → String
  | .null => "None"
  | .bool b => if b then "True" else "False"
  | .int n => toString n
  | .float x => plainFloat.write x
  | .decimal d => "Decimal('" ++ d.toText ++ "')"
  | .fraction q => "Fraction(" ++ toString q.numerator ++ ", " ++ toString q.denominator ++ ")"
  | .text s => Text.quoted s
  | .list items => bracketed "[" "]" (shownItems items)
  | .tuple [item] => "(" ++ shown item ++ ",)"
  | .tuple items => bracketed "(" ")" (shownItems items)
  | .map entries => bracketed "\x7b" "\x7d" (shownEntries entries)

def shownItems : List Value → List String
  | [] => []
  | v :: rest => shown v :: shownItems rest

def shownEntries : List (Value × Value) → List String
  | [] => []
  | (k, v) :: rest => (shown k ++ ": " ++ shown v) :: shownEntries rest

end

/-- A value by itself: a text stands for itself. -/
def plain : Value → String
  | .text s => s
  | .decimal d => d.toText
  | .fraction q => q.toText
  | v => v.shown

end RaggedTables.Value
