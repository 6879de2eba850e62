import RaggedTables.Pattern.Compiled

/-! Headers: how the cells of a column become fields of a record. -/

namespace RaggedTables

/-- The rule of a column. Any rule may carry a mapping pattern, on which only a split acts. -/
inductive Header where
  /-- The cell as it is, under one name. -/
  | norm (name : String) (mapping : Option Pattern)
  /-- The first group of the pattern, under one name. -/
  | transform (name : String) (pattern : Pattern) (mapping : Option Pattern)
  /-- One group of the pattern for each name. -/
  | multi (names : List String) (pattern : Pattern) (mapping : Option Pattern)
  /-- The pieces between delimiters, under one name. -/
  | split (name : String) (delimiter : Pattern) (mapping : Option Pattern)
deriving Repr, DecidableEq, Inhabited

namespace Header

/-- The word for a header's rule. -/
def kind : Header → String
  | .norm .. => "norm"
  | .transform .. => "transform"
  | .multi .. => "multi"
  | .split .. => "split"

/-- The names of the fields that a header fills. -/
def names : Header → List String
  | .norm name _ | .transform name _ _ | .split name _ _ => [name]
  | .multi names _ _ => names

/-- The single name of a header. -/
def name? : Header → Option String
  | .norm name _ | .transform name _ _ | .split name _ _ => some name
  | .multi .. => none

/-- The pattern that a cell has to match. -/
def pattern? : Header → Option Pattern
  | .transform _ pattern _ | .multi _ pattern _ => some pattern
  | .norm .. | .split .. => none

/-- The pattern that a header applies to a cell, be it a delimiter. -/
def rule? : Header → Option Pattern
  | .norm .. => none
  | .transform _ pattern _ | .multi _ pattern _ | .split _ pattern _ => some pattern

def mapping? : Header → Option Pattern
  | .norm _ mapping | .transform _ _ mapping | .multi _ _ mapping | .split _ _ mapping => mapping

end Header

end RaggedTables
