import RaggedTables.Value.Order
import RaggedTables.Value.Shown

/-! Short forms of values: long texts lose their middle, long sequences their end, and what is
nested deeper than six levels is left out. -/

namespace RaggedTables

/-- The lengths that a short form keeps. -/
structure BriefLimits where
  depth : Nat := 6
  text : Nat := 80
  integer : Nat := 40
  list : Nat := 5
  tuple : Nat := 6
  map : Nat := 5
  other : Nat := 80

namespace Brief

def limits : BriefLimits := {}

/-- Stands for what is left out. -/
def dots : String := "..."

/-- The characters kept at the front and at the back of a text of `limit` characters. -/
def kept (limit : Nat) : Nat × Nat := ((limit - 3) / 2, limit - 3 - (limit - 3) / 2)

/-- A text cut to `limit` characters by leaving out its middle. -/
def middleCut (limit : Nat) (s : String) : String :=
  let cs := s.toList
  if limit < cs.length then
    let (front, back) := kept limit
    String.ofList (cs.take front) ++ dots ++ String.ofList (cs.drop (cs.length - back))
  else s

/-- The last `count` characters. Of a text that has fewer, as many are left out again as it lacks:
the place where the end begins is then counted from the end. -/
def ending (count : Nat) (cs : List Char) : List Char :=
  cs.drop (if count ≤ cs.length then cs.length - count else 2 * cs.length - count)

/-- A quoted text of at most `limit` characters. The cut is made before quoting and once more after
it, so that an escape may be cut as well. -/
def quotedCut (limit : Nat) (s : String) : String :=
  let cs := s.toList
  let whole := Text.quoted (String.ofList (cs.take limit))
  if limit < whole.length then
    let (front, back) := kept limit
    let shorter := Text.quoted (String.ofList (cs.take front ++ ending back cs))
    String.ofList (shorter.toList.take front) ++ dots ++
      String.ofList (shorter.toList.drop (shorter.length - back))
  else whole

/-- Pieces between brackets, with dots when there were more items than pieces. -/
def enclose (first last : String) (count limit : Nat) (pieces : List String) : String :=
  first ++ ", ".intercalate (pieces ++ if limit < count then [dots] else []) ++ last

end Brief

open Brief

/-- The short form of a value at a depth. -/
def Value.briefAt : (depth : Nat) → Value → String
  | depth, .list items =>
    match depth with
    | 0 => if items.isEmpty then "[]" else "[" ++ dots ++ "]"
    | depth + 1 =>
      enclose "[" "]" items.length limits.list ((items.take limits.list).map (briefAt depth))
  | depth, .tuple items =>
    let last := if items.length = 1 then ",)" else ")"
    match depth with
    | 0 => if items.isEmpty then "()" else "(" ++ dots ++ ")"
    | depth + 1 =>
      enclose "(" last items.length limits.tuple ((items.take limits.tuple).map (briefAt depth))
  | depth, .map entries =>
    match depth with
    | 0 => if entries.isEmpty then "\x7b\x7d" else "\x7b" ++ dots ++ "\x7d"
    | depth + 1 =>
      enclose "\x7b" "\x7d" entries.length limits.map
        (((sortedEntries entries).take limits.map).map fun entry =>
          briefAt depth entry.1 ++ ": " ++ briefAt depth entry.2)
  | _, .text s => quotedCut limits.text s
  | _, .int n => middleCut limits.integer (toString n)
  | _, v => middleCut limits.other v.shown

/-- The short form of a value. -/
def Value.brief (v : Value) : String := v.briefAt limits.depth

end RaggedTables
