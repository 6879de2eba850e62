import RaggedTables.Value

/-! The order of values, where there is one: numbers by size, texts by code points, sequences of one
kind item by item. -/

namespace RaggedTables.Value

/-- The order of two numbers; there is none where one is not a number. -/
def Exact.compare? : Exact → Exact → Option Ordering
  | .notANumber, _ | _, .notANumber => none
  | .infinite true, .infinite true | .infinite false, .infinite false => some .eq
  | .infinite negative, _ => some (if negative then .lt else .gt)
  | _, .infinite negative => some (if negative then .gt else .lt)
  | .rational a b, .rational c d => some (compare (a * d) (c * b))

def compareTexts : List Char → List Char → Ordering
  | [], [] => .eq
  | [], _ => .lt
  | _, [] => .gt
  | a :: as, b :: bs =>
    if a.toNat < b.toNat then .lt else if b.toNat < a.toNat then .gt else compareTexts as bs

mutual

/-- The order of two values, none where they cannot be compared. -/
def compare? : Value → Value → Option Ordering
  | .text a, .text b => some (compareTexts a.toList b.toList)
  | .list a, .list b => compareItems? a b
  | .tuple a, .tuple b => compareItems? a b
  | a, b =>
    match a.worth?, b.worth? with
    | some x, some y => x.compare? y
    | _, _ => none

def compareItems? : List Value → List Value → Option Ordering
  | [], [] => some .eq
  | [], _ => some .lt
  | _, [] => some .gt
  | a :: as, b :: bs =>
    if same a b then compareItems? as bs
    else
      match compare? a b with
      | some .eq => compareItems? as bs
      | order => order

end

/-- Every two of the values can be compared. -/
def comparable : List Value → Bool
  | [] => true
  | v :: rest => (rest.all fun w => (compare? v w).isSome) && comparable rest

/-- Entries by rising key; as they are when two keys cannot be compared. -/
def sortedEntries (entries : List (Value × α)) : List (Value × α) :=
  if comparable (entries.map Prod.fst) then
    entries.mergeSort fun a b => compare? a.1 b.1 != some .gt
  else entries

/-- Entries by rising key; keys that cannot be compared go by the names of their kinds. -/
def groupedEntries (entries : List (Value × α)) : List (Value × α) :=
  entries.mergeSort fun a b =>
    match compare? a.1 b.1 with
    | some order => order != .gt
    | none => compareTexts (className a.1).toList (className b.1).toList != .gt
where
  /-- The name of a kind with the module that defines it. -/
  className : Value → String
    | .decimal _ => "decimal.Decimal"
    | .fraction _ => "fractions.Fraction"
    | v => v.kind

end RaggedTables.Value
