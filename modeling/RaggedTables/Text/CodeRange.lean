/-! Sets of characters given by ranges of code points. A set is written as a line of hexadecimal
ranges, as the tables of character properties are, and membership is a binary search. -/

namespace RaggedTables.Text

/-- The value of a hexadecimal digit. -/
def hexDigit? (c : Char) : Option Nat :=
  if '0' ≤ c ∧ c ≤ '9' then some (c.toNat - '0'.toNat)
  else if 'a' ≤ c ∧ c ≤ 'f' then some (c.toNat - 'a'.toNat + 10)
  else if 'A' ≤ c ∧ c ≤ 'F' then some (c.toNat - 'A'.toNat + 10)
  else none

/-- The number that a text of hexadecimal digits writes; other characters count as zero. -/
def hexValue (digits : List Char) : Nat :=
  digits.foldl (fun n c => 16 * n + (hexDigit? c).getD 0) 0

/-- Code points from `first` to `last`, both included. -/
structure CodeRange where
  first : Nat
  last : Nat
deriving Repr, DecidableEq, Inhabited

/-- The range that `41-5a` or `5f` writes. -/
def CodeRange.ofText (text : String) : CodeRange :=
  match text.splitOn "-" with
  | [a, b] => ⟨hexValue a.toList, hexValue b.toList⟩
  | _ => ⟨hexValue text.toList, hexValue text.toList⟩

/-- Rising, disjoint ranges. -/
abbrev CodeSet := Array CodeRange

/-- The set that lines of ranges, separated by spaces, write. -/
def CodeSet.ofLines (lines : List String) : CodeSet :=
  ((lines.flatMap fun line => line.splitOn " ").map CodeRange.ofText).toArray

/-- The range of `set` between the indices `low` and `high` that holds `n`. -/
def CodeSet.findFrom (set : CodeSet) (n : Nat) : Nat → Nat → Nat → Option CodeRange
  | 0, _, _ => none
  | fuel + 1, low, high =>
    if low < high then
      let middle := (low + high) / 2
      match set[middle]? with
      | none => none
      | some range =>
        if n < range.first then findFrom set n fuel low middle
        else if range.last < n then findFrom set n fuel (middle + 1) high
        else some range
    else none

/-- The range that holds `n`. -/
def CodeSet.find? (set : CodeSet) (n : Nat) : Option CodeRange :=
  set.findFrom n (set.size + 1) 0 set.size

def CodeSet.contains (set : CodeSet) (n : Nat) : Bool := (set.find? n).isSome

end RaggedTables.Text
