import RaggedTables.Fields
import RaggedTables.Number.Decimal
import RaggedTables.Number.Shortest

/-! Values: what a cell, an option or a record may hold. Sequences are lists or tuples, and a map
keeps its entries in order. -/

namespace RaggedTables

open Number (Decimal Fraction)

/-- A value. -/
inductive Value where
  | null
  | bool (b : Bool)
  | int (n : Int)
  | float (x : Float)
  | decimal (d : Decimal)
  | fraction (q : Fraction)
  | text (s : String)
  | list (items : List Value)
  | tuple (items : List Value)
  | map (entries : List (Value × Value))
deriving Inhabited

namespace Value

/-- The name of a value's kind. -/
def kind : Value → String
  | .null => "NoneType"
  | .bool _ => "bool"
  | .int _ => "int"
  | .float _ => "float"
  | .decimal _ => "Decimal"
  | .fraction _ => "Fraction"
  | .text _ => "str"
  | .list _ => "list"
  | .tuple _ => "tuple"
  | .map _ => "dict"

/-- The name of a value's kind together with the group that it belongs to, if any. -/
def fullKind : Value → String
  | .decimal _ => "decimal.Decimal"
  | v => v.kind

/-! ### Numbers -/

/-- A number without regard to how it is held. -/
inductive Exact where
  | rational (numerator : Int) (denominator : Nat)
  | infinite (negative : Bool)
  | notANumber
deriving Repr, DecidableEq

/-- `n · base ^ exponent`. -/
def Exact.scaled (n : Int) (base : Nat) (exponent : Int) : Exact :=
  .rational (n * Nat.pow base exponent.toNat) (Nat.pow base (-exponent).toNat)

/-- The exact number that a floating-point number stands for. -/
def Exact.ofFloat (x : Float) : Exact :=
  let bits := x.toBits
  let negative := Number.isNegative bits
  match Number.FloatParts.ofBits bits with
  | .zero => .rational 0 1
  | .finite b => .scaled (if negative then -b.mantissa else b.mantissa) 2 b.exponent
  | .infinite => .infinite negative
  | .notANumber => .notANumber

/-- The number that a value is, if it is one; truth values count as one and zero. -/
def worth? : Value → Option Exact
  | .bool b => some (.rational (if b then 1 else 0) 1)
  | .int n => some (.rational n 1)
  | .float x => some (.ofFloat x)
  | .decimal (.finite negative digits exponent) =>
    some (.scaled (if negative then -digits else digits) 10 exponent)
  | .decimal (.infinite negative) => some (.infinite negative)
  | .decimal (.notANumber ..) => some .notANumber
  | .fraction q => some (.rational q.numerator q.denominator)
  | _ => none

/-- Equality of numbers; what is not a number equals nothing. -/
def Exact.same : Exact → Exact → Bool
  | .rational a b, .rational c d => a * d == c * b
  | .infinite a, .infinite b => a == b
  | _, _ => false

def Exact.isZero : Exact → Bool
  | .rational a _ => a == 0
  | _ => false

/-- A value that holds nothing: no value, false, a zero, or an empty text, sequence or map. -/
def isEmpty : Value → Bool
  | .null => true
  | .text s => s.isEmpty
  | .list items | .tuple items => items.isEmpty
  | .map entries => entries.isEmpty
  | v => (v.worth?.map Exact.isZero).getD false

/-- A value that counts as present. -/
def isTruthy (v : Value) : Bool := !v.isEmpty

/-! ### Equality -/

mutual

/-- Equality of values: numbers by what they are worth, lists with lists and tuples with tuples,
maps without regard to order. -/
def same : Value → Value → Bool
  | .null, .null => true
  | .text a, .text b => a == b
  | .list a, .list b => sameItems a b
  | .tuple a, .tuple b => sameItems a b
  | .map a, .map b => a.length == b.length && sameEntries a b
  | a, b =>
    match a.worth?, b.worth? with
    | some x, some y => x.same y
    | _, _ => false

def sameItems : List Value → List Value → Bool
  | [], [] => true
  | a :: as, b :: bs => same a b && sameItems as bs
  | _, _ => false

/-- Every entry of the first is one of the second. -/
def sameEntries : List (Value × Value) → List (Value × Value) → Bool
  | [], _ => true
  | (k, v) :: rest, other =>
    (other.any fun entry => same k entry.1 && same v entry.2) && sameEntries rest other

end

instance : BEq Value := ⟨same⟩

/-- Texts are equal as values when they are equal. -/
@[simp] theorem text_beq_text (a b : String) : (Value.text a == Value.text b) = (a == b) := by
  show same (.text a) (.text b) = _
  simp [same]

/-! ### Keys and sequences -/

mutual

/-- The kind of the part that keeps a value from being a key. -/
def unfitKey? : Value → Option String
  | .list _ => some "list"
  | .map _ => some "dict"
  | .tuple items => unfitItem? items
  | _ => none

def unfitItem? : List Value → Option String
  | [] => none
  | v :: rest =>
    match unfitKey? v with
    | some kind => some kind
    | none => unfitItem? rest

end

/-- The items of a sequence, the characters of a text, or the keys of a map. -/
def items? : Value → Option (List Value)
  | .list items | .tuple items => some items
  | .text s => some (s.toList.map fun c => .text (String.ofList [c]))
  | .map entries => some (entries.map Prod.fst)
  | _ => none

/-- Several values in one: a list or a tuple. -/
def several? : Value → Option (List Value)
  | .list items | .tuple items => some items
  | _ => none

/-- A map whose entries were written in order. -/
def ofEntries (entries : List (Value × Value)) : Value := .map (Fields.ofEntries entries)

/-- A record as a map. -/
def ofFields (fields : Fields String Value) : Value :=
  .map (fields.map fun entry => (.text entry.1, entry.2))

end Value

end RaggedTables
