import RaggedTables.Text.Blank
import RaggedTables.Text.CaseMap
import RaggedTables.Text.Letter

/-! Decimal numbers that keep the places they were written with, fractions, and the reading of
numbers from text. -/

namespace RaggedTables.Number

/-- A decimal number. What is no number is the quiet kind, which compares without complaint. -/
inductive Decimal where
  | finite (negative : Bool) (digits : Nat) (exponent : Int)
  | infinite (negative : Bool)
  | notANumber (negative : Bool) (payload : List Char)
deriving Repr, DecidableEq, Inhabited

/-- A fraction in lowest terms with a positive denominator. -/
structure Fraction where
  numerator : Int
  denominator : Nat
deriving Repr, DecidableEq, Inhabited

/-! ### Reading -/

def digitsValue (cs : List Char) : Nat :=
  cs.foldl (fun n c => 10 * n + (Text.digitValue? c).getD 0) 0

/-- A sign and what follows it. -/
def splitSign : List Char → Bool × List Char
  | '-' :: rest => (true, rest)
  | '+' :: rest => (false, rest)
  | cs => (false, cs)

/-- Digits, a point, digits, and an exponent: a number without sign. -/
structure Numeral where
  digits : Nat
  exponent : Int
deriving Repr, DecidableEq

/-- The exponent after the letter e, zero when nothing follows. -/
def exponentPart? : List Char → Option Int
  | [] => some 0
  | c :: rest =>
    if c = 'e' ∨ c = 'E' then
      let (negative, digits) := splitSign rest
      if digits.isEmpty || !digits.all Text.isDigit then none
      else some (if negative then -(digitsValue digits : Int) else digitsValue digits)
    else none

/-- A numeral that fills the text. -/
def numeral? (cs : List Char) : Option Numeral :=
  let whole := cs.takeWhile Text.isDigit
  let afterWhole := cs.dropWhile Text.isDigit
  let (part, rest) :=
    match afterWhole with
    | '.' :: more => (more.takeWhile Text.isDigit, more.dropWhile Text.isDigit)
    | more => ([], more)
  if whole.isEmpty && part.isEmpty then none
  else (exponentPart? rest).map fun e => ⟨digitsValue (whole ++ part), e - part.length⟩

/-- Underscores stand only between digits. -/
def underscoresBetweenDigits : List Char → Bool
  | a :: '_' :: c :: rest =>
    Text.isDigit a && Text.isDigit c && underscoresBetweenDigits (c :: rest)
  | '_' :: _ => false
  | [_, '_'] => false
  | _ :: rest => underscoresBetweenDigits rest
  | [] => true

/-- A floating-point number from text: blanks around it and underscores between digits are allowed,
and infinity and the lack of a number have names. -/
def float? (text : String) : Option Float :=
  let cs := Text.trim text.toList
  let (negative, body) := splitSign cs
  let name := Text.lower (String.ofList body)
  let signed (x : Float) : Float := if negative then -x else x
  if name == "inf" || name == "infinity" then some (signed (1.0 / 0.0))
  else if name == "nan" then some (signed (0.0 / 0.0))
  else if underscoresBetweenDigits body then
    (numeral? (body.filter (· != '_'))).map fun n =>
      signed (
        if n.digits == 0 then 0.0
        else
          let size : Int := ((Nat.toDigits 10 n.digits).length : Int) + n.exponent
          if size < -400 then 0.0
          else if 400 < size then 1.0 / 0.0
          else if n.exponent < 0 then Float.ofScientific n.digits true n.exponent.natAbs
          else Float.ofScientific n.digits false n.exponent.natAbs)
  else none

/-- A decimal number from text. -/
def Decimal.ofText? (text : String) : Option Decimal :=
  let cs := (Text.trim text.toList).filter (· != '_')
  let (negative, body) := splitSign cs
  let name := (Text.lower (String.ofList body)).toList
  if name == "inf".toList || name == "infinity".toList then some (.infinite negative)
  else if name.take 3 == "nan".toList && (name.drop 3).all Text.isDigit then
    some (.notANumber negative (name.drop 3))
  else (numeral? body).map fun n => .finite negative n.digits n.exponent

/-- The fraction `n / d` in lowest terms. -/
def Fraction.of (n : Int) (d : Nat) : Fraction :=
  let g := Nat.gcd n.natAbs d
  ⟨n / (g : Int), d / g⟩

/-- A fraction from text: two whole numbers with a stroke, or a numeral. -/
def Fraction.ofText? (text : String) : Option Fraction :=
  let (negative, body) := splitSign (Text.trim text.toList)
  let signed (n : Nat) : Int := if negative then -(n : Int) else n
  match body.splitOn '/' with
  | [n, d] =>
    if n.isEmpty || d.isEmpty || !n.all Text.isDigit || !d.all Text.isDigit || digitsValue d = 0
    then none
    else some (.of (signed (digitsValue n)) (digitsValue d))
  | [n] =>
    (numeral? n).map fun n =>
      .of (signed (n.digits * Nat.pow 10 n.exponent.toNat)) (Nat.pow 10 (-n.exponent).toNat)
  | _ => none

/-! ### Writing -/

/-- A decimal number as text: with the point in its place while the exponent is not positive and the
leading digit stands within six places of the point, else with an exponent. -/
def Decimal.toText : Decimal → String
  | .finite negative digits exponent =>
    let text := Nat.toDigits 10 digits
    let count : Int := text.length
    let left := exponent + count
    let place := if exponent ≤ 0 ∧ -6 < left then left else 1
    let body :=
      if place ≤ 0 then "0." ++ String.ofList (List.replicate (-place).toNat '0' ++ text)
      else if count ≤ place then
        String.ofList (text ++ List.replicate (place - count).toNat '0')
      else String.ofList (text.take place.toNat ++ '.' :: text.drop place.toNat)
    let power := left - place
    let tail :=
      if power = 0 then ""
      else "E" ++ (if power < 0 then "-" else "+") ++ toString power.natAbs
    (if negative then "-" else "") ++ body ++ tail
  | .infinite negative => (if negative then "-" else "") ++ "Infinity"
  | .notANumber negative payload =>
    (if negative then "-" else "") ++ "NaN" ++ String.ofList payload

/-- A fraction as text; a whole number has no stroke. -/
def Fraction.toText (q : Fraction) : String :=
  if q.denominator = 1 then toString q.numerator
  else toString q.numerator ++ "/" ++ toString q.denominator

end RaggedTables.Number
