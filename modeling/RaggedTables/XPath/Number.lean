import RaggedTables.Number.Decimal
import RaggedTables.Value

/-! Numbers of path expressions: their text, and reading them. Fifteen digits are written; whole
numbers of up to 31 bits are written as they are, and very large and very small numbers with an
exponent. -/

namespace RaggedTables.XPath

/-- The blanks between the parts of an expression. -/
def isBlank (c : Char) : Bool := c == ' ' || c == '\t' || c == '\n' || c == '\r'

/-- A text without the blanks at its front. -/
def skip (cs : List Char) : List Char := cs.dropWhile isBlank

/-! ### Writing -/

/-- The whole number nearest to `n / d`, a half going to the even neighbour. -/
def nearestWhole (n d : Nat) : Nat :=
  let below := n / d
  let twice := 2 * (n - below * d)
  if twice < d ∨ (twice = d ∧ below % 2 = 0) then below else below + 1

/-- The whole number `e` with `10 ^ e ≤ n / d < 10 ^ (e + 1)`. -/
def magnitude (n d : Nat) : Int :=
  if d ≤ n then ((Nat.toDigits 10 (n / d)).length : Int) - 1
  else
    let e := (Nat.toDigits 10 (d / n)).length
    if d ≤ n * Nat.pow 10 (e - 1) then 1 - (e : Int) else -(e : Int)

/-- Digits after a point, without zeros at the end; nothing if all are zeros. -/
def fraction (digits : List Char) : List Char :=
  let kept := (digits.reverse.dropWhile (· == '0')).reverse
  if kept.isEmpty then [] else '.' :: kept

/-- Digits filled up with zeros in front to a length. -/
def padded (length : Nat) (digits : List Char) : List Char :=
  List.replicate (length - digits.length) '0' ++ digits

/-- `n / d` with a number of digits after the point. -/
def fixed (places n d : Nat) : List Char :=
  let digits := padded (places + 1) (Nat.toDigits 10 (nearestWhole (n * Nat.pow 10 places) d))
  let whole := digits.length - places
  digits.take whole ++ fraction (digits.drop whole)

/-- `n / d` with one digit before the point and fourteen after it, and an exponent. -/
def scientific (n d : Nat) : List Char :=
  let e := magnitude n d
  let shift := 14 - e
  let digits :=
    Nat.toDigits 10 (nearestWhole (n * Nat.pow 10 shift.toNat) (d * Nat.pow 10 (-shift).toNat))
  let e := if digits.length = 16 then e + 1 else e
  digits.take 1 ++ fraction ((digits.drop 1).take 14) ++
    'e' :: (if e < 0 then '-' else '+') :: padded 2 (Nat.toDigits 10 e.natAbs)

/-- The whole part of the decimal logarithm of `n / d`, towards zero. -/
def wholeLogarithm (n d : Nat) : Int :=
  let e := magnitude n d
  if e < 0 ∧ n * Nat.pow 10 (-e).toNat ≠ d then e + 1 else e

/-- A positive number `n / d`. -/
def positiveText (n d : Nat) : List Char :=
  if d = 1 ∧ n < 2147483647 then Nat.toDigits 10 n
  else if d * Nat.pow 10 9 < n ∨ n * Nat.pow 10 5 < d then scientific n d
  else
    let e := wholeLogarithm n d
    fixed (if 0 < e then 14 - e else 15 - e).toNat n d

/-- The text of a number. -/
def numberText (x : Float) : String :=
  match Value.Exact.ofFloat x with
  | .notANumber => "NaN"
  | .infinite negative => if negative then "-Infinity" else "Infinity"
  | .rational n d =>
    if n = 0 then "0"
    else
      let divisor := Nat.gcd n.natAbs d
      let digits := positiveText (n.natAbs / divisor) (d / divisor)
      String.ofList (if n < 0 then '-' :: digits else digits)

/-! ### Reading -/

/-- The floating-point number nearest to a power of ten, or to what remains of it. -/
def power (exponent : Int) : Float :=
  if exponent < 0 then Float.ofScientific 1 true exponent.natAbs
  else Float.ofScientific 1 false exponent.natAbs

/-- The most digits of a fraction that count, zeros at its front apart. -/
def mostFractionDigits : Nat := 20

/-- The exponent after its letter, and the text after it. -/
def exponentFrom (cs : List Char) : Int × List Char :=
  let (negative, body) :=
    match cs with
    | '-' :: rest => (true, rest)
    | '+' :: rest => (false, rest)
    | cs => (false, cs)
  let digits := body.takeWhile Text.isAsciiDigit
  let n : Nat := min (Number.digitsValue (digits.take 8)) 2000
  (if negative then -(n : Int) else n, body.drop digits.length)

/-- A number without a sign and the text after it. -/
def numberFrom? (cs : List Char) : Option (Float × List Char) :=
  let whole := cs.takeWhile Text.isAsciiDigit
  let front := Float.ofNat (Number.digitsValue whole)
  let number? : Option (Float × List Char) :=
    match cs.drop whole.length with
    | '.' :: rest =>
      let digits := rest.takeWhile Text.isAsciiDigit
      if whole.isEmpty && digits.isEmpty then none
      else
        let zeros := (digits.takeWhile (· == '0')).length
        let counted := digits.take (zeros + mostFractionDigits)
        let part := Float.ofScientific (Number.digitsValue counted) true counted.length
        some (front + part, rest.drop digits.length)
    | rest => if whole.isEmpty then none else some (front, rest)
  match number? with
  | none => none
  | some (x, e :: rest) =>
    if e = 'e' ∨ e = 'E' then
      let (exponent, rest) := exponentFrom rest
      some (x * power exponent, rest)
    else some (x, e :: rest)
  | some (x, []) => some (x, [])

/-- What is not a number. -/
def notANumber : Float := 0.0 / 0.0

/-- The number that a text spells between blanks. -/
def numberOf (s : String) : Float :=
  let (negative, body) :=
    match skip s.toList with
    | '-' :: rest => (true, rest)
    | cs => (false, cs)
  match numberFrom? body with
  | some (x, rest) => if (skip rest).isEmpty then if negative then -x else x else notANumber
  | none => notANumber

end RaggedTables.XPath
