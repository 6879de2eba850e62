/-! The shortest decimal that reads back as a floating-point number. A finite number is m · 2^q; the
reals that round to it form an interval, and the decimal sought is the point nearest to the number
on the first decimal grid that meets the interval. -/

namespace RaggedTables.Number

/-- A finite number other than zero, as `mantissa · 2 ^ exponent`; `lowest` says that the next
smaller number lies at half the usual distance. -/
structure Binary where
  mantissa : Nat
  exponent : Int
  lowest : Bool
deriving Repr, DecidableEq, Inhabited

/-- The parts of a number's 64 bits: the sign, and what the rest stands for. -/
inductive FloatParts where
  | zero
  | finite (value : Binary)
  | infinite
  | notANumber
deriving Repr, DecidableEq, Inhabited

def isNegative (bits : UInt64) : Bool := bits >>> 63 == 1

/-- What the bits of a number stand for, apart from the sign. -/
def FloatParts.ofBits (bits : UInt64) : FloatParts :=
  let exponent := ((bits >>> 52) &&& 0x7ff).toNat
  let fraction := (bits &&& 0xfffffffffffff).toNat
  if exponent = 0x7ff then if fraction = 0 then .infinite else .notANumber
  else if exponent = 0 then
    if fraction = 0 then .zero else .finite ⟨fraction, -1074, false⟩
  else .finite ⟨fraction + Nat.pow 2 52, (exponent : Int) - 1075, fraction = 0 && 1 < exponent⟩

/-- Decimal digits and the place of the point: `digits · 10 ^ exponent`. -/
structure Digits where
  digits : Nat
  exponent : Int
deriving Repr, DecidableEq, Inhabited

/-- `a / b` as a quotient of natural numbers after scaling by `2 ^ p · 10 ^ d`. -/
def scaled (n : Nat) (p d : Int) : Nat × Nat :=
  (n * Nat.pow 2 p.toNat * Nat.pow 10 d.toNat, Nat.pow 2 (-p).toNat * Nat.pow 10 (-d).toNat)

/-- The number of decimal digits of `n`. -/
def digitCount (n : Nat) : Nat := (Nat.toDigits 10 n).length

namespace Binary

/-- The ends of the interval that rounds to the number, in quarters of its last place. -/
def low (b : Binary) : Nat := 4 * b.mantissa - (if b.lowest then 1 else 2)
def high (b : Binary) : Nat := 4 * b.mantissa + 2

/-- The decimal exponent of the leading digit: `10 ^ k ≤ value < 10 ^ (k + 1)`. -/
def leading (b : Binary) : Int :=
  let (num, den) := scaled b.mantissa b.exponent 0
  if den ≤ num then (digitCount (num / den) : Int) - 1
  else
    let k := (digitCount num : Int) - digitCount den
    let (num', den') := scaled b.mantissa b.exponent (-k)
    if den' ≤ num' then k else k - 1

/-- `digits · 10 ^ exponent` lies in the interval, whose ends belong to it when the mantissa is
even. -/
def covers (b : Binary) (point : Digits) : Bool :=
  let (num, den) := scaled (4 * point.digits) (-b.exponent) point.exponent
  let inside := b.low * den < num && num < b.high * den
  inside || (b.mantissa % 2 == 0 && (b.low * den == num || num == b.high * den))

/-- The point of a grid nearest to the number among its two neighbours that lie in the interval; of
two equally near ones the even one. -/
def nearest? (b : Binary) (exponent : Int) : Option Digits :=
  let (num, den) := scaled b.mantissa b.exponent (-exponent)
  let below := num / den
  let twice := 2 * (num % den)
  let first := if twice < den || (twice == den && below % 2 == 0) then below else below + 1
  let second := if first == below then below + 1 else below
  [first, second].findSome? fun digits =>
    if b.covers ⟨digits, exponent⟩ then some ⟨digits, exponent⟩ else none

/-- The shortest decimal, trying one digit, then two, up to seventeen. -/
def shortest (b : Binary) : Digits :=
  ((List.range 17).findSome? fun places : Nat => b.nearest? (b.leading - (places : Int))).getD
    ⟨b.mantissa, b.exponent⟩

end Binary

/-- Without zeros at the end. -/
def Digits.trim (d : Digits) : Digits :=
  let rec go : Nat → Nat → Int → Digits
    | 0, digits, exponent => ⟨digits, exponent⟩
    | fuel + 1, digits, exponent =>
      if digits != 0 && digits % 10 == 0 then go fuel (digits / 10) (exponent + 1)
      else ⟨digits, exponent⟩
  go (digitCount d.digits) d.digits d.exponent

/-- How floating-point numbers are written. -/
structure FloatFormat where
  infinity : String
  notANumber : String

/-- The digits of a finite number with the point, or with an exponent of at least two digits where
the leading digit stands below the fourth place after the point or above the sixteenth before it. -/
def positional (d : Digits) : String :=
  let d := d.trim
  let text := Nat.toDigits 10 d.digits
  let count := text.length
  let point : Int := d.exponent + count
  if -4 < point ∧ point ≤ 16 then
    if point ≤ 0 then "0." ++ String.ofList (List.replicate (-point).toNat '0' ++ text)
    else if count ≤ point.toNat then
      String.ofList (text ++ List.replicate (point.toNat - count) '0') ++ ".0"
    else String.ofList (text.take point.toNat ++ '.' :: text.drop point.toNat)
  else
    let power := point - 1
    let mark := if power < 0 then "e-" else "e+"
    let size := toString power.natAbs
    let lead := String.ofList (text.take 1)
    let rest := if count = 1 then "" else String.ofList ('.' :: text.drop 1)
    lead ++ rest ++ mark ++ (if size.length < 2 then "0" else "") ++ size

/-- A floating-point number as text. -/
def FloatFormat.write (format : FloatFormat) (x : Float) : String :=
  let bits := x.toBits
  let sign := if isNegative bits then "-" else ""
  match FloatParts.ofBits bits with
  | .zero => sign ++ "0.0"
  | .finite value => sign ++ positional value.shortest
  | .infinite => sign ++ format.infinity
  | .notANumber => format.notANumber

/-- Numbers as values are shown. -/
def plainFloat : FloatFormat := ⟨"inf", "nan"⟩

/-- Numbers in JSON. -/
def jsonFloat : FloatFormat := ⟨"Infinity", "NaN"⟩

end RaggedTables.Number
