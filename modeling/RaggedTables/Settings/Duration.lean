import RaggedTables.Number.Decimal

/-! Lengths of time as text: quantities of units (`P1DT2H`), days with or without a clock
(`1 day, 02:30`), or a clock alone (`02:30:15.5`), each after an optional sign. -/

namespace RaggedTables.Duration

/-- Why a text is no length of time. -/
inductive Problem where
  | tooShort
  | extraCharacters
  | hour
  | minute
  | second
  | minuteRange
  | secondRange
  | noSecondFraction
  | number
  | repeatedTime
  | fraction
  | timeUnit
  | dateUnit
  | dayWord
  | large
  | largeHours
  | manyDays
  | notANumber
deriving Repr, DecidableEq

def Problem.text : Problem → String
  | .tooShort => "input is too short"
  | .extraCharacters => "unexpected extra characters at the end of the input"
  | .hour => "invalid character in hour"
  | .minute => "invalid character in minute"
  | .second => "invalid character in second"
  | .minuteRange => "minute value is outside expected range of 0-59"
  | .secondRange => "second value is outside expected range of 0-59"
  | .noSecondFraction => "second fraction is missing digits after the decimal point"
  | .number => "invalid digit in duration"
  | .repeatedTime => "`t` character repeated in duration"
  | .fraction => "quantity fraction invalid in duration"
  | .timeUnit => "quantity invalid in time part of duration"
  | .dateUnit => "quantity invalid in date part of duration"
  | .dayWord => "\"day\" identifier in duration not correctly formatted"
  | .large => "a numeric value in the duration is too large"
  | .largeHours => "durations hours must less than 1,000,000,000 hours"
  | .manyDays => "durations may not exceed 999,999,999 days"
  | .notANumber => "NaN values not permitted"

/-- A second and a day in microseconds. -/
def second : Nat := 1000000
def day : Nat := 86400 * second

/-- A length of time with no more days than there may be. -/
def bounded (microseconds : Int) : Except Problem Int :=
  if 999999999 < microseconds.natAbs / day then .error .manyDays else .ok microseconds

/-- A whole number at the front of a text. -/
def whole (cs : List Char) : Except Problem (Nat × List Char) :=
  let digits := cs.takeWhile Text.isAsciiDigit
  let n := Number.digitsValue digits
  if digits.isEmpty then .error .number
  else if Nat.pow 2 32 ≤ n then .error .large
  else .ok (n, cs.drop digits.length)

/-! ### Units -/

/-- The digits after a point or a comma, if one stands here. -/
def decimals? : List Char → Option (List Char)
  | c :: rest => if c = '.' ∨ c = ',' then some (rest.takeWhile Text.isAsciiDigit) else none
  | [] => none

/-- A quantity of units of so many seconds in microseconds, a half rounded up. -/
def quantity (n : Nat) (decimals : List Char) (unit : Nat) : Nat :=
  let scale := Nat.pow 10 decimals.length
  n * unit * second + (2 * Number.digitsValue decimals * unit * second + scale) / (2 * scale)

/-- The seconds of a unit, before the letter T and after it. -/
def unit? (time : Bool) (letter : Char) : Option Nat :=
  match time, letter with
  | false, 'Y' => some (365 * 86400)
  | false, 'M' => some (30 * 86400)
  | false, 'W' => some (7 * 86400)
  | false, 'D' => some 86400
  | true, 'H' => some 3600
  | true, 'M' => some 60
  | true, 'S' => some 1
  | _, _ => none

/-- The sum of quantities. None follows one with a fraction. -/
def units : (fuel : Nat) → (time fractional : Bool) → List Char → Except Problem Nat
  | _, _, _, [] => .ok 0
  | 0, _, _, _ => .error .tooShort
  | fuel + 1, time, fractional, c :: rest =>
    if c = 'T' then if time then .error .repeatedTime else units fuel true fractional rest
    else do
      let (n, rest) ← whole (c :: rest)
      if fractional then throw .fraction
      let decimals := decimals? rest
      let rest := rest.drop ((decimals.map fun d => d.length + 1).getD 0)
      match rest with
      | letter :: rest =>
        match unit? time letter with
        | some unit =>
          return quantity n (decimals.getD []) unit + (← units fuel time decimals.isSome rest)
        | none => throw (if time then .timeUnit else .dateUnit)
      | [] => throw (if time then .timeUnit else .dateUnit)

/-! ### Clocks -/

/-- Two digits below sixty. -/
def sixty (malformed beyond : Problem) : List Char → Except Problem (Nat × List Char)
  | a :: b :: rest =>
    let digits := [a, b]
    if !digits.all Text.isAsciiDigit then .error malformed
    else if 59 < Number.digitsValue digits then .error beyond
    else .ok (Number.digitsValue digits, rest)
  | [c] => .error (if Text.isAsciiDigit c then .tooShort else malformed)
  | [] => .error .tooShort

/-- The microseconds that the first six decimals of a second spell. -/
def micros (decimals : List Char) : Nat :=
  let kept := decimals.take 6
  Number.digitsValue kept * Nat.pow 10 (6 - kept.length)

/-- Seconds with decimals, up to the end. -/
def seconds (cs : List Char) : Except Problem Nat := do
  let (s, rest) ← sixty .second .secondRange cs
  match decimals? rest with
  | none => if rest.isEmpty then return s * second else throw .extraCharacters
  | some [] => throw .noSecondFraction
  | some decimals =>
    if decimals.length + 1 < rest.length then throw .extraCharacters
    else return s * second + micros decimals

/-- Hours and minutes, and perhaps seconds, up to the end. Of what follows the hours twelve
characters count. -/
def clock (cs : List Char) : Except Problem Nat := do
  if (String.ofList cs).utf8ByteSize < 5 then throw .tooShort
  let hours := cs.takeWhile (· != ':')
  if hours.length = cs.length then throw .hour
  if 10 < hours.length then throw .largeHours
  if !hours.all Text.isAsciiDigit then throw .hour
  let h := Number.digitsValue hours
  if 24 * Nat.pow 10 8 ≤ h then throw .largeHours
  let after := (cs.drop (hours.length + 1)).take 12
  if after.length < 2 then throw .tooShort
  let (m, rest) ← sixty .minute .minuteRange after
  let whole := (3600 * h + 60 * m) * second
  match rest with
  | [] => return whole
  | ':' :: rest => return whole + (← seconds rest)
  | _ => throw .extraCharacters

/-! ### Days -/

/-- What follows an optional character. -/
def skip (c : Char) : List Char → List Char
  | d :: rest => if c = d then rest else d :: rest
  | [] => []

/-- What follows the word for days, which may be cut to its first letter. -/
def afterDayWord : List Char → Except Problem (List Char)
  | d :: rest =>
    if d ≠ 'd' ∧ d ≠ 'D' then .error .dayWord
    else
      match rest with
      | a :: rest =>
        if a ≠ 'a' ∧ a ≠ 'A' then .ok (a :: rest)
        else
          match rest with
          | y :: rest =>
            if y ≠ 'y' ∧ y ≠ 'Y' then .error .dayWord
            else
              match rest with
              | s :: rest => .ok (if s = 's' ∨ s = 'S' then rest else s :: rest)
              | [] => .ok []
          | [] => .error .dayWord
      | [] => .ok []
  | [] => .error .dayWord

/-- A number of days, and perhaps a clock. -/
def days (cs : List Char) : Except Problem Nat := do
  if cs.isEmpty then throw .tooShort
  let (n, rest) ← whole cs
  let rest ← afterDayWord (skip ' ' rest)
  match skip ' ' (skip ',' rest) with
  | [] => return n * day
  | rest => return n * day + (← clock rest)

/-! ### Texts -/

/-- A length of time without a sign; `size` is the size of the whole text. -/
def unsigned (size : Nat) (body : List Char) (hasDay : Bool) : Except Problem Nat :=
  match body with
  | 'P' :: rest =>
    match units (rest.length + 1) false false rest with
    | .ok n => if size < 3 then .error .tooShort else .ok n
    | .error problem => .error problem
  | body => if hasDay || size < 5 then days body else clock body

/-- The length of time that a text spells, in microseconds. -/
def ofText (s : String) : Except Problem Int := do
  let cs := s.toList
  if cs.isEmpty then throw .tooShort
  let (negative, body) := Number.splitSign cs
  let n ← unsigned s.utf8ByteSize body (cs.any fun c => c == 'd' || c == 'D')
  bounded (if negative then -(n : Int) else n)

end RaggedTables.Duration
