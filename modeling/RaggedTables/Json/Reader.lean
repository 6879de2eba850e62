import RaggedTables.Fault

/-! Reading JSON. A reader takes the characters from a place on and returns the value with the
characters after it; a problem says how many characters were left where it was found. -/

namespace RaggedTables.Json

/-- Why a text is not JSON, and how many characters were left there. -/
structure Problem where
  reason : String
  left : Nat
deriving Repr, DecidableEq

/-- What stops reading: the text is not JSON, or an integer is too long. -/
inductive Stop where
  | problem (p : Problem)
  | longInteger (digits : Nat)
deriving Repr, DecidableEq

def stop (reason : String) (cs : List Char) : Except Stop α := .error (.problem ⟨reason, cs.length⟩)

/-- Blanks between the parts of a text. -/
def isSpace (c : Char) : Bool := c == ' ' || c == '\t' || c == '\n' || c == '\r'

def skipSpace (cs : List Char) : List Char := cs.dropWhile isSpace

/-! ### Texts -/

def hexValue? (c : Char) : Option Nat :=
  if '0' ≤ c && c ≤ '9' then some (c.toNat - '0'.toNat)
  else if 'a' ≤ c && c ≤ 'f' then some (c.toNat - 'a'.toNat + 10)
  else if 'A' ≤ c && c ≤ 'F' then some (c.toNat - 'A'.toNat + 10)
  else none

/-- The number that four hexadecimal digits spell. -/
def unit? : List Char → Option Nat
  | [a, b, c, d] => do
    return (((← hexValue? a) * 16 + (← hexValue? b)) * 16 + (← hexValue? c)) * 16 + (← hexValue? d)
  | _ => none

/-- The character of an escape of one letter. -/
def simpleEscape? : Char → Option Char
  | '"' => some '"'
  | '\\' => some '\\'
  | '/' => some '/'
  | 'b' => some '\x08'
  | 'f' => some '\x0c'
  | 'n' => some '\n'
  | 'r' => some '\r'
  | 't' => some '\t'
  | _ => none

/-- The low half of a pair of units that follows a high one. -/
def lowHalf? : List Char → Option Nat
  | '\\' :: 'u' :: rest =>
    if rest.length ≤ 4 then none
    else (unit? (rest.take 4)).filter fun n => 0xdc00 ≤ n && n ≤ 0xdfff
  | _ => none

/-- The rest of a text after its opening quote; `start` holds the characters from the quote on. -/
def readText (start : List Char) : (fuel : Nat) → List Char → List Char →
    Except Stop (String × List Char)
  | fuel + 1, found, c :: rest =>
    if c = '"' then .ok (String.ofList found.reverse, rest)
    else if c = '\\' then
      match rest with
      | [] => stop "Unterminated string starting at" start
      | 'u' :: digits =>
        if digits.length ≤ 4 then stop "Invalid \\uXXXX escape" rest
        else
          match unit? (digits.take 4) with
          | none => stop "Invalid \\uXXXX escape" rest
          | some n =>
            let after := digits.drop 4
            match if 0xd800 ≤ n && n ≤ 0xdbff then lowHalf? after else none with
            | some low =>
              let code := 0x10000 + (n - 0xd800) * 0x400 + (low - 0xdc00)
              readText start fuel (Char.ofNat code :: found) (after.drop 6)
            | none => readText start fuel (Char.ofNat n :: found) after
      | e :: after =>
        match simpleEscape? e with
        | some c => readText start fuel (c :: found) after
        | none => stop "Invalid \\escape" (c :: rest)
    else if c.toNat < 0x20 then stop "Invalid control character at" (c :: rest)
    else readText start fuel (c :: found) rest
  | _, _, _ => stop "Unterminated string starting at" start

/-! ### Numbers -/

/-- A part of a text and what follows it. -/
abbrev Cut := List Char × List Char

def digitsFrom (cs : List Char) : Cut :=
  (cs.takeWhile Text.isAsciiDigit, cs.dropWhile Text.isAsciiDigit)

/-- A point and digits, if both are there. -/
def decimalsFrom : List Char → Cut
  | '.' :: rest =>
    match digitsFrom rest with
    | ([], _) => ([], '.' :: rest)
    | (digits, after) => ('.' :: digits, after)
  | cs => ([], cs)

/-- The letter e, a sign and digits, if digits are there. -/
def powerFrom (cs : List Char) : Cut :=
  match cs with
  | e :: rest =>
    if e = 'e' ∨ e = 'E' then
      let (sign, digits) :=
        match rest with
        | '+' :: more => (['+'], more)
        | '-' :: more => (['-'], more)
        | more => ([], more)
      match digitsFrom digits with
      | ([], _) => ([], cs)
      | (power, after) => (e :: sign ++ power, after)
    else ([], cs)
  | [] => ([], [])

/-- A number whose sign has been read; `start` holds the characters from the sign on. -/
def readNumber (start : List Char) (negative : Bool) (cs : List Char) :
    Except Stop (Value × List Char) :=
  let (whole, rest) :=
    match cs with
    | '0' :: rest => (['0'], rest)
    | cs => digitsFrom cs
  if whole.isEmpty then stop "Expecting value" start
  else
    let (decimals, rest) := decimalsFrom rest
    let (power, rest) := powerFrom rest
    if decimals.isEmpty && power.isEmpty then
      if Text.digitLimit < whole.length then .error (.longInteger whole.length)
      else
        let n : Int := Number.digitsValue whole
        .ok (.int (if negative then -n else n), rest)
    else
      let text := (if negative then ['-'] else []) ++ whole ++ decimals ++ power
      .ok (.float ((Number.float? (String.ofList text)).getD 0), rest)

/-! ### Values -/

/-- The text after a word that it starts with. -/
def after? (word : String) (cs : List Char) : Option (List Char) :=
  if word.toList.isPrefixOf cs then some (cs.drop word.length) else none

/-- The words that stand for values. -/
def words : List (String × Value) :=
  [("null", .null), ("true", .bool true), ("false", .bool false),
    ("NaN", .float (0.0 / 0.0)), ("Infinity", .float (1.0 / 0.0)),
    ("-Infinity", .float (-1.0 / 0.0))]

/-- A word or a number. -/
def readScalar (cs : List Char) : Except Stop (Value × List Char) :=
  match words.findSome? fun (word, v) => (after? word cs).map fun rest => (v, rest) with
  | some found => .ok found
  | none =>
    match cs with
    | '-' :: rest => readNumber cs true rest
    | cs => readNumber cs false cs

mutual

/-- A value at the front of a text. -/
def readValue : (fuel : Nat) → List Char → Except Stop (Value × List Char)
  | 0, cs => stop "Expecting value" cs
  | fuel + 1, cs =>
    match cs with
    | '"' :: rest => do
      let (s, rest) ← readText cs (rest.length + 1) [] rest
      return (.text s, rest)
    | '[' :: rest =>
      match skipSpace rest with
      | ']' :: after => .ok (.list [], after)
      | inside => do
        let (items, rest) ← readItems fuel inside
        return (.list items, rest)
    | '\x7b' :: rest =>
      match skipSpace rest with
      | '\x7d' :: after => .ok (.map [], after)
      | inside => do
        let (entries, rest) ← readEntries fuel inside
        return (.ofEntries entries, rest)
    | cs => readScalar cs

/-- Items up to the closing bracket. -/
def readItems : (fuel : Nat) → List Char → Except Stop (List Value × List Char)
  | 0, cs => stop "Expecting value" cs
  | fuel + 1, cs => do
    let (v, rest) ← readValue fuel cs
    match skipSpace rest with
    | ']' :: after => return ([v], after)
    | ',' :: after =>
      let (more, rest) ← readItems fuel (skipSpace after)
      return (v :: more, rest)
    | other => stop "Expecting ',' delimiter" other

/-- Keys and values up to the closing brace. -/
def readEntries : (fuel : Nat) → List Char → Except Stop (List (Value × Value) × List Char)
  | 0, cs => stop "Expecting value" cs
  | fuel + 1, cs =>
    match cs with
    | '"' :: quotedRest => do
      let (key, rest) ← readText cs (quotedRest.length + 1) [] quotedRest
      match skipSpace rest with
      | ':' :: after =>
        let (v, rest) ← readValue fuel (skipSpace after)
        match skipSpace rest with
        | '\x7d' :: after => return ([(.text key, v)], after)
        | ',' :: after =>
          let (more, rest) ← readEntries fuel (skipSpace after)
          return ((.text key, v) :: more, rest)
        | other => stop "Expecting ',' delimiter" other
      | other => stop "Expecting ':' delimiter" other
    | cs => stop "Expecting property name enclosed in double quotes" cs

end

/-- Reads a text that holds one value and nothing else but blanks. -/
def readAll (cs : List Char) : Except Stop Value :=
  match cs with
  | '\ufeff' :: _ => stop "Unexpected UTF-8 BOM (decode using utf-8-sig)" cs
  | cs => do
    let (v, rest) ← readValue (2 * cs.length + 2) (skipSpace cs)
    match skipSpace rest with
    | [] => return v
    | other => stop "Extra data" other

/-- The fault of a problem in a text, with line and column. -/
def Problem.toFault (text : List Char) (problem : Problem) : JsonFault :=
  let place := text.length - problem.left
  let before := text.take place
  { reason := problem.reason
    line := before.count '\n' + 1
    column := (before.reverse.takeWhile (· != '\n')).length + 1
    place }

/-- The value of a JSON text. -/
def read (text : String) : Except Fault Value :=
  match readAll text.toList with
  | .ok v => .ok v
  | .error (.problem p) => .error (.json (p.toFault text.toList))
  | .error (.longInteger digits) => .error (.value (.longInteger digits))

end RaggedTables.Json
