import RaggedTables.Markup.Token
import RaggedTables.Text.Pieces

/-! Tokens of CSS selectors. -/

namespace RaggedTables.Selector

open Markup (isSpace isHexDigit lowerAscii)

/-- A token; blanks count as one. -/
inductive Token where
  | space
  | ident (name : String)
  | hash (name : String)
  | string (value : String)
  | number (text : String)
  | mark (c : Char)
deriving Repr, DecidableEq, Inhabited

/-- A character beyond ASCII. -/
def isBeyondAscii (c : Char) : Bool := 0x7f < c.toNat

def isNameStart (c : Char) : Bool := Text.isAsciiLetter c || c == '_' || isBeyondAscii c

def isNamePart (c : Char) : Bool := isNameStart c || Text.isAsciiDigit c || c == '-'

/-- Line ends, which a backslash does not escape. -/
def isLineEnd (c : Char) : Bool := c == '\n' || c == '\r' || c == '\x0c'

/-- One blank, where a line end of two characters counts as one. -/
def afterBlank : List Char → List Char
  | '\r' :: '\n' :: rest => rest
  | c :: rest => if isSpace c then rest else c :: rest
  | [] => []

/-- The character of an escape and the text after it; the backslash has been read. Up to six
hexadecimal digits give a code point, and a blank after them belongs to them. -/
def escape? (cs : List Char) : Option (Char × List Char) :=
  match cs with
  | [] => none
  | c :: rest =>
    let digits := (cs.take 6).takeWhile isHexDigit
    if digits.isEmpty then if isLineEnd c then none else some (c, rest)
    else
      let n := Markup.Reference.hexNumber (digits.map lowerAscii)
      some (if n.isValidChar then Char.ofNat n else '\ufffd', afterBlank (cs.drop digits.length))

/-- The characters of a name and the text after it. -/
def nameParts : (fuel : Nat) → List Char → List Char × List Char
  | 0, cs => ([], cs)
  | _, [] => ([], [])
  | fuel + 1, c :: rest =>
    if isNamePart c then
      let (name, after) := nameParts fuel rest
      (c :: name, after)
    else
      match if c = '\\' then escape? rest else none with
      | some (e, more) =>
        let (name, after) := nameParts fuel more
        (e :: name, after)
      | none => ([], c :: rest)

/-- Whether a name starts: a starting character or an escape, perhaps after a hyphen. -/
def startsName (cs : List Char) : Bool :=
  let body :=
    match cs with
    | '-' :: rest => rest
    | cs => cs
  match body with
  | c :: rest => isNameStart c || (c == '\\' && (escape? rest).isSome)
  | [] => false

/-- The characters of a string up to its quote and the text after the quote; nothing if it is not
closed. An escaped line end is left out. -/
def stringRest? (quote : Char) : (fuel : Nat) → List Char → Option (List Char × List Char)
  | 0, _ => none
  | _, [] => none
  | fuel + 1, c :: rest =>
    if c = quote then some ([], rest)
    else if c = '\\' then
      match rest with
      | '\r' :: '\n' :: more => stringRest? quote fuel more
      | e :: more =>
        if isLineEnd e then stringRest? quote fuel more
        else
          match escape? rest with
          | some (e, more) => (stringRest? quote fuel more).map fun (s, after) => (e :: s, after)
          | none => none
      | [] => none
    else if isLineEnd c then none
    else (stringRest? quote fuel rest).map fun (s, after) => (c :: s, after)

/-- A number and the text after it: an optional sign, digits, and a point with digits. -/
def number? (cs : List Char) : Option (List Char × List Char) :=
  let (sign, body) :=
    match cs with
    | '+' :: rest => (['+'], rest)
    | '-' :: rest => (['-'], rest)
    | cs => ([], cs)
  let whole := body.takeWhile Text.isAsciiDigit
  match body.drop whole.length with
  | '.' :: rest =>
    let part := rest.takeWhile Text.isAsciiDigit
    if !part.isEmpty then some (sign ++ whole ++ '.' :: part, rest.drop part.length)
    else if whole.isEmpty then none
    else some (sign ++ whole, '.' :: rest)
  | rest => if whole.isEmpty then none else some (sign ++ whole, rest)

/-- The tokens of a selector; none if a string in it is not closed. -/
def tokensFrom : (fuel : Nat) → List Char → Option (List Token)
  | _, [] => some []
  | 0, _ => none
  | fuel + 1, c :: rest =>
    if isSpace c then (tokensFrom fuel (rest.dropWhile isSpace)).map (Token.space :: ·)
    else if startsName (c :: rest) then
      let (name, after) := nameParts (rest.length + 1) (c :: rest)
      (tokensFrom fuel after).map (Token.ident (String.ofList name) :: ·)
    else
      let hashed := if c = '#' then nameParts rest.length rest else ([], [])
      if !hashed.1.isEmpty then
        (tokensFrom fuel hashed.2).map (Token.hash (String.ofList hashed.1) :: ·)
      else if c = '"' ∨ c = '\'' then
        match stringRest? c (rest.length + 1) rest with
        | some (s, after) => (tokensFrom fuel after).map (Token.string (String.ofList s) :: ·)
        | none => none
      else
        match number? (c :: rest) with
        | some (n, after) => (tokensFrom fuel after).map (Token.number (String.ofList n) :: ·)
        | none =>
          match c, rest with
          | '/', '*' :: more => tokensFrom fuel ((Text.cut? ['*', '/'] more).getD ([], [])).2
          | c, rest => (tokensFrom fuel rest).map (Token.mark c :: ·)

/-- The tokens of a selector. -/
def tokens? (text : String) : Option (List Token) :=
  let cs := text.toList
  tokensFrom (cs.length + 1) cs

end RaggedTables.Selector
