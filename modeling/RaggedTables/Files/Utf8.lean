import RaggedTables.Text.Quoted

/-! The bytes of text: UTF-8 and line ends. A text is written as it is; when bytes are read, every
line end becomes a line feed. -/

namespace RaggedTables.Utf8

/-- The bytes of a text. -/
def encode (cs : List Char) : List UInt8 := cs.flatMap String.utf8EncodeChar

/-- A byte that continues a character. -/
def isTail (b : UInt8) : Bool := 0x80 ≤ b && b ≤ 0xbf

/-- The number of bytes of the character that a byte starts. -/
def sizeOf? (b : UInt8) : Option Nat :=
  if b < 0x80 then some 1
  else if b < 0xc2 then none
  else if b < 0xe0 then some 2
  else if b < 0xf0 then some 3
  else if b < 0xf5 then some 4
  else none

/-- Whether the second byte of a character fits the first: no character is spelled longer than
needed, none is half of a pair, and none lies beyond the last. -/
def fitsSecond (first second : UInt8) : Bool :=
  isTail second &&
    !(first == 0xe0 && second < 0xa0) && !(first == 0xed && 0xa0 ≤ second) &&
    !(first == 0xf0 && second < 0x90) && !(first == 0xf4 && 0x90 ≤ second)

/-- How many bytes at the front belong to the character that `first` starts. -/
def goodTail (first : UInt8) (size : Nat) (rest : List UInt8) : Nat :=
  match rest with
  | [] => 0
  | second :: more =>
    if fitsSecond first second then 1 + ((more.take (size - 2)).takeWhile isTail).length else 0

/-- The code point of a first byte and the bytes that continue it. -/
def code (first : UInt8) (tail : List UInt8) : Nat :=
  let bits := if tail.length = 0 then 0x7f else if tail.length = 1 then 0x1f
    else if tail.length = 2 then 0xf else 7
  tail.foldl (fun n b => n * 64 + (b.toNat &&& 0x3f)) (first.toNat &&& bits)

/-- Why bytes are no character, and how many of them are at fault. -/
structure Bad where
  reason : String
  count : Nat
deriving Repr, DecidableEq

/-- The character at the front of bytes, with the bytes after it. -/
def decodeChar (first : UInt8) (rest : List UInt8) : Except Bad (Char × List UInt8) :=
  match sizeOf? first with
  | none => .error ⟨"invalid start byte", 1⟩
  | some size =>
    let good := goodTail first size rest
    if size = 1 then .ok (Char.ofNat first.toNat, rest)
    else if good + 1 = size then .ok (Char.ofNat (code first (rest.take good)), rest.drop good)
    else if good = rest.length then .error ⟨"unexpected end of data", good + 1⟩
    else .error ⟨"invalid continuation byte", good + 1⟩

/-- The first bytes that are no text. -/
structure BadAt where
  byte : UInt8
  place : Nat
  bad : Bad
deriving Repr, DecidableEq

/-- The text of bytes from a place on. -/
def decodeFrom (place : Nat) : (fuel : Nat) → List UInt8 → Except BadAt (List Char)
  | _, [] => .ok []
  | 0, _ => .ok []
  | fuel + 1, b :: rest =>
    match decodeChar b rest with
    | .ok (c, after) => do
      return c :: (← decodeFrom (place + (rest.length + 1 - after.length)) fuel after)
    | .error bad => .error ⟨b, place, bad⟩

/-- The text of bytes. -/
def decode (bytes : List UInt8) : Except BadAt (List Char) := decodeFrom 0 bytes.length bytes

/-- The text of bytes, with an escape for each byte that belongs to no character. -/
def decodeShown : (fuel : Nat) → List UInt8 → List Char
  | _, [] => []
  | 0, _ => []
  | fuel + 1, b :: rest =>
    match decodeChar b rest with
    | .ok (c, after) => c :: decodeShown fuel after
    | .error bad =>
      ((b :: rest).take bad.count).flatMap (fun b => '\\' :: 'x' :: Text.hexDigits 2 b.toNat) ++
        decodeShown fuel ((b :: rest).drop bad.count)

/-- Every line end as a line feed. -/
def unifyLines : List Char → List Char
  | '\r' :: '\n' :: rest => '\n' :: unifyLines rest
  | '\r' :: rest => '\n' :: unifyLines rest
  | c :: rest => c :: unifyLines rest
  | [] => []

end RaggedTables.Utf8
