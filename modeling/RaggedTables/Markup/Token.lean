import RaggedTables.Markup.Reference
import RaggedTables.Markup.Tree
import RaggedTables.Text.Letter

/-! Tokens of markup: tags, comments, the document type and text. A text is read character by
character; whatever starts no markup is text. -/

namespace RaggedTables.Markup

/-- A token. An opening tag may close itself. -/
inductive Token where
  | opening (name : String) (attributes : List Attribute) (closed : Bool)
  | closing (name : String)
  | comment (content : String)
  | documentType (content : String)
  | text (content : String) (raw : Bool)
deriving Repr, Inhabited

/-- Blanks between the parts of a tag. -/
def isSpace (c : Char) : Bool := c == ' ' || c == '\t' || c == '\n' || c == '\x0c' || c == '\r'

def lowerAscii (c : Char) : Char :=
  if 'A' ≤ c && c ≤ 'Z' then Char.ofNat (c.toNat + 32) else c

/-- A text in which every line end is a line feed, and the character that means nothing is
replaced. -/
def normalized : List Char → List Char
  | '\r' :: '\n' :: rest => '\n' :: normalized rest
  | '\r' :: rest => '\n' :: normalized rest
  | '\x00' :: rest => '\ufffd' :: normalized rest
  | c :: rest => c :: normalized rest
  | [] => []

/-! ### Character references -/

/-- What the numbers 0x80 to 0x9f stand for, which are no characters of their own. -/
def oldCodes : List Nat :=
  [0x20ac, 0x81, 0x201a, 0x192, 0x201e, 0x2026, 0x2020, 0x2021, 0x2c6, 0x2030, 0x160, 0x2039, 0x152,
    0x8d, 0x17d, 0x8f, 0x90, 0x2018, 0x2019, 0x201c, 0x201d, 0x2022, 0x2013, 0x2014, 0x2dc, 0x2122,
    0x161, 0x203a, 0x153, 0x9d, 0x17e, 0x178]

/-- The character that a number stands for. -/
def characterOf (n : Nat) : Char :=
  if n = 0 || 0x10ffff < n || (0xd800 ≤ n && n ≤ 0xdfff) then '\ufffd'
  else if 0x80 ≤ n && n ≤ 0x9f then Char.ofNat (oldCodes.getD (n - 0x80) n)
  else Char.ofNat n

def isHexDigit (c : Char) : Bool :=
  Text.isAsciiDigit c || ('a' ≤ c && c ≤ 'f') || ('A' ≤ c && c ≤ 'F')

/-- The text after a semicolon, if there is one. -/
def afterSemicolon : List Char → List Char
  | ';' :: rest => rest
  | cs => cs

/-- A number as a reference, after the number sign. -/
def numericReference? (cs : List Char) : Option (List Char × List Char) :=
  match cs with
  | x :: rest =>
    if x = 'x' ∨ x = 'X' then
      let digits := rest.takeWhile isHexDigit
      if digits.isEmpty then none
      else
        some ([characterOf (Reference.hexNumber (digits.map lowerAscii))],
          afterSemicolon (rest.drop digits.length))
    else
      let digits := cs.takeWhile Text.isAsciiDigit
      if digits.isEmpty then none
      else
        let n := digits.foldl (fun n c => 10 * n + (c.toNat - '0'.toNat)) 0
        some ([characterOf n], afterSemicolon (cs.drop digits.length))
  | [] => none

/-- The text that a reference stands for and the text after it; the ampersand has been read. In the
value of an attribute a name without a semicolon before a letter, a digit or an equals sign is none.
-/
def reference? (inValue : Bool) (cs : List Char) : Option (List Char × List Char) :=
  match cs with
  | '#' :: rest => numericReference? rest
  | cs =>
    match Reference.longest? cs with
    | none => none
    | some (r, true, rest) => some (r.text, rest)
    | some (r, false, rest) =>
      match rest with
      | c :: _ =>
        if inValue && (c == '=' || Text.isAsciiLetter c || Text.isAsciiDigit c) then none
        else some (r.text, rest)
      | [] => some (r.text, rest)

/-- A text with its references replaced. -/
def decoded (inValue : Bool) : (fuel : Nat) → List Char → List Char
  | _, [] => []
  | 0, cs => cs
  | fuel + 1, c :: rest =>
    match if c = '&' then reference? inValue rest else none with
    | some (text, after) => text ++ decoded inValue fuel after
    | none => c :: decoded inValue fuel rest

/-- A text with its references replaced. -/
def decodeText (inValue : Bool) (cs : List Char) : String :=
  String.ofList (decoded inValue cs.length cs)

/-! ### Tags -/

/-- The name of a tag and the text after it. -/
def tagName (cs : List Char) : String × List Char :=
  let name := cs.takeWhile fun c => !isSpace c && c != '/' && c != '>'
  (String.ofList (name.map lowerAscii), cs.drop name.length)

/-- The name of an attribute and the text after it; an equals sign may only come first. -/
def attributeName (cs : List Char) : String × List Char :=
  let isPart (c : Char) := !isSpace c && c != '/' && c != '>' && c != '='
  let name :=
    match cs with
    | '=' :: rest => '=' :: rest.takeWhile isPart
    | cs => cs.takeWhile isPart
  (String.ofList (name.map lowerAscii), cs.drop name.length)

/-- The value of an attribute and the text after it. -/
def attributeValue (cs : List Char) : String × List Char :=
  match cs with
  | [] => ("", [])
  | q :: rest =>
    if q = '"' ∨ q = '\'' then
      let value := rest.takeWhile (· != q)
      (decodeText true value, rest.drop (value.length + 1))
    else
      let value := cs.takeWhile fun c => !isSpace c && c != '>'
      (decodeText true value, cs.drop value.length)

/-- An attribute and the text after it. -/
def readAttribute (cs : List Char) : Attribute × List Char :=
  let (name, rest) := attributeName cs
  match rest.dropWhile isSpace with
  | '=' :: more =>
    let (value, after) := attributeValue (more.dropWhile isSpace)
    (⟨name, some value⟩, after)
  | _ => (⟨name, none⟩, rest)

/-- Adds an attribute; of two with one name the first counts. -/
def addAttribute (attributes : List Attribute) (a : Attribute) : List Attribute :=
  if attributes.any fun b => b.name == a.name then attributes else attributes ++ [a]

/-- The attributes of a tag, whether it closes itself, and the text after it; nothing when the text
ends inside the tag. -/
def tagRest? : (fuel : Nat) → List Attribute → List Char →
    Option (List Attribute × Bool × List Char)
  | 0, _, _ => none
  | fuel + 1, attributes, cs =>
    match cs with
    | [] => none
    | '>' :: rest => some (attributes, false, rest)
    | '/' :: '>' :: rest => some (attributes, true, rest)
    | c :: rest =>
      if isSpace c || c == '/' then tagRest? fuel attributes rest
      else
        let (a, after) := readAttribute (c :: rest)
        tagRest? fuel (addAttribute attributes a) after

/-! ### Comments -/

/-- The text before a mark and the text after it; all of it when the mark is missing. -/
def upToMark (mark : List Char) (cs : List Char) : List Char × List Char :=
  (Text.cut? mark cs).getD (cs, [])

/-- The content of a comment and the text after it. A comment ends at two dashes and a sign; the
dashes that open it may end it, and an exclamation mark may stand before the sign. -/
def commentEnd : (fuel : Nat) → List Char → List Char × List Char
  | _, [] => ([], [])
  | 0, cs => (cs, [])
  | fuel + 1, cs =>
    match cs with
    | '-' :: '-' :: '>' :: rest => ([], rest)
    | '-' :: '-' :: '!' :: '>' :: rest => ([], rest)
    | c :: rest =>
      let (content, after) := commentEnd fuel rest
      (c :: content, after)
    | [] => ([], [])

/-- A comment whose opening has been read. -/
def commentRest (cs : List Char) : List Char × List Char :=
  match cs with
  | '>' :: rest => ([], rest)
  | '-' :: '>' :: rest => ([], rest)
  | cs => commentEnd cs.length cs

/-! ### Text of special elements -/

/-- How the text of an element is read: as usual, with references but no tags, or as it is. -/
inductive TextMode where
  | usual
  | references
  | raw
deriving Repr, DecidableEq

def textMode (tag : String) : TextMode :=
  if ["title", "textarea"].contains tag then .references
  else if ["script", "style", "xmp", "iframe", "noembed", "noframes", "plaintext"].contains tag then
    .raw
  else .usual

/-- Whether a text starts with the closing tag of an element. -/
def closes (tag : List Char) (cs : List Char) : Bool :=
  match cs with
  | '<' :: '/' :: rest =>
    (rest.take tag.length).map lowerAscii == tag &&
      match rest.drop tag.length with
      | c :: _ => isSpace c || c == '/' || c == '>'
      | [] => false
  | _ => false

/-- The text up to the closing tag of an element, and the text from there. -/
def upToClosing (tag : List Char) : List Char → List Char × List Char
  | [] => ([], [])
  | c :: rest =>
    if closes tag (c :: rest) then ([], c :: rest)
    else
      let (content, after) := upToClosing tag rest
      (c :: content, after)

/-! ### Reading -/

/-- Whether a text starts with markup. -/
def startsMarkup : List Char → Bool
  | '<' :: c :: rest =>
    c == '!' || c == '?' || Text.isAsciiLetter c || (c == '/' && !rest.isEmpty)
  | _ => false

/-- The text up to the next markup, and the text from there. -/
def upToMarkup : List Char → List Char × List Char
  | [] => ([], [])
  | c :: rest =>
    if startsMarkup (c :: rest) then ([], c :: rest)
    else
      let (content, after) := upToMarkup rest
      (c :: content, after)

/-- The token of a text; none for an empty text. -/
def textToken (raw : Bool) (content : String) : List Token :=
  if content.isEmpty then [] else [.text content raw]

/-- The tokens of an element's opening and of its text, where that is read in its own way, and the
text after them. -/
def openingTokens (name : String) (attributes : List Attribute) (closed : Bool) (rest : List Char) :
    List Token × List Char :=
  let first := Token.opening name attributes closed
  match if closed then .usual else textMode name with
  | .usual => ([first], rest)
  | mode =>
    let (content, after) := upToClosing name.toList rest
    let text := if mode = .references then decodeText false content else String.ofList content
    (first :: textToken (mode = .raw) text, after)

/-- Whether a text starts with a word, in letters of any case. -/
def startsWithWord (word : List Char) (cs : List Char) : Bool :=
  (cs.take word.length).map lowerAscii == word

/-- The markup at the front of a text after its opening sign, and the text after it. -/
def markup (cs : List Char) : List Token × List Char :=
  match cs with
  | '!' :: '-' :: '-' :: rest =>
    let (content, after) := commentRest rest
    ([.comment (String.ofList content)], after)
  | '!' :: rest =>
    let (content, after) := upToMark ['>'] rest
    if startsWithWord "doctype".toList rest then
      ([.documentType (String.ofList content)], after)
    else ([.comment (String.ofList content)], after)
  | '?' :: _ =>
    let (content, after) := upToMark ['>'] cs
    ([.comment (String.ofList content)], after)
  | '/' :: '>' :: rest => ([], rest)
  | '/' :: rest =>
    if (rest.head?.map Text.isAsciiLetter).getD false then
      let (name, more) := tagName rest
      match tagRest? (more.length + 1) [] more with
      | some (_, _, after) => ([.closing name], after)
      | none => ([], [])
    else
      let (content, after) := upToMark ['>'] rest
      ([.comment (String.ofList content)], after)
  | cs =>
    let (name, more) := tagName cs
    match tagRest? (more.length + 1) [] more with
    | some (attributes, closed, after) => openingTokens name attributes closed after
    | none => ([], [])

/-- The tokens of a text. -/
def tokensFrom : (fuel : Nat) → List Char → List Token
  | _, [] => []
  | 0, _ => []
  | fuel + 1, cs =>
    if startsMarkup cs then
      let (tokens, rest) := markup (cs.drop 1)
      tokens ++ tokensFrom fuel rest
    else
      let (content, rest) := upToMarkup cs
      textToken false (decodeText false content) ++ tokensFrom fuel rest

/-- The tokens of a text. -/
def tokens (text : String) : List Token :=
  let cs := normalized text.toList
  tokensFrom (cs.length + 1) cs

end RaggedTables.Markup
