import RaggedTables.Files.Utf8
import RaggedTables.Markup.Closing
import RaggedTables.Markup.Tree
import RaggedTables.Text.Letter
import RaggedTables.Text.Pieces
import RaggedTables.Text.Percent

/-! Writing markup: what an element looks like from outside, and what stands between its tags. -/

namespace RaggedTables.Markup

/-- A character of text: a sign that opens or closes markup is written by its name. -/
def escapedChar (c : Char) : List Char :=
  match c with
  | '<' => "&lt;".toList
  | '>' => "&gt;".toList
  | '&' => "&amp;".toList
  | c => [c]

/-- Text between tags. -/
def escapeText (s : String) : String := String.ofList (s.toList.flatMap escapedChar)

/-- Characters that stand for themselves in an address. -/
def isAddressChar (c : Char) : Bool := 0x20 < c.toNat && c.toNat < 0x7f

/-- An address in an attribute: without blanks in front, and everything but visible ASCII as percent
signs and bytes. -/
def escapeAddress (s : String) : String :=
  String.ofList (Text.percented isAddressChar
    (s.toList.dropWhile fun c => c == ' ' || c == '\t' || c == '\n' || c == '\r'))

/-- Whether the attribute of an element holds an address. -/
def holdsAddress (tag name : String) : Bool :=
  ["href", "action", "src"].contains name || (name == "name" && tag == "a")

/-- A text between quotes: single ones if it holds a double quote and no single one. -/
def quotedValue (s : String) : String :=
  if !s.toList.contains '"' then "\"" ++ s ++ "\""
  else if !s.toList.contains '\'' then "'" ++ s ++ "'"
  else "\"" ++ Text.replaceAll "\"" "&quot;" s ++ "\""

/-- An attribute in the tag of an element. -/
def writeAttribute (tag : String) (a : Attribute) : String :=
  match if isSwitch a.name then none else a.value with
  | none => " " ++ a.name
  | some value =>
    let text := escapeText value
    " " ++ a.name ++ "=" ++
      quotedValue (if holdsAddress tag a.name then escapeAddress text else text)

/-- The opening tag of an element. -/
def openingTag (tag : String) (attributes : List Attribute) : String :=
  "<" ++ tag ++ String.join (attributes.map (writeAttribute tag)) ++ ">"

/-- The closing tag of an element. -/
def closingTag (tag : String) : String := "</" ++ tag ++ ">"

/-- Elements whose text is written as it is. -/
def isRawText (tag : String) : Bool := tag == "script" || tag == "style"

mutual

/-- A node inside an element of the given name. -/
def writeNode (parent : String) : Node → String
  | .element tag attributes children =>
    openingTag tag attributes ++
      if isVoid tag then "" else writeNodes tag children ++ closingTag tag
  | .text content => if isRawText parent then content else escapeText content
  | .comment content => "<!--" ++ content ++ "-->"
  | .instruction target content => "<?" ++ target ++ " " ++ content ++ ">"

def writeNodes (parent : String) : List Node → String
  | [] => ""
  | node :: rest => writeNode parent node ++ writeNodes parent rest

end

/-- A declaration of the content type, which is left out of written markup. -/
def contentTypeStart : String := "<meta http-equiv=\"Content-Type\""

/-- A text without such declarations. -/
def withoutContentTypes : (fuel : Nat) → List Char → List Char
  | _, [] => []
  | 0, cs => cs
  | fuel + 1, c :: rest =>
    if contentTypeStart.toList.isPrefixOf (c :: rest) && rest.contains '>' then
      withoutContentTypes fuel ((rest.dropWhile (· != '>')).drop 1)
    else c :: withoutContentTypes fuel rest

/-- Written markup without declarations of the content type. -/
def cleaned (s : String) : String :=
  if s.length < contentTypeStart.length then s
  else String.ofList (withoutContentTypes s.length s.toList)

/-- A node as markup. -/
def Node.outerMarkup (node : Node) : String := cleaned (writeNode "" node)

/-- The text before the first child that is no text, and the children from there. -/
def leadingText : List Node → String × List Node
  | .text content :: rest =>
    let (more, others) := leadingText rest
    (content ++ more, others)
  | nodes => ("", nodes)

/-- Each child with the text that follows it. -/
def writeTailed (parent : String) : List Node → String
  | [] => ""
  | .text content :: rest =>
    (if isRawText parent then content else escapeText content) ++ writeTailed parent rest
  | node :: rest => cleaned (writeNode parent node) ++ writeTailed parent rest

/-- What stands between the tags of a node. -/
def Node.innerMarkup (node : Node) : String :=
  let (lead, rest) := leadingText node.children
  escapeText lead ++ writeTailed ((node.tag?).getD "") rest

end RaggedTables.Markup
