import RaggedTables.Markup.Building
import RaggedTables.Text.Blank

/-! The element that a text of markup stands for. A text that starts as a document is its document
element; any other text is read into one, and stands for the single element in its body, or else for
the body under another name. -/

namespace RaggedTables.Markup

/-- Whether a text starts, after blanks, as a whole document. -/
def isWholeDocument (text : String) : Bool :=
  match Text.trimLeft text.toList with
  | '<' :: rest => startsWithWord "html".toList rest || startsWithWord "!doctype".toList rest
  | _ => false

def isQuote (c : Char) : Bool := c == '"' || c == '\''

/-- Whether a text starts with the name of an encoding: the word, an equals sign and a text between
quotes, with blanks around the sign. -/
def givesEncoding (cs : List Char) : Bool :=
  "encoding".toList.isPrefixOf cs &&
    match Text.trimLeft (cs.drop "encoding".length) with
    | '=' :: rest =>
      match Text.trimLeft rest with
      | quote :: rest => isQuote quote && rest.any isQuote
      | [] => false
    | _ => false

/-- Whether an encoding is given behind a blank that no closing sign stands in front of. -/
def namesEncoding : List Char → Bool
  | [] => false
  | c :: rest => (Text.isBlank c && givesEncoding rest) || (c != '>' && namesEncoding rest)

/-- Whether a text starts with an XML declaration that names an encoding. Such a text is no markup:
it says how its bytes are to be read, and it has none. -/
def declaresEncoding (text : String) : Bool :=
  match text.toList with
  | '<' :: '?' :: 'x' :: 'm' :: 'l' :: c :: rest => c != '>' && namesEncoding rest
  | _ => false

/-- Elements that stand on lines of their own. -/
def isBlock (tag : String) : Bool :=
  ["address", "article", "aside", "blockquote", "center", "dd", "dir", "div", "dl", "dt",
    "fieldset", "figure", "footer", "form", "frameset", "h1", "h2", "h3", "h4", "h5", "h6",
    "header", "hgroup", "hr", "isindex", "li", "menu", "nav", "noframes", "noscript", "ol",
    "output", "p", "pre", "section", "table", "tbody", "td", "tfoot", "th", "thead", "tr",
    "ul"].contains tag

mutual

/-- Whether a node holds a block. -/
def Node.holdsBlock : Node → Bool
  | .element tag _ children => isBlock tag || holdsBlocks children
  | _ => false

def Node.holdsBlocks : List Node → Bool
  | [] => false
  | node :: rest => node.holdsBlock || holdsBlocks rest

end

/-- Changes the child of the given number. -/
def changeChild (nodes : List Node) (i : Nat) (f : Node → Node) : List Node := nodes.modify i f

/-- A node under another name. -/
def Node.renamed (tag : String) : Node → Node
  | .element _ attributes children => .element tag attributes children
  | node => node

/-- A node with other children. -/
def Node.withChildren (children : List Node) : Node → Node
  | .element tag attributes _ => .element tag attributes children
  | node => node

def Node.isText : Node → Bool
  | .text _ => true
  | _ => false

/-- Siblings of an element among which later bodies are part of the first. -/
def joinBodies (children : List Node) : List Node :=
  match children.filter (Node.isNamed "body") with
  | first :: more =>
    if more.isEmpty then children
    else
      let whole := first.withChildren ((first :: more).flatMap Node.children)
      match children.findIdx? (Node.isNamed "body") with
      | none => children
      | some i =>
        children.take i ++ whole :: (children.drop (i + 1)).filter fun n => !n.isNamed "body"
  | [] => children

/-- A page: its nodes, and the place in them that the text stands for. -/
structure Fragment where
  nodes : List Node
  place : Place
deriving Inhabited

/-- The place of the only element among children that are otherwise blank. -/
def onlyChild? (children : List Node) : Option Nat :=
  let others := children.filter fun n => !n.isText
  let blank := children.all fun n =>
    match n with
    | .text content => Text.isBlankText content
    | _ => true
  if others.length = 1 && blank then children.findIdx? fun n => !n.isText else none

/-- The fragment of a text whose document element stands at number `i`. -/
def fragmentIn (nodes : List Node) (i : Nat) (root : Node) : Fragment :=
  let children := joinBodies root.children
  let nodes := changeChild nodes i (Node.withChildren children)
  if children.any (Node.isNamed "head") then ⟨nodes, [i]⟩
  else
    match children.findIdx? (Node.isNamed "body") with
    | none => ⟨nodes, [i]⟩
    | some j =>
      let body := children.getD j (.text "")
      match onlyChild? body.children with
      | some k => ⟨nodes, [i, j, k]⟩
      | none =>
        let tag := if Node.holdsBlocks body.children then "div" else "span"
        ⟨changeChild nodes i (Node.withChildren (changeChild children j (Node.renamed tag))),
          [i, j]⟩

/-- What a text of markup stands for; nothing when it holds no element. -/
def fragment? (text : String) : Option Fragment :=
  let nodes := readNodes text
  match nodes.findIdx? Node.isElement with
  | none => none
  | some i =>
    if isWholeDocument text then some ⟨nodes, [i]⟩
    else some (fragmentIn nodes i (nodes.getD i (.text "")))

end RaggedTables.Markup
