import RaggedTables.Markup.Closing
import RaggedTables.Markup.Token

/-! Building a document from tokens. The open elements form a stack, each with the children it has
so far; elements that a text leaves out (the document element, head and body) are opened when
something needs them. -/

namespace RaggedTables.Markup

/-- An open element with its children so far, the last one first. -/
structure OpenElement where
  tag : String
  attributes : List Attribute
  children : List Node
deriving Inhabited

/-- A document under construction: finished nodes at the top, the last one first; the open elements,
the innermost first; whether a head and a body have been opened; and how many closing tags are still
to be passed over because their opening tags were. -/
structure Building where
  top : List Node := []
  stack : List OpenElement := []
  headSeen : Bool := false
  bodySeen : Bool := false
  ignored : Nat := 0

namespace Building

/-- The name of the innermost open element. -/
def current? (b : Building) : Option String := b.stack.head?.map OpenElement.tag

def isOpen (b : Building) (tag : String) : Bool := b.stack.any fun e => e.tag == tag

/-- Adds a node to siblings; text joins text. -/
def join (siblings : List Node) (node : Node) : List Node :=
  match node, siblings with
  | .text s, .text t :: rest => .text (t ++ s) :: rest
  | node, siblings => node :: siblings

/-- Adds a node below the first element of the document; without one, at the top. -/
def addBelowFirst (node : Node) : List Node → List Node
  | [] => [node]
  | .element tag attributes children :: rest =>
    if rest.any Node.isElement then .element tag attributes children :: addBelowFirst node rest
    else .element tag attributes (children ++ [node]) :: rest
  | other :: rest =>
    if rest.any Node.isElement then other :: addBelowFirst node rest else node :: other :: rest

/-- Adds a finished node to the innermost open element. Outside of all elements text is dropped, and
a second document element goes below the first. -/
def add (b : Building) (node : Node) : Building :=
  match b.stack with
  | e :: rest => { b with stack := { e with children := join e.children node } :: rest }
  | [] =>
    match node with
    | .text _ => b
    | .element .. =>
      if b.top.any Node.isElement then { b with top := addBelowFirst node b.top }
      else { b with top := node :: b.top }
    | node => { b with top := node :: b.top }

/-- Opens an element. -/
def push (b : Building) (tag : String) (attributes : List Attribute) : Building :=
  { b with
    stack := ⟨tag, attributes, []⟩ :: b.stack
    headSeen := b.headSeen || tag == "head" || tag == "body"
    bodySeen := b.bodySeen || tag == "body" }

/-- Closes the innermost element. -/
def pop (b : Building) : Building :=
  match b.stack with
  | [] => b
  | e :: rest =>
    { b with stack := rest }.add (.element e.tag e.attributes e.children.reverse)

/-- Closes innermost elements as long as an opening tag ends them. -/
def closeFor (tag : String) : (fuel : Nat) → Building → Building
  | 0, b => b
  | fuel + 1, b =>
    match b.current? with
    | some open_ => if (closedBy open_).contains tag then closeFor tag fuel b.pop else b
    | none => b

/-- Closes what an opening tag ends. -/
def autoClose (b : Building) (tag : String) : Building := closeFor tag b.stack.length b

/-- Tags that belong to a head. -/
def isHeadTag (tag : String) : Bool :=
  ["script", "style", "meta", "link", "title", "base"].contains tag

/-- Opens what a tag needs around it. -/
def imply (b : Building) (tag : String) : Building :=
  if tag == "html" then b
  else
    let b := if b.stack.isEmpty then b.push "html" [] else b
    if tag == "head" || tag == "body" then b
    else if b.stack.length ≤ 1 && isHeadTag tag then
      if b.headSeen then b else b.push "head" []
    else if ["noframes", "frame", "frameset"].contains tag then b
    else if b.bodySeen || b.isOpen "body" || b.isOpen "head" then b
    else b.push "body" []

/-- An attribute as it is kept: a switch has its own name as its value. -/
def kept (a : Attribute) : Attribute :=
  if a.value.isNone && isSwitch a.name then ⟨a.name, some a.name⟩ else a

/-- Adds attributes to the outermost element where it lacks them. -/
def addToOutermost (attributes : List Attribute) : List OpenElement → List OpenElement
  | [] => []
  | [e] => [{ e with attributes := attributes.foldl addAttribute e.attributes }]
  | e :: rest => e :: addToOutermost attributes rest

/-- Whether an opening tag is passed over: there is one document element, one head inside it, and no
body inside a body. -/
def isMisplaced (b : Building) (tag : String) : Bool :=
  (tag == "html" && !b.stack.isEmpty) || (tag == "head" && b.stack.length != 1) ||
    (tag == "body" && b.isOpen "body")

/-- An opening tag. -/
def opened (b : Building) (tag : String) (attributes : List Attribute) (closed : Bool) : Building :=
  let b := (b.autoClose tag).imply tag
  let attributes := attributes.map kept
  if b.isMisplaced tag then
    let b := { b with ignored := b.ignored + 1 }
    if tag == "html" then { b with stack := addToOutermost attributes b.stack } else b
  else
    let b := b.push tag attributes
    if closed || isVoid tag then b.pop else b

/-- Closes elements up to the innermost one of a name. -/
def closeUpTo (tag : String) : (fuel : Nat) → Building → Building
  | 0, b => b
  | fuel + 1, b =>
    match b.current? with
    | some inner => if inner == tag then b.pop else closeUpTo tag fuel b.pop
    | none => b

/-- Whether a closing tag reaches its element: none of those inside it outranks it. -/
def reaches (tag : String) : List OpenElement → Bool
  | [] => false
  | e :: rest => e.tag == tag || (rank e.tag ≤ rank tag && reaches tag rest)

/-- A closing tag. -/
def ended (b : Building) (tag : String) : Building :=
  if 0 < b.ignored && ["html", "body", "head"].contains tag then { b with ignored := b.ignored - 1 }
  else if reaches tag b.stack then closeUpTo tag b.stack.length b
  else b

/-- Opens a paragraph for text that may not stand where it does. -/
def paragraph (b : Building) : Building :=
  match b.current? with
  | some tag =>
    if tag == "html" || tag == "head" then ((b.autoClose "p").imply "p").push "p" [] else b
  | none => (b.imply "p").push "p" []

def isBlankChar (c : Char) : Bool := c == ' ' || c == '\t' || c == '\n' || c == '\r'

/-- Only blanks; such text needs no paragraph. -/
def isBlankRun (s : String) : Bool := s.toList.all isBlankChar

/-- Whether no element has been opened yet; blanks before the first one do not count. -/
def isFresh (b : Building) : Bool := b.stack.isEmpty && !b.top.any Node.isElement

/-- Takes text. -/
def takeText (b : Building) (content : String) (raw : Bool) : Building :=
  let content :=
    if b.isFresh then String.ofList (content.toList.dropWhile isBlankChar) else content
  if raw || isBlankRun content then b.add (.text content) else b.paragraph.add (.text content)

/-- Takes a token. -/
def take (b : Building) : Token → Building
  | .opening tag attributes closed => b.opened tag attributes closed
  | .closing tag => b.ended tag
  | .comment content => b.add (.comment content)
  | .documentType _ => b
  | .text content raw => b.takeText content raw

/-- Closes all that is open. -/
def finish : (fuel : Nat) → Building → Building
  | 0, b => b
  | fuel + 1, b => finish fuel b.pop

/-- The document of what has been built. -/
def nodes (b : Building) : List Node := (finish b.stack.length b).top.reverse

end Building

/-- The nodes of a document that is written in a text. -/
def readNodes (text : String) : List Node := ((tokens text).foldl Building.take {}).nodes

end RaggedTables.Markup
