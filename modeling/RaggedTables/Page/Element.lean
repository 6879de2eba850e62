import RaggedTables.Fault
import RaggedTables.Markup.Fragment
import RaggedTables.Markup.Order
import RaggedTables.Markup.Writer

/-! Elements of a page. An element is a place in its document, so that what stands above and beside
it stays within reach; the address of the page serves only to say where something was missed. -/

namespace RaggedTables

open Markup (Node Place)

/-- An element of a page. -/
structure PageElement where
  document : List Node
  place : Place
  url : String := ""
deriving Inhabited

namespace PageElement

/-- The element that a text of markup stands for. A text that names the encoding of its bytes is
refused, and so is one without an element. -/
def parse (text : String) (url : String := "") : Except Fault PageElement :=
  if Markup.declaresEncoding text then .error (.value .encodingDeclared)
  else
    match Markup.fragment? text with
    | some fragment => .ok ⟨fragment.nodes, fragment.place, url⟩
    | none => .error .emptyDocument

/-- The node of an element. -/
def node (e : PageElement) : Node := (Markup.nodeAt? e.document e.place).getD (.text "")

/-- The elements at places of the same page. -/
def others (e : PageElement) (places : List Place) : List PageElement :=
  places.map fun place => { e with place }

/-- The child elements in order; comments and instructions are none. -/
def children (e : PageElement) : List PageElement :=
  e.others ((Markup.elementsOf (Markup.placedChildren e.document e.place)).map Prod.fst)

/-- The markup between the tags of an element. -/
def innerMarkup (e : PageElement) : String := e.node.innerMarkup

/-- The markup of an element from tag to tag. -/
def outerMarkup (e : PageElement) : String := e.node.outerMarkup

/-- All text inside an element. -/
def textContent (e : PageElement) : String := e.node.textContent

/-- The value of an attribute. -/
def attribute? (e : PageElement) (name : String) : Option String := e.node.attribute? name

/-- Text joined from nodes as long as they are text; none if the first is not. -/
def textRun? (nodes : List Node) : Option String :=
  match Markup.leadingText nodes with
  | (text, rest) => if rest.length = nodes.length then none else some text

/-- The text of an element before its first child that is no text. -/
def lead? (e : PageElement) : Option String := textRun? e.node.children

/-- The text after an element, up to the next sibling that is no text. -/
def tail? (e : PageElement) : Option String :=
  textRun? ((Markup.siblingsAfter e.document e.place).map Prod.snd)

/-- The name of an element. -/
def tag (e : PageElement) : String := e.node.tag?.getD ""

end PageElement

end RaggedTables
