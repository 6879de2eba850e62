import RaggedTables.Page.Lookup

/-! Pages as a browser shows them: their address, their markup, and the elements that a script can
reach on them. -/

namespace RaggedTables.Browser

/-- What stands on a rendered page: an element with its properties, and the elements in it by
selector. -/
inductive LiveNode where
  | mk (properties : Fields String Value) (elements : List (String × List LiveNode))
deriving Inhabited

namespace LiveNode

def properties : LiveNode → Fields String Value
  | mk properties _ => properties

def elements : LiveNode → Fields String (List LiveNode)
  | mk _ elements => elements

end LiveNode

/-- An element that was found: the selector it was found by, its number among those found, and what
stands there. -/
structure LiveElement where
  selector : String
  index : Nat
  node : LiveNode
deriving Inhabited

/-- The value of a property; one that is missing has none. -/
def LiveElement.property (e : LiveElement) (name : String) : Value :=
  (e.node.properties.get? name).getD .null

/-- The elements that a selector reaches. -/
def reached (elements : Fields String (List LiveNode)) (selector : String) : List LiveElement :=
  ((elements.get? selector).getD []).mapIdx fun i node => ⟨selector, i, node⟩

/-- What stands at an address: the markup of the page, its elements by selector, and whether opening
it fails. -/
structure SitePage where
  html : Option String := none
  elements : Fields String (List LiveNode) := []
  fails : Bool := false
deriving Inhabited

/-- Pages by address. -/
abbrev Site := Fields String SitePage

/-- The markup of a page that has none of its own. -/
def emptyMarkup : String := "<html><body></body></html>"

/-- A page that has been opened. -/
structure LivePage where
  url : String
  html : String
  elements : Fields String (List LiveNode)
deriving Inhabited

namespace LivePage

/-- The page that an address opens. -/
def ofSite (url : String) (page : SitePage) : LivePage where
  url := url
  html := page.html.getD emptyMarkup
  elements := page.elements

/-- The elements that a selector reaches. -/
def queryAll (page : LivePage) (selector : String) : List LiveElement :=
  reached page.elements selector

/-- The first element that a selector reaches. -/
def query? (page : LivePage) (selector : String) : Option LiveElement :=
  (page.queryAll selector).head?

/-- The rendered page, parsed. -/
def snapshot (page : LivePage) : Except Fault PageElement := PageElement.parse page.html page.url

end LivePage

/-- Where a lookup searches: a page, or an element that was found. -/
inductive SearchRoot where
  | page (page : LivePage)
  | element (e : LiveElement)
deriving Inhabited

/-- The elements that a selector reaches, on a page or in an element. -/
def SearchRoot.queryAll (root : SearchRoot) (selector : String) : List LiveElement :=
  match root with
  | .page shown => shown.queryAll selector
  | .element e => reached e.node.elements selector

end RaggedTables.Browser
