/-! Trees of markup. A document is a list of nodes; a place in it is the list of child numbers that
leads there from the top. Places in lexicographic order are in document order. -/

namespace RaggedTables.Markup

/-- An attribute; one that is only named has no value. -/
structure Attribute where
  name : String
  value : Option String
deriving Repr, DecidableEq, Inhabited

/-- A node of a document. -/
inductive Node where
  | element (tag : String) (attributes : List Attribute) (children : List Node)
  | text (content : String)
  | comment (content : String)
  | instruction (target content : String)
deriving Repr, Inhabited

/-- The child numbers from the top of a document to a node; the empty place is the document. -/
abbrev Place := List Nat

namespace Node

def children : Node → List Node
  | .element _ _ children => children
  | _ => []

def attributes : Node → List Attribute
  | .element _ attributes _ => attributes
  | _ => []

/-- The name of an element. -/
def tag? : Node → Option String
  | .element tag _ _ => some tag
  | _ => none

def isElement : Node → Bool
  | .element .. => true
  | _ => false

/-- An element of the given name. -/
def isNamed (tag : String) (node : Node) : Bool := node.tag? == some tag

/-- The value of an attribute; one without a value counts as empty. -/
def attribute? (node : Node) (name : String) : Option String :=
  (node.attributes.find? fun a => a.name == name).map fun a => a.value.getD ""

mutual

/-- All text inside a node, apart from comments and instructions. -/
def textContent : Node → String
  | .element _ _ children => textContents children
  | .text content => content
  | .comment _ | .instruction .. => ""

def textContents : List Node → String
  | [] => ""
  | node :: rest => textContent node ++ textContents rest

end

mutual

/-- The nodes below a node that stands at `place`, in document order. -/
def under (place : Place) : Node → List (Place × Node)
  | .element _ _ children => underAll place 0 children
  | _ => []

/-- The nodes from child `i` on, each followed by those below it. -/
def underAll (place : Place) (i : Nat) : List Node → List (Place × Node)
  | [] => []
  | node :: rest =>
    (place ++ [i], node) :: under (place ++ [i]) node ++ underAll place (i + 1) rest

end

end Node

/-! ### Places -/

/-- The node at a place below the top. -/
def nodeAt? (nodes : List Node) : Place → Option Node
  | [] => none
  | [i] => nodes[i]?
  | i :: rest => nodes[i]?.bind fun node => nodeAt? node.children rest

/-- The children of what stands at a place. -/
def childrenAt (nodes : List Node) (place : Place) : List Node :=
  if place.isEmpty then nodes else ((nodeAt? nodes place).map Node.children).getD []

/-- Nodes numbered as the children of a place. -/
def numbered (place : Place) (nodes : List Node) : List (Place × Node) :=
  nodes.mapIdx fun i node => (place ++ [i], node)

/-- The children of a place with their places. -/
def placedChildren (nodes : List Node) (place : Place) : List (Place × Node) :=
  numbered place (childrenAt nodes place)

/-- A place and the node at it. -/
def placed (nodes : List Node) (place : Place) : List (Place × Node) :=
  ((nodeAt? nodes place).map fun node => (place, node)).toList

/-- The nodes below a place in document order. -/
def descendants (nodes : List Node) (place : Place) : List (Place × Node) :=
  Node.underAll place 0 (childrenAt nodes place)

/-- What stands at a place and all below it. -/
def selfAndBelow (nodes : List Node) (place : Place) : List (Place × Node) :=
  placed nodes place ++ descendants nodes place

/-- The place of the parent. -/
def parentOf (place : Place) : Place := place.dropLast

/-- The places above a place from the top down, without the document. -/
def placesAbove (place : Place) : List Place :=
  (List.range place.length).drop 1 |>.map fun n => place.take n

/-- The nodes above a place from the top down. -/
def above (nodes : List Node) (place : Place) : List (Place × Node) :=
  (placesAbove place).flatMap (placed nodes)

/-- The number of a node among the children of its parent. -/
def lastNumber (place : Place) : Nat := place.getLastD 0

/-- The siblings before a node, in document order. -/
def siblingsBefore (nodes : List Node) (place : Place) : List (Place × Node) :=
  if place.isEmpty then []
  else (placedChildren nodes (parentOf place)).take (lastNumber place)

/-- The siblings after a node. -/
def siblingsAfter (nodes : List Node) (place : Place) : List (Place × Node) :=
  if place.isEmpty then []
  else (placedChildren nodes (parentOf place)).drop (lastNumber place + 1)

/-- Document order. -/
def comparePlaces : Place → Place → Ordering
  | [], [] => .eq
  | [], _ => .lt
  | _, [] => .gt
  | a :: as, b :: bs => if a < b then .lt else if b < a then .gt else comparePlaces as bs

end RaggedTables.Markup
