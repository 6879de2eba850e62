import RaggedTables.Markup.Order
import RaggedTables.XPath.Expr

/-! The nodes that path expressions walk over, attributes among them, and where the axes lead. -/

namespace RaggedTables.XPath

open Markup

/-- A node of a document by its place, or an attribute of an element by its number. -/
structure Spot where
  place : Place
  number : Option Nat := none
deriving Repr, DecidableEq, Inhabited

namespace Spot

/-- Document order: an element stands before its attributes, and these before its children. -/
def noLater (a b : Spot) : Bool :=
  match comparePlaces a.place b.place with
  | .lt => true
  | .gt => false
  | .eq =>
    match a.number, b.number with
    | none, _ => true
    | some _, none => false
    | some i, some j => i ≤ j

/-- The nodes of places. -/
def ofPlaced (found : List (Place × Node)) : List Spot := found.map fun entry => ⟨entry.1, none⟩

/-- The node at a spot that is no attribute. -/
def node? (doc : List Node) (spot : Spot) : Option Node :=
  match spot.number with
  | none => nodeAt? doc spot.place
  | some _ => none

/-- The attribute at a spot. -/
def attribute? (doc : List Node) (spot : Spot) : Option Attribute :=
  spot.number.bind fun i => (nodeAt? doc spot.place).bind fun node => node.attributes[i]?

/-- The text that a spot stands for. -/
def value (doc : List Node) (spot : Spot) : String :=
  match spot.attribute? doc with
  | some a => a.value.getD ""
  | none =>
    if spot.place.isEmpty then Node.textContents doc
    else
      match spot.node? doc with
      | some (.comment content) | some (.instruction _ content) => content
      | some node => node.textContent
      | none => ""

/-- The name of an element, an attribute or an instruction. -/
def name (doc : List Node) (spot : Spot) : String :=
  match spot.attribute? doc, spot.node? doc with
  | some a, _ => a.name
  | none, some (.element tag _ _) => tag
  | none, some (.instruction target _) => target
  | none, _ => ""

end Spot

/-! ### Axes -/

/-- The spots above a place from the nearest up to the document. -/
def spotsAbove (place : Place) : List Spot :=
  (List.range place.length).reverse.map fun n => ⟨place.take n, none⟩

/-- The nodes after a place that are not below it, in document order. -/
def nodesAfter (doc : List Node) (place : Place) : List Spot :=
  (List.range (place.length + 1)).reverse.flatMap fun n =>
    (siblingsAfter doc (place.take n)).flatMap fun entry => Spot.ofPlaced (selfAndBelow doc entry.1)

/-- The nodes before a place that are not above it, the last one first. -/
def nodesBefore (doc : List Node) (place : Place) : List Spot :=
  (List.range (place.length + 1)).reverse.flatMap fun n =>
    (siblingsBefore doc (place.take n)).reverse.flatMap fun entry =>
      (Spot.ofPlaced (selfAndBelow doc entry.1)).reverse

/-- The spots to which an axis leads, the nearest first. -/
def Axis.spots (doc : List Node) (spot : Spot) (axis : Axis) : List Spot :=
  let place := spot.place
  let isNode := spot.number.isNone
  let up := if isNode then spotsAbove place else ⟨place, none⟩ :: spotsAbove place
  match axis with
  | .ancestor => up
  | .ancestorOrSelf => spot :: up
  | .parent => up.take 1
  | .here => [spot]
  | .following => nodesAfter doc place
  | .preceding => nodesBefore doc place
  | .child => if isNode then Spot.ofPlaced (placedChildren doc place) else []
  | .descendant => if isNode then Spot.ofPlaced (descendants doc place) else []
  | .descendantOrSelf => spot :: if isNode then Spot.ofPlaced (descendants doc place) else []
  | .followingSibling => if isNode then Spot.ofPlaced (siblingsAfter doc place) else []
  | .precedingSibling => if isNode then (Spot.ofPlaced (siblingsBefore doc place)).reverse else []
  | .attribute =>
    match spot.node? doc with
    | some node => (List.range node.attributes.length).map fun i => ⟨place, some i⟩
    | none => []
  | .namespaces => []

/-- Whether a step takes a spot of its axis. -/
def NodeTest.passes (doc : List Node) (axis : Axis) (spot : Spot) (test : NodeTest) : Bool :=
  match test with
  | .anyNode => true
  | .undeclared | .nothing => false
  | .named name =>
    if axis = .attribute then ((spot.attribute? doc).map fun a => a.name == name).getD false
    else ((spot.node? doc).map (Node.isNamed name)).getD false
  | .anyName =>
    if axis = .attribute then spot.number.isSome
    else ((spot.node? doc).map Node.isElement).getD false
  | .text =>
    match spot.node? doc with
    | some (.text _) => true
    | _ => false
  | .comment =>
    match spot.node? doc with
    | some (.comment _) => true
    | _ => false
  | .instruction target =>
    match spot.node? doc with
    | some (.instruction name _) => target.all fun wanted => wanted == name
    | _ => false

end RaggedTables.XPath
