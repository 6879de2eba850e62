import RaggedTables.Text.Pieces
import RaggedTables.XPath.Axis
import RaggedTables.XPath.Reader

/-! Evaluating path expressions. A value is a set of spots in document order, a number, a text or a
truth value; an expression that cannot be evaluated has no value. -/

namespace RaggedTables.XPath

open Markup

/-- The value of an expression. -/
inductive Answer where
  | spots (found : List Spot)
  | number (x : Float)
  | text (s : String)
  | truth (b : Bool)
deriving DecidableEq, Inhabited

namespace Answer

/-! ### Conversions -/

/-- An answer as a text: that of the first spot. -/
def toText (doc : List Node) : Answer → String
  | .spots found => (found.head?.map (Spot.value doc)).getD ""
  | .number x => numberText x
  | .text s => s
  | .truth b => if b then "true" else "false"

def toNumber (doc : List Node) : Answer → Float
  | .number x => x
  | .truth b => if b then 1.0 else 0.0
  | answer => numberOf (answer.toText doc)

def toTruth : Answer → Bool
  | .spots found => !found.isEmpty
  | .number x => !(x == 0.0) && !x.isNaN
  | .text s => !s.isEmpty
  | .truth b => b

/-! ### Comparisons -/

/-- Whether two answers are equal, or whether they differ: of sets of spots one pair decides. -/
def compareEqual (doc : List Node) (differ : Bool) (a b : Answer) : Bool :=
  let texts (found : List Spot) := found.map (Spot.value doc)
  match a, b with
  | .spots x, .spots y => (texts x).any fun s => (texts y).any fun t => (s == t) != differ
  | .spots x, .number n | .number n, .spots x =>
    (texts x).any fun s => (numberOf s == n) != differ
  | .spots x, .text t | .text t, .spots x => (texts x).any fun s => (s == t) != differ
  | .number x, .number y => (x == y) != differ
  | .text s, .text t => (s == t) != differ
  | .number x, .text t | .text t, .number x => (x == numberOf t) != differ
  | a, b => (a.toTruth == b.toTruth) != differ

/-- The numbers of an answer that take part in a comparison by size. -/
def sizes (doc : List Node) : Answer → List Float
  | .spots found => found.map fun spot => numberOf (spot.value doc)
  | answer => [answer.toNumber doc]

/-- Whether some numbers of two answers compare as asked. -/
def compareSizes (doc : List Node) (test : Float → Float → Bool) (a b : Answer) : Bool :=
  let (a, b) : Answer × Answer :=
    match a, b with
    | .spots x, .truth t => (.truth !x.isEmpty, .truth t)
    | .truth t, .spots y => (.truth t, .truth !y.isEmpty)
    | a, b => (a, b)
  (a.sizes doc).any fun x => (b.sizes doc).any fun y => test x y

end Answer

/-! ### Arithmetic -/

/-- The whole part of a number, towards zero. -/
def wholePart (x : Float) : Float := if x < 0.0 then x.ceil else x.floor

/-- What division leaves, with the sign of the first number. -/
def leftOver (x y : Float) : Float :=
  if y.isInf && !x.isInf && !x.isNaN then x else x - y * wholePart (x / y)

/-- The nearest whole number, a half going up. -/
def rounded (x : Float) : Float :=
  let below := x.floor
  if 0.5 ≤ x - below then below + 1.0 else below

/-- The value of an operator on two answers. -/
def Operator.apply (doc : List Node) (operator : Operator) (a b : Answer) : Option Answer :=
  let x := a.toNumber doc
  let y := b.toNumber doc
  match operator with
  | .or => some (.truth (a.toTruth || b.toTruth))
  | .and => some (.truth (a.toTruth && b.toTruth))
  | .equal => some (.truth (a.compareEqual doc false b))
  | .unequal => some (.truth (a.compareEqual doc true b))
  | .less => some (.truth (a.compareSizes doc (fun x y => x < y) b))
  | .atMost => some (.truth (a.compareSizes doc (fun x y => x ≤ y) b))
  | .greater => some (.truth (a.compareSizes doc (fun x y => y < x) b))
  | .atLeast => some (.truth (a.compareSizes doc (fun x y => y ≤ x) b))
  | .add => some (.number (x + y))
  | .subtract => some (.number (x - y))
  | .multiply => some (.number (x * y))
  | .divide => some (.number (x / y))
  | .remainder => some (.number (leftOver x y))
  | .union =>
    match a, b with
    | .spots x, .spots y => some (.spots (arrange Spot.noLater (x ++ y)))
    | _, _ => none

/-! ### Functions -/

/-- The node at which an expression is evaluated, its number among the nodes considered, and how
many these are. -/
structure Context where
  spot : Spot
  position : Nat := 1
  size : Nat := 1
deriving Inhabited

/-- The words of a text. -/
def wordsOf (s : String) : List (List Char) :=
  let rec words (word : List Char) : List Char → List (List Char)
    | [] => [word.reverse]
    | c :: rest => if isBlank c then word.reverse :: words [] rest else words (c :: word) rest
  (words [] s.toList).filter fun word => !word.isEmpty

/-- A text without blanks at its ends and with single spaces between its words. -/
def normalised (s : String) : String :=
  String.ofList (([' '] : List Char).intercalate (wordsOf s))

/-- The characters of a text from a position on, as many as asked for; positions are rounded. -/
def part (s : String) (start : Float) (length : Option Float) : String :=
  let first := rounded start
  let kept := s.toList.zipIdx.filter fun (_, i) =>
    let position := Float.ofNat (i + 1)
    decide (first ≤ position) &&
      match length with
      | none => true
      | some length => decide (position < first + rounded length)
  String.ofList (kept.map Prod.fst)

/-- A text with characters exchanged: each of `old` for the one at its place in `new`, or left out
where there is none. -/
def exchanged (s old new : String) : String :=
  String.ofList (s.toList.filterMap fun c =>
    match old.toList.idxOf? c with
    | none => some c
    | some i => new.toList[i]?)

/-- The element with an identity. -/
def identified? (doc : List Node) (identity : String) : Option Spot :=
  ((descendants doc []).find? fun entry =>
    entry.2.attribute? "id" == some identity ||
      (entry.2.isNamed "a" && entry.2.attribute? "name" == some identity)).map fun entry =>
        ⟨entry.1, none⟩

/-- The elements whose identities an answer names. -/
def identifiedAll (doc : List Node) (answer : Answer) : List Spot :=
  let names :=
    match answer with
    | .spots found => found.map (Spot.value doc)
    | answer => [answer.toText doc]
  let words := (names.flatMap wordsOf).map String.ofList
  arrange Spot.noLater (words.filterMap (identified? doc))

/-- The value of a function of texts. -/
def textFunction? (name : String) (texts : List String) : Option Answer :=
  match name, texts with
  | "concat", a :: b :: rest => some (.text (String.join (a :: b :: rest)))
  | "starts-with", [a, b] => some (.truth (b.toList.isPrefixOf a.toList))
  | "contains", [a, b] => some (.truth (Text.cut? b.toList a.toList).isSome)
  | "substring-before", [a, b] =>
    some (.text (((Text.cut? b.toList a.toList).map fun cut => String.ofList cut.1).getD ""))
  | "substring-after", [a, b] =>
    some (.text (((Text.cut? b.toList a.toList).map fun cut => String.ofList cut.2).getD ""))
  | "translate", [a, b, c] => some (.text (exchanged a b c))
  | "string", [a] => some (.text a)
  | "string-length", [a] => some (.number (Float.ofNat a.length))
  | "normalize-space", [a] => some (.text (normalised a))
  | "lang", [_] => some (.truth false)
  | _, _ => none

/-- The value of a function of a set of spots. -/
def spotsFunction? (doc : List Node) (name : String) (found : List Spot) : Option Answer :=
  match name with
  | "count" => some (.number (Float.ofNat found.length))
  | "sum" => some (.number (found.foldl (fun sum spot => sum + numberOf (spot.value doc)) 0.0))
  | "name" | "local-name" => some (.text ((found.head?.map (Spot.name doc)).getD ""))
  | "namespace-uri" => some (.text "")
  | _ => none

/-- The value of a function of a number. -/
def numberFunction? (name : String) (x : Float) : Option Answer :=
  match name with
  | "number" => some (.number x)
  | "floor" => some (.number x.floor)
  | "ceiling" => some (.number x.ceil)
  | "round" => some (.number (rounded x))
  | _ => none

/-- Functions that look at the node itself when they are given nothing. -/
def looksAtNode (name : String) : Bool :=
  ["string", "string-length", "normalize-space", "number", "name", "local-name",
    "namespace-uri"].contains name

/-- The value of a function. -/
def functionValue? (doc : List Node) (context : Context) (name : String) (arguments : List Answer) :
    Option Answer :=
  let arguments :=
    if arguments.isEmpty && looksAtNode name then [.spots [context.spot]] else arguments
  match name, arguments with
  | "last", [] => some (.number (Float.ofNat context.size))
  | "position", [] => some (.number (Float.ofNat context.position))
  | "true", [] => some (.truth true)
  | "false", [] => some (.truth false)
  | "not", [a] => some (.truth !a.toTruth)
  | "boolean", [a] => some (.truth a.toTruth)
  | "id", [a] => some (.spots (identifiedAll doc a))
  | "substring", [a, b] => some (.text (part (a.toText doc) (b.toNumber doc) none))
  | "substring", [a, b, c] =>
    some (.text (part (a.toText doc) (b.toNumber doc) (some (c.toNumber doc))))
  | name, arguments =>
    match textFunction? name (arguments.map (Answer.toText doc)) with
    | some answer => some answer
    | none =>
      match arguments with
      | [.spots found] =>
        match spotsFunction? doc name found with
        | some answer => some answer
        | none => numberFunction? name (Answer.toNumber doc (.spots found))
      | [a] => numberFunction? name (a.toNumber doc)
      | _ => none

/-! ### Expressions -/

/-- Whether a predicate with the given value keeps a node: a number keeps the node in that
position. -/
def keeps (context : Context) : Answer → Bool
  | .number x => x == Float.ofNat context.position
  | answer => answer.toTruth

/-- The spots that a predicate keeps. -/
def keepBy (predicate : Context → Option Answer) (found : List Spot) : Option (List Spot) :=
  let judge (spot : Spot) (i : Nat) : Option (Spot × Bool) :=
    let context : Context := ⟨spot, i + 1, found.length⟩
    (predicate context).map fun answer => (spot, keeps context answer)
  match found.zipIdx.mapM fun (spot, i) => judge spot i with
  | some judged => some ((judged.filter Prod.snd).map Prod.fst)
  | none => none

mutual

/-- The value of an expression. -/
def Expr.evaluate? (doc : List Node) (context : Context) : Expr → Option Answer
  | .root => some (.spots [⟨[], none⟩])
  | .here => some (.spots [context.spot])
  | .number x => some (.number x)
  | .text s => some (.text s)
  | .unknown => none
  | .call name arguments =>
    (evaluateAll? doc context arguments).bind (functionValue? doc context name)
  | .negative a => (a.evaluate? doc context).map fun v => .number (-(v.toNumber doc))
  | .operation .or a b =>
    match a.evaluate? doc context with
    | none => none
    | some v =>
      if v.toTruth then some (.truth true)
      else (b.evaluate? doc context).map fun w => .truth w.toTruth
  | .operation .and a b =>
    match a.evaluate? doc context with
    | none => none
    | some v =>
      if v.toTruth then (b.evaluate? doc context).map fun w => .truth w.toTruth
      else some (.truth false)
  | .operation operator a b =>
    match a.evaluate? doc context, b.evaluate? doc context with
    | some v, some w => operator.apply doc v w
    | _, _ => none
  | .step start axis test predicates =>
    match start.evaluate? doc context with
    | some (.spots found) =>
      if test = .undeclared then none
      else
        (found.mapM fun spot =>
          keepAll? doc predicates ((axis.spots doc spot).filter fun s =>
            test.passes doc axis s)).map
            fun kept => .spots (arrange Spot.noLater kept.flatten)
    | _ => none
  | .filter nodes predicate =>
    match nodes.evaluate? doc context with
    | some (.spots found) => (keepBy (fun c => predicate.evaluate? doc c) found).map .spots
    | _ => none

/-- The values of expressions. -/
def evaluateAll? (doc : List Node) (context : Context) : List Expr → Option (List Answer)
  | [] => some []
  | a :: rest =>
    match a.evaluate? doc context, evaluateAll? doc context rest with
    | some v, some more => some (v :: more)
    | _, _ => none

/-- The spots that predicates keep one after the other. -/
def keepAll? (doc : List Node) : List Expr → List Spot → Option (List Spot)
  | [], found => some found
  | predicate :: rest, found =>
    match keepBy (fun c => predicate.evaluate? doc c) found with
    | some kept => keepAll? doc rest kept
    | none => none

end

/-! ### Results -/

/-- The elements that an expression finds from a place. A text has no elements in it; a number or a
truth value is no result. -/
def Expr.elements? (doc : List Node) (expr : Expr) (place : Place) : Option (List Place) :=
  match expr.evaluate? doc { spot := ⟨place, none⟩ } with
  | some (.spots found) =>
    some ((found.filter fun spot =>
      ((spot.node? doc).map Node.isElement).getD false).map Spot.place)
  | some (.text _) => some []
  | _ => none

/-- Whether a spot is a text: a text node or the value of an attribute. -/
def isTextSpot (doc : List Node) (spot : Spot) : Bool :=
  spot.number.isSome ||
    match spot.node? doc with
    | some (.text _) => true
    | _ => false

/-- The texts that an expression finds from a place: text nodes and values of attributes. A text
that an expression computes counts character by character. -/
def Expr.texts? (doc : List Node) (expr : Expr) (place : Place) : Option (List String) :=
  match expr.evaluate? doc { spot := ⟨place, none⟩ } with
  | some (.spots found) => some ((found.filter (isTextSpot doc)).map (Spot.value doc))
  | some (.text s) => some (s.toList.map fun c => String.ofList [c])
  | _ => none

end RaggedTables.XPath
