import RaggedTables.Markup.Order
import RaggedTables.Selector.Reader

/-! What selectors select. A chain is followed from left to right: its first compound selects among
the element it starts from and all below it, and each link selects among the elements that stand to
those selected so far as its combinator says. -/

namespace RaggedTables.Selector

open Markup

/-! ### Conditions -/

/-- The blanks that separate the words of an attribute. -/
def isWordBreak (c : Char) : Bool := c == ' ' || c == '\t' || c == '\r' || c == '\n'

/-- The words of the value of an attribute; `word` holds the current one, reversed. -/
def wordsOf (word : List Char) : List Char → List (List Char)
  | [] => [word.reverse]
  | c :: rest => if isWordBreak c then word.reverse :: wordsOf [] rest else wordsOf (c :: word) rest

/-- Whether a text can be a word. -/
def isWholeWord (cs : List Char) : Bool := !cs.isEmpty && cs.all fun c => !isSpace c

/-- Whether one text occurs in another. -/
def occursIn (part : List Char) : List Char → Bool
  | [] => part.isEmpty
  | c :: rest => part.isPrefixOf (c :: rest) || occursIn part rest

/-- Whether an attribute, which may be missing, passes a test. -/
def ValueTest.passes (test : ValueTest) (wanted : String) (value : Option String) : Bool :=
  let part := wanted.toList
  match test, value with
  | .present, value => value.isSome
  | .different, none => !wanted.isEmpty
  | .different, some v => v != wanted
  | _, none => false
  | .equal, some v => v == wanted
  | .word, some v => isWholeWord part && (wordsOf [] v.toList).contains part
  | .dashed, some v => v == wanted || (part ++ ['-']).isPrefixOf v.toList
  | .front, some v => !part.isEmpty && part.isPrefixOf v.toList
  | .back, some v => !part.isEmpty && part.isSuffixOf v.toList
  | .inside, some v => !part.isEmpty && occursIn part v.toList

/-- Whether a number is in a series. -/
def Series.has (series : Series) (n : Int) : Bool :=
  let distance := n - series.start
  if series.step = 0 then distance == 0
  else distance % series.step == 0 && 0 ≤ distance / series.step

/-- An element of the given name, or any element. -/
def fitsTag (tag : Option String) (node : Node) : Bool :=
  match tag with
  | none => node.isElement
  | some tag => node.isNamed tag

/-- How many siblings before an element, or after it, have the given name. -/
def siblingCount (nodes : List Node) (place : Place) (tag : Option String) (fromEnd : Bool) : Nat :=
  let siblings := if fromEnd then siblingsAfter nodes place else siblingsBefore nodes place
  siblings.countP fun entry => fitsTag tag entry.2

/-- Whether an element has an attribute. -/
def hasAttribute (name : String) (node : Node) : Bool := (node.attribute? name).isSome

/-- Whether an element stands in one of the given name that is disabled. -/
def insideDisabled (nodes : List Node) (place : Place) (tag : String) : Bool :=
  (above nodes place).any fun entry => entry.2.isNamed tag && hasAttribute "disabled" entry.2

/-- Whether an element is one of the given names. -/
def isOneOf (tags : List String) (node : Node) : Bool :=
  match node.tag? with
  | some tag => tags.contains tag
  | none => false

/-- An input that is shown. -/
def isShownInput (node : Node) : Bool :=
  node.isNamed "input" &&
    match node.attribute? "type" with
    | some type => type != "hidden"
    | none => false

/-- Whether an element is in a state. -/
def FormState.holds (nodes : List Node) (place : Place) (node : Node) : FormState → Bool
  | .checked =>
    (node.isNamed "option" && hasAttribute "selected" node) ||
      (hasAttribute "checked" node && isOneOf ["input", "command"] node &&
        ((node.attribute? "type").map fun type => type == "checkbox" || type == "radio").getD false)
  | .link => hasAttribute "href" node && isOneOf ["a", "link", "area"] node
  | .disabled =>
    (hasAttribute "disabled" node &&
      (isShownInput node ||
        isOneOf ["button", "select", "textarea", "command", "fieldset", "optgroup", "option"]
          node)) ||
      ((isShownInput node || isOneOf ["button", "select", "textarea"] node) &&
        insideDisabled nodes place "fieldset")
  | .enabled =>
    (hasAttribute "href" node && isOneOf ["a", "link", "area"] node) ||
      (isOneOf ["command", "fieldset", "optgroup"] node && !hasAttribute "disabled" node) ||
      ((isShownInput node || isOneOf ["button", "select", "textarea", "keygen"] node) &&
        !(hasAttribute "disabled" node || insideDisabled nodes place "fieldset")) ||
      (node.isNamed "option" &&
        !(hasAttribute "disabled" node || insideDisabled nodes place "optgroup"))

/-- The language of an element: the nearest that it or an element above it names. -/
def languageOf? (nodes : List Node) (place : Place) : Option String :=
  ((above nodes place ++ placed nodes place).filterMap fun entry =>
    entry.2.attribute? "lang").getLast?

/-- The elements that stand to an element as a combinator says. -/
def Combinator.step (nodes : List Node) (place : Place) : Combinator → List (Place × Node)
  | .descendant => elementsOf (descendants nodes place)
  | .child => elementsOf (placedChildren nodes place)
  | .next => (elementsOf (siblingsAfter nodes place)).take 1
  | .following => elementsOf (siblingsAfter nodes place)

/-- Whether an element meets a condition. In a relation to elements below it the condition is asked
of those, in any other relation of the element itself. -/
def Condition.holds (nodes : List Node) (place : Place) (node : Node) : Condition → Bool
  | .never => false
  | .always => true
  | .named tag => node.isNamed tag
  | .attribute name test value => test.passes value (node.attribute? name)
  | .outermost => place.length == 1
  | .empty => !node.children.any Node.isElement && node.textContent.isEmpty
  | .state s => s.holds nodes place node
  | .counted tag fromEnd series => series.has (siblingCount nodes place tag fromEnd + 1)
  | .first tag fromEnd => siblingCount nodes place tag fromEnd == 0
  | .only tag =>
    1 < place.length &&
      (placedChildren nodes (parentOf place)).countP (fun entry => fitsTag tag entry.2) == 1
  | .containing text => occursIn text.toList (Text.lower node.textContent).toList
  | .language text =>
    match languageOf? nodes place with
    | some name => (text.toList ++ ['-']).isPrefixOf (name.toList.map lowerAscii ++ ['-'])
    | none => false
  | .negated condition => !condition.holds nodes place node
  | .both a b => a.holds nodes place node && b.holds nodes place node
  | .either a b => a.holds nodes place node || b.holds nodes place node
  | .having combinator tag none =>
    (combinator.step nodes place).any fun entry => fitsTag tag entry.2
  | .having .descendant tag (some condition) =>
    (descendants nodes place).any fun entry =>
      fitsTag tag entry.2 && condition.holds nodes entry.1 entry.2
  | .having combinator tag (some condition) =>
    ((combinator.step nodes place).any fun entry => fitsTag tag entry.2) &&
      condition.holds nodes place node

/-! ### Selecting -/

/-- Whether an element meets a compound. -/
def Compound.holds (nodes : List Node) (c : Compound) (place : Place) (node : Node) : Bool :=
  fitsTag c.tag node &&
    match c.condition with
    | none => true
    | some condition => condition.holds nodes place node

/-- The places of those nodes that meet a compound; the first of them if it asks for the scope. -/
def Compound.among (nodes : List Node) (c : Compound) (found : List (Place × Node)) : List Place :=
  let fit := found.filter fun entry => c.holds nodes entry.1 entry.2
  (if c.scope then fit.take 1 else fit).map Prod.fst

/-- Where the links of a chain lead from places. -/
def follow (nodes : List Node) : List (Combinator × Compound) → List Place → List Place
  | [], places => places
  | (combinator, c) :: rest, places =>
    follow nodes rest (inOrder (places.flatMap fun place =>
      c.among nodes (combinator.step nodes place)))

/-- The elements that a chain selects from a place, in document order. -/
def Chain.select (nodes : List Node) (chain : Chain) (place : Place) : List Place :=
  follow nodes chain.links (chain.head.among nodes (selfAndBelow nodes place))

end RaggedTables.Selector

namespace RaggedTables

open Markup (Node Place)

/-- The elements that a selector selects from a place, in document order, each once. -/
def Selector.select (nodes : List Node) (selector : Selector) (place : Place) : List Place :=
  Markup.inOrder (List.flatMap (fun chain => chain.select nodes place) selector)

end RaggedTables
