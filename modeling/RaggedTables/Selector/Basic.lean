/-! CSS selectors: compounds of conditions on one element, joined by combinators. -/

namespace RaggedTables.Selector

/-- How the value of an attribute is compared. -/
inductive ValueTest where
  | present
  | equal
  | different
  | word
  | dashed
  | front
  | back
  | inside
deriving Repr, DecidableEq

/-- How an element stands to the one before it in a selector. -/
inductive Combinator where
  | descendant
  | child
  | next
  | following
deriving Repr, DecidableEq

/-- The numbers `step · n + start` for n from zero on. -/
structure Series where
  step : Int
  start : Int
deriving Repr, DecidableEq

/-- The states of form elements and links. -/
inductive FormState where
  | checked
  | disabled
  | enabled
  | link
deriving Repr, DecidableEq

/-- A condition on an element. -/
inductive Condition where
  | never
  | always
  | named (tag : String)
  | attribute (name : String) (test : ValueTest) (value : String)
  | outermost
  | empty
  | state (state : FormState)
  | counted (tag : Option String) (fromEnd : Bool) (series : Series)
  | first (tag : Option String) (fromEnd : Bool)
  | only (tag : Option String)
  | containing (text : String)
  | language (text : String)
  | negated (condition : Condition)
  | both (a b : Condition)
  | either (a b : Condition)
  | having (combinator : Combinator) (tag : Option String) (condition : Option Condition)
deriving Repr, Inhabited

mutual

/-- Whether two conditions are the same. -/
def Condition.same : Condition → Condition → Bool
  | .never, .never | .always, .always | .outermost, .outermost | .empty, .empty => true
  | .named tag, .named tag' => tag = tag'
  | .attribute name test value, .attribute name' test' value' =>
    name = name' && test = test' && value = value'
  | .state state, .state state' => state = state'
  | .counted tag fromEnd series, .counted tag' fromEnd' series' =>
    tag = tag' && fromEnd = fromEnd' && series = series'
  | .first tag fromEnd, .first tag' fromEnd' => tag = tag' && fromEnd = fromEnd'
  | .only tag, .only tag' => tag = tag'
  | .containing text, .containing text' | .language text, .language text' => text = text'
  | .negated condition, .negated condition' => condition.same condition'
  | .both a b, .both a' b' | .either a b, .either a' b' => a.same a' && b.same b'
  | .having combinator tag condition, .having combinator' tag' condition' =>
    combinator = combinator' && tag = tag' && sameConditions condition condition'
  | _, _ => false

/-- Whether two conditions that may be missing are the same. -/
def sameConditions : Option Condition → Option Condition → Bool
  | none, none => true
  | some a, some b => a.same b
  | _, _ => false

end

mutual

theorem Condition.same_iff : (a b : Condition) → (a.same b = true ↔ a = b)
  | .never, b | .always, b | .outermost, b | .empty, b | .named _, b | .attribute _ _ _, b
  | .state _, b | .counted _ _ _, b | .first _ _, b | .only _, b | .containing _, b
  | .language _, b => by
    cases b <;> simp [Condition.same, and_assoc]
  | .negated a, b => by
    cases b <;> simp [Condition.same, Condition.same_iff a]
  | .both a b, c | .either a b, c => by
    cases c <;> simp [Condition.same, Condition.same_iff a, Condition.same_iff b]
  | .having _ _ condition, b => by
    cases b <;> simp [Condition.same, sameConditions_iff condition, and_assoc]

theorem sameConditions_iff : (a b : Option Condition) → (sameConditions a b = true ↔ a = b)
  | none, b => by cases b <;> simp [sameConditions]
  | some a, b => by cases b <;> simp [sameConditions, Condition.same_iff a]

end

instance : DecidableEq Condition := fun a b => decidable_of_iff _ (a.same_iff b)

/-- Conditions on one element: its name, or any, and what else it has to meet. A compound whose only
condition is to be the scope selects the first of the elements that it is asked of. -/
structure Compound where
  tag : Option String
  condition : Option Condition
  scope : Bool := false
deriving Repr, DecidableEq, Inhabited

/-- Adds a condition that has to hold as well. -/
def Compound.require (c : Compound) (condition : Condition) : Compound :=
  { c with condition := some (match c.condition with
    | none => condition
    | some before => .both before condition) }

/-- Adds a condition that may hold instead. -/
def Compound.allow (c : Compound) (condition : Condition) : Compound :=
  { c with condition := some (match c.condition with
    | none => condition
    | some before => .either before condition) }

/-- All that a compound asks for as one condition; none if it asks for nothing. -/
def Compound.whole? (c : Compound) : Option Condition :=
  match c.tag, c.condition with
  | none, condition => condition
  | some tag, none => some (.named tag)
  | some tag, some condition => some (.both condition (.named tag))

/-- A selector: a compound and those joined to it. -/
structure Chain where
  head : Compound
  links : List (Combinator × Compound)
deriving Repr, DecidableEq, Inhabited

end RaggedTables.Selector

namespace RaggedTables

/-- Selectors of which an element has to meet one. -/
abbrev Selector := List Selector.Chain

end RaggedTables
