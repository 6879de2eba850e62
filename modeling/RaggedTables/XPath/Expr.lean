/-! Path expressions: steps through a document, comparisons, arithmetic and function calls. -/

namespace RaggedTables.XPath

/-- The direction of a step. -/
inductive Axis where
  | ancestor
  | ancestorOrSelf
  | attribute
  | child
  | descendant
  | descendantOrSelf
  | following
  | followingSibling
  | namespaces
  | parent
  | preceding
  | precedingSibling
  | here
deriving Repr, DecidableEq, Inhabited

namespace Axis

/-- The axes by name. -/
def names : List (String × Axis) :=
  [("ancestor", .ancestor), ("ancestor-or-self", .ancestorOrSelf), ("attribute", .attribute),
    ("child", .child), ("descendant", .descendant), ("descendant-or-self", .descendantOrSelf),
    ("following", .following), ("following-sibling", .followingSibling), ("namespace", .namespaces),
    ("parent", .parent), ("preceding", .preceding), ("preceding-sibling", .precedingSibling),
    ("self", .here)]

end Axis

/-- What a step takes from its axis. A name with a mark for a namespace that nothing declares is
refused when the step is taken. -/
inductive NodeTest where
  | named (name : String)
  | anyName
  | anyNode
  | text
  | comment
  | instruction (target : Option String)
  | undeclared
  | nothing
deriving Repr, DecidableEq, Inhabited

/-- Operators between two expressions. -/
inductive Operator where
  | or
  | and
  | equal
  | unequal
  | less
  | atMost
  | greater
  | atLeast
  | add
  | subtract
  | multiply
  | divide
  | remainder
  | union
deriving Repr, DecidableEq, Inhabited

/-- An expression. -/
inductive Expr where
  /-- The document. -/
  | root
  /-- The node that the expression is evaluated at. -/
  | here
  | number (x : Float)
  | text (s : String)
  /-- What fails when it is evaluated: a variable, or a function in a namespace. -/
  | unknown
  | call (name : String) (arguments : List Expr)
  | negative (a : Expr)
  | operation (operator : Operator) (a b : Expr)
  /-- Steps from the nodes of an expression, each filtered by predicates in turn. -/
  | step (start : Expr) (axis : Axis) (test : NodeTest) (predicates : List Expr)
  /-- The nodes of an expression that meet a predicate. -/
  | filter (nodes : Expr) (predicate : Expr)
deriving Inhabited

/-! ### Equality -/

mutual

/-- Whether two expressions are the same. -/
def Expr.same : Expr → Expr → Bool
  | .root, .root | .here, .here | .unknown, .unknown => true
  | .number x, .number y => x = y
  | .text s, .text t => s = t
  | .call name arguments, .call name' arguments' => name = name' && sameAll arguments arguments'
  | .negative a, .negative a' => a.same a'
  | .operation operator a b, .operation operator' a' b' =>
    operator = operator' && a.same a' && b.same b'
  | .step start axis test predicates, .step start' axis' test' predicates' =>
    start.same start' && axis = axis' && test = test' && sameAll predicates predicates'
  | .filter nodes predicate, .filter nodes' predicate' =>
    nodes.same nodes' && predicate.same predicate'
  | _, _ => false

/-- Whether two lists of expressions are the same. -/
def sameAll : List Expr → List Expr → Bool
  | [], [] => true
  | a :: as, b :: bs => a.same b && sameAll as bs
  | _, _ => false

end

mutual

theorem Expr.same_iff : (a b : Expr) → (a.same b = true ↔ a = b)
  | .root, b | .here, b | .unknown, b | .number x, b | .text s, b => by
    cases b <;> simp [Expr.same]
  | .call name arguments, b => by
    cases b <;> simp [Expr.same, sameAll_iff arguments]
  | .negative a, b => by
    cases b <;> simp [Expr.same, Expr.same_iff a]
  | .operation operator a b, c => by
    cases c <;> simp [Expr.same, Expr.same_iff a, Expr.same_iff b, and_assoc]
  | .step start axis test predicates, b => by
    cases b <;> simp [Expr.same, Expr.same_iff start, sameAll_iff predicates, and_assoc]
  | .filter nodes predicate, b => by
    cases b <;> simp [Expr.same, Expr.same_iff nodes, Expr.same_iff predicate]

theorem sameAll_iff : (as bs : List Expr) → (sameAll as bs = true ↔ as = bs)
  | [], bs => by cases bs <;> simp [sameAll]
  | a :: as, bs => by cases bs <;> simp [sameAll, Expr.same_iff a, sameAll_iff as]

end

instance : DecidableEq Expr := fun a b => decidable_of_iff _ (a.same_iff b)

end RaggedTables.XPath
