import RaggedTables.Text.CodeRange
import RaggedTables.XPath.Expr
import RaggedTables.XPath.Number

/-! Reading path expressions. A reader takes the characters from a place on and gives what it read
with the characters after it. -/

namespace RaggedTables.XPath

/-! ### Names -/

/-- The characters beyond ASCII that may start a name. -/
def startRanges : List (Nat × Nat) :=
  [(0xc0, 0xd6), (0xd8, 0xf6), (0xf8, 0x2ff), (0x370, 0x37d), (0x37f, 0x1fff), (0x200c, 0x200d),
    (0x2070, 0x218f), (0x2c00, 0x2fef), (0x3001, 0xd7ff), (0xf900, 0xfdcf), (0xfdf0, 0xfffd),
    (0x10000, 0xeffff)]

/-- The further characters beyond ASCII of names. -/
def partRanges : List (Nat × Nat) := [(0xb7, 0xb7), (0x300, 0x36f), (0x203f, 0x2040)]

def inRanges (ranges : List (Nat × Nat)) (c : Char) : Bool :=
  ranges.any fun (first, last) => first ≤ c.toNat && c.toNat ≤ last

def isNameStart (c : Char) : Bool := Text.isAsciiLetter c || c == '_' || inRanges startRanges c

def isNamePart (c : Char) : Bool :=
  isNameStart c || Text.isAsciiDigit c || c == '-' || c == '.' || inRanges partRanges c

/-- A name without a colon. -/
def name? : List Char → Option (String × List Char)
  | [] => none
  | c :: rest =>
    if isNameStart c then
      some (String.ofList (c :: rest.takeWhile isNamePart), rest.dropWhile isNamePart)
    else none

/-- The characters of a name in which colons may stand. -/
def colonName : List Char → List Char
  | [] => []
  | c :: rest =>
    if isNameStart c || c == ':' then c :: rest.takeWhile fun c => isNamePart c || c == ':' else []

/-- Whether a text holds two colons in a row. -/
def hasAxisMark : List Char → Bool
  | ':' :: ':' :: _ => true
  | _ :: rest => hasAxisMark rest
  | [] => false

/-- The names of node tests that look like calls. -/
def nodeTypes : List String := ["comment", "text", "processing-instruction", "node"]

/-- Whether a location starts here, rather than a literal, a call or a parenthesis; nothing if
neither does. -/
def startsLocation? (cs : List Char) : Option Bool :=
  match cs with
  | [] => none
  | c :: rest =>
    if c = '$' ∨ c = '(' ∨ c = '"' ∨ c = '\'' ∨ Text.isAsciiDigit c then some false
    else if c = '.' then some (!(rest.head?.map Text.isAsciiDigit).getD false)
    else if c = '*' ∨ c = '/' ∨ c = '@' then some true
    else
      let name := colonName cs
      if name.isEmpty then none
      else if hasAxisMark name then some true
      else
        match skip (cs.drop name.length) with
        | '(' :: _ => some (nodeTypes.contains (String.ofList name))
        | _ => some true

/-! ### Literals -/

/-- A text between quotes; there are no escapes. -/
def literal? : List Char → Option (String × List Char)
  | [] => none
  | quote :: rest =>
    if quote = '"' ∨ quote = '\'' then
      match rest.dropWhile (· != quote) with
      | [] => none
      | _ :: after => some (String.ofList (rest.takeWhile (· != quote)), after)
    else none

/-! ### Node tests -/

/-- The end of a node test by type, whose parenthesis has been opened. -/
def typeTest? (name : String) (cs : List Char) : Option (NodeTest × List Char) :=
  let test? : Option (NodeTest × List Char) :=
    match name with
    | "comment" => some (.comment, cs)
    | "text" => some (.text, cs)
    | "node" => some (.anyNode, cs)
    | "processing-instruction" =>
      match cs with
      | ')' :: _ => some (.instruction none, cs)
      | cs => (literal? cs).map fun (target, rest) => (.instruction (some target), skip rest)
    | _ => none
  match test? with
  | some (test, ')' :: rest) => some (test, rest)
  | _ => none

/-- The test of a name with the mark of a namespace. -/
def testIn (mark : String) : NodeTest := if mark == "xml" then .nothing else .undeclared

/-- A node test whose name has been read. -/
def namedTest? (name : String) (cs : List Char) : Option (NodeTest × List Char) :=
  match cs with
  | ':' :: '*' :: rest => some (testIn name, rest)
  | ':' :: rest => (name? rest).map fun (_, rest) => (testIn name, rest)
  | cs =>
    match skip cs with
    | '(' :: rest => typeTest? name (skip rest)
    | rest => some (.named name, rest)

/-- A node test. -/
def test? (cs : List Char) : Option (NodeTest × List Char) :=
  match skip cs with
  | '*' :: rest => some (.anyName, rest)
  | cs => (name? cs).bind fun (name, rest) => namedTest? name rest

/-- The axis and the node test of a step. -/
def axisAndTest? (cs : List Char) : Option (Axis × NodeTest × List Char) :=
  match cs with
  | '@' :: rest => (test? rest).map fun (test, rest) => (.attribute, test, rest)
  | cs =>
    match name? cs with
    | none => (test? cs).map fun (test, rest) => (.child, test, rest)
    | some (name, rest) =>
      match Axis.names.lookup name, skip rest with
      | some axis, ':' :: ':' :: rest => (test? rest).map fun (test, rest) => (axis, test, rest)
      | some _, rest => (namedTest? name rest).map fun (test, rest) => (.child, test, rest)
      | none, _ => (namedTest? name rest).map fun (test, rest) => (.child, test, rest)

/-! ### Expressions -/

/-- The binary operators from the loosest to the tightest; of two that fit the first is taken. -/
def operators : List (List (String × Operator)) :=
  [[("or", .or)], [("and", .and)], [("=", .equal), ("!=", .unequal)],
    [("<=", .atMost), (">=", .atLeast), ("<", .less), (">", .greater)],
    [("+", .add), ("-", .subtract)], [("*", .multiply), ("div", .divide), ("mod", .remainder)]]

/-- The operator of a level at the front of a text. -/
def operatorIn? (cs : List Char) : List (String × Operator) → Option (Operator × List Char)
  | [] => none
  | (text, operator) :: rest =>
    if text.toList.isPrefixOf cs then some (operator, cs.drop text.length) else operatorIn? cs rest

/-- The step from a node to itself and all below it. -/
def Expr.anyDepth (start : Expr) : Expr := .step start .descendantOrSelf .anyNode []

/-- Whether a relative location goes on after the slash of the document. -/
def continuesRoot : List Char → Bool
  | c :: _ => Text.isAsciiLetter c || 0x80 ≤ c.toNat || "_.@*".toList.contains c
  | [] => false

mutual

/-- An expression of the operators from a level on. -/
def expr? : (fuel : Nat) → (level : List (List (String × Operator))) → List Char →
    Option (Expr × List Char)
  | 0, _, _ => none
  | fuel + 1, [], cs => unary? fuel cs
  | fuel + 1, level :: tighter, cs =>
    match expr? fuel tighter cs with
    | some (a, rest) => more? fuel level tighter a (skip rest)
    | none => none

/-- The operands after the first one of a level. -/
def more? : (fuel : Nat) → List (String × Operator) → List (List (String × Operator)) → Expr →
    List Char → Option (Expr × List Char)
  | 0, _, _, _, _ => none
  | fuel + 1, level, tighter, a, cs =>
    match operatorIn? cs level with
    | none => some (a, cs)
    | some (operator, rest) =>
      match expr? fuel tighter (skip rest) with
      | some (b, rest) => more? fuel level tighter (.operation operator a b) (skip rest)
      | none => none

/-- An expression after any number of minus signs. -/
def unary? : (fuel : Nat) → List Char → Option (Expr × List Char)
  | 0, _ => none
  | fuel + 1, cs =>
    match skip cs with
    | '-' :: rest => (unary? fuel rest).map fun (a, rest) => (.negative a, rest)
    | cs =>
      match path? fuel cs with
      | some (a, rest) => union? fuel a (skip rest)
      | none => none

/-- The paths after the first one of a union. -/
def union? : (fuel : Nat) → Expr → List Char → Option (Expr × List Char)
  | 0, _, _ => none
  | fuel + 1, a, cs =>
    match cs with
    | '|' :: rest =>
      match path? fuel (skip rest) with
      | some (b, rest) => union? fuel (.operation .union a b) (skip rest)
      | none => none
    | cs => some (a, cs)

/-- A location, or an expression with predicates and steps from it. -/
def path? : (fuel : Nat) → List Char → Option (Expr × List Char)
  | 0, _ => none
  | fuel + 1, cs =>
    match startsLocation? cs with
    | none => none
    | some true =>
      match cs with
      | '/' :: _ => absolute? fuel .root cs
      | cs => relative? fuel .here cs
    | some false =>
      match primary? fuel cs with
      | none => none
      | some (a, rest) =>
        match filters? fuel a (skip rest) with
        | none => none
        | some (a, '/' :: '/' :: rest) => relative? fuel a.anyDepth (skip rest)
        | some (a, '/' :: rest) => relative? fuel a ('/' :: rest)
        | some (a, rest) => some (a, rest)

/-- A location that starts with slashes. -/
def absolute? : (fuel : Nat) → Expr → List Char → Option (Expr × List Char)
  | 0, _, _ => none
  | fuel + 1, start, cs =>
    match cs with
    | '/' :: '/' :: rest =>
      match relative? fuel start.anyDepth (skip rest) with
      | some (a, rest) => absolute? fuel a rest
      | none => none
    | '/' :: rest =>
      let rest := skip rest
      if continuesRoot rest then
        match relative? fuel start rest with
        | some (a, rest) => absolute? fuel a rest
        | none => none
      else absolute? fuel start rest
    | cs => some (start, cs)

/-- A location from the nodes of an expression; slashes may stand in front. -/
def relative? : (fuel : Nat) → Expr → List Char → Option (Expr × List Char)
  | 0, _, _ => none
  | fuel + 1, start, cs =>
    match skip cs with
    | '/' :: '/' :: rest => steps? fuel start.anyDepth (skip rest)
    | '/' :: rest => steps? fuel start (skip rest)
    | cs => steps? fuel start cs

/-- Steps with slashes between them. -/
def steps? : (fuel : Nat) → Expr → List Char → Option (Expr × List Char)
  | 0, _, _ => none
  | fuel + 1, start, cs =>
    match step? fuel start (skip cs) with
    | none => none
    | some (a, rest) =>
      match skip rest with
      | '/' :: '/' :: rest => steps? fuel a.anyDepth rest
      | '/' :: rest => steps? fuel a rest
      | rest => some (a, rest)

/-- A step; the abbreviated ones take no predicates. -/
def step? : (fuel : Nat) → Expr → List Char → Option (Expr × List Char)
  | 0, _, _ => none
  | fuel + 1, start, cs =>
    match cs with
    | '.' :: '.' :: rest => some (.step start .parent .anyNode [], rest)
    | '.' :: rest => some (start, rest)
    | cs =>
      match axisAndTest? cs with
      | none => none
      | some (axis, test, rest) =>
        (predicates? fuel (skip rest)).map fun (predicates, rest) =>
          (.step start axis test predicates, rest)

/-- The predicates of a step. -/
def predicates? : (fuel : Nat) → List Char → Option (List Expr × List Char)
  | 0, _ => none
  | fuel + 1, cs =>
    match cs with
    | '[' :: rest =>
      match expr? fuel operators (skip rest) with
      | some (predicate, ']' :: rest) =>
        (predicates? fuel (skip rest)).map fun (more, rest) => (predicate :: more, rest)
      | _ => none
    | cs => some ([], cs)

/-- The predicates after an expression. -/
def filters? : (fuel : Nat) → Expr → List Char → Option (Expr × List Char)
  | 0, _, _ => none
  | fuel + 1, a, cs =>
    match cs with
    | '[' :: rest =>
      match expr? fuel operators (skip rest) with
      | some (predicate, ']' :: rest) => filters? fuel (.filter a predicate) (skip rest)
      | _ => none
    | cs => some (a, cs)

/-- A variable, a parenthesis, a literal or a call. -/
def primary? : (fuel : Nat) → List Char → Option (Expr × List Char)
  | 0, _ => none
  | fuel + 1, cs =>
    match cs with
    | '$' :: rest => (name? rest).map fun (_, rest) =>
        (.unknown, match rest with
          | ':' :: more => ((name? more).map Prod.snd).getD rest
          | rest => rest)
    | '(' :: rest =>
      match expr? fuel operators (skip rest) with
      | some (a, ')' :: rest) => some (a, rest)
      | _ => none
    | cs =>
      match literal? cs with
      | some (s, rest) => some (.text s, rest)
      | none =>
        match numberFrom? cs with
        | some (x, rest) => some (.number x, rest)
        | none => call? fuel cs

/-- A call. -/
def call? : (fuel : Nat) → List Char → Option (Expr × List Char)
  | 0, _ => none
  | fuel + 1, cs =>
    match name? cs with
    | none => none
    | some (name, rest) =>
      let (marked, rest) :=
        match rest with
        | ':' :: more =>
          match name? more with
          | some (_, rest) => (true, rest)
          | none => (false, rest)
        | rest => (false, rest)
      match skip rest with
      | '(' :: rest =>
        (arguments? fuel (skip rest)).map fun (arguments, rest) =>
          (if marked then .unknown else .call name arguments, rest)
      | _ => none

/-- The arguments of a call up to its closing parenthesis, which may be missing at the end. -/
def arguments? : (fuel : Nat) → List Char → Option (List Expr × List Char)
  | 0, _ => none
  | fuel + 1, cs =>
    match cs with
    | [] => some ([], [])
    | ')' :: rest => some ([], rest)
    | cs => argumentList? fuel cs

/-- Arguments with commas between them. -/
def argumentList? : (fuel : Nat) → List Char → Option (List Expr × List Char)
  | 0, _ => none
  | fuel + 1, cs =>
    match expr? fuel operators cs with
    | some (a, ')' :: rest) => some ([a], rest)
    | some (a, ',' :: rest) =>
      let rest := skip rest
      if rest.isEmpty then some ([a], [])
      else (argumentList? fuel rest).map fun (more, rest) => (a :: more, rest)
    | _ => none

end

/-- The expression that a text spells. -/
def Expr.read? (s : String) : Option Expr :=
  let cs := s.toList
  match expr? (16 * (cs.length + 1)) operators (skip cs) with
  | some (a, []) => some a
  | _ => none

end RaggedTables.XPath
