import RaggedTables.Selector.Basic
import RaggedTables.Selector.Token
import RaggedTables.Text.CaseMap
import RaggedTables.Number.Decimal

/-! Reading CSS selectors. Whatever cannot be read, or names what has no meaning on a page, is
refused. -/

namespace RaggedTables.Selector

/-- Tokens from a place on. -/
abbrev Rest := List Token

def skipSpace : Rest → Rest
  | .space :: rest => rest
  | rest => rest

/-- A name in small letters of ASCII. -/
def small (s : String) : String := String.ofList (s.toList.map Markup.lowerAscii)

/-! ### Arguments -/

/-- The text of a token in arguments; nothing for a token that may not stand there. -/
def argumentText? : Token → Option String
  | .ident s | .string s | .number s => some s
  | .mark '+' => some "+"
  | .mark '-' => some "-"
  | _ => none

/-- The arguments up to the closing parenthesis. -/
def arguments? : Rest → Option (List Token × Rest)
  | [] => none
  | .mark ')' :: rest => some ([], rest)
  | .space :: rest => arguments? rest
  | token :: rest =>
    if (argumentText? token).isSome then
      (arguments? rest).map fun (tokens, after) => (token :: tokens, after)
    else none

/-- A whole number, with underscores between digits. -/
def whole? (cs : List Char) : Option Int :=
  let (negative, body) := Number.splitSign cs
  let digits := body.filter (· != '_')
  if digits.isEmpty || !digits.all Text.isDigit || !Number.underscoresBetweenDigits body then none
  else some (if negative then -(Number.digitsValue digits : Int) else Number.digitsValue digits)

/-- The series that arguments spell. -/
def series? (arguments : List Token) : Option Series :=
  if arguments.any fun t => match t with
    | .string _ => true
    | _ => false then none
  else
    let text := Text.trim ((arguments.filterMap argumentText?).flatMap String.toList)
    let spelled := String.ofList text
    if spelled == "odd" then some ⟨2, 1⟩
    else if spelled == "even" then some ⟨2, 0⟩
    else
      match Text.cut? ['n'] text with
      | none => (whole? (Text.trim text)).map fun b => ⟨0, b⟩
      | some (a, b) =>
        let step := match a with
          | [] => some 1
          | ['+'] => some 1
          | ['-'] => some (-1)
          | a => whole? (Text.trim a)
        let start := if b.isEmpty then some 0 else whole? (Text.trim b)
        match step, start with
        | some step, some start => some ⟨step, start⟩
        | _, _ => none

/-- The text of a single argument. -/
def single? : List Token → Option String
  | [.ident s] | [.string s] => some s
  | _ => none

/-! ### Attributes -/

/-- The test that a mark before an equals sign stands for. -/
def testOf? : Char → Option ValueTest
  | '^' => some .front
  | '$' => some .back
  | '*' => some .inside
  | '~' => some .word
  | '|' => some .dashed
  | '!' => some .different
  | _ => none

/-- The value and the closing bracket of an attribute. -/
def attributeEnd? (name : String) (test : ValueTest) (rest : Rest) : Option (Condition × Rest) :=
  match skipSpace rest with
  | .ident v :: rest | .string v :: rest =>
    match skipSpace rest with
    | .mark ']' :: rest => some (.attribute (small name) test v, rest)
    | _ => none
  | _ => none

/-- An attribute whose bracket has been opened. One in a namespace has no meaning here. -/
def attribute? (rest : Rest) : Option (Condition × Rest) :=
  match skipSpace rest with
  | .ident name :: .mark '|' :: .mark '=' :: rest => attributeEnd? name .dashed rest
  | .mark '*' :: .mark '|' :: .ident name :: rest | .ident name :: rest =>
    match skipSpace rest with
    | .mark ']' :: rest => some (.attribute (small name) .present "", rest)
    | .mark '=' :: rest => attributeEnd? name .equal rest
    | .mark c :: .mark '=' :: rest =>
      match testOf? c with
      | some test => attributeEnd? name test rest
      | none => none
    | _ => none
  | _ => none

/-! ### Pseudo-classes -/

/-- The condition of a pseudo-class without arguments on an element of the given name. -/
def pseudo? (tag : Option String) (name : String) : Option Condition :=
  match name with
  | "root" => some .outermost
  | "scope" => some .always
  | "first-child" => some (.first none false)
  | "last-child" => some (.first none true)
  | "only-child" => some (.only none)
  | "first-of-type" => tag.map fun tag => .first (some tag) false
  | "last-of-type" => tag.map fun tag => .first (some tag) true
  | "only-of-type" => tag.map fun tag => .only (some tag)
  | "empty" => some .empty
  | "link" => some (.state .link)
  | "checked" => some (.state .checked)
  | "disabled" => some (.state .disabled)
  | "enabled" => some (.state .enabled)
  | "visited" | "hover" | "active" | "focus" | "target" => some .never
  | _ => none

/-- The condition of a pseudo-class with arguments. -/
def function? (tag : Option String) (name : String) (arguments : List Token) : Option Condition :=
  match name with
  | "nth-child" => (series? arguments).map (.counted none false)
  | "nth-last-child" => (series? arguments).map (.counted none true)
  | "nth-of-type" => tag.bind fun tag => (series? arguments).map (.counted (some tag) false)
  | "nth-last-of-type" => tag.bind fun tag => (series? arguments).map (.counted (some tag) true)
  | "contains" => (single? arguments).map fun s => .containing (Text.lower s)
  | "lang" => (single? arguments).map fun s => .language (Text.lower s)
  | _ => none

/-- Names that stand for parts of an element rather than for a condition, with one colon. -/
def isPart (name : String) : Bool := ["first-line", "first-letter", "before", "after"].contains name

/-! ### Compounds -/

/-- The name of an element at the front of a compound. One with a namespace is refused, unless that
is any. -/
def elementName? : Rest → Option (Option String × Rest)
  | .mark '*' :: .mark '|' :: .mark '*' :: rest => some (none, rest)
  | .mark '*' :: .mark '|' :: .ident tag :: rest => some (some (small tag), rest)
  | .mark '*' :: .mark '|' :: _ => none
  | .ident _ :: .mark '|' :: _ => none
  | .mark '*' :: rest => some (none, rest)
  | .ident tag :: rest => some (some (small tag), rest)
  | rest => some (none, rest)

/-- Whether a compound ends here; `inside` says that a closing parenthesis ends it. -/
def endsCompound (inside : Bool) : Rest → Bool
  | [] => true
  | .space :: _ => true
  | .mark c :: _ => c == ',' || c == '+' || c == '>' || c == '~' || (inside && c == ')')
  | _ => false

/-- The text of the selector in a relation, up to the closing parenthesis. -/
def relationText? : Rest → Option (List Token × Rest)
  | .mark ')' :: rest => some ([], rest)
  | .mark '.' :: rest => (relationText? rest).map fun (ts, after) => (.mark '.' :: ts, after)
  | .mark '*' :: rest => (relationText? rest).map fun (ts, after) => (.mark '*' :: ts, after)
  | .ident s :: rest => (relationText? rest).map fun (ts, after) => (.ident s :: ts, after)
  | _ => none

/-- The combinator at the front of a relation. -/
def relationCombinator? : Rest → Option (Combinator × Rest)
  | .mark '>' :: rest => some (.child, skipSpace rest)
  | .mark '~' :: rest => some (.following, skipSpace rest)
  | .mark '+' :: _ | .mark '-' :: _ => none
  | rest => some (.descendant, rest)

mutual

/-- The conditions of a compound after its name; `bare` says that nothing stands before them, and
that the compound may not be the scope alone. -/
def conditions? (inside bare : Bool) : (fuel : Nat) → Compound → Rest → Option (Compound × Rest)
  | 0, _, _ => none
  | fuel + 1, c, rest =>
    if endsCompound inside rest then some (c, rest)
    else
      match rest with
      | .hash name :: rest =>
        conditions? inside false fuel (c.require (.attribute "id" .equal name)) rest
      | .mark '.' :: .ident name :: rest =>
        conditions? inside false fuel (c.require (.attribute "class" .word name)) rest
      | .mark '[' :: rest =>
        match attribute? rest with
        | some (condition, rest) => conditions? inside false fuel (c.require condition) rest
        | none => none
      | .mark ':' :: .ident name :: .mark '(' :: rest =>
        match call? inside fuel (small name) c (skipSpace rest) with
        | some (c, rest) => conditions? inside false fuel c rest
        | none => none
      | .mark ':' :: .ident name :: rest =>
        let name := small name
        if isPart name || (bare && name == "scope") then none
        else
          match pseudo? c.tag name with
          | some condition => conditions? inside false fuel (c.require condition) rest
          | none => none
      | _ => none

/-- A pseudo-class whose parenthesis has been opened. A negation may not stand in another one, nor
in a choice. -/
def call? (inside : Bool) : (fuel : Nat) → String → Compound → Rest → Option (Compound × Rest)
  | 0, _, _, _ => none
  | fuel + 1, name, c, rest =>
    if isPart name then none
    else if name == "not" then
      match if inside then none else compound? true false fuel rest with
      | some (argument, .mark ')' :: rest) =>
        some (c.require (match argument.whole? with
          | some condition => .negated condition
          | none => .never), rest)
      | _ => none
    else if name == "is" || name == "matches" || name == "where" then
      match choices? false fuel rest with
      | some (choices, rest) =>
        some (choices.foldl (fun c choice =>
          match choice.whole? with
          | some condition => c.allow condition
          | none => c) c, rest)
      | none => none
    else if name == "has" then
      match relationCombinator? rest with
      | none => none
      | some (combinator, rest) =>
        match relationText? rest with
        | none => none
        | some (tokens, rest) =>
          match compound? false false fuel tokens with
          | some (inner, []) =>
            some (c.require (.having combinator inner.tag inner.condition), rest)
          | _ => none
    else
      match arguments? rest with
      | some (arguments, rest) =>
        (function? c.tag name arguments).map fun condition => (c.require condition, rest)
      | none => none

/-- The compounds of a choice up to its closing parenthesis. The token after a comma is passed
over. -/
def choices? (front : Bool) : (fuel : Nat) → Rest → Option (List Compound × Rest)
  | 0, _ => none
  | fuel + 1, rest =>
    match compound? true front fuel rest with
    | none => none
    | some (c, rest) =>
      match skipSpace rest with
      | .mark ')' :: rest => some ([c], rest)
      | .mark ',' :: rest =>
        let after := skipSpace (rest.drop 1)
        let front := rest.head? == some (.mark ',') ||
          (rest.head? == some .space && after.length == (rest.drop 1).length)
        (choices? front fuel after).map fun (more, after) => (c :: more, after)
      | _ => none

/-- A compound, which may not be empty. It may be the scope alone only at the `front` of a chain,
with no blank before it. -/
def compound? (inside front : Bool) : (fuel : Nat) → Rest → Option (Compound × Rest)
  | 0, _ => none
  | fuel + 1, all =>
    let start := skipSpace all
    match elementName? start with
    | none => none
    | some (tag, rest) =>
      let bare := tag.isNone && !(front && all.length == rest.length)
      match conditions? inside bare fuel ⟨tag, none, false⟩ rest with
      | none => none
      | some (c, rest) => if rest.length = start.length then none else some (c, rest)

end

/-! ### Selectors -/

/-- A compound that asks for nothing but the scope. -/
def scopeOf (c : Compound) : Compound :=
  match c.condition with
  | some .always => { c with scope := true }
  | _ => c

/-- What joins the next compound; nothing at the end of a chain. -/
def combinator? (rest : Rest) : Option (Combinator × Rest) :=
  match skipSpace rest with
  | [] => none
  | .mark ',' :: _ => none
  | .mark '>' :: rest => some (.child, skipSpace rest)
  | .mark '+' :: rest => some (.next, skipSpace rest)
  | .mark '~' :: rest => some (.following, skipSpace rest)
  | rest => some (.descendant, rest)

/-- The compounds joined to the first one. -/
def links? : (fuel : Nat) → Rest → Option (List (Combinator × Compound) × Rest)
  | 0, _ => none
  | fuel + 1, rest =>
    match combinator? rest with
    | none => some ([], skipSpace rest)
    | some (combinator, rest) =>
      match compound? false false (4 * rest.length + 4) rest with
      | none => none
      | some (c, rest) =>
        let c := if combinator = .next then c else scopeOf c
        (links? fuel rest).map fun (more, after) => ((combinator, c) :: more, after)

/-- The chains between commas. -/
def chains? : (fuel : Nat) → Rest → Option (List Chain)
  | 0, _ => none
  | fuel + 1, rest =>
    match compound? false true (4 * rest.length + 4) rest with
    | none => none
    | some (head, rest) =>
      match links? (rest.length + 1) rest with
      | none => none
      | some (links, rest) =>
        let chain : Chain := ⟨scopeOf head, links⟩
        match rest with
        | [] => some [chain]
        | .mark ',' :: rest => (chains? fuel (skipSpace rest)).map (chain :: ·)
        | _ => none

/-- The selector that a text spells. -/
def read? (text : String) : Option Selector :=
  match tokens? text with
  | none => none
  | some tokens => chains? (tokens.length + 1) (skipSpace tokens)

end RaggedTables.Selector
