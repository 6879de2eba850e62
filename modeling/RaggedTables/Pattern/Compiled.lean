import RaggedTables.Pattern.Matching
import RaggedTables.Pattern.Reader

/-! Compiled patterns: a text that spells a pattern, checked once, with searching and splitting. -/

namespace RaggedTables

/-- A pattern with the text that spells it. -/
structure Pattern where
  text : String
  flags : Pattern.Flags
  groupCount : Nat
  node : Pattern.Node
deriving Repr, DecidableEq, Inhabited

namespace Pattern

/-- A test on the character that an expression starts with, when the expression starts with a class
of characters under another alphabet than that of the whole pattern. A match may start only where
the class holds in the alphabet of the whole pattern too. -/
def Expr.startTest? (whole : Flags) : Flags → Expr → Option OneChar
  | flags, .oneOf negated items =>
    if flags.ascii == whole.ascii || flags.ignoreCase && items.any (·.isCased flags.ascii) then none
    else some { negated, items, ascii := whole.ascii }
  | flags, .group _ body => body.startTest? whole flags
  | flags, .scoped on off body => body.startTest? whole (flags.enter on off)
  | flags, .seq a _ => a.startTest? whole flags
  | _, _ => none

/-- A node whose first character also passes a test. -/
def Node.startingWith (node : Node) (test? : Option OneChar) : Node :=
  match test? with
  | some test => .seq (.ahead false (.one test)) node
  | none => node

/-- The pattern that a text spells. -/
def compile (text : String) : Except Fault Pattern := do
  let (expr, state) ← read text
  let flags := if state.flags.ascii then state.flags else { state.flags with unicode := true }
  match expr.toNode (Reader.widthOf state) flags with
  | .ok node =>
    let node := node.startingWith (expr.startTest? flags flags)
    return { text, flags, groupCount := state.widths.size - 1, node }
  | .error problem => throw (.malformed problem none)

/-- The characters of a span. -/
def Span.extract (text : Array Char) (span : Span) : String :=
  String.ofList (text.extract span.start span.stop).toList

/-- The text of group `index` of a match; none when the pattern has no such group or the group took
no part. Group 0 is the whole match. -/
def Found.group? (found : Found) (text : Array Char) (index : Nat) : Option String :=
  if index = 0 then some (found.span.extract text)
  else (found.groups.lookup index).map (Span.extract text)

/-- The first match of a pattern in a text: its groups by number. -/
def search (pattern : Pattern) (s : String) : Option (Nat → Option String) :=
  let text := s.toList.toArray
  (pattern.node.searchFrom text (text.size + 1) 0 false).map fun found => found.group? text

/-- The pieces between the cuts from `start` on, each followed by the groups of its cut. -/
def pieces (pattern : Pattern) (text : Array Char) : (start : Nat) → List Found →
    List (Option String)
  | start, [] => [some (Span.extract text ⟨start, text.size⟩)]
  | start, found :: rest =>
    some (Span.extract text ⟨start, found.span.start⟩) ::
      ((List.range pattern.groupCount).map fun i => found.group? text (i + 1)) ++
      pieces pattern text found.span.stop rest

/-- The pieces that a pattern cuts a text into. The groups of each cut stand between its pieces,
none where a group took no part. -/
def split (pattern : Pattern) (s : String) : List (Option String) :=
  let text := s.toList.toArray
  pieces pattern text 0 (pattern.node.cutsFrom text (2 * text.size + 2) 0 false)

/-- The names of the flags that are set, apart from the usual alphabet. -/
def flagNames (flags : Flags) : List String :=
  (if flags.template then ["re.TEMPLATE"] else []) ++
  (if flags.ignoreCase then ["re.IGNORECASE"] else []) ++
  (if flags.multiline then ["re.MULTILINE"] else []) ++
  (if flags.dotAll then ["re.DOTALL"] else []) ++
  (if flags.verbose then ["re.VERBOSE"] else []) ++
  (if flags.ascii then ["re.ASCII"] else [])

/-- How a pattern is shown: its text, quoted and cut to two hundred characters, and its flags. -/
def shown (pattern : Pattern) : String :=
  let text := String.ofList ((Text.quoted pattern.text).toList.take 200)
  let flags := "|".intercalate (flagNames pattern.flags)
  "re.compile(" ++ text ++ (if flags.isEmpty then "" else ", " ++ flags) ++ ")"

end Pattern

end RaggedTables
