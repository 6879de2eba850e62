import RaggedTables.Header.Basic
import RaggedTables.Text.Pieces

/-! Header templates. A template names a field and may hold a pattern between brackets, which says
what is taken from the cells of its column:

* `name//pattern\\` takes the first group of the pattern,
* `a,,b,,c[[pattern]]` takes one group for each name,
* `name(pattern)` with doubled braces cuts the cell at the pattern,
* `<<pattern>>`, anywhere, maps the pieces of a cut to keys and values.

The first of the first three that is found decides; without any the whole template is a name. -/

namespace RaggedTables.Header

open Text (splitAt)

/-- A pair of brackets. -/
structure Brackets where
  opener : List Char
  closer : List Char
deriving Repr, DecidableEq

namespace Brackets

def transform : Brackets := ⟨['/', '/'], ['\\', '\\']⟩
def multi : Brackets := ⟨['[', '['], [']', ']']⟩
def split : Brackets := ⟨['\x7b', '\x7b'], ['\x7d', '\x7d']⟩
def mapping : Brackets := ⟨['<', '<'], ['>', '>']⟩

end Brackets

/-- The shortest text before `mark` that is not empty; it holds no line break. -/
def until? (mark : List Char) : List Char → Option (List Char)
  | [] => none
  | c :: rest =>
    if c = '\n' then none
    else if mark.isPrefixOf rest then some [c]
    else (until? mark rest).map (c :: ·)

/-- The shortest name at the front of a text, and the shortest pattern in the brackets that open
after it. -/
def bracketed? (b : Brackets) : List Char → Option (List Char × List Char)
  | [] => none
  | c :: rest =>
    if c = '\n' then none
    else
      let here :=
        if b.opener.isPrefixOf rest then until? b.closer (rest.drop b.opener.length) else none
      match here with
      | some pattern => some ([c], pattern)
      | none => (bracketed? b rest).map fun (name, pattern) => (c :: name, pattern)

/-- The first place in a text where a name is followed by brackets, as name and pattern. -/
def locate? (b : Brackets) : List Char → Option (List Char × List Char)
  | [] => none
  | c :: rest =>
    match bracketed? b (c :: rest) with
    | some found => some found
    | none => locate? b rest

/-- The name and the pattern that a template's brackets give. -/
def find? (b : Brackets) (template : String) : Option (String × String) :=
  (locate? b template.toList).map fun (name, pattern) =>
    (String.ofList name, String.ofList pattern)

/-- Stands between the names of a spread. -/
def nameSeparator : String := ",,"

/-- What a template refuses: a pattern in it, with the reason. -/
structure BadPattern where
  pattern : String
  fault : Pattern.Fault
deriving Repr, DecidableEq

/-- A pattern of a template. -/
def compilePattern (pattern : String) : Except BadPattern Pattern :=
  match Pattern.compile pattern with
  | .ok compiled => .ok compiled
  | .error fault => .error ⟨pattern, fault⟩

/-- The mapping pattern of a template, if it has one. -/
def mappingOf (template : String) : Except BadPattern (Option Pattern) :=
  match find? .mapping template with
  | some (_, pattern) => do return some (← compilePattern pattern)
  | none => return none

/-- The header that a template describes, with the mapping pattern that it carries. -/
def ruleOf (template : String) (mapping : Option Pattern) : Except BadPattern Header :=
  match find? .transform template with
  | some (name, pattern) => do return .transform name (← compilePattern pattern) mapping
  | none =>
    match find? .multi template with
    | some (names, pattern) => do
      return .multi (splitAt nameSeparator names) (← compilePattern pattern) mapping
    | none =>
      match find? .split template with
      | some (name, pattern) => do return .split name (← compilePattern pattern) mapping
      | none => return .norm template mapping

/-- The header of a template. The mapping pattern is compiled first. -/
def ofTemplate (template : String) : Except BadPattern Header := do
  ruleOf template (← mappingOf template)

end RaggedTables.Header
