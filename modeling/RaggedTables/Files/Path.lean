import RaggedTables.Text.Pieces

/-! Paths: names between slashes. In the normal form there are no empty and no single-dot names; a
path that starts with a slash is absolute. -/

namespace RaggedTables

/-- The slashes that an absolute path starts with: exactly two stay two, any other number counts as
one. -/
def Path.root (cs : List Char) : List Char :=
  match (cs.takeWhile (· == '/')).length with
  | 0 => []
  | 2 => ['/', '/']
  | _ => ['/']

/-- The names of a path. -/
def Path.names (path : String) : List String :=
  ((Text.pieces ['/'] path.toList).filter fun name => !name.isEmpty && name != ['.']).map
    String.ofList

/-- The path of names below a root; without either it is the current directory. -/
def Path.spelled (root : List Char) (names : List String) : String :=
  let text := String.ofList root ++ "/".intercalate names
  if text.isEmpty then "." else text

/-- A path in normal form; the empty path is the current directory. -/
def Path.normal (path : String) : String := spelled (root path.toList) (names path)

/-- A path followed by another; an absolute one stands by itself. -/
def Path.join (base name : String) : String :=
  if name.startsWith "/" then normal name
  else spelled (root base.toList) (names base ++ names name)

/-- The last name of a path. -/
def Path.last (path : String) : String := (Path.names path).getLastD ""

/-- The path without its last name. -/
def Path.parent (path : String) : String := spelled (root path.toList) (names path).dropLast

end RaggedTables
