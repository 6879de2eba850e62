import RaggedTables.Text.Letter
import RaggedTables.Text.Percent
import RaggedTables.Text.Pieces
import RaggedTables.Text.Quoted

/-! Addresses on the web: scheme, host, path, query and fragment, and how a reference is read
relative to an address. -/

namespace RaggedTables.Web

/-- The parts of an address; the marks before query and fragment belong to them. -/
structure Address where
  scheme : Option String
  host : Option String
  path : String
  query : String
  fragment : String
deriving Repr, DecidableEq, Inhabited

namespace Address

/-- The text before the first character of a set, and the rest from there. -/
def upTo (marks : String) (cs : List Char) : List Char × List Char :=
  (cs.takeWhile fun c => !marks.toList.contains c, cs.dropWhile fun c => !marks.toList.contains c)

/-- Characters of a scheme after its first letter. -/
def isSchemePart (c : Char) : Bool :=
  Text.isAsciiLetter c || Text.isAsciiDigit c || c == '+' || c == '-' || c == '.'

/-- The parts of a text. -/
def ofText (s : String) : Address :=
  let (body, fragment) := upTo "#" s.toList
  let (body, query) := upTo "?" body
  let (scheme, body) :=
    match upTo ":/" body with
    | (c :: name, ':' :: rest) =>
      if Text.isAsciiLetter c && name.all isSchemePart then
        (some (String.ofList (c :: name)), rest)
      else (none, body)
    | _ => (none, body)
  let (host, path) :=
    match body with
    | '/' :: '/' :: rest =>
      let (host, path) := upTo "/" rest
      (some (String.ofList host), path)
    | body => (none, body)
  { scheme, host
    path := String.ofList path
    query := String.ofList query
    fragment := String.ofList fragment }

/-- The text of an address. -/
def text (a : Address) : String :=
  (match a.scheme with
    | some scheme => scheme ++ ":"
    | none => "") ++
  (match a.host with
    | some host => "//" ++ host
    | none => "") ++ a.path ++ a.query ++ a.fragment

/-! ### Texts that are no address -/

/-- The most characters of an address. -/
def longest : Nat := 65536

/-- A character of ASCII that cannot be seen. -/
def isControl (c : Char) : Bool := c.toNat < 0x20 || c.toNat == 0x7f

/-- Why a text is refused before it is read as an address. -/
def refusal? (s : String) : Option String :=
  if longest < s.length then some "URL too long"
  else
    (s.toList.find? isControl).map fun c =>
      "Invalid non-printable ASCII character in URL, " ++ Text.quoted (String.ofList [c]) ++
        " at position " ++ toString (s.toList.idxOf c) ++ "."

/-! ### One spelling -/

/-- The characters that need no percent sign in a part of an address: all of visible ASCII but those
given. -/
def plainBut (marks : String) (c : Char) : Bool :=
  0x20 < c.toNat && c.toNat < 0x7f && !marks.toList.contains c

/-- A part of an address with percent signs for the characters that need them. -/
def spelled (marks : String) (part : String) : String :=
  String.ofList (Text.percented (plainBut marks) part.toList)

/-- The number of the service at a host that need not be named. -/
def usualService (scheme : String) : Option String :=
  match scheme with
  | "ftp" => some "21"
  | "http" | "ws" => some "80"
  | "https" | "wss" => some "443"
  | _ => none

/-- A host in small letters, without the number of the usual service of its scheme. -/
def plainHost (scheme : Option String) (host : String) : String :=
  let cs := host.toList.map Char.toLower
  match scheme.bind usualService with
  | some number =>
    let tail := ':' :: number.toList
    String.ofList (if tail.isSuffixOf cs then cs.take (cs.length - tail.length)
      else if [':'].isSuffixOf cs then cs.dropLast else cs)
  | none => String.ofList cs

/-- Names without single dots, where two dots take back the name before them. -/
def undotted : List String → List String → List String
  | done, [] => done.reverse
  | done, "." :: rest => undotted done rest
  | done, ".." :: rest =>
    undotted (match done with
      | [] | [""] => done
      | _ :: before => before) rest
  | done, name :: rest => undotted (name :: done) rest

/-- An address in the spelling in which it is requested. -/
def canonical (a : Address) : Address :=
  let scheme := a.scheme.map fun s => String.ofList (s.toList.map Char.toLower)
  let path := if a.scheme.isSome || a.host.isSome then
      "/".intercalate (undotted [] (Text.splitAt "/" a.path))
    else a.path
  { scheme
    host := a.host.map (plainHost scheme)
    path := spelled "\"#<>?`\x7b\x7d" path
    query := if a.query.isEmpty then ""
      else "?" ++ spelled "\"#<>" (String.ofList (a.query.toList.drop 1))
    fragment := if a.fragment.isEmpty then ""
      else "#" ++ spelled "\"<>`" (String.ofList (a.fragment.toList.drop 1)) }

/-- The address that a text asks for; one without a scheme or a host is a path from the top. -/
def requested (s : String) : Address :=
  let a := (ofText s).canonical
  if a.scheme.isSome && a.host.any (!·.isEmpty) then a
  else
    { a with scheme := none, host := none,
             path := "/" ++ String.ofList (a.path.toList.dropWhile (· == '/')) }

/-! ### References -/

/-- Names without single dots, and without what two dots take back. -/
def settle : List String → List String → List String
  | done, [] => done.reverse
  | done, "." :: rest => settle (if rest.isEmpty then "" :: done else done) rest
  | done, ".." :: rest =>
    let back := if done.length ≤ 1 then done else done.tail
    settle (if rest.isEmpty then "" :: back else back) rest
  | done, name :: rest => settle (name :: done) rest

/-- A path without dots. -/
def settled (path : String) : String := "/".intercalate (settle [] (Text.splitAt "/" path))

/-- The path of a reference beside the last name of a path. -/
def beside (base reference : String) : String :=
  let names := Text.splitAt "/" base
  "/".intercalate (names.dropLast ++ [reference])

/-- A reference read relative to an address; without a fragment of its own it keeps that of the
address. -/
def follow (base : Address) (reference : String) : Address :=
  let r := (ofText reference).canonical
  let r := if r.fragment.isEmpty then { r with fragment := base.fragment } else r
  if r.scheme.isSome then { r with host := if r.host.any (!·.isEmpty) then r.host else base.host }
  else if r.host.isSome then { r with scheme := base.scheme, path := settled r.path }
  else if r.path.isEmpty then
    { base with query := if r.query.isEmpty then base.query else r.query, fragment := r.fragment }
  else
    let path :=
      if r.path.startsWith "/" then settled r.path
      else if base.path.isEmpty then settled ("/" ++ r.path)
      else settled (beside base.path r.path)
    { base with path, query := r.query, fragment := r.fragment }

end Address

end RaggedTables.Web
