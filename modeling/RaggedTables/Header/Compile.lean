import RaggedTables.Header.Template
import RaggedTables.Trace.Basic

/-! Compiling the templates of a table, one for each column; a missing template skips its column. -/

namespace RaggedTables

namespace Header

/-- The fault of a template that is refused. -/
def BadPattern.toFault (template : String) (bad : BadPattern) : Fault :=
  match bad.fault with
  | .malformed .. =>
    .report (.pattern template bad.pattern (bad.fault.message bad.pattern))
  | .hugeRepeat => .hugeRepeat
  | .longCount digits => .value (.longInteger digits)
  | .twoAlphabets => .value .twoAlphabets

/-- The header of a template. -/
def compile (template : String) : Except Fault Header :=
  (ofTemplate template).mapError (BadPattern.toFault template)

/-- The headers of a list of templates, up to the first that is refused. -/
def compileAll : List (Option String) → Except Fault (List (Option Header))
  | [] => .ok []
  | none :: rest => do return none :: (← compileAll rest)
  | some template :: rest => do
    let header ← compile template
    return some header :: (← compileAll rest)

/-- A pattern that may be missing. -/
def shownPattern? : Option Pattern → String
  | none => "None"
  | some pattern => pattern.shown

/-- A header with its fields. -/
def shown : Header → String
  | .norm name mapping =>
    "NormHeader(name=" ++ Text.quoted name ++ ", map_pattern=" ++ shownPattern? mapping ++ ")"
  | .transform name pattern mapping =>
    "TransformHeader(name=" ++ Text.quoted name ++ ", pattern=" ++ pattern.shown ++
      ", map_pattern=" ++ shownPattern? mapping ++ ")"
  | .multi names pattern mapping =>
    "MultiHeader(names=" ++ (Value.tuple (names.map .text)).shown ++ ", pattern=" ++
      pattern.shown ++ ", map_pattern=" ++ shownPattern? mapping ++ ")"
  | .split name delimiter mapping =>
    "SplitHeader(name=" ++ Text.quoted name ++ ", delimiter=" ++ delimiter.shown ++
      ", map_pattern=" ++ shownPattern? mapping ++ ")"

/-- One line that says how a template compiles. -/
def describe (template : String) : Except Fault String := do
  let header ← compile template
  let rule :=
    match header with
    | .norm .. => ""
    | .transform _ pattern _ | .multi _ pattern _ => " pattern=" ++ Text.quoted pattern.text
    | .split _ delimiter _ => " delimiter=" ++ Text.quoted delimiter.text
  let mapping :=
    match header.mapping? with
    | none => ""
    | some pattern => " map=" ++ Text.quoted pattern.text
  return Text.quoted template ++ ": " ++ header.kind ++ " -> " ++
    ", ".intercalate header.names ++ rule ++ mapping

/-- The line of a column that is skipped or of its template. -/
def describe? : Option String → Except Fault String
  | none => .ok "None: skipped"
  | some template => describe template

end Header

/-- What a trace shows of headers. -/
def Shown.headers (headers : List (Option Header)) : Shown :=
  .list (headers.map fun header =>
    match header with
    | none => .value .null
    | some header => .object header.shown)

/-- A template as a value. -/
def Value.template : Option String → Value
  | none => .null
  | some template => .text template

/-- The traced compilation of a list of templates. -/
def compileHeaders (templates : List (Option String)) : Traced (List (Option Header)) :=
  .call "compile_headers" [.value (.list (templates.map Value.template))] .headers
    (.lift (Header.compileAll templates))

end RaggedTables
