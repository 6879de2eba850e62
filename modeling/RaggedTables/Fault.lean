import RaggedTables.Header.Basic
import RaggedTables.Value.Shown

/-! Everything that can go wrong, and its wording. A report is an error of this library: a message
and a context that says where it happened. Other faults come from values of the wrong kind, from
files, from texts that cannot be read and from settings. -/

namespace RaggedTables

/-- A failure of the file system: its number, its reason and the path it concerns. -/
structure FileFault where
  code : Option Int
  reason : String
  path : Option String
deriving Repr, DecidableEq, Inhabited

def FileFault.text (fault : FileFault) : String :=
  match fault.code with
  | none => fault.reason
  | some code =>
    "[Errno " ++ toString code ++ "] " ++ fault.reason ++
      match fault.path with
      | none => ""
      | some path => ": " ++ Text.quoted path

/-- An error of this library. -/
inductive Report where
  | general (message : String) (context : List (Value × Value))
  | pattern (template pattern reason : String)
  | mismatch (cell : Value) (header : Option Header) (column : Int) (row : Option Int)
  | cardinality (expected actual : Int) (what : String)
  | unknownField (field headers : Value)
  | option (name reason : String)
  | write (path : String) (fault : FileFault)
  | fetch (url : String) (status : Option Int) (reason : String)
  | session (message : String) (context : List (Value × Value))
  | noElement (selector : String)
  | structure (selector language description : String) (least : Int) (most : Option Int)
      (count : Int) (url : String)
deriving Inhabited

namespace Report

/-- A number that may be missing. -/
def optional (n : Option Int) : Value :=
  match n with
  | some n => .int n
  | none => .null

def optionalText (s : Option String) : Value :=
  match s with
  | some s => .text s
  | none => .null

/-- The message of a report. -/
def message : Report → String
  | .general message _ => message
  | .pattern _ _ reason => "Invalid pattern in header template: " ++ reason
  | .mismatch .. => "Data does not match transform pattern"
  | .cardinality expected actual what =>
    what ++ " has " ++ toString actual ++ " values but expected " ++ toString expected
  | .unknownField field _ => "Could not find header " ++ field.shown
  | .option name reason => reason ++ ": " ++ name
  | .write path fault => "Could not write " ++ path ++ ": " ++ fault.text
  | .fetch url (some status) _ => "HTTP " ++ toString status ++ " from " ++ url
  | .fetch url none reason => "Request to " ++ url ++ " failed: " ++ reason
  | .session message _ => message
  | .noElement selector => "Could not find element: " ++ selector
  | .structure _ _ description least most count _ =>
    let wanted :=
      match most with
      | none => "at least " ++ toString least
      | some most =>
        if most = least then "exactly " ++ toString least
        else toString least ++ " to " ++ toString most
    "HTML structure mismatch: " ++ Text.quoted description ++ " should match " ++ wanted ++
      " elements but matched " ++ toString count

/-- The context of a report. -/
def context : Report → List (Value × Value)
  | .general _ context => context
  | .pattern template text _ =>
    [(.text "template", .text template), (.text "pattern", .text text)]
  | .mismatch cell header column row =>
    [(.text "field", optionalText (header.bind Header.name?)),
      (.text "pattern", optionalText ((header.bind Header.pattern?).map (·.text))),
      (.text "cell", cell), (.text "column", .int column)] ++
      match row with
      | some row => [(.text "row", .int row)]
      | none => []
  | .cardinality expected actual _ =>
    [(.text "expected", .int expected), (.text "actual", .int actual)]
  | .unknownField field headers => [(.text "field", field), (.text "headers", headers)]
  | .option name _ => [(.text "option", .text name)]
  | .write path fault => [(.text "path", .text path), (.text "errno", optional fault.code)]
  | .fetch url status _ => [(.text "url", .text url), (.text "status_code", optional status)]
  | .session _ context => context
  | .noElement selector => [(.text "selector", .text selector)]
  | .structure selector language _ _ _ _ url =>
    (.text language, .text selector) :: if url.isEmpty then [] else [(.text "url", .text url)]

/-- The message, and below it one line for each entry of the context. -/
def text (report : Report) : String :=
  let lines := report.context.map fun (key, value) => "  " ++ key.plain ++ ": " ++ value.plain
  "\n".intercalate (report.message :: if lines.isEmpty then [] else "Context:" :: lines)

/-- The same mismatch in a row of a batch. -/
def withRow (row : Int) : Report → Report
  | .mismatch cell header column _ => .mismatch cell header column (some row)
  | report => report

end Report

/-- A value of the wrong kind for what is done with it. -/
inductive KindFault where
  | notText (kind : String)
  | notCells (kind : String)
  | notMapping (kind : String)
  | mappingInCell
  | notIterable (kind : String)
  | unfitKey (kind : String)
  | unrendered (field : Value) (kind : String)
  | notJoinable (index : Nat) (kind : String)
  | notWritable (kind : String)
  | badWrittenKey (kind : String)
  | noLength (kind : String)
  | notUnpackable (kind : String)
deriving Inhabited

def KindFault.text : KindFault → String
  | .notText kind => "expected string or bytes-like object, got '" ++ kind ++ "'"
  | .notCells kind => "Expected a sequence of cells, got " ++ kind
  | .notMapping kind => "Expected a mapping, got " ++ kind
  | .mappingInCell => "Cannot add a mapping to a cell"
  | .notIterable kind => "'" ++ kind ++ "' object is not iterable"
  | .unfitKey kind => "unhashable type: '" ++ kind ++ "'"
  | .unrendered field kind =>
    "Field " ++ field.shown ++ " holds a " ++ kind ++ "; pass a value_processor to render it"
  | .notJoinable index kind =>
    "sequence item " ++ toString index ++ ": expected str instance, " ++ kind ++ " found"
  | .notWritable kind => "Object of type " ++ kind ++ " is not JSON serializable"
  | .badWrittenKey kind => "keys must be str, int, float, bool or None, not " ++ kind
  | .noLength kind => "object of type '" ++ kind ++ "' has no len()"
  | .notUnpackable kind => "'" ++ kind ++ "' object is not a mapping"

/-- A value of the right kind that will not do. -/
inductive ValueFault where
  | noCacheName (url : String)
  | badColour (tag : String)
  | noDepth
  | emptySeparator
  | twoAlphabets
  | noField (model field : String)
  | undecodable (byte first last : Nat) (reason : String)
  | nullInPath
  | longInteger (digits : Nat)
  | encodingDeclared
deriving Repr, DecidableEq, Inhabited

def ValueFault.text : ValueFault → String
  | .noCacheName url => "Cannot derive a cache file name from " ++ Text.quoted url
  | .badColour tag => "Invalid color tag: " ++ tag
  | .noDepth => "depth must be > 0"
  | .emptySeparator => "empty separator"
  | .twoAlphabets => "ASCII and UNICODE flags are incompatible"
  | .noField model field => "\"" ++ model ++ "\" object has no field \"" ++ field ++ "\""
  | .undecodable byte first last reason =>
    "'utf-8' codec can't decode " ++
      (if first = last then
        "byte 0x" ++ String.ofList (Text.hexDigits 2 byte) ++ " in position " ++ toString first
      else "bytes in position " ++ toString first ++ "-" ++ toString last) ++ ": " ++ reason
  | .nullInPath => "embedded null byte"
  | .longInteger digits =>
    "Exceeds the limit (4300 digits) for integer string conversion: value has " ++
      toString digits ++ " digits; use sys.set_int_max_str_digits() to increase the limit"
  | .encodingDeclared =>
    "Unicode strings with encoding declaration are not supported. " ++
      "Please use bytes input or XML fragments without declaration."

/-- Why a text is not JSON, and where: the line, the column and the place from the start. -/
structure JsonFault where
  reason : String
  line : Nat
  column : Nat
  place : Nat
deriving Repr, DecidableEq, Inhabited

def JsonFault.text (fault : JsonFault) : String :=
  fault.reason ++ ": line " ++ toString fault.line ++ " column " ++ toString fault.column ++
    " (char " ++ toString fault.place ++ ")"

/-- What is wrong with a setting: the kind of problem, the path to it, and the message. -/
structure SettingProblem where
  kind : String
  path : List Value
  message : String
deriving Inhabited

/-- Anything that can go wrong. -/
inductive Fault where
  | report (report : Report)
  | kind (cause : KindFault)
  | value (cause : ValueFault)
  | json (cause : JsonFault)
  | file (cause : FileFault)
  | settings (problems : List SettingProblem)
  | missingKey (key : Value)
  | noAttribute (owner name : String)
  | outOfRange
  | hugeRepeat
  | emptyDocument
  | badAddress (reason : String)
  | stopped (message : String)
deriving Inhabited

/-- The wording of a fault; problems of settings are listed instead. -/
def Fault.text : Fault → String
  | .report r => r.text
  | .kind cause => cause.text
  | .value cause => cause.text
  | .json cause => cause.text
  | .file cause => cause.text
  | .settings problems => "\n".intercalate (problems.map (·.message))
  | .missingKey key => key.shown
  | .noAttribute owner name => "'" ++ owner ++ "' object has no attribute '" ++ name ++ "'"
  | .outOfRange => "list index out of range"
  | .hugeRepeat => "the repetition number is too large"
  | .emptyDocument => "Document is empty"
  | .badAddress reason => reason
  | .stopped message => message

end RaggedTables
