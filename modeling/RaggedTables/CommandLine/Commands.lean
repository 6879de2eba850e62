import RaggedTables.CommandLine.Arguments
import RaggedTables.CommandLine.Shell
import RaggedTables.Console.Analysis
import RaggedTables.Csv.Document
import RaggedTables.Json.Writer
import RaggedTables.Table.Records

/-! The commands: turning a table into records, fetching a page, showing how templates compile, and
analysing a selector. Output to a file is written in one piece after everything else has
succeeded. -/

namespace RaggedTables.CommandLine

/-! ### Failures -/

/-- How a command ends. -/
inductive Ending where
  | success
  /-- An error with a message for the user. -/
  | failure (message : String)
  /-- A wrong call. -/
  | misuse (fault : UsageFault)
  /-- A fault that no command explains. -/
  | uncaught (fault : Fault)
deriving Inhabited

/-- Which faults a command explains: reports always, and as asked those of files and of values. -/
structure Explained where
  files : Bool
  values : Bool
deriving Repr, DecidableEq

/-- Whether a fault is explained. -/
def Explained.covers (explained : Explained) : Fault → Bool
  | .report _ => true
  | .file _ => explained.files
  | .value _ | .json _ | .settings _ => explained.values
  | _ => false

/-- The ending of an outcome. -/
def Explained.ending (explained : Explained) : Except Fault Unit → Ending
  | .ok () => .success
  | .error fault => if explained.covers fault then .failure fault.text else .uncaught fault

/-! ### Sources -/

/-- Whether a source is an address on the web. -/
def isAddress (source : String) : Bool :=
  source.startsWith "http://" || source.startsWith "https://"

/-- The settings of fetching that a call gives. -/
def fetchSettings (given : Given) : Web.FetchSettings where
  cacheDirectory := Path.normal (given.value "--cache-dir" "cache")
  useCache := !given.has "--no-cache"

/-- The page of an address as a browser renders it. -/
def renderedPage (url : String) : Action PageElement := do
  match ← Action.browse { steps := [.fetchPage url true, .snapshot none] } with
  | .parsed e => pure e
  | _ => Action.fail .emptyDocument

/-- The page of an address as it is fetched. -/
def fetchedPage (given : Given) (url : String) : Action PageElement := do
  let text ← Action.fetch fun world => (fetchSettings given).fetchText world url none
  Action.lift (PageElement.parse text url)

/-- The page of a file. -/
def filePage (path : String) : Action PageElement := do
  let files ← Action.files
  let text ← Action.lift (files.read path)
  Action.lift (PageElement.parse text)

/-- The page of a source. -/
def loadSource (given : Given) (source : String) (browser : Bool) : Action PageElement :=
  if !isAddress source then filePage source
  else if browser then renderedPage source
  else fetchedPage given source

/-! ### Table -/

/-- What the table command is asked for. -/
structure TableOptions where
  templates : List (Option String)
  tableSelector : String
  rows : Option String
  json : Bool
  qualifier : String
  delimiter : String
  output : Option String
deriving Repr, DecidableEq

/-- The options of a call; an empty template skips its column, and an empty file name is none. -/
def TableOptions.ofGiven (given : Given) : TableOptions where
  templates := (given.values "--header").map fun template =>
    if template.isEmpty then none else some template
  tableSelector := given.value "--table-selector" "table"
  rows := given.value? "--rows"
  json := given.value "--format" "csv" == "json"
  qualifier := given.value "--qualifier" "\""
  delimiter := given.value "--delimiter" ","
  output := (given.value? "--output").filter fun path => !path.isEmpty

/-- The single table of a page. -/
def theTable (page : PageElement) (selector : String) : Except Fault PageElement := do
  match ← page.select selector "table" { least := 1, most := some 1 } with
  | table :: _ => return table
  | [] => throw .outOfRange

/-- Records as text in the format that is asked for. -/
def recordsText (options : TableOptions) (records : List Value) : Traced String :=
  if options.json then
    Traced.lift (Json.write (if options.output.isSome then .tabbed else .spaced) (.list records))
  else do
    let doc ← Traced.lift (CsvDocument.fromRecords records (.map
      [(.text "qualifier", .text options.qualifier), (.text "delimiter", .text options.delimiter)]))
    doc.toText

/-- The number of records of the table of a page, and their text. -/
def tableText (options : TableOptions) (page : PageElement) : Traced (Nat × String) := do
  let table ← Traced.lift (theTable page options.tableSelector)
  let records ← Table.elementRecords table options.templates options.rows
  let text ← recordsText options (records.map .ofFields)
  pure (records.length, text)

/-- Delivers the text of a table: into a file, or to the output. -/
def deliver (options : TableOptions) (count : Nat) (text : String) : Action Unit := do
  match options.output with
  | none => Action.print text
  | some path =>
    Action.writeFile path text
    Action.print ("Wrote " ++ toString count ++ " records to " ++ path)

/-- Turns the table of a source into records. -/
def tableCommand (given : Given) (source : String) : Action Unit := do
  let options := TableOptions.ofGiven given
  let page ← loadSource given source (given.has "--browser")
  let (count, text) ← Action.traced (tableText options page)
  deliver options count text

/-! ### Other commands -/

/-- Fetches an address through the cache. -/
def fetchCommand (given : Given) (url : String) : Action Unit :=
  let settings := fetchSettings given
  match (given.value? "--output").filter fun path => !path.isEmpty with
  | some path => do
    Action.fetch fun world => settings.fetchFile world url path
    Action.print ("Saved " ++ url ++ " to " ++ path)
  | none => do
    let text ← Action.fetch fun world => settings.fetchText world url none
    Action.print text

/-- Shows how each template compiles. -/
def headersCommand (templates : List String) : Action Unit :=
  templates.forM fun template => do
    let line ← Action.lift (Header.describe template)
    Action.print line

/-- Shows how many elements each beginning of a selector matches. -/
def analyseCommand (given : Given) (source selector : String) : Action Unit := do
  let page ← loadSource given source false
  let (printed, counts) := Console.analyse page selector (given.value "--separator" ">")
  Action.printAll printed
  let _ ← Action.lift counts
  pure ()

end RaggedTables.CommandLine
