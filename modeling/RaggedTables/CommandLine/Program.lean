import RaggedTables.CommandLine.Commands
import RaggedTables.Trace.Tracer

/-! The program: options that stand before the command, the command itself, and the trace file. -/

namespace RaggedTables.CommandLine

/-! ### Commands -/

def cacheOptions : List OptionSpec :=
  [{ names := ["--no-cache"], takesValue := false }, { names := ["--cache-dir"] }]

def outputOption : OptionSpec := { names := ["-o", "--output"], check := .noDirectory }

def tableSpec : CommandSpec where
  path := "candi table"
  options :=
    [{ names := ["-H", "--header"], required := true }, { names := ["--table-selector"] },
      { names := ["--rows"] }, outputOption,
      { names := ["--format"], check := .oneOf ["csv", "json"] }, { names := ["--qualifier"] },
      { names := ["--delimiter"] }, { names := ["--browser"], takesValue := false }] ++ cacheOptions
  arguments := [{ name := "SOURCE" }]

def fetchSpec : CommandSpec where
  path := "candi fetch"
  options := outputOption :: cacheOptions
  arguments := [{ name := "URL" }]

def headersSpec : CommandSpec where
  path := "candi headers"
  options := []
  arguments := [{ name := "TEMPLATES", many := true }]

def analyseSpec : CommandSpec where
  path := "candi analyze"
  options := { names := ["--separator"] } :: cacheOptions
  arguments := [{ name := "SOURCE" }, { name := "SELECTOR" }]

/-- The program as a whole, whose arguments are a command and what belongs to it. -/
def programSpec : CommandSpec where
  path := "candi"
  options :=
    [{ names := ["--version"], takesValue := false },
      { names := ["-v", "--verbose"], takesValue := false },
      { names := ["--trace-file"], check := .noDirectory }]
  arguments := []
  mixed := false

/-- A command of the program. -/
inductive Command where
  | table
  | fetch
  | headers
  | analyse
deriving Repr, DecidableEq, Inhabited

namespace Command

def named : List (String × Command) :=
  [("table", table), ("fetch", fetch), ("headers", headers), ("analyze", analyse)]

def spec : Command → CommandSpec
  | table => tableSpec
  | fetch => fetchSpec
  | headers => headersSpec
  | analyse => analyseSpec

/-- The faults that a command explains. -/
def explained : Command → Explained
  | table | analyse => ⟨true, true⟩
  | fetch => ⟨false, true⟩
  | headers => ⟨false, false⟩

/-- A call that its arguments alone do not show to be wrong. -/
def misuse? (command : Command) (given : Given) : Option UsageFault :=
  match command with
  | table =>
    if given.has "--browser" && !isAddress (given.arguments.headD "") then
      some (.badValue "SOURCE" "--browser only applies to URLs")
    else none
  | _ => none

/-- Runs a command on what its call gives. -/
def run (command : Command) (given : Given) : Action Unit :=
  match command, given.arguments with
  | table, source :: _ => tableCommand given source
  | fetch, url :: _ => fetchCommand given url
  | headers, templates => headersCommand templates
  | analyse, source :: selector :: _ => analyseCommand given source selector
  | _, _ => pure ()

end Command

/-! ### Endings -/

/-- The exit code of an ending. -/
def Ending.code : Ending → Nat
  | .success => 0
  | .failure _ | .uncaught _ => 1
  | .misuse _ => 2

/-- Prints what an ending has to say. -/
def Ending.report (spec : CommandSpec) (ending : Ending) : Action Unit :=
  match ending with
  | .success | .uncaught _ => pure ()
  | .failure message => Action.printError ("Error: " ++ message)
  | .misuse fault => Action.printError (fault.text spec)

/-- Ends a command. -/
def finish (spec : CommandSpec) (shell : Shell) (ending : Ending) : Shell × Ending :=
  (((ending.report spec).run shell).1, ending)

/-- Shows the usage of a command to someone who asked for it. -/
def showUsage (spec : CommandSpec) (shell : Shell) : Shell × Ending :=
  (((Action.print spec.usage).run shell).1, .success)

/-! ### Trace files -/

/-- The lines that events write to a trace file. -/
def traceText (events : List CallEvent) : String :=
  String.join (events.map fun event => event.text ++ "\n")

/-- Creates a trace file. -/
def openTrace (path : String) (shell : Shell) : Shell × Except Fault Unit :=
  match shell.world.files.writeBytes path [] shell.world.now with
  | .ok files => ({ shell with world := { shell.world with files } }, .ok ())
  | .error fault => (shell, .error fault)

/-- Writes the events of a command to its trace file. -/
def closeTrace (path : String) (shell : Shell) : Shell :=
  let bytes := Utf8.encode (traceText shell.events).toList
  match shell.world.files.writeBytes path bytes shell.world.now with
  | .ok files => { shell with world := { shell.world with files } }
  | .error _ => shell

/-! ### Running -/

/-- Runs a command with its arguments. -/
def runCommand (command : Command) (arguments : List String) (shell : Shell) : Shell × Ending :=
  let spec := command.spec
  match read spec arguments with
  | .error fault => finish spec shell (.misuse fault)
  | .ok given =>
    if given.has helpName then showUsage spec shell
    else
      match check shell.world.files spec given with
      | .error fault => finish spec shell (.misuse fault)
      | .ok () =>
        match command.misuse? given with
        | some fault => finish spec shell (.misuse fault)
        | none =>
          let (shell, outcome) := (command.run given).run shell
          finish spec shell (command.explained.ending outcome)

/-- Runs a command, with a trace file if one is asked for. -/
def runTraced (trace : Option String) (command : Command) (arguments : List String)
    (shell : Shell) : Shell × Ending :=
  match trace with
  | none => runCommand command arguments shell
  | some path =>
    match openTrace path shell with
    | (shell, .error fault) => (shell, .uncaught fault)
    | (shell, .ok ()) =>
      let (shell, ending) := runCommand command arguments shell
      (closeTrace path shell, ending)

/-- Runs the program. -/
def run (arguments : List String) (shell : Shell) : Shell × Ending :=
  let misuse (fault : UsageFault) := finish programSpec shell (.misuse fault)
  match read programSpec arguments with
  | .error fault => misuse fault
  | .ok given =>
    if arguments.isEmpty || given.has helpName || given.has "--version" then
      showUsage programSpec shell
    else
      match check shell.world.files programSpec given, given.arguments with
      | .error fault, _ => misuse fault
      | .ok (), [] => misuse .missingCommand
      | .ok (), name :: rest =>
        match Command.named.lookup name with
        | none => misuse (.noCommand name (Text.closeMatches name (Command.named.map Prod.fst)))
        | some command =>
          let trace := (given.value? "--trace-file").filter fun path => !path.isEmpty
          runTraced trace command rest shell

end RaggedTables.CommandLine
