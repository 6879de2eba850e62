import RaggedTables.Browser.Run
import RaggedTables.Console.Box
import RaggedTables.Trace.Basic
import RaggedTables.Web.Fetcher

/-! What a command works on and leaves behind: files, the clock and the web, the pages that a
browser shows, what was printed, what was requested, and the traced calls. -/

namespace RaggedTables.CommandLine

/-- The state of a command. -/
structure Shell where
  world : Web.World
  rendered : Browser.Site := []
  requests : List String := []
  calls : List Browser.Call := []
  events : List CallEvent := []
  output : String := ""
  errors : String := ""

/-- What a command does: it changes the shell, whether it succeeds or fails. -/
structure Action (α : Type) where
  run : Shell → Shell × Except Fault α

namespace Action

def bind (x : Action α) (f : α → Action β) : Action β :=
  ⟨fun shell =>
    match x.run shell with
    | (shell, .ok a) => (f a).run shell
    | (shell, .error fault) => (shell, .error fault)⟩

instance : Monad Action where
  pure a := ⟨fun shell => (shell, .ok a)⟩
  bind := bind

/-- Leaves the shell as it is. -/
def lift (outcome : Except Fault α) : Action α := ⟨fun shell => (shell, outcome)⟩

def fail (fault : Fault) : Action α := lift (.error fault)

/-- The files as they are. -/
def files : Action FileTree := ⟨fun shell => (shell, .ok shell.world.files)⟩

/-- Prints a line. -/
def print (line : String) : Action Unit :=
  ⟨fun shell => ({ shell with output := shell.output ++ Console.echo line }, .ok ())⟩

/-- Prints what has its line ends already. -/
def printAll (text : String) : Action Unit :=
  ⟨fun shell => ({ shell with output := shell.output ++ text }, .ok ())⟩

/-- Prints a line for errors. -/
def printError (line : String) : Action Unit :=
  ⟨fun shell => ({ shell with errors := shell.errors ++ Console.echo line }, .ok ())⟩

/-- Writes a text to a file. -/
def writeFile (path text : String) : Action Unit :=
  ⟨fun shell =>
    match shell.world.files.write path text shell.world.now with
    | .ok files => ({ shell with world := { shell.world with files } }, .ok ())
    | .error fault => (shell, .error fault)⟩

/-- Keeps the events of a traced computation. -/
def traced (x : Traced α) : Action α :=
  ⟨fun shell => ({ shell with events := shell.events ++ x.events }, x.outcome)⟩

/-- Takes a step of fetching. -/
def fetch (step : Web.World → Web.Fetched α) : Action α :=
  ⟨fun shell =>
    let fetched := step shell.world
    ({ shell with world := fetched.world, requests := shell.requests ++ fetched.requests },
      fetched.outcome)⟩

/-- Runs a script in a browser with the usual settings; gives its last answer. -/
def browse (script : Browser.Script) : Action Browser.Answer :=
  ⟨fun shell =>
    let run := Browser.runWith shell.rendered .none [] script
    ({ shell with calls := shell.calls ++ run.calls },
      match run.outcome with
      | .error fault => .error fault
      | .ok () =>
        match run.answers.find? fun answer => !answer.2.isOk with
        | some (_, .error fault) => .error fault
        | _ => ((run.answers.getLast?).map Prod.snd).getD (.ok .nothing))⟩

end Action

end RaggedTables.CommandLine
