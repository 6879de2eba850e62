import RaggedTables.Text.Quoted
import RaggedTables.Text.Similarity

/-! What commands take, and what is said when they are called in a wrong way. -/

namespace RaggedTables.CommandLine

/-- What the value of an option has to be. -/
inductive Check where
  | anything
  | oneOf (choices : List String)
  | noDirectory
deriving Repr, DecidableEq, Inhabited

/-- An option: its names, the short one first, and whether it takes a value. -/
structure OptionSpec where
  names : List String
  takesValue : Bool := true
  required : Bool := false
  check : Check := .anything
deriving Repr, DecidableEq, Inhabited

/-- The name by which the value of an option is looked up. -/
def OptionSpec.key (option : OptionSpec) : String := option.names.getLastD ""

/-- A positional argument; one that takes many stands last. -/
structure ArgumentSpec where
  name : String
  many : Bool := false
deriving Repr, DecidableEq, Inhabited

/-- How an argument is written in a usage line. -/
def ArgumentSpec.shown (argument : ArgumentSpec) : String :=
  if argument.many then argument.name ++ "..." else argument.name

/-- A command: the words that call it, its options and arguments, and whether options may stand
after arguments. -/
structure CommandSpec where
  path : String
  options : List OptionSpec
  arguments : List ArgumentSpec
  mixed : Bool := true
deriving Repr, DecidableEq, Inhabited

/-- The usage line of a command. -/
def CommandSpec.usage (command : CommandSpec) : String :=
  "Usage: " ++ command.path ++ " [OPTIONS] " ++
    if command.mixed then " ".intercalate (command.arguments.map ArgumentSpec.shown)
    else "COMMAND [ARGS]..."

/-- The option by which help is asked for. -/
def helpName : String := "--help"

/-- What is wrong with a call. -/
inductive UsageFault where
  | needsValue (name : String)
  | takesNoValue (name : String)
  | noOption (name : String) (similar : List String)
  | noCommand (name : String) (similar : List String)
  | missingArgument (argument : String)
  | missingOption (names : List String)
  | badValue (place reason : String)
  | extraArguments (arguments : List String)
  | missingCommand
deriving Repr, DecidableEq, Inhabited

namespace UsageFault

/-- A hint at names that may have been meant. -/
def hint (similar : List String) : String :=
  let names := ", ".intercalate ((similar.mergeSort fun a b => a ≤ b).map Text.quoted)
  match similar with
  | [] => ""
  | [_] => " Did you mean " ++ names ++ "?"
  | _ => " (Did you mean one of: " ++ names ++ "?)"

/-- The names of an option as they are shown. -/
def namesShown (names : List String) : String := " / ".intercalate (names.map Text.quoted)

def message : UsageFault → String
  | .needsValue name => "Option " ++ Text.quoted name ++ " requires an argument."
  | .takesNoValue name => "Option " ++ Text.quoted name ++ " does not take a value."
  | .noOption name similar => "No such option " ++ Text.quoted name ++ "." ++ hint similar
  | .noCommand name similar => "No such command " ++ Text.quoted name ++ "." ++ hint similar
  | .missingArgument argument => "Missing argument " ++ Text.quoted argument ++ "."
  | .missingOption names => "Missing option " ++ namesShown names ++ "."
  | .badValue place reason => "Invalid value for " ++ place ++ ": " ++ reason
  | .extraArguments arguments =>
    "Got unexpected extra argument" ++ (if arguments.length = 1 then "" else "s") ++ " (" ++
      " ".intercalate arguments ++ ")"
  | .missingCommand => "Missing command."

/-- Whether the usage of the command is shown with the message. -/
def showsUsage : UsageFault → Bool
  | .needsValue _ | .takesNoValue _ => false
  | _ => true

/-- What is printed for a wrong call of a command. -/
def text (command : CommandSpec) (fault : UsageFault) : String :=
  (if fault.showsUsage then
    command.usage ++ "\nTry '" ++ command.path ++ " " ++ helpName ++ "' for help.\n\n"
  else "") ++ "Error: " ++ fault.message

end UsageFault

end RaggedTables.CommandLine
