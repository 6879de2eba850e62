import RaggedTables.CommandLine.Usage
import RaggedTables.Files.Tree

/-! Reading the arguments of a command: options with their values, and positional arguments. Values
are checked in the order in which their options first occur, then the arguments, then the options
that do not occur. -/

namespace RaggedTables.CommandLine

/-- What a call gives: options by key in the order in which they occur, flags without a value, and
what is left over. -/
structure Given where
  options : List (String × Option String) := []
  arguments : List String := []
deriving Repr, DecidableEq, Inhabited

namespace Given

/-- The values of an option. -/
def values (given : Given) (key : String) : List String :=
  given.options.filterMap fun entry => if entry.1 = key then entry.2 else none

/-- The last value of an option. -/
def value? (given : Given) (key : String) : Option String := (given.values key).getLast?

/-- The last value of an option, or its default. -/
def value (given : Given) (key default : String) : String := (given.value? key).getD default

/-- Whether a flag is given. -/
def has (given : Given) (key : String) : Bool := given.options.any fun entry => entry.1 = key

end Given

/-! ### Reading -/

/-- The option that asks for help. -/
def helpOption : OptionSpec := { names := [helpName], takesValue := false }

/-- All options of a command. -/
def CommandSpec.allOptions (command : CommandSpec) : List OptionSpec :=
  command.options ++ [helpOption]

/-- An option by one of its names. -/
def CommandSpec.option? (command : CommandSpec) (name : String) : Option OptionSpec :=
  command.allOptions.find? fun option => option.names.contains name

def isLong (name : String) : Bool := name.startsWith "--"

/-- The long names of the options. -/
def CommandSpec.longNames (command : CommandSpec) : List String :=
  (command.allOptions.flatMap OptionSpec.names).filter isLong

/-- The name and the value of a long option. -/
def splitLong (argument : String) : String × Option String :=
  match Text.cut? ['='] argument.toList with
  | some (name, value) => (String.ofList name, some (String.ofList value))
  | none => (argument, none)

/-- Reads a long option; gives it with the arguments after it. -/
def readLong (command : CommandSpec) (argument : String) (rest : List String) :
    Except UsageFault ((String × Option String) × List String) :=
  let (name, value) := splitLong argument
  match command.option? name with
  | none => .error (.noOption name (Text.closeMatches name command.longNames))
  | some option =>
    match option.takesValue, value, rest with
    | true, some value, rest => .ok ((option.key, some value), rest)
    | true, none, value :: rest => .ok ((option.key, some value), rest)
    | true, none, [] => .error (.needsValue name)
    | false, some _, _ => .error (.takesNoValue name)
    | false, none, rest => .ok ((option.key, none), rest)

/-- Reads short options that stand together; what follows one that takes a value is its value. -/
def readShort (command : CommandSpec) (rest : List String) :
    List Char → Except UsageFault (List (String × Option String) × List String)
  | [] => .ok ([], rest)
  | c :: letters =>
    let name := String.ofList ['-', c]
    match command.option? name with
    | none => .error (.noOption name [])
    | some option =>
      if option.takesValue then
        match letters, rest with
        | [], value :: rest => .ok ([(option.key, some value)], rest)
        | [], [] => .error (.needsValue name)
        | letters, rest => .ok ([(option.key, some (String.ofList letters))], rest)
      else do
        let (more, rest) ← readShort command rest letters
        return ((option.key, none) :: more, rest)

/-- Reads arguments; two hyphens end the options. -/
def readFrom (command : CommandSpec) : (fuel : Nat) → Given → List String → Except UsageFault Given
  | _, given, [] => .ok given
  | 0, given, _ => .ok given
  | fuel + 1, given, argument :: rest =>
    if argument = "--" then .ok { given with arguments := given.arguments ++ rest }
    else if isLong argument then do
      let (option, rest) ← readLong command argument rest
      readFrom command fuel { given with options := given.options ++ [option] } rest
    else
      match argument.toList with
      | '-' :: c :: letters => do
        let (options, rest) ← readShort command rest (c :: letters)
        readFrom command fuel { given with options := given.options ++ options } rest
      | _ =>
        if command.mixed then
          readFrom command fuel { given with arguments := given.arguments ++ [argument] } rest
        else .ok { given with arguments := given.arguments ++ argument :: rest }

/-- What the arguments of a command give. -/
def read (command : CommandSpec) (arguments : List String) : Except UsageFault Given :=
  readFrom command (arguments.length + 1) {} arguments

/-! ### Checking -/

/-- Whether a directory stands under a path that is not empty. -/
def isDirectory (files : FileTree) (path : String) : Bool :=
  !path.isEmpty && files.hasDirectory (Path.normal path)

/-- What is wrong with a value. -/
def Check.refusal? (files : FileTree) (value : String) : Check → Option String
  | .anything => none
  | .oneOf choices =>
    if choices.contains value then none
    else some (Text.quoted value ++ " is not one of " ++
      ", ".intercalate (choices.map Text.quoted) ++ ".")
  | .noDirectory =>
    if isDirectory files value then some ("File " ++ Text.quoted value ++ " is a directory.")
    else none

/-- Checks the value of an option, or that it may be missing. -/
def checkOption (files : FileTree) (given : Given) (option : OptionSpec) : Except UsageFault Unit :=
  match given.value? option.key with
  | none =>
    if option.required && !given.has option.key then .error (.missingOption option.names)
    else .ok ()
  | some value =>
    match option.check.refusal? files value with
    | some reason => .error (.badValue (UsageFault.namesShown option.names) reason)
    | none => .ok ()

/-- Checks that arguments are there; gives those left over. -/
def checkArguments : List ArgumentSpec → List String → Except UsageFault (List String)
  | [], rest => .ok rest
  | argument :: more, rest =>
    match argument.many, rest with
    | _, [] => .error (.missingArgument argument.shown)
    | true, _ => .ok []
    | false, _ :: rest => checkArguments more rest

/-- The options of a command in the order in which they are checked, first those that occur. -/
def inCheckOrder (command : CommandSpec) (given : Given) : List OptionSpec × List OptionSpec :=
  let keys := (given.options.map Prod.fst).eraseDups
  (keys.filterMap fun key => command.options.find? fun option => option.key = key,
    command.options.filter fun option => !keys.contains option.key)

/-- Checks what a call gives. -/
def check (files : FileTree) (command : CommandSpec) (given : Given) : Except UsageFault Unit := do
  let (occurring, others) := inCheckOrder command given
  occurring.forM (checkOption files given)
  let extra ←
    if command.mixed then checkArguments command.arguments given.arguments else pure []
  others.forM (checkOption files given)
  if extra.isEmpty then return () else throw (.extraArguments extra)

end RaggedTables.CommandLine
