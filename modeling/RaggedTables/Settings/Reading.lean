import RaggedTables.Fault
import RaggedTables.Files.Path
import RaggedTables.Settings.Duration

/-! Reading the value of a setting. A value of a neighbouring kind is taken where nothing is lost: a
number in a text, a whole number held as a floating-point one, the usual words for true and false.
-/

namespace RaggedTables

/-- The value of a setting: a value, a path, or a length of time in microseconds. -/
inductive Setting where
  | value (v : Value)
  | path (p : String)
  | duration (microseconds : Int)
deriving Inhabited

namespace Setting

/-- Reads a value that stands at `path`. -/
abbrev Reader := (path : List Value) → Value → Except (List SettingProblem) Setting

/-- Refuses a value. -/
def refuse (kind message : String) (path : List Value) : Except (List SettingProblem) α :=
  .error [⟨kind, path, message⟩]

def readText : Reader := fun path v =>
  match v with
  | .text _ => .ok (.value v)
  | _ => refuse "string_type" "Input should be a valid string" path

/-- A value that may be missing. -/
def readOptional (read : Reader) : Reader := fun path v =>
  match v with
  | .null => .ok (.value .null)
  | v => read path v

/-- The words for false and for true. -/
def noWords : List String := ["0", "off", "f", "false", "n", "no"]
def yesWords : List String := ["1", "on", "t", "true", "y", "yes"]

def readBool : Reader := fun path v =>
  let unclear := refuse "bool_parsing"
    "Input should be a valid boolean, unable to interpret input" path
  match v with
  | .bool _ => .ok (.value v)
  | .text s =>
    let word := Text.lower s
    if noWords.contains word then .ok (.value (.bool false))
    else if yesWords.contains word then .ok (.value (.bool true))
    else unclear
  | v =>
    match v.worth? with
    | some (.rational n d) =>
      if n % d = 0 then
        if n = 0 then .ok (.value (.bool false))
        else if n = d then .ok (.value (.bool true))
        else unclear
      else refuse "bool_type" "Input should be a valid boolean" path
    | _ => refuse "bool_type" "Input should be a valid boolean" path

/-- The floating-point number nearest to `n / d`, for the numbers of settings. -/
def nearestFloat (n : Int) (d : Nat) : Float := Float.ofInt n / Float.ofNat d

def readFloat : Reader := fun path v =>
  match v with
  | .float _ => .ok (.value v)
  | .text s =>
    match Number.float? s with
    | some x => .ok (.value (.float x))
    | none =>
      refuse "float_parsing"
        "Input should be a valid number, unable to parse string as a number" path
  | v =>
    match v.worth? with
    | some (.rational n d) => .ok (.value (.float (nearestFloat n d)))
    | some (.infinite negative) =>
      .ok (.value (.float (if negative then -1.0 / 0.0 else 1.0 / 0.0)))
    | some .notANumber => .ok (.value (.float (0.0 / 0.0)))
    | none => refuse "float_type" "Input should be a valid number" path

/-- A whole number in a text, with blanks around it, underscores between digits, and zeros after a
point. -/
def wholeText? (s : String) : Option Int :=
  let (negative, body) := Number.splitSign (Text.trim s.toList)
  let whole := body.takeWhile (· != '.')
  let zeros := body.dropWhile (· != '.')
  let digits := whole.filter (· != '_')
  if digits.isEmpty || !digits.all Text.isAsciiDigit || !Number.underscoresBetweenDigits whole ||
      !(zeros.drop 1).all (· == '0') then none
  else some (if negative then -(Number.digitsValue digits : Int) else Number.digitsValue digits)

/-- Whether a value is held as a floating-point number. -/
def isFloat : Value → Bool
  | .float _ => true
  | _ => false

def readWhole : Reader := fun path v =>
  match v with
  | .int _ => .ok (.value v)
  | .text s =>
    match wholeText? s with
    | some n => .ok (.value (.int n))
    | none =>
      refuse "int_parsing"
        "Input should be a valid integer, unable to parse string as an integer" path
  | v =>
    match v.worth? with
    | some (.rational n d) =>
      if n % d = 0 then
        if isFloat v && Nat.pow 2 63 ≤ (n / d).natAbs then
          refuse "int_parsing_size"
            "Unable to parse input string as an integer, exceeded maximum size" path
        else .ok (.value (.int (n / d)))
      else refuse "int_from_float"
        "Input should be a valid integer, got a number with a fractional part" path
    | some _ => refuse "finite_number" "Input should be a finite number" path
    | none => refuse "int_type" "Input should be a valid integer" path

/-- A key as a part of a path: texts and whole numbers as they are, other keys as they are shown. -/
def pathPart : Value → Value
  | .bool b => .int (if b then 1 else 0)
  | .text s => .text s
  | .int n => .int n
  | key => .text key.shown

/-- Entries of a map from texts to whole numbers, with all problems in order. -/
def readSizes : Reader := fun path v =>
  match v with
  | .map entries =>
    let read := entries.map fun (key, size) =>
      let here := path ++ [pathPart key]
      let keyProblems :=
        match readText (here ++ [.text "[key]"]) key with
        | .ok _ => []
        | .error problems => problems
      match readWhole here size with
      | .ok (.value n) => (keyProblems, (key, n))
      | .ok _ => (keyProblems, (key, size))
      | .error problems => (keyProblems ++ problems, (key, size))
    let problems := read.flatMap Prod.fst
    if problems.isEmpty then .ok (.value (.map (read.map Prod.snd))) else .error problems
  | _ => refuse "dict_type" "Input should be a valid dictionary" path

def readPath : Reader := fun path v =>
  match v with
  | .text s => .ok (.path (Path.normal s))
  | _ => refuse "path_type" "Input is not a valid path for <class 'pathlib.Path'>" path

/-- `n / d` seconds in microseconds, a half going away from zero. -/
def microseconds (n : Int) (d : Nat) : Int :=
  let size := (2 * n.natAbs * Duration.second + d) / (2 * d)
  if n < 0 then -(size : Int) else size

def readDuration : Reader := fun path v =>
  let settle (length : Except Duration.Problem Int) : Except (List SettingProblem) Setting :=
    match length with
    | .ok n => .ok (.duration n)
    | .error problem =>
      refuse "time_delta_parsing" ("Input should be a valid timedelta, " ++ problem.text) path
  match v with
  | .text s => settle (Duration.ofText s)
  | v =>
    match v.worth? with
    | some (.rational n d) => settle (Duration.bounded (microseconds n d))
    | some (.infinite _) => settle (.error .manyDays)
    | some .notANumber => settle (.error .notANumber)
    | none => refuse "time_delta_type" "Input should be a valid timedelta" path

/-- Adds a check to a reader. -/
def checked (read : Reader) (check : Setting → Option String) : Reader := fun path v => do
  let setting ← read path v
  match check setting with
  | none => return setting
  | some message => refuse "value_error" ("Value error, " ++ message) path

end Setting

end RaggedTables
