import RaggedTables.Settings.Model

/-! The options of CSV text: what surrounds each field and what stands between two of them. -/

namespace RaggedTables

/-- The qualifier surrounds every field, the delimiter separates the fields of a line. -/
structure CsvOptions where
  qualifier : String := "\""
  delimiter : String := ","
deriving Repr, DecidableEq, Inhabited

namespace CsvOptions

/-- The text of a setting, if it is one. -/
def textOf (settings : Settings) (name default : String) : String :=
  match settings.get? name with
  | some (.value (.text s)) => s
  | _ => default

def ofSettings (settings : Settings) : CsvOptions where
  qualifier := textOf settings "qualifier" "\""
  delimiter := textOf settings "delimiter" ","

/-- The given options under the names of the settings; names are read without regard to case. -/
def named : List (Value × Value) → Except Fault (Fields String Value)
  | [] => .ok []
  | (.text name, v) :: rest => do
    let setting := Text.lower name
    if csvModel.fields.any fun field => field.name == setting then
      return (setting, v) :: (← named rest)
    else throw (.report (.option name "Unrecognised option"))
  | (key, _) :: _ => .error (.noAttribute key.fullKind "lower")

/-- The report of the first problem of the options. -/
def refuse (problems : List SettingProblem) : Fault :=
  match problems with
  | [] => .settings []
  | problem :: _ =>
    .report (.option ((problem.path.head?.map Value.plain).getD "")
      ("Invalid option (" ++ problem.message ++ ")"))

/-- The options that a value gives; a value that holds nothing leaves the defaults. -/
def ofValue (v : Value) : Except Fault CsvOptions :=
  if v.isEmpty then .ok {}
  else
    match v with
    | .map entries => do
      let given ← named entries
      match csvModel.build (Fields.ofEntries given) with
      | .ok settings => return ofSettings settings
      | .error problems => throw (refuse problems)
    | v => .error (.noAttribute v.fullKind "items")

end CsvOptions

end RaggedTables
