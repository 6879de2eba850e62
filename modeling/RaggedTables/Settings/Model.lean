import RaggedTables.Settings.Reading

/-! Models of settings: named fields with defaults and readers. Building checks every field in order
and then refuses fields that the model does not have, so that a misspelt one is not passed over. -/

namespace RaggedTables

/-- A field of a model. -/
structure SettingField where
  name : String
  default : Setting
  read : Setting.Reader

/-- A model; the settings of a frozen one cannot be changed. -/
structure SettingModel where
  name : String
  frozen : Bool
  fields : List SettingField

/-- Settings by name, in the order of the model's fields. -/
abbrev Settings := Fields String Setting

namespace SettingModel

/-- The setting of a field, or its problems. -/
def readField (given : Fields String Value) (field : SettingField) :
    Except (List SettingProblem) Setting :=
  match given.get? field.name with
  | none => .ok field.default
  | some v => field.read [.text field.name] v

def problemsOf : Except (List SettingProblem) Setting → List SettingProblem
  | .ok _ => []
  | .error problems => problems

/-- All problems of the given values: those of the fields, then the unknown fields. -/
def problems (model : SettingModel) (given : Fields String Value) : List SettingProblem :=
  (model.fields.flatMap fun field => problemsOf (readField given field)) ++
    (given.filter fun entry => !model.fields.any fun field =>
      field.name == entry.1).map fun entry =>
      ⟨"extra_forbidden", [.text entry.1], "Extra inputs are not permitted"⟩

/-- The settings that given values make. -/
def build (model : SettingModel) (given : Fields String Value) :
    Except (List SettingProblem) Settings :=
  match model.problems given with
  | [] =>
    .ok (model.fields.map fun field =>
      (field.name,
        match readField given field with
        | .ok setting => setting
        | .error _ => field.default))
  | found => .error found

/-- Sets a field afterwards, to any value. -/
def assign (model : SettingModel) (settings : Settings) (name : String) (v : Value) :
    Except Fault Settings :=
  if model.frozen then .error (.settings [⟨"frozen_instance", [.text name], "Instance is frozen"⟩])
  else if settings.has name then .ok (settings.put name (.value v))
  else .error (.value (.noField model.name name))

end SettingModel

/-! ### The models -/

/-- The text that is no qualifier counts as the empty one. -/
def readQualifier : Setting.Reader := fun path v =>
  Setting.readText path (if v.isEmpty then .text "" else v)

def csvModel : SettingModel where
  name := "CsvOptions"
  frozen := true
  fields := [
    ⟨"qualifier", .value (.text "\""), readQualifier⟩,
    ⟨"delimiter", .value (.text ","), Setting.checked Setting.readText fun setting =>
      match setting with
      | .value (.text s) => if s.isEmpty then some "delimiter must not be empty" else none
      | _ => none⟩]

/-- A week in microseconds. -/
def week : Int := 7 * 24 * 3600 * 1000000

def fetchModel : SettingModel where
  name := "FetchConfig"
  frozen := false
  fields := [
    ⟨"cache_dir", .path "cache", Setting.readPath⟩,
    ⟨"ttl", .duration week, Setting.readDuration⟩,
    ⟨"timeout", .value (.float 30.0), Setting.readOptional Setting.readFloat⟩,
    ⟨"use_cache", .value (.bool true), Setting.readBool⟩]

def browserTypes : List String := ["chromium", "firefox", "webkit"]

def browserModel : SettingModel where
  name := "BrowserConfig"
  frozen := false
  fields := [
    ⟨"browser_type", .value (.text "chromium"), Setting.checked Setting.readText fun setting =>
      match setting with
      | .value (.text s) =>
        if browserTypes.contains s then none else some ("unknown browser type " ++ Text.quoted s)
      | _ => none⟩,
    ⟨"headless", .value (.bool true), Setting.readBool⟩,
    ⟨"viewport", .value .null, Setting.readOptional Setting.readSizes⟩,
    ⟨"user_agent", .value .null, Setting.readOptional Setting.readText⟩,
    ⟨"locale", .value (.text "en-US"), Setting.readText⟩]

end RaggedTables
