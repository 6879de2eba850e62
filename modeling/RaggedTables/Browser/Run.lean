import RaggedTables.Browser.Session
import RaggedTables.Settings.Model

/-! Runs of a browser: it is started, launched and given a context, and the steps are taken.
Whatever happens, it is closed once it was launched, and it is stopped once it was started. -/

namespace RaggedTables.Browser

/-- What goes wrong before a session begins. -/
inductive Trouble where
  | none
  | launching
  | newContext
deriving Repr, DecidableEq, Inhabited

/-- The fault with which a call fails. -/
def Trouble.fault? : Trouble → Call → Option Fault
  | .launching, .launch .. => some (.stopped "launch failed")
  | .newContext, .newContext _ => some (.stopped "new_context failed")
  | _, _ => .none

/-- What a program does with a session: steps, and perhaps an error in the end. -/
structure Script where
  steps : List Step
  failure : Option Fault := none
deriving Inhabited

/-- A run: the session after each step with the answer, all calls, and how it ended. -/
structure Run where
  answers : List (Session × Except Fault Answer)
  calls : List Call
  outcome : Except Fault Unit
deriving Inhabited

namespace Run

/-- One call. -/
def call (trouble : Trouble) (call : Call) : Run where
  answers := []
  calls := [call]
  outcome :=
    match trouble.fault? call with
    | some fault => .error fault
    | none => .ok ()

/-- A run, and then another one, unless the first fails. -/
def andThen (first next : Run) : Run :=
  match first.outcome with
  | .error _ => first
  | .ok () => ⟨first.answers ++ next.answers, first.calls ++ next.calls, next.outcome⟩

/-- A run, and then another one, however the first ends. It ends as the first one does, unless the
second fails. -/
def ensuring (body last : Run) : Run where
  answers := body.answers ++ last.answers
  calls := body.calls ++ last.calls
  outcome :=
    match last.outcome with
    | .error fault => .error fault
    | .ok () => body.outcome

end Run

/-- The setting of a name, as a value. -/
def settingOf (settings : Settings) (name : String) : Value :=
  match settings.get? name with
  | some (.value v) => v
  | _ => .null

/-- The options of the context: the language, and what is set of size and agent. -/
def contextOptions (settings : Settings) : Fields String Value :=
  let optional (name : String) : Fields String Value :=
    let v := settingOf settings name
    if v.isTruthy then [(name, v)] else []
  ("locale", settingOf settings "locale") :: optional "viewport" ++ optional "user_agent"

/-- Takes steps in order. -/
def takeSteps (site : Site) : Session → List Step → List (Session × Except Fault Answer)
  | _, [] => []
  | session, step :: rest =>
    let taken := session.step site step
    taken :: takeSteps site taken.1 rest

/-- The session after the last step. -/
def lastSession (session : Session) (answers : List (Session × Except Fault Answer)) : Session :=
  ((answers.getLast?).map Prod.fst).getD session

/-- What a program does with a session. -/
def Script.run (site : Site) (session : Session) (script : Script) : Run :=
  let answers := takeSteps site session script.steps
  { answers
    calls := (lastSession session answers).calls
    outcome :=
      match script.failure with
      | some fault => .error fault
      | none => .ok () }

/-- Runs a script in a browser with the given settings. -/
def run (site : Site) (trouble : Trouble) (settings : Settings) (script : Script) : Run :=
  let headless := settingOf settings "headless"
  let browserType := settingOf settings "browser_type"
  let session := script.run site { headless }
  let inContext := (Run.call trouble (.newContext (contextOptions settings))).andThen session
  let launched :=
    (Run.call trouble (.launch browserType headless)).andThen
      (inContext.ensuring (.call trouble .close))
  (Run.call trouble .start).andThen (launched.ensuring (.call trouble .stop))

/-- Runs a script in a browser with settings that have to be valid. -/
def runWith (site : Site) (trouble : Trouble) (given : Fields String Value)
    (script : Script) : Run :=
  match browserModel.build given with
  | .ok settings => run site trouble settings script
  | .error problems => ⟨[], [], .error (.settings problems)⟩

end RaggedTables.Browser
