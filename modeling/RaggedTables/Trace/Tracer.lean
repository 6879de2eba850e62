import RaggedTables.Trace.Basic

/-! Tracers, which receive the events of traced calls. A recorder keeps them; a logger writes lines
when its level admits them. Entering a tracer makes it the active one, and leaving it brings back
the one that was active before; a tracer remembers one such predecessor at a time. -/

namespace RaggedTables

/-- A recorded event. -/
structure Entry where
  phase : String
  name : String
  summary : String
deriving Repr, DecidableEq, Inhabited

namespace CallEvent

def name : CallEvent → String
  | .start name _ | .finish name _ => name

/-- The recorded form of an event. -/
def entry : CallEvent → Entry
  | .start name args => ⟨"start", name, Shown.briefAll args⟩
  | .finish name result => ⟨"end", name, result.brief⟩

/-- What a logger writes for an event. -/
def text : CallEvent → String
  | .start name args => "Begin " ++ name ++ "(" ++ Shown.briefAll args ++ ")"
  | .finish name result => "End " ++ name ++ ": " ++ result.brief

end CallEvent

/-- The level at which calls are logged. -/
def traceLevel : Int := 5

/-- A tracer with what it has received. -/
inductive Tracer where
  | recorder (entries : List Entry)
  | logger (level : Int) (lines : List String)
deriving Repr, DecidableEq, Inhabited

namespace Tracer

/-- Takes an event. -/
def receive : Tracer → CallEvent → Tracer
  | .recorder entries, event => .recorder (entries ++ [event.entry])
  | .logger level lines, event =>
    if level ≤ traceLevel then .logger level (lines ++ [event.text]) else .logger level lines

/-- Takes events in order. -/
def receiveAll (tracer : Tracer) (events : List CallEvent) : Tracer := events.foldl receive tracer

/-- The recorded events. -/
def entries : Tracer → List Entry
  | .recorder entries => entries
  | .logger .. => []

/-- The logged lines. -/
def lines : Tracer → List String
  | .recorder _ => []
  | .logger _ lines => lines

/-- The names of the recorded events of one phase. -/
def names (phase : String) : Tracer → List String
  | .recorder entries => (entries.filter fun entry => entry.phase = phase).map Entry.name
  | .logger .. => []

end Tracer

/-- The active tracer, and what each tracer is to bring back when it is left. Tracers are told apart
by number. -/
structure Contexts where
  active : Option Nat := none
  saved : Nat → Option (Option Nat) := fun _ => none

namespace Contexts

/-- Enters tracer `t`. -/
def enter (c : Contexts) (t : Nat) : Contexts where
  active := some t
  saved := fun u => if u = t then some c.active else c.saved u

/-- Leaves tracer `t`; without a predecessor nothing changes. -/
def leave (c : Contexts) (t : Nat) : Contexts :=
  match c.saved t with
  | none => c
  | some previous =>
    { active := previous, saved := fun u => if u = t then none else c.saved u }

end Contexts

/-- How a run is watched. -/
inductive Watch where
  | unwatched
  | recorded
  | logged
  | loggedInsideRecorded
deriving Repr, DecidableEq, Inhabited

/-- The numbers of the recorder and of the logger. -/
def Watch.tracers : Watch → List Nat
  | .unwatched => []
  | .recorded => [0]
  | .logged => [1]
  | .loggedInsideRecorded => [0, 1]

/-- What a watched run leaves: the recorder, the logger and the contexts after it. -/
structure Watched where
  recorder : Tracer := .recorder []
  logger : Tracer
  contexts : Contexts

/-- Watches events: the tracers are entered in order, the active one receives the events, and the
tracers are left in reverse order. -/
def Watch.run (watch : Watch) (level : Int) (events : List CallEvent) : Watched :=
  let inside := watch.tracers.foldl Contexts.enter {}
  let recorder := Tracer.recorder []
  let logger := Tracer.logger level []
  { recorder := if inside.active = some 0 then recorder.receiveAll events else recorder
    logger := if inside.active = some 1 then logger.receiveAll events else logger
    contexts := watch.tracers.reverse.foldl Contexts.leave inside }

end RaggedTables
