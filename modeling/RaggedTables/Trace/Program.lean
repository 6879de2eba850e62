import RaggedTables.Trace.Tracer

/-! Programs around traced functions, run one step at a time. A traced function asks once, when it
is called, which tracer is active; that tracer is told of the call and, unless it fails, of its
result. A program may enter tracers on its way, and it leaves them again however it ends. -/

namespace RaggedTables

inductive Program : Type → Type 1 where
  | pure {α : Type} (a : α) : Program α
  | fail {α : Type} (fault : Fault) : Program α
  | call {α : Type} (name : String) (args : List Shown) (present : α → Shown) (body : Program α) :
    Program α
  | attempt {α : Type} (body : Program α) : Program (Except Fault α)
  | bind {α β : Type} (first : Program α) (next : α → Program β) : Program β
  | within {α : Type} (tracer : Nat) (body : Program α) : Program α

/-- The tracers with what they have received, and the open contexts. -/
structure Tracing where
  tracers : Nat → Tracer
  contexts : Contexts := {}

namespace Tracing

def tell (s : Tracing) (tracer : Nat) (event : CallEvent) : Tracing :=
  { s with tracers := fun u => if u = tracer then (s.tracers u).receive event else s.tracers u }

def enter (s : Tracing) (tracer : Nat) : Tracing :=
  { s with contexts := s.contexts.enter tracer }

def leave (s : Tracing) (tracer : Nat) : Tracing :=
  { s with contexts := s.contexts.leave tracer }

@[simp] theorem contexts_tell (s : Tracing) (tracer : Nat) (event : CallEvent) :
    (s.tell tracer event).contexts = s.contexts := rfl

theorem tracers_tell_of_ne {u tracer : Nat} (h : u ≠ tracer) {s : Tracing} {event : CallEvent} :
    (s.tell tracer event).tracers u = s.tracers u := if_neg h

@[simp] theorem tracers_enter (s : Tracing) (tracer : Nat) :
    (s.enter tracer).tracers = s.tracers := rfl

end Tracing

namespace Program

/-- The computation that a program is when its contexts are left out. -/
def traced {α : Type} : Program α → Traced α
  | pure a => .lift (.ok a)
  | fail fault => .fail fault
  | call name args present body => .call name args present body.traced
  | attempt body => body.traced.attempt
  | bind first next => first.traced >>= fun a => (next a).traced
  | within _ body => body.traced

/-- A program step by step. -/
def run {α : Type} : Program α → Tracing → Tracing × Except Fault α
  | pure a, s => (s, .ok a)
  | fail fault, s => (s, .error fault)
  | call name args present body, s =>
    match s.contexts.active with
    | none => body.run s
    | some tracer =>
      match body.run (s.tell tracer (.start name args)) with
      | (s, .ok a) => (s.tell tracer (.finish name (present a)), .ok a)
      | (s, .error fault) => (s, .error fault)
  | attempt body, s =>
    match body.run s with
    | (s, outcome) => (s, .ok outcome)
  | bind first next, s =>
    match first.run s with
    | (s, .ok a) => (next a).run s
    | (s, .error fault) => (s, .error fault)
  | within tracer body, s =>
    match body.run (s.enter tracer) with
    | (s, outcome) => (s.leave tracer, outcome)

section

variable {α β : Type} {s s' : Tracing} {fault : Fault} {a : α}

section

variable {name : String} {args : List Shown} {present : α → Shown} {body : Program α} {tracer : Nat}

theorem run_call_unwatched (h : s.contexts.active = none) :
    (call name args present body).run s = body.run s := by
  rw [run, h]

theorem run_call_ok (h : s.contexts.active = some tracer)
    (ends : body.run (s.tell tracer (.start name args)) = (s', .ok a)) :
    (call name args present body).run s = (s'.tell tracer (.finish name (present a)), .ok a) := by
  rw [run, h]
  simp only [ends]

theorem run_call_error (h : s.contexts.active = some tracer)
    (ends : body.run (s.tell tracer (.start name args)) = (s', .error fault)) :
    (call name args present body).run s = (s', .error fault) := by
  rw [run, h]
  simp only [ends]

end

section

variable {first : Program α} {next : α → Program β}

theorem run_bind_ok (ends : first.run s = (s', .ok a)) :
    (first.bind next).run s = (next a).run s' := by
  rw [run, ends]

theorem run_bind_error (ends : first.run s = (s', .error fault)) :
    (first.bind next).run s = (s', .error fault) := by
  rw [run, ends]

end

end

end Program

/-- A program inside the tracers that a watch enters. -/
def Watch.around {α : Type} (watch : Watch) (p : Program α) : Program α :=
  watch.tracers.foldr Program.within p

/-- The recorder and the logger of a watch before they have received anything. -/
def Tracing.fresh (level : Int) : Tracing where
  tracers := fun t => if t = 0 then .recorder [] else .logger level []

def Tracing.watched (s : Tracing) : Watched where
  recorder := s.tracers 0
  logger := s.tracers 1
  contexts := s.contexts

end RaggedTables
