import RaggedTables.Trace.Tracer

/-! What a recorder keeps of a computation: a mark for the beginning of each traced call and, unless
the call fails, one for its end, in the order in which they happen. -/

namespace RaggedTables

/-- The phase and the name of a recorded event. -/
abbrev Mark := String × String

/-- The mark of a call that begins. -/
def Mark.begins (name : String) : Mark := ("start", name)

/-- The mark of a call that ends. -/
def Mark.ends (name : String) : Mark := ("end", name)

def Entry.mark (entry : Entry) : Mark := (entry.phase, entry.name)

/-- A recorder keeps every event, behind those that it has. -/
theorem Tracer.receiveAll_recorder (entries : List Entry) (events : List CallEvent) :
    (Tracer.recorder entries).receiveAll events =
      .recorder (entries ++ events.map CallEvent.entry) := by
  induction events generalizing entries with
  | nil => simp [receiveAll]
  | cons event rest ih =>
    calc (Tracer.recorder entries).receiveAll (event :: rest)
        = (Tracer.recorder (entries ++ [event.entry])).receiveAll rest := rfl
      _ = .recorder (entries ++ (event :: rest).map CallEvent.entry) := by rw [ih]; simp

namespace Traced

variable {α β : Type}

/-- The marks that are left when a recorder watches a computation. -/
def recorded (x : Traced α) : List Mark :=
  (Watch.recorded.run traceLevel x.events).recorder.entries.map Entry.mark

theorem recorded_eq (x : Traced α) :
    x.recorded = x.events.map fun event => event.entry.mark := by
  have received : (Watch.recorded.run traceLevel x.events).recorder =
      (Tracer.recorder []).receiveAll x.events := rfl
  rw [recorded, received, Tracer.receiveAll_recorder, List.nil_append, Tracer.entries, List.map_map]
  rfl

@[simp] theorem recorded_lift (outcome : Except Fault α) : (lift outcome).recorded = [] := rfl

@[simp] theorem recorded_pure (a : α) : (pure a : Traced α).recorded = [] := rfl

@[simp] theorem recorded_mapFault (f : Fault → Fault) (x : Traced α) :
    (mapFault f x).recorded = x.recorded := rfl

@[simp] theorem lift_ok_bind (a : α) (f : α → Traced β) : lift (.ok a) >>= f = f a := rfl

@[simp] theorem lift_error_bind (fault : Fault) (f : α → Traced β) :
    lift (.error fault) >>= f = lift (.error fault) := rfl

theorem events_bind_ok {x : Traced α} {a : α} (h : x.outcome = .ok a) (f : α → Traced β) :
    (x >>= f).events = x.events ++ (f a).events := by
  show (bind x f).events = _
  rw [bind, h]

theorem events_bind_error {x : Traced α} {fault : Fault} (h : x.outcome = .error fault)
    (f : α → Traced β) : (x >>= f).events = x.events := by
  show (bind x f).events = _
  rw [bind, h]

theorem recorded_bind_ok {x : Traced α} {a : α} (h : x.outcome = .ok a) (f : α → Traced β) :
    (x >>= f).recorded = x.recorded ++ (f a).recorded := by
  rw [recorded_eq, events_bind_ok h, List.map_append, ← recorded_eq, ← recorded_eq]

/-- What comes after a failure is not begun. -/
theorem recorded_bind_error {x : Traced α} {fault : Fault} (h : x.outcome = .error fault)
    (f : α → Traced β) : (x >>= f).recorded = x.recorded := by
  rw [recorded_eq, events_bind_error h, ← recorded_eq]

section

variable {name : String} {args : List Shown} {present : α → Shown} {body : Traced α}

theorem events_call_ok {a : α} (h : body.outcome = .ok a) :
    (call name args present body).events =
      .start name args :: (body.events ++ [.finish name (present a)]) := by
  rw [call, h]
  rfl

theorem events_call_error {fault : Fault} (h : body.outcome = .error fault) :
    (call name args present body).events = .start name args :: body.events := by
  rw [call, h]
  simp

theorem recorded_call_ok {a : α} (h : body.outcome = .ok a) :
    (call name args present body).recorded =
      Mark.begins name :: (body.recorded ++ [Mark.ends name]) := by
  rw [recorded_eq, events_call_ok h, recorded_eq]
  simp [CallEvent.entry, Entry.mark, Mark.begins, Mark.ends]

/-- A call that fails has begun and does not end. -/
theorem recorded_call_error {fault : Fault} (h : body.outcome = .error fault) :
    (call name args present body).recorded = Mark.begins name :: body.recorded := by
  rw [recorded_eq, events_call_error h, recorded_eq]
  simp [CallEvent.entry, Entry.mark, Mark.begins]

end

end Traced

end RaggedTables
