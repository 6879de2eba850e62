import RaggedTables.Proofs.Trace.Contexts
import RaggedTables.Proofs.Trace.Recording

/-! A recorder and a logger that stand around the same calls are told the same: the lines of the
logger are the recorded events, written out. The one that is entered last is told everything, and
the one around it nothing. -/

namespace RaggedTables

/-- A recorded event, written out as a line of a log. -/
def Entry.line (entry : Entry) : String :=
  if entry.phase = "start" then "Begin " ++ entry.name ++ "(" ++ entry.summary ++ ")"
  else "End " ++ entry.name ++ ": " ++ entry.summary

/-- The line that a logger writes for an event is the recorded event, written out. -/
theorem CallEvent.line_entry (event : CallEvent) : event.entry.line = event.text := by
  cases event with
  | start name args => exact if_pos rfl
  | finish name result => exact if_neg (show ¬ ("end" = "start") by decide)

namespace Tracer

theorem receiveAll_append (tracer : Tracer) (first second : List CallEvent) :
    tracer.receiveAll (first ++ second) = (tracer.receiveAll first).receiveAll second :=
  List.foldl_append

theorem receiveAll_logger {level : Int} (admitted : level ≤ traceLevel) (lines : List String)
    (events : List CallEvent) :
    (logger level lines).receiveAll events = logger level (lines ++ events.map CallEvent.text) := by
  induction events generalizing lines with
  | nil => simp [receiveAll]
  | cons event rest ih =>
    calc (logger level lines).receiveAll (event :: rest)
        = ((logger level lines).receive event).receiveAll rest := rfl
      _ = (logger level (lines ++ [event.text])).receiveAll rest := by
          rw [receive, if_pos admitted]
      _ = logger level (lines ++ (event :: rest).map CallEvent.text) := by rw [ih]; simp

/-- A logger whose level does not admit calls writes nothing. -/
theorem receiveAll_logger_above {level : Int} (above : traceLevel < level) (lines : List String)
    (events : List CallEvent) : (logger level lines).receiveAll events = logger level lines := by
  have refused : ¬ level ≤ traceLevel := by omega
  induction events with
  | nil => rfl
  | cons event rest ih =>
    show ((logger level lines).receive event).receiveAll rest = _
    rw [receive, if_neg refused, ih]

end Tracer

namespace Watch

theorem run_told (level : Int) (events : List CallEvent) :
    (recorded.run level events).recorder.entries = events.map CallEvent.entry ∧
    (level ≤ traceLevel → (logged.run level events).logger.lines = events.map CallEvent.text) ∧
    (traceLevel < level → (logged.run level events).logger.lines = []) ∧
    (loggedInsideRecorded.run level events).recorder.entries = [] ∧
    (loggedInsideRecorded.run level events).logger = (logged.run level events).logger := by
  refine ⟨?_, ?_, ?_, rfl, rfl⟩
  · show ((Tracer.recorder []).receiveAll events).entries = _
    rw [Tracer.receiveAll_recorder]
    rfl
  · intro admitted
    show ((Tracer.logger level []).receiveAll events).lines = _
    rw [Tracer.receiveAll_logger admitted]
    rfl
  · intro above
    show ((Tracer.logger level []).receiveAll events).lines = _
    rw [Tracer.receiveAll_logger_above above]
    rfl

end Watch

namespace Tracing

/-- The active tracer is told of events, in order. -/
def hear (s : Tracing) (events : List CallEvent) : Tracing :=
  { s with tracers := fun u =>
      if s.contexts.active = some u then (s.tracers u).receiveAll events else s.tracers u }

@[simp] theorem contexts_hear (s : Tracing) (events : List CallEvent) :
    (s.hear events).contexts = s.contexts := rfl

@[simp] theorem hear_nil (s : Tracing) : s.hear [] = s := by
  simp [hear, Tracer.receiveAll]

theorem hear_append (s : Tracing) (first second : List CallEvent) :
    s.hear (first ++ second) = (s.hear first).hear second := by
  simp only [hear, mk.injEq, and_true]
  funext u
  by_cases active : s.contexts.active = some u
  · simp [active, Tracer.receiveAll_append]
  · simp [active]

theorem hear_unwatched {s : Tracing} (h : s.contexts.active = none) (events : List CallEvent) :
    s.hear events = s := by
  simp [hear, h]

theorem tell_active {s : Tracing} {tracer : Nat} (h : s.contexts.active = some tracer)
    (event : CallEvent) : s.tell tracer event = s.hear [event] := by
  simp only [tell, hear, h, mk.injEq, and_true]
  funext u
  by_cases same : u = tracer
  · simp [same, Tracer.receiveAll]
  · simp [same, Ne.symm same]

end Tracing

namespace Program

variable {α : Type}

/-- A program that enters no tracer tells the active one of all its calls. -/
theorem hear_run {p : Program α} (calls : p.entered = .done) (s : Tracing) :
    (p.run s).1 = s.hear p.traced.events := by
  induction p generalizing s with
  | pure a => exact s.hear_nil.symm
  | fail fault => exact s.hear_nil.symm
  | call name args present body ih =>
    cases active : s.contexts.active with
    | none => rw [run_call_unwatched active, ih calls, s.hear_unwatched active,
        s.hear_unwatched active]
    | some tracer =>
      rcases ends : body.run (s.tell tracer (.start name args)) with ⟨s', outcome⟩
      have told : s' = s.hear (.start name args :: body.traced.events) := by
        calc
          s' = (s.tell tracer (.start name args)).hear body.traced.events := by
            rw [← ih calls, ends]
          _ = (s.hear [.start name args]).hear body.traced.events := by
            rw [Tracing.tell_active active]
          _ = s.hear (.start name args :: body.traced.events) := (s.hear_append _ _).symm
      cases outcome with
      | error fault =>
        rw [run_call_error active ends, traced, Traced.events_call_error (outcome_of_run ends)]
        exact told
      | ok a =>
        have still : s'.contexts.active = some tracer := by rw [told, Tracing.contexts_hear, active]
        rw [run_call_ok active ends, traced, Traced.events_call_ok (outcome_of_run ends)]
        calc s'.tell tracer (.finish name (present a))
            = s'.hear [.finish name (present a)] := Tracing.tell_active still _
          _ = s.hear (.start name args :: (body.traced.events ++ [.finish name (present a)])) := by
              rw [told, ← Tracing.hear_append]
              rfl
  | attempt body ih => exact ih calls s
  | bind first next ihFirst ihNext =>
    rcases ends : first.run s with ⟨s', fault | a⟩
    · have outcome := outcome_of_run ends
      rw [entered_bind_error outcome] at calls
      rw [run_bind_error ends, traced, Traced.events_bind_error outcome, ← ihFirst calls, ends]
    · have outcome := outcome_of_run ends
      rw [entered_bind_ok outcome, Nesting.append_eq_done] at calls
      rw [run_bind_ok ends, ihNext a calls.2, traced, Traced.events_bind_ok outcome,
        Tracing.hear_append, ← ihFirst calls.1, ends]
  | within tracer body ih => cases calls

theorem tracers_run_within {p : Program α} (calls : p.entered = .done) (s : Tracing) (t : Nat) :
    ((within t p).run s).1.tracers t = (s.tracers t).receiveAll p.traced.events := by
  show (p.run (s.enter t)).1.tracers t = _
  rw [hear_run calls]
  exact if_pos rfl

/-- A tracer that is neither active nor entered is told nothing. -/
theorem unheard_run {p : Program α} {s : Tracing} {u : Nat} (apart : u ∉ p.entered.tracers)
    (inactive : s.contexts.active ≠ some u) : (p.run s).1.tracers u = s.tracers u := by
  induction p generalizing s with
  | pure a => rfl
  | fail fault => rfl
  | call name args present body ih =>
    cases active : s.contexts.active with
    | none =>
      rw [run_call_unwatched active]
      exact ih apart inactive
    | some tracer =>
      have other : u ≠ tracer := by
        intro same
        exact inactive (same ▸ active)
      rcases ends : body.run (s.tell tracer (.start name args)) with ⟨s', outcome⟩
      have unheard : s'.tracers u = s.tracers u := by
        have told := ih (s := s.tell tracer (.start name args)) apart inactive
        rw [ends, Tracing.tracers_tell_of_ne other] at told
        exact told
      cases outcome with
      | error fault => rw [run_call_error active ends, unheard]
      | ok a => rw [run_call_ok active ends, Tracing.tracers_tell_of_ne other, unheard]
  | attempt body ih => exact ih apart inactive
  | bind first next ihFirst ihNext =>
    rcases ends : first.run s with ⟨s', fault | a⟩
    · rw [entered_bind_error (outcome_of_run ends)] at apart
      rw [run_bind_error ends, ← ihFirst apart inactive, ends]
    · rw [entered_bind_ok (outcome_of_run ends), Nesting.tracers_append, List.mem_append,
        not_or] at apart
      have still : s'.contexts.active ≠ some u := by
        have along := contexts_run first s
        rw [ends] at along
        rw [show s'.contexts = _ from along]
        exact Contexts.active_along_ne apart.1 inactive
      rw [run_bind_ok ends, ihNext a apart.2 still, ← ihFirst apart.1 inactive, ends]
  | within tracer body ih =>
    have split : u ≠ tracer ∧ u ∉ body.entered.tracers := by
      simpa [entered, Nesting.tracers] using apart
    show (body.run (s.enter tracer)).1.tracers u = _
    apply ih split.2
    intro same
    cases same
    exact split.1 rfl

theorem unheard_within {t u : Nat} {p : Program α} (other : u ≠ t) (apart : u ∉ p.entered.tracers)
    (s : Tracing) : ((within t p).run s).1.tracers u = s.tracers u := by
  show (p.run (s.enter t)).1.tracers u = _
  apply unheard_run (s := s.enter t) apart
  intro same
  cases same
  exact other rfl

theorem watched_eq {s : Tracing} {w : Watched} (recorder : s.tracers 0 = w.recorder)
    (logger : s.tracers 1 = w.logger) (contexts : s.contexts = w.contexts) : s.watched = w := by
  cases w
  simp only [Tracing.watched, recorder, logger, contexts]

theorem contexts_around {p : Program α} (calls : p.entered = .done) (watch : Watch) (level : Int) :
    ((watch.around p).run (.fresh level)).1.contexts =
      (watch.run level p.traced.events).contexts := by
  rw [contexts_run]
  cases watch with
  | unwatched =>
    show Contexts.along {} p.entered = _
    rw [calls]
    rfl
  | recorded | logged =>
    show Contexts.along {} (.within _ p.entered .done) = _
    rw [calls]
    rfl
  | loggedInsideRecorded =>
    show Contexts.along {} (.within 0 (.within 1 p.entered .done) .done) = _
    rw [calls]
    rfl

/-- To watch a program step by step is to watch its events. -/
theorem watched_around {p : Program α} (calls : p.entered = .done) (watch : Watch) (level : Int) :
    ((watch.around p).run (.fresh level)).1.watched = watch.run level p.traced.events := by
  have apart (u : Nat) : u ∉ p.entered.tracers := by simp [calls, Nesting.tracers]
  refine watched_eq ?_ ?_ (contexts_around calls watch level)
  · cases watch with
    | unwatched => exact unheard_run (apart 0) (Option.some_ne_none 0).symm
    | recorded => exact tracers_run_within calls (.fresh level) 0
    | logged => exact unheard_within (by decide) (apart 0) (.fresh level)
    | loggedInsideRecorded =>
      exact unheard_within (t := 1) (by decide) (apart 0) ((Tracing.fresh level).enter 0)
  · cases watch with
    | unwatched => exact unheard_run (apart 1) (Option.some_ne_none 1).symm
    | recorded => exact unheard_within (by decide) (apart 1) (.fresh level)
    | logged => exact tracers_run_within calls (.fresh level) 1
    | loggedInsideRecorded => exact tracers_run_within calls ((Tracing.fresh level).enter 0) 1

/-- The recorder and the logger tell the same story of the same calls; around another tracer either
of them is told nothing; and no watching changes a result. -/
theorem retold {p : Program α} (calls : p.entered = .done) {s : Tracing} {r l : Nat}
    {entries : List Entry} {level : Int} {lines : List String}
    (recorder : s.tracers r = .recorder entries) (logger : s.tracers l = .logger level lines) :
    (∃ told : List Entry,
      told = p.traced.events.map CallEvent.entry ∧
      told.map Entry.line = p.traced.events.map CallEvent.text ∧
      ((within r p).run s).1.tracers r = .recorder (entries ++ told) ∧
      (1 ≤ level ∧ level ≤ 5 →
        ((within l p).run s).1.tracers l = .logger level (lines ++ told.map Entry.line)) ∧
      (5 < level → ((within l p).run s).1.tracers l = .logger level lines) ∧
      ((within r (within l p)).run s).1.tracers r = .recorder entries ∧
      ((within r (within l p)).run s).1.tracers l = ((within l p).run s).1.tracers l) ∧
    (∀ {β : Type} (q : Program β) (s : Tracing) (t : Nat),
      ((within t q).run s).2 = q.traced.outcome ∧
      ∀ u, u ≠ t → u ∉ q.entered.tracers → ((within t q).run s).1.tracers u = s.tracers u) ∧
    (∀ watch : Watch, watch.run level p.traced.events =
      ((watch.around p).run (.fresh level)).1.watched) ∧
    ∀ events : List CallEvent,
      (Watch.recorded.run level events).recorder.entries = events.map CallEvent.entry ∧
      (level ≤ 5 → (Watch.logged.run level events).logger.lines = events.map CallEvent.text) ∧
      (5 < level → (Watch.logged.run level events).logger.lines = []) ∧
      (Watch.loggedInsideRecorded.run level events).recorder.entries = [] ∧
      (Watch.loggedInsideRecorded.run level events).logger =
        (Watch.logged.run level events).logger := by
  have rendered : (p.traced.events.map CallEvent.entry).map Entry.line =
      p.traced.events.map CallEvent.text := by
    rw [List.map_map]
    exact List.map_congr_left fun event _ => event.line_entry
  have other : r ≠ l := by
    intro same
    rw [same, logger] at recorder
    cases recorder
  have apart : r ∉ p.entered.tracers := by simp [calls, Nesting.tracers]
  refine ⟨⟨_, rfl, rendered, ?_, ?_, ?_, ?_, ?_⟩, ?_,
    fun watch => (watched_around calls watch level).symm, Watch.run_told level⟩
  · rw [tracers_run_within calls, recorder, Tracer.receiveAll_recorder]
  · rintro ⟨-, admitted⟩
    rw [tracers_run_within calls, logger, rendered, Tracer.receiveAll_logger admitted]
  · intro above
    rw [tracers_run_within calls, logger, Tracer.receiveAll_logger_above above]
  · show ((within l p).run (s.enter r)).1.tracers r = _
    rw [unheard_within other apart, Tracing.tracers_enter, recorder]
  · rw [tracers_run_within calls]
    exact tracers_run_within calls (s.enter r) l
  · intro β q s t
    refine ⟨run_outcome (within t q) s, ?_⟩
    intro u other apart
    exact unheard_within other apart s

/-- A call in which another one fails. -/
theorem retold_failing :
    let p : Program Unit :=
      .call "outer" [.object "a"] (fun _ => .object "b")
        ((Program.attempt (.call "inner" [] (fun _ : Unit => .object "c")
          (.fail (.report (.session "gone" []))))).bind fun _ => .pure ())
    p.entered = .done ∧
    ((within 0 p).run (.fresh 5)).1.tracers 0 =
      .recorder [⟨"start", "outer", "a"⟩, ⟨"start", "inner", ""⟩, ⟨"end", "outer", "b"⟩] ∧
    ((within 1 p).run (.fresh 5)).1.tracers 1 =
      .logger 5 ["Begin outer(a)", "Begin inner()", "End outer: b"] := by
  intro p
  have calls : p.entered = .done := rfl
  obtain ⟨⟨told, events, -, recorded, logged, -⟩, -⟩ :=
    retold calls (s := .fresh 5) (r := 0) (l := 1) rfl rfl
  have whole : told = [⟨"start", "outer", "a"⟩, ⟨"start", "inner", ""⟩, ⟨"end", "outer", "b"⟩] := by
    rw [events]
    decide
  rw [whole] at recorded logged
  exact ⟨calls, recorded, logged (by decide)⟩

end Program

end RaggedTables
