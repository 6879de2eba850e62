import RaggedTables.Trace.Program

/-! Leaving a tracer brings back the tracer that was active when it was entered, unless the same
tracer has been entered again in between: it remembers one predecessor at a time, and the inner exit
has taken it. -/

namespace RaggedTables

/-- Contexts as they are entered and left: one after another, and inside one another. -/
inductive Nesting where
  | done
  | within (tracer : Nat) (inside after : Nesting)

namespace Nesting

def append : Nesting → Nesting → Nesting
  | done, others => others
  | within tracer inside after, others => within tracer inside (after.append others)

/-- The tracers that are entered. -/
def tracers : Nesting → List Nat
  | done => []
  | within tracer inside after => tracer :: (inside.tracers ++ after.tracers)

/-- No tracer is entered again before it is left. -/
def Simple : Nesting → Prop
  | done => True
  | within tracer inside after => tracer ∉ inside.tracers ∧ inside.Simple ∧ after.Simple

/-- A tracer that is entered again before it is left was active when it was entered. -/
def Fits : Option Nat → Nesting → Prop
  | _, done => True
  | active, within tracer inside after =>
    (tracer ∈ inside.tracers → active = some tracer) ∧ inside.Fits (some tracer) ∧ after.Fits active

theorem append_eq_done {first second : Nesting} :
    first.append second = done ↔ first = done ∧ second = done := by
  cases first with
  | done => simp [append]
  | within tracer inside after => simp [append]

theorem tracers_append (first second : Nesting) :
    (first.append second).tracers = first.tracers ++ second.tracers := by
  induction first with
  | done => rfl
  | within tracer inside after _ ih => simp [append, tracers, ih]

/-- Where the active tracer is not entered, a tracer fits only if it is not entered again. -/
theorem fits_iff_simple {active : Option Nat} {n : Nesting}
    (apart : ∀ tracer ∈ n.tracers, active ≠ some tracer) : n.Fits active ↔ n.Simple := by
  induction n generalizing active with
  | done => simp [Fits, Simple]
  | within tracer inside after ihInside ihAfter =>
    have other : active ≠ some tracer := apart tracer (by simp [tracers])
    have rest : after.Fits active ↔ after.Simple := by
      apply ihAfter
      intro u entered
      exact apart u (by simp [tracers, entered])
    by_cases again : tracer ∈ inside.tracers
    · simp [Fits, Simple, again, other]
    · have deeper : inside.Fits (some tracer) ↔ inside.Simple := by
        apply ihInside
        intro u entered same
        cases same
        exact again entered
      simp [Fits, Simple, again, deeper, rest]

end Nesting

namespace Contexts

/-- Enters and leaves the contexts of a nesting. -/
def along : Contexts → Nesting → Contexts
  | c, .done => c
  | c, .within tracer inside after => (((c.enter tracer).along inside).leave tracer).along after

/-- Every exit makes active again what was active before the entry. -/
def Restores : Contexts → Nesting → Prop
  | _, .done => True
  | c, .within tracer inside after =>
    let left := ((c.enter tracer).along inside).leave tracer
    (c.enter tracer).Restores inside ∧ left.active = c.active ∧ left.Restores after

@[simp] theorem active_enter (c : Contexts) (t : Nat) : (c.enter t).active = some t := rfl

@[simp] theorem saved_enter_self (c : Contexts) (t : Nat) :
    (c.enter t).saved t = some c.active := by
  simp [enter]

@[simp] theorem saved_enter_of_ne {t u : Nat} (h : u ≠ t) (c : Contexts) :
    (c.enter t).saved u = c.saved u := by
  simp [enter, h]

theorem active_leave (c : Contexts) (t : Nat) : (c.leave t).active = (c.saved t).getD c.active := by
  unfold leave
  cases c.saved t <;> rfl

/-- A tracer that has been left remembers no predecessor. -/
@[simp] theorem saved_leave_self (c : Contexts) (t : Nat) : (c.leave t).saved t = none := by
  unfold leave
  cases h : c.saved t with
  | none => exact h
  | some previous => simp

@[simp] theorem saved_leave_of_ne {t u : Nat} (h : u ≠ t) (c : Contexts) :
    (c.leave t).saved u = c.saved u := by
  unfold leave
  cases c.saved t with
  | none => rfl
  | some previous => simp [h]

theorem along_append (c : Contexts) (first second : Nesting) :
    c.along (first.append second) = (c.along first).along second := by
  induction first generalizing c with
  | done => rfl
  | within tracer inside after _ ih => exact ih _

/-- What is entered and left in between takes away the predecessor of exactly the tracers in it. -/
theorem saved_along (c : Contexts) (n : Nesting) (t : Nat) :
    (c.along n).saved t = if t ∈ n.tracers then none else c.saved t := by
  induction n generalizing c with
  | done => simp [along, Nesting.tracers]
  | within u inside after ihInside ihAfter =>
    show ((((c.enter u).along inside).leave u).along after).saved t = _
    rw [ihAfter]
    by_cases later : t ∈ after.tracers
    · simp [Nesting.tracers, later]
    · by_cases same : t = u
      · subst same
        simp [Nesting.tracers, later]
      · rw [saved_leave_of_ne same, ihInside]
        simp [Nesting.tracers, later, same]

/-- An exit restores what was active before the entry, or, if the tracer was entered again, changes
nothing. -/
theorem active_left (c : Contexts) (t : Nat) (inside : Nesting) :
    (((c.enter t).along inside).leave t).active =
      if t ∈ inside.tracers then ((c.enter t).along inside).active else c.active := by
  rw [active_leave, saved_along]
  by_cases again : t ∈ inside.tracers <;> simp [again]

/-- A tracer that is neither active nor entered does not become active. -/
theorem active_along_ne {c : Contexts} {n : Nesting} {u : Nat} (apart : u ∉ n.tracers)
    (inactive : c.active ≠ some u) : (c.along n).active ≠ some u := by
  induction n generalizing c with
  | done => exact inactive
  | within tracer inside after ihInside ihAfter =>
    simp only [Nesting.tracers, List.mem_cons, List.mem_append, not_or] at apart
    obtain ⟨other, deeper, later⟩ := apart
    have within : ((c.enter tracer).along inside).active ≠ some u := by
      apply ihInside deeper
      intro same
      cases same
      exact other rfl
    apply ihAfter later
    rw [active_left]
    by_cases again : tracer ∈ inside.tracers
    · rw [if_pos again]
      exact within
    · rw [if_neg again]
      exact inactive

theorem Restores.active_along {c : Contexts} {n : Nesting} (h : c.Restores n) :
    (c.along n).active = c.active := by
  induction n generalizing c with
  | done => rfl
  | within tracer inside after _ ih =>
    obtain ⟨_, back, rest⟩ := h
    calc (c.along (.within tracer inside after)).active
        = (((c.enter tracer).along inside).leave tracer).active := ih rest
      _ = c.active := back

theorem restores_iff_fits (c : Contexts) (n : Nesting) : c.Restores n ↔ n.Fits c.active := by
  induction n generalizing c with
  | done => simp [Restores, Nesting.Fits]
  | within tracer inside after ihInside ihAfter =>
    have deeper : (c.enter tracer).Restores inside ↔ inside.Fits (some tracer) :=
      ihInside (c.enter tracer)
    have left := active_left c tracer inside
    constructor
    · rintro ⟨within, back, rest⟩
      rw [within.active_along, back] at left
      refine ⟨?_, deeper.mp within, ?_⟩
      · intro again
        rw [if_pos again] at left
        exact left
      · rw [← back]
        exact (ihAfter _).mp rest
    · rintro ⟨first, within, rest⟩
      have restored := deeper.mpr within
      have back : (((c.enter tracer).along inside).leave tracer).active = c.active := by
        rw [left]
        by_cases again : tracer ∈ inside.tracers
        · rw [if_pos again, restored.active_along, active_enter, first again]
        · exact if_neg again
      refine ⟨restored, back, (ihAfter _).mpr ?_⟩
      rw [back]
      exact rest

end Contexts

namespace Program

variable {α : Type}

/-- The contexts that a program enters, as far as it comes. -/
def entered {α : Type} : Program α → Nesting
  | pure _ | fail _ => .done
  | call _ _ _ body => body.entered
  | attempt body => body.entered
  | bind first next =>
    match first.traced.outcome with
    | .ok a => first.entered.append (next a).entered
    | .error _ => first.entered
  | within tracer body => .within tracer body.entered .done

theorem entered_bind_ok {β : Type} {first : Program α} {next : α → Program β} {a : α}
    (h : first.traced.outcome = .ok a) :
    (first.bind next).entered = first.entered.append (next a).entered := by
  rw [entered, h]

theorem entered_bind_error {β : Type} {first : Program α} {next : α → Program β} {fault : Fault}
    (h : first.traced.outcome = .error fault) : (first.bind next).entered = first.entered := by
  rw [entered, h]

/-- Tracers and their contexts do not change what a program comes to. -/
theorem run_outcome (p : Program α) (s : Tracing) : (p.run s).2 = p.traced.outcome := by
  induction p generalizing s with
  | pure a => rfl
  | fail fault => rfl
  | call name args present body ih =>
    show _ = body.traced.outcome
    cases active : s.contexts.active with
    | none => rw [run_call_unwatched active, ih]
    | some tracer =>
      rw [← ih (s.tell tracer (.start name args))]
      rcases ends : body.run (s.tell tracer (.start name args)) with ⟨s', fault | a⟩
      · rw [run_call_error active ends]
      · rw [run_call_ok active ends]
  | attempt body ih => exact congrArg Except.ok (ih s)
  | bind first next ihFirst ihNext =>
    show _ = (first.traced >>= fun a => (next a).traced).outcome
    rw [Traced.outcome_bind, ← ihFirst s]
    rcases ends : first.run s with ⟨s', fault | a⟩
    · rw [run_bind_error ends]
      rfl
    · rw [run_bind_ok ends, ihNext]
      rfl
  | within tracer body ih => exact ih (s.enter tracer)

theorem outcome_of_run {p : Program α} {s s' : Tracing} {outcome : Except Fault α}
    (h : p.run s = (s', outcome)) : p.traced.outcome = outcome := by
  rw [← run_outcome p s, h]

/-- A program enters and leaves its contexts however it ends. -/
theorem contexts_run (p : Program α) (s : Tracing) :
    (p.run s).1.contexts = s.contexts.along p.entered := by
  induction p generalizing s with
  | pure a => rfl
  | fail fault => rfl
  | call name args present body ih =>
    show _ = s.contexts.along body.entered
    cases active : s.contexts.active with
    | none => rw [run_call_unwatched active, ih]
    | some tracer =>
      rw [← Tracing.contexts_tell s tracer (.start name args), ← ih]
      rcases ends : body.run (s.tell tracer (.start name args)) with ⟨s', fault | a⟩
      · rw [run_call_error active ends]
      · rw [run_call_ok active ends, Tracing.contexts_tell]
  | attempt body ih => exact ih s
  | bind first next ihFirst ihNext =>
    rcases ends : first.run s with ⟨s', fault | a⟩
    · rw [run_bind_error ends, entered_bind_error (outcome_of_run ends), ← ihFirst, ends]
    · rw [run_bind_ok ends, entered_bind_ok (outcome_of_run ends), Contexts.along_append, ← ihFirst,
        ends, ihNext]
  | within tracer body ih =>
    show (body.run (s.enter tracer)).1.contexts.leave tracer = _
    rw [ih]
    rfl

end Program

/-- Every exit restores exactly if no tracer is entered again before it is left, one that is active
at the start apart. An exit that does not restore changes nothing. -/
theorem Contexts.restores_exactly (c : Contexts) (n : Nesting) :
    (c.Restores n ↔ n.Fits c.active) ∧
    ((∀ t ∈ n.tracers, c.active ≠ some t) → (c.Restores n ↔ n.Simple)) ∧
    (c.Restores n → (c.along n).active = c.active) ∧
    (∀ t, (((c.enter t).along n).leave t).active =
      if t ∈ n.tracers then ((c.enter t).along n).active else c.active) ∧
    ∀ {α : Type} (p : Program α) (s : Tracing), s.contexts = c → p.entered = n →
      (p.run s).1.contexts = c.along n := by
  refine ⟨c.restores_iff_fits n, ?_, Restores.active_along, fun t => c.active_left t n, ?_⟩
  · intro apart
    rw [c.restores_iff_fits n]
    exact Nesting.fits_iff_simple apart
  · rintro α p s rfl rfl
    exact p.contexts_run s

/-- A recorder entered twice stays active when both contexts are left, and it records a call that is
made after them. -/
theorem Contexts.not_restored_reentered :
    (¬ ∀ (c : Contexts) (n : Nesting), c.Restores n) ∧
    (({} : Contexts).along (.within 0 (.within 0 .done .done) .done)).active = some 0 ∧
    (({} : Contexts).along (.within 0 (.within 1 (.within 0 .done .done) .done) .done)).active =
      some 0 ∧
    ((((Program.within 0 (.within 0 (.pure ()))).bind fun _ =>
      .call "add" [] (fun _ => .object "") (.pure ())).run
        { tracers := fun _ => .recorder [] }).1.tracers 0).names "start" = ["add"] := by
  refine ⟨?_, rfl, rfl, by decide⟩
  intro always
  have back := (always {} (.within 0 (.within 0 .done .done) .done)).active_along
  cases back

end RaggedTables
