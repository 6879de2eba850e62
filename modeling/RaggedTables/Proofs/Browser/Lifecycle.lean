import RaggedTables.Browser.Run

/-! The life of a browser. Whatever happens in a session, the browser is stopped once, and closed on
leaving if it was launched; a session closes it a second time only when it is asked to, once at
most, and never when it shows a window. -/

namespace RaggedTables.Browser

/-- Whether a call closes the browser. -/
def Call.closes : Call → Bool
  | .close => true
  | _ => false

/-- Whether a call stops the program that the browser belongs to. -/
def Call.stops : Call → Bool
  | .stop => true
  | _ => false

/-- How often the browser is closed. -/
def closings (calls : List Call) : Nat := calls.countP Call.closes

/-- How often it is stopped. -/
def stoppings (calls : List Call) : Nat := calls.countP Call.stops

@[simp] theorem closings_append (first second : List Call) :
    closings (first ++ second) = closings first + closings second := List.countP_append

@[simp] theorem stoppings_append (first second : List Call) :
    stoppings (first ++ second) = stoppings first + stoppings second := List.countP_append

/-- What holds of a session in which the steps `taken` have been taken. -/
structure Session.After (headless : Value) (taken : List Step) (session : Session) : Prop where
  window : session.headless = headless
  closed : session.closed = (headless.isTruthy && taken.contains .done)
  closings : closings session.calls = session.closed.toNat
  stoppings : stoppings session.calls = 0

namespace Session

/-- What of a session its steps have in common, but for the one that closes the browser. -/
structure Agrees (before after : Session) : Prop where
  window : after.headless = before.headless
  closed : after.closed = before.closed
  closings : Browser.closings after.calls = Browser.closings before.calls
  stoppings : Browser.stoppings after.calls = Browser.stoppings before.calls

theorem Agrees.refl (session : Session) : session.Agrees session := ⟨rfl, rfl, rfl, rfl⟩

theorem agrees_fetchPage (site : Site) (session : Session) (url : String) (setCurrent : Bool) :
    session.Agrees (session.fetchPage site url setCurrent).1 := by
  have closings : Browser.closings (session.record (.goTo url)).calls =
      Browser.closings session.calls := closings_append session.calls [.goTo url]
  have stoppings : Browser.stoppings (session.record (.goTo url)).calls =
      Browser.stoppings session.calls := stoppings_append session.calls [.goTo url]
  unfold fetchPage
  dsimp only
  split
  · exact ⟨rfl, rfl, closings, stoppings⟩
  · cases setCurrent <;> exact ⟨rfl, rfl, closings, stoppings⟩

theorem agrees_step (site : Site) (session : Session) {step : Step} (h : step ≠ .done) :
    session.Agrees (session.step site step).1 := by
  cases step with
  | fetchPage url setCurrent => exact agrees_fetchPage site session url setCurrent
  | withPage number =>
    rw [Session.step]
    cases session.page number with
    | ok page => exact ⟨rfl, rfl, rfl, rfl⟩
    | error fault => exact .refl session
  | done => exact absurd rfl h
  | _ => exact .refl session

variable {headless : Value} {taken : List Step} {session : Session}

theorem After.agrees (now : session.After headless taken) {after : Session}
    (h : session.Agrees after) {step : Step} (apart : step ≠ .done) :
    after.After headless (taken ++ [step]) where
  window := h.window.trans now.window
  closed := by
    have same : (taken ++ [step]).contains .done = taken.contains .done := by
      simp [apart.symm]
    rw [h.closed, now.closed, same]
  closings := by rw [h.closings, h.closed, now.closings]
  stoppings := by rw [h.stoppings, now.stoppings]

/-- To be asked to close the browser comes to nothing where that has been done, and where the
browser shows a window. -/
theorem After.finish (now : session.After headless taken) :
    session.finish.After headless (taken ++ [.done]) := by
  have asked : (taken ++ [Step.done]).contains .done = true := by simp
  unfold Session.finish
  split
  · rename_i open_
    obtain ⟨windowless, still⟩ : session.headless.isTruthy = true ∧ session.closed = false := by
      simpa using open_
    have closings : Browser.closings session.calls = 0 := by rw [now.closings, still]; rfl
    refine ⟨now.window, ?_, ?_, ?_⟩
    · rw [asked, ← now.window, windowless]
      rfl
    · show Browser.closings (session.calls ++ [.close]) = 1
      rw [closings_append, closings]
      rfl
    · show Browser.stoppings (session.calls ++ [.close]) = 0
      rw [stoppings_append, now.stoppings]
      rfl
  · rename_i kept
    refine ⟨now.window, ?_, now.closings, now.stoppings⟩
    rw [asked, Bool.and_true, ← now.window]
    cases windowless : session.headless.isTruthy with
    | false => rw [now.closed, ← now.window, windowless, Bool.false_and]
    | true => simpa [windowless] using kept

theorem After.step (now : session.After headless taken) (site : Site) (step : Step) :
    (session.step site step).1.After headless (taken ++ [step]) := by
  by_cases h : step = .done
  · subst h
    exact now.finish
  · exact now.agrees (agrees_step site session h) h

/-- After each step of a run it is known what the session has done to the browser. -/
theorem After.during (now : session.After headless taken) (site : Site) (steps : List Step)
    {i : Nat} {later : Session} {answer : Except Fault Answer}
    (h : (Browser.takeSteps site session steps)[i]? = some (later, answer)) :
    later.After headless (taken ++ steps.take (i + 1)) := by
  induction steps generalizing session taken i with
  | nil => simp [Browser.takeSteps] at h
  | cons step rest ih =>
    have next := now.step site step
    cases i with
    | zero =>
      obtain ⟨rfl, -⟩ := Prod.mk.inj (Option.some.inj h)
      exact next
    | succ i =>
      have later := ih next h
      rwa [List.append_assoc, List.singleton_append] at later

end Session

theorem length_takeSteps (site : Site) (session : Session) (steps : List Step) :
    (takeSteps site session steps).length = steps.length := by
  induction steps generalizing session with
  | nil => rfl
  | cons step rest ih => rw [takeSteps, List.length_cons, List.length_cons, ih]

theorem Session.After.last {headless : Value} {session : Session} (site : Site) (steps : List Step)
    (now : session.After headless []) :
    (lastSession session (takeSteps site session steps)).After headless steps := by
  unfold lastSession
  cases last : (takeSteps site session steps).getLast? with
  | none =>
    have none_taken : steps = [] := by
      rw [← List.length_eq_zero_iff, ← length_takeSteps site session steps,
        List.getLast?_eq_none_iff.mp last, List.length_nil]
    rw [none_taken]
    exact now
  | some taken =>
    rw [List.getLast?_eq_getElem?, length_takeSteps] at last
    have later := now.during site steps last
    rwa [List.nil_append, List.take_of_length_le (by omega)] at later

/-- Before the first step a session has called for nothing. -/
theorem after_nothing (headless : Value) : Session.After headless [] { headless } where
  window := rfl
  closed := by simp
  closings := rfl
  stoppings := rfl

/-! ### Runs -/

namespace Run

variable {first next body last : Run} {fault : Fault}

theorem andThen_error (h : first.outcome = .error fault) : first.andThen next = first := by
  rw [andThen, h]

theorem andThen_ok (h : first.outcome = .ok ()) : first.andThen next =
    ⟨first.answers ++ next.answers, first.calls ++ next.calls, next.outcome⟩ := by
  rw [andThen, h]

/-- What is done in the end does not change how a run ends, as long as it does not fail itself. -/
theorem ensuring_ok (h : last.outcome = .ok ()) : body.ensuring last =
    ⟨body.answers ++ last.answers, body.calls ++ last.calls, body.outcome⟩ := by
  rw [ensuring, h]

end Run

variable {site : Site} {settings : Settings} {script : Script}

/-- A browser that cannot be launched is stopped at once. -/
theorem run_launching : run site .launching settings script =
    ⟨[], [.start, .launch (settingOf settings "browser_type") (settingOf settings "headless")] ++
      [.stop], .error (.stopped "launch failed")⟩ := by
  rw [run, Run.andThen_ok rfl, Run.ensuring_ok rfl, Run.andThen_error rfl]
  rfl

/-- A browser that is launched is closed, also when it gets no context. -/
theorem run_newContext : run site .newContext settings script =
    ⟨[], [.start, .launch (settingOf settings "browser_type") (settingOf settings "headless"),
      .newContext (contextOptions settings)] ++ [.close, .stop],
      .error (.stopped "new_context failed")⟩ := by
  rw [run, Run.andThen_ok rfl, Run.ensuring_ok rfl, Run.andThen_ok rfl, Run.ensuring_ok rfl,
    Run.andThen_error rfl]
  rfl

/-- A session is closed and stopped behind whatever a program does with it, and the run ends as the
program does. -/
theorem run_none :
    let session := script.run site { headless := settingOf settings "headless" }
    run site .none settings script =
      ⟨session.answers,
        [.start, .launch (settingOf settings "browser_type") (settingOf settings "headless"),
          .newContext (contextOptions settings)] ++ session.calls ++ [.close, .stop],
        session.outcome⟩ := by
  intro session
  have calls (c : List Call) : c ++ [.close] ++ [.stop] = c ++ [.close, .stop] := by
    rw [List.append_assoc, List.singleton_append]
  rw [run, Run.andThen_ok rfl, Run.ensuring_ok rfl, Run.andThen_ok rfl, Run.ensuring_ok rfl,
    Run.andThen_ok rfl, ← calls]
  simp only [Run.call, List.nil_append, List.append_nil, List.append_assoc, List.cons_append,
    session]

/-- Whatever the settings are, whatever is done in a session and however it ends, the browser is
stopped once. If it could not be launched it is never closed; otherwise the last calls are that to
close it and that to stop it. Before them a session has closed the browser at most once: if it has
no window and the session was asked to. At every step a session knows whether it has done so. -/
theorem run_lifecycle (site : Site) (settings : Settings) (script : Script) :
    let windowless := (settingOf settings "headless").isTruthy
    let r := run site .none settings script
    (∀ trouble, stoppings (run site trouble settings script).calls = 1) ∧
    closings (run site .launching settings script).calls = 0 ∧
    (∃ before, (run site .newContext settings script).calls = before ++ [.close, .stop] ∧
      closings before = 0) ∧
    (∃ before, r.calls = before ++ [.close, .stop] ∧
      closings before = (windowless && script.steps.contains .done).toNat) ∧
    r.answers.length = script.steps.length ∧
    ∀ i session answer, r.answers[i]? = some (session, answer) →
      session.closed = (windowless && (script.steps.take (i + 1)).contains .done) ∧
      closings session.calls = session.closed.toNat := by
  intro windowless r
  have start := after_nothing (settingOf settings "headless")
  have last := start.last site script.steps
  have whole : r = _ := run_none
  refine ⟨fun trouble => ?_, ?_, ⟨_, congrArg Run.calls run_newContext, rfl⟩,
    ⟨_, congrArg Run.calls whole, ?_⟩, ?_, fun i session answer h => ?_⟩
  · cases trouble with
    | launching => rw [run_launching]; rfl
    | newContext => rw [run_newContext]; rfl
    | none =>
      rw [run_none, stoppings_append, stoppings_append]
      show 0 + stoppings (lastSession _ _).calls + 1 = 1
      rw [last.stoppings]
  · rw [run_launching]
    rfl
  · rw [closings_append]
    show 0 + closings (lastSession _ _).calls = _
    rw [Nat.zero_add, last.closings, last.closed]
  · rw [whole]
    exact length_takeSteps _ _ _
  · rw [whole] at h
    have now := start.during site script.steps h
    exact ⟨now.closed, now.closings⟩

end RaggedTables.Browser
