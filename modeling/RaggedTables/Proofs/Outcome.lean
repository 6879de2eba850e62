import Mathlib.Data.List.Forall2

/-! Computations that may fail, one after the other, taken apart. -/

namespace RaggedTables

variable {ε α β : Type}

@[simp] theorem ok_bind (a : α) (f : α → Except ε β) : (Except.ok a >>= f) = f a := rfl

@[simp] theorem error_bind (e : ε) (f : α → Except ε β) :
    ((Except.error e : Except ε α) >>= f) = .error e := rfl

@[simp] theorem throw_eq_error (e : ε) : (throw e : Except ε α) = .error e := rfl

@[simp] theorem pure_eq_ok (a : α) : (pure a : Except ε α) = .ok a := rfl

/-- Two computations in a row succeed when the first does and the second does on its result. -/
theorem bind_eq_ok {x : Except ε α} {f : α → Except ε β} {b : β} :
    x >>= f = .ok b ↔ ∃ a, x = .ok a ∧ f a = .ok b := by
  cases x with
  | error e => simp
  | ok a => simp

/-- Two computations in a row fail when the first does or the second does on its result. -/
theorem bind_eq_error {x : Except ε α} {f : α → Except ε β} {e : ε} :
    x >>= f = .error e ↔ x = .error e ∨ ∃ a, x = .ok a ∧ f a = .error e := by
  cases x with
  | error e' => simp
  | ok a => simp

@[simp] theorem mapError_ok {ε' : Type} (f : ε → ε') (a : α) :
    (Except.ok a).mapError f = .ok a := rfl

@[simp] theorem mapError_error {ε' : Type} (f : ε → ε') (e : ε) :
    (Except.error e : Except ε α).mapError f = .error (f e) := rfl

theorem mapError_eq_ok {ε' : Type} {f : ε → ε'} {x : Except ε α} {a : α} :
    x.mapError f = .ok a ↔ x = .ok a := by
  cases x with
  | error e => simp
  | ok b => simp

theorem mapError_eq_error {ε' : Type} {f : ε → ε'} {x : Except ε α} {e : ε'} :
    x.mapError f = .error e ↔ ∃ own, x = .error own ∧ e = f own := by
  cases x with
  | error own => simp [eq_comm]
  | ok b => simp

/-- A traversal that takes a step for each item and stops at the first that fails, fails as that
step does. The items are numbered. -/
theorem traversal_error {γ : Type} {run : Nat → List α → Except ε γ} {step : Nat → α → Except ε β}
    (nil : ∀ i e, run i [] ≠ .error e)
    (cons : ∀ i a rest e, run i (a :: rest) = .error e ↔
      step i a = .error e ∨ (∃ b, step i a = .ok b) ∧ run (i + 1) rest = .error e)
    {i : Nat} {items : List α} {e : ε} :
    run i items = .error e ↔
      ∃ before a after, items = before ++ a :: after ∧
        (∀ n b, before[n]? = some b → ∃ v, step (i + n) b = .ok v) ∧
        step (i + before.length) a = .error e := by
  induction items generalizing i with
  | nil => simp [nil]
  | cons first rest ih =>
    have next (n : Nat) : i + (n + 1) = i + 1 + n := by omega
    rw [cons, ih]
    constructor
    · rintro (fails | ⟨first_ok, before, a, after, rfl, others, fails⟩)
      · exact ⟨[], first, rest, rfl, by simp, fails⟩
      · refine ⟨first :: before, a, after, rfl, fun n b hb => ?_, ?_⟩
        · cases n with
          | zero => simpa [← Option.some.inj hb] using first_ok
          | succ n => exact next n ▸ others n b hb
        · rw [List.length_cons, next before.length]
          exact fails
    · rintro ⟨before, a, after, split, sound, fails⟩
      cases before with
      | nil =>
        obtain ⟨rfl, -⟩ := List.cons.inj split
        exact .inl fails
      | cons b before =>
        obtain ⟨rfl, rfl⟩ := List.cons.inj split
        rw [List.length_cons, next before.length] at fails
        exact .inr ⟨sound 0 first rfl, before, a, after, rfl,
          fun n b hb => next n ▸ sound (n + 1) b hb, fails⟩

/-- A traversal succeeds when its step does on every item. -/
theorem mapM_ok {f : α → Except ε β} {items : List α} {results : List β} :
    items.mapM f = .ok results ↔ List.Forall₂ (fun a b => f a = .ok b) items results := by
  induction items generalizing results with
  | nil => simp [eq_comm]
  | cons a rest ih =>
    simp only [List.mapM_cons, bind_eq_ok, ih, List.forall₂_cons_left_iff]
    constructor
    · rintro ⟨b, first, more, others, same⟩
      exact ⟨b, more, first, others, (Except.ok.inj same).symm⟩
    · rintro ⟨b, more, first, others, rfl⟩
      exact ⟨b, first, more, others, rfl⟩

/-- A traversal fails as its step does on the first item where it fails. -/
theorem mapM_error {f : α → Except ε β} {items : List α} {fault : ε} :
    items.mapM f = .error fault ↔
      ∃ before a after, items = before ++ a :: after ∧ (∀ b ∈ before, ∃ v, f b = .ok v) ∧
        f a = .error fault := by
  have steps := @traversal_error _ _ _ _ (fun _ items => items.mapM f) (fun _ a => f a) (by simp)
    (fun i a rest e => by
      rw [List.mapM_cons]
      cases f a with
      | error _ => simp
      | ok v => simp [bind_eq_error]) 0 items fault
  have sound (before : List α) :
      (∀ i b, before[i]? = some b → ∃ v, f b = .ok v) ↔ ∀ b ∈ before, ∃ v, f b = .ok v :=
    ⟨fun each b hb => (List.mem_iff_getElem?.mp hb).elim fun i hi => each i b hi,
      fun each i b hb => each b (List.mem_of_getElem? hb)⟩
  simpa only [sound] using steps

theorem eq_ok_of_toOption {x : Except ε α} {a : α} (h : x.toOption = some a) : x = .ok a := by
  cases x with
  | error e => simp [Except.toOption] at h
  | ok b => simpa [Except.toOption] using h

theorem ne_ok_of_toOption {x : Except ε α} (h : x.toOption = none) (a : α) : x ≠ .ok a := by
  rintro rfl
  simp [Except.toOption] at h

end RaggedTables
