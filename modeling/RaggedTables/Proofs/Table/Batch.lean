import RaggedTables.Proofs.Table.Records

/-! Batches of rows. A batch comes to records when every row does; otherwise it fails as its first
failing row does, and a mismatch learns the number of that row. -/

namespace RaggedTables

/-- What a fault of a row becomes in a batch in which the row has number `row`. -/
inductive Fault.Located (row : Int) : Fault → Fault → Prop
  | mismatch {cell header column before} :
      Located row (.report (.mismatch cell header column before))
        (.report (.mismatch cell header column (some row)))
  | other {fault}
      (apart : ∀ cell header column before,
        fault ≠ .report (.mismatch cell header column before)) :
      Located row fault fault

/-- The same fault in a batch that has more rows in front. -/
def Fault.shifted (rows : Nat) : Fault → Fault
  | .report (.mismatch cell header column (some row)) =>
    .report (.mismatch cell header column (some (row + rows)))
  | fault => fault

namespace Table

theorem inRow_mismatch (row : Nat) (cell : Value) (header : Option Header) (column : Int)
    (before : Option Int) :
    inRow row (.report (.mismatch cell header column before)) =
      .report (.mismatch cell header column (some row)) := rfl

/-- Only a mismatch learns the number of its row. -/
theorem inRow_of_apart (row : Nat) {fault : Fault}
    (apart : ∀ cell header column before, fault ≠ .report (.mismatch cell header column before)) :
    inRow row fault = fault := by
  unfold inRow
  split
  · rename_i report
    cases report with
    | mismatch cell header column before => exact absurd rfl (apart cell header column before)
    | _ => rfl
  · rfl

theorem mismatch_or_apart (fault : Fault) :
    (∃ cell header column before, fault = .report (.mismatch cell header column before)) ∨
      ∀ cell header column before, fault ≠ .report (.mismatch cell header column before) := by
  by_cases h : ∃ cell header column before, fault = .report (.mismatch cell header column before)
  · exact .inl h
  · exact .inr fun cell header column before e => h ⟨cell, header, column, before, e⟩

theorem located_iff {row : Nat} {own fault : Fault} :
    Fault.Located row own fault ↔ fault = inRow row own := by
  constructor
  · rintro (_ | apart)
    · rfl
    · rw [inRow_of_apart row apart]
  · rintro rfl
    rcases mismatch_or_apart own with ⟨cell, header, column, before, rfl⟩ | apart
    · exact .mismatch
    · rw [inRow_of_apart row apart]
      exact .other apart

theorem inRow_add (row rows : Nat) (own : Fault) :
    inRow (row + rows) own = (inRow row own).shifted rows := by
  rcases mismatch_or_apart own with ⟨cell, header, column, before, rfl⟩ | apart
  · rw [inRow_mismatch, inRow_mismatch, Fault.shifted, Int.natCast_add]
  · rw [inRow_of_apart _ apart, inRow_of_apart _ apart]
    unfold Fault.shifted
    split
    · exact absurd rfl (apart _ _ _ _)
    · rfl

section

variable {headers : List (Option Header)} {processor : Option CellProcessor}

/-- A batch fails as its first failing row does. -/
theorem recordsFrom_error {index : Nat} {rows : List TableSource} {fault : Fault} :
    (recordsFrom headers processor index rows).outcome = .error fault ↔
      ∃ before row after own, rows = before ++ row :: after ∧
        (∀ r ∈ before, ∃ record, (sourceRecord r headers processor).outcome = .ok record) ∧
        (sourceRecord row headers processor).outcome = .error own ∧
        fault = inRow (index + before.length) own := by
  let run (i : Nat) (rows : List TableSource) := (recordsFrom headers processor i rows).outcome
  let step (i : Nat) (row : TableSource) :=
    (sourceRecord row headers processor).outcome.mapError (inRow i)
  have steps : run index rows = .error fault ↔ ∃ before row after, rows = before ++ row :: after ∧
      (∀ n r, before[n]? = some r → ∃ record, step (index + n) r = .ok record) ∧
      step (index + before.length) row = .error fault := by
    refine traversal_error (by simp [run, recordsFrom]) fun i row rest own => ?_
    simp only [run, step, recordsFrom_cons]
    cases (sourceRecord row headers processor).outcome with
    | error e => simp
    | ok record => simp [bind_eq_error]
  refine steps.trans ?_
  simp only [step, mapError_eq_ok, mapError_eq_error, List.mem_iff_getElem?]
  constructor
  · rintro ⟨before, row, after, split, sound, own, fails, rfl⟩
    refine ⟨before, row, after, own, split, fun r hr => ?_, fails, rfl⟩
    obtain ⟨n, hr⟩ := hr
    exact sound n r hr
  · rintro ⟨before, row, after, own, split, sound, fails, rfl⟩
    exact ⟨before, row, after, split, fun n r hr => sound r ⟨n, hr⟩, own, fails, rfl⟩

/-- Rows in front move the number of the row in which a batch fails. -/
theorem recordsFrom_shifted (index front : Nat) (rows : List TableSource) :
    (recordsFrom headers processor (index + front) rows).outcome =
      (recordsFrom headers processor index rows).outcome.mapError (Fault.shifted front) := by
  induction rows generalizing index with
  | nil => rfl
  | cons row rest ih =>
    rw [recordsFrom_cons, recordsFrom_cons]
    cases (sourceRecord row headers processor).outcome with
    | error own => simp only [mapError_error, error_bind, inRow_add]
    | ok record =>
      have next : index + front + 1 = index + 1 + front := by omega
      rw [next, ih]
      simp only [mapError_ok, ok_bind]
      cases (recordsFrom headers processor (index + 1) rest).outcome <;> rfl

theorem recordsFrom_append (index : Nat) (rows more : List TableSource) :
    (recordsFrom headers processor index (rows ++ more)).outcome = (do
      let first ← (recordsFrom headers processor index rows).outcome
      let second ← (recordsFrom headers processor (index + rows.length) more).outcome
      return first ++ second) := by
  induction rows generalizing index with
  | nil =>
    simp only [List.nil_append, recordsFrom, Traced.outcome_pure, ok_bind, List.length_nil,
      Nat.add_zero]
    cases (recordsFrom headers processor index more).outcome <;> rfl
  | cons row rest ih =>
    have next : index + (row :: rest).length = index + 1 + rest.length := by
      rw [List.length_cons]
      omega
    rw [List.cons_append, recordsFrom_cons, recordsFrom_cons, ih, next]
    cases (sourceRecord row headers processor).outcome with
    | error own => rfl
    | ok record =>
      simp only [mapError_ok, ok_bind]
      cases (recordsFrom headers processor (index + 1) rest).outcome with
      | error fault => rfl
      | ok first =>
        cases (recordsFrom headers processor (index + 1 + rest.length) more).outcome <;> rfl

end

/-- A batch of rows comes to records when every row does, to one record for each row and in the same
order. Otherwise it fails as its first failing row does, with the number of that row if the fault is
a mismatch. Of two batches in a row the first decides, and a mismatch in the second is counted from
the beginning of the first. -/
theorem rowsToRecords_batch (headers : List (Option Header)) (processor : Option CellProcessor) :
    (∀ rows records, (rowsToRecords rows headers processor).outcome = .ok records ↔
      List.Forall₂ (fun row record => (sourceRecord row headers processor).outcome = .ok record)
        rows records) ∧
    (∀ rows fault, (rowsToRecords rows headers processor).outcome = .error fault ↔
      ∃ before row after own, rows = before ++ row :: after ∧
        (∀ r ∈ before, ∃ record, (sourceRecord r headers processor).outcome = .ok record) ∧
        (sourceRecord row headers processor).outcome = .error own ∧
        Fault.Located before.length own fault) ∧
    ∀ rows more, (rowsToRecords (rows ++ more) headers processor).outcome = (do
      let first ← (rowsToRecords rows headers processor).outcome
      let second ← (rowsToRecords more headers processor).outcome.mapError
        (Fault.shifted rows.length)
      return first ++ second) := by
  simp only [rowsToRecords, Traced.outcome_call, located_iff]
  refine ⟨fun rows records => recordsFrom_ok, fun rows fault => ?_, fun rows more => ?_⟩
  · have error : (recordsFrom headers processor 0 rows).outcome = .error fault ↔ _ :=
      recordsFrom_error
    simpa only [Nat.zero_add] using error
  · rw [recordsFrom_append, recordsFrom_shifted]

end Table

end RaggedTables
