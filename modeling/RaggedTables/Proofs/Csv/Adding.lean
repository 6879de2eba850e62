import Mathlib.Data.List.Forall2
import RaggedTables.Csv.Document
import RaggedTables.Proofs.Outcome

/-! What lines and objects add to a document: one entry at its end, which depends on the headers and
on nothing that was added before. Of several objects, those before the first that is refused are
added. -/

namespace RaggedTables

/-- The entry of an object under the given headers. -/
def CsvEntry.ofObject (headers : List Value) : Value → Except Fault CsvEntry
  | .map fields =>
    if fields.length ≠ headers.length then
      .error (.report (.cardinality headers.length fields.length "Object"))
    else do
      let entry ← CsvEntry.ofValue headers .null
      CsvDocument.fill entry fields
  | v => .error (.kind (.notMapping v.kind))

namespace CsvDocument

/-- A document with one more entry at its end. -/
def adding (doc : CsvDocument) (entry : CsvEntry) : CsvDocument :=
  { doc with entries := doc.entries ++ [entry] }

theorem addLine_eq (doc : CsvDocument) (line : Value) :
    doc.addLine line =
      (CsvEntry.ofValue doc.headers line).map fun entry => (doc.adding entry, entry) := by
  unfold addLine
  cases CsvEntry.ofValue doc.headers line <;> rfl

/-- The entry that an object adds depends on the headers alone. -/
theorem addObject_eq (doc : CsvDocument) (object : Value) :
    doc.addObject object =
      (CsvEntry.ofObject doc.headers object).map fun entry => (doc.adding entry, entry) := by
  cases object with
  | map fields =>
    unfold addObject CsvEntry.ofObject
    by_cases count : fields.length = doc.headers.length
    · simp only [count, ne_eq, not_true_eq_false, if_false, CsvEntry.ofValue, ok_bind]
      cases fill ⟨doc.headers, doc.headers.map fun _ => .null⟩ fields <;> rfl
    · simp only [ne_eq, count, not_false_eq_true, if_true]
      rfl
  | _ => rfl

theorem addObject_ok {doc next : CsvDocument} {object : Value} {entry : CsvEntry} :
    doc.addObject object = .ok (next, entry) ↔
      CsvEntry.ofObject doc.headers object = .ok entry ∧ next = doc.adding entry := by
  rw [addObject_eq]
  cases CsvEntry.ofObject doc.headers object with
  | error fault => simp [Except.map]
  | ok own =>
    simp only [Except.map, Except.ok.injEq, Prod.mk.injEq]
    constructor
    · rintro ⟨rfl, rfl⟩
      exact ⟨rfl, rfl⟩
    · rintro ⟨rfl, rfl⟩
      exact ⟨rfl, rfl⟩

theorem addObject_error {doc : CsvDocument} {object : Value} {fault : Fault} :
    doc.addObject object = .error fault ↔
      CsvEntry.ofObject doc.headers object = .error fault := by
  rw [addObject_eq]
  cases CsvEntry.ofObject doc.headers object <;> simp [Except.map]

/-- Adding objects one after the other takes in those before the first that is refused, each with
the entry that it would have by itself. -/
theorem addEach_spec (doc : CsvDocument) (objects : List Value) :
    ∃ taken entries,
      List.Forall₂ (fun object entry => CsvEntry.ofObject doc.headers object = .ok entry)
        taken entries ∧
      (doc.addEach objects).1 = { doc with entries := doc.entries ++ entries } ∧
      (taken = objects ∧ (doc.addEach objects).2 = .ok () ∨
        ∃ refused rest fault, objects = taken ++ refused :: rest ∧
          CsvEntry.ofObject doc.headers refused = .error fault ∧
          (doc.addEach objects).2 = .error fault) := by
  induction objects generalizing doc with
  | nil => exact ⟨[], [], .nil, by simp [addEach], .inl ⟨rfl, rfl⟩⟩
  | cons object objects ih =>
    cases h : CsvEntry.ofObject doc.headers object with
    | error fault =>
      have step : doc.addObject object = .error fault := by rw [addObject_eq, h]; rfl
      refine ⟨[], [], .nil, by simp [addEach, step], .inr ⟨object, objects, fault, rfl, h, ?_⟩⟩
      simp [addEach, step]
    | ok entry =>
      have step : doc.addObject object = .ok (doc.adding entry, entry) := by
        rw [addObject_eq, h]
        rfl
      obtain ⟨taken, entries, each, document, outcome⟩ := ih (doc.adding entry)
      refine ⟨object :: taken, entry :: entries, .cons h each, ?_, ?_⟩
      · simp only [addEach, step, document]
        simp [adding]
      · simp only [addEach, step]
        rcases outcome with ⟨rfl, hok⟩ | ⟨refused, rest, fault, rfl, hrefused, herror⟩
        · exact .inl ⟨rfl, hok⟩
        · exact .inr ⟨refused, rest, fault, rfl, hrefused, herror⟩

/-- All objects are added exactly if each has an entry by itself. -/
theorem addEach_ok {doc : CsvDocument} {objects : List Value} :
    (doc.addEach objects).2 = .ok () ↔
      ∀ object ∈ objects, ∃ entry, CsvEntry.ofObject doc.headers object = .ok entry := by
  induction objects generalizing doc with
  | nil => simp [addEach]
  | cons object objects ih =>
    rw [addEach, addObject_eq, List.forall_mem_cons]
    cases h : CsvEntry.ofObject doc.headers object with
    | error fault => simp [Except.map]
    | ok entry =>
      have later : ((doc.adding entry).addEach objects).2 = .ok () ↔
          ∀ object ∈ objects, ∃ entry, CsvEntry.ofObject doc.headers object = .ok entry := ih
      simpa [Except.map, adding] using later

end CsvDocument

end RaggedTables
