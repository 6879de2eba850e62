import RaggedTables.Proofs.Outcome
import RaggedTables.Proofs.Table.BodyPath
import RaggedTables.Table.Records

/-! The records of a table. A batch of rows comes to records when every row does, one record for
each row and in the same order; without a selector the rows are the body rows. -/

namespace RaggedTables

namespace Table

open Markup

variable {headers : List (Option Header)} {processor : Option CellProcessor}

/-! ### Batches of rows -/

theorem recordsFrom_cons (index : Nat) (row : TableSource) (rows : List TableSource) :
    (recordsFrom headers processor index (row :: rows)).outcome = (do
      let record ← (sourceRecord row headers processor).outcome.mapError (inRow index)
      let more ← (recordsFrom headers processor (index + 1) rows).outcome
      return record :: more) := by
  rw [recordsFrom]
  simp only [Traced.outcome_bind, Traced.outcome_mapFault, Traced.outcome_pure]
  rfl

theorem recordsFrom_cons_ok {index : Nat} {row : TableSource} {rows : List TableSource}
    {records : List Record} :
    (recordsFrom headers processor index (row :: rows)).outcome = .ok records ↔
      ∃ record more, records = record :: more ∧
        (sourceRecord row headers processor).outcome = .ok record ∧
        (recordsFrom headers processor (index + 1) rows).outcome = .ok more := by
  rw [recordsFrom_cons]
  simp only [bind_eq_ok, mapError_eq_ok]
  constructor
  · rintro ⟨record, first, more, others, same⟩
    exact ⟨record, more, (Except.ok.inj same).symm, first, others⟩
  · rintro ⟨record, more, rfl, first, others⟩
    exact ⟨record, first, more, others, rfl⟩

theorem recordsFrom_ok {index : Nat} {rows : List TableSource} {records : List Record} :
    (recordsFrom headers processor index rows).outcome = .ok records ↔
      List.Forall₂ (fun row record => (sourceRecord row headers processor).outcome = .ok record)
        rows records := by
  induction rows generalizing index records with
  | nil =>
    rw [List.forall₂_nil_left_iff, recordsFrom, Traced.outcome_pure]
    constructor
    · intro h
      exact (Except.ok.inj h).symm
    · rintro rfl
      rfl
  | cons row rows ih =>
    rw [recordsFrom_cons_ok, List.forall₂_cons_left_iff]
    constructor
    · rintro ⟨record, more, rfl, first, rest⟩
      exact ⟨record, more, first, ih.mp rest, rfl⟩
    · rintro ⟨record, more, first, rest, rfl⟩
      exact ⟨record, more, rfl, first, ih.mpr rest⟩

/-! ### Tables -/

theorem outcome_tableToRecords {source : TableSource} {templates : List (Option String)}
    {e : PageElement} (compiled : (compileHeaders templates).outcome = .ok headers)
    (element : elementOf source = .ok e) :
    (tableToRecords source templates processor none).outcome =
      (recordsFrom headers processor 0
        ((e.others (bodyRows e.document e.place)).map .element)).outcome := by
  rw [tableToRecords, recordsOf, Traced.outcome_call, Traced.outcome_bind, compiled]
  simp only [Except.bind, Traced.outcome_bind, Traced.outcome_lift, element, selectRows,
    rowsToRecords, Traced.outcome_call]

/-- Without a selector a table is read row by row: the rows that the path expression finds are those
that stand in a body, or with data in a table without one. They are read in the order in which they
are met on the way through the document, each once, and each record is that of its row. -/
theorem tableToRecords_bodyRows {source : TableSource} {templates : List (Option String)}
    {e : PageElement} (compiled : (compileHeaders templates).outcome = .ok headers)
    (element : elementOf source = .ok e) :
    let rows := bodyRows e.document e.place
    e.find bodyPath "table body rows" { least := 0 } = .ok (e.others rows) ∧
      (∀ row, row ∈ rows ↔ IsBodyRow e.document e.place row) ∧
      rows.Sublist ((selfAndBelow e.document e.place).map Prod.fst) ∧
      rows.Nodup ∧
      ∀ records, (tableToRecords source templates processor none).outcome = .ok records ↔
        List.Forall₂ (fun row record =>
          (rowRecord { e with place := row } headers processor).outcome = .ok record)
          rows records := by
  intro rows
  refine ⟨?_, fun row => mem_bodyRows, sublist_bodyRows _ _, (pairwise_bodyRows _ _).nodup,
    fun records => ?_⟩
  · rw [PageElement.find, find_bodyPath, Wanted.check, if_pos]
    unfold Bounds.allows
    simp
  · rw [outcome_tableToRecords compiled element, recordsFrom_ok, PageElement.others, List.map_map,
      List.forall₂_map_left_iff]
    rfl

/-- A table in a cell of another one's body. -/
def tableInCell : List Node :=
  [.element "table" [] [.element "tbody" [] [.element "tr" [] [.element "td" [] [.text "x",
    .element "table" [] [.element "tr" [] [.element "td" [] [.text "y"]]]]]]]]

/-- Both rules are for the inner row, which is read once and after the row around it. -/
theorem tableToRecords_bodyRows_nested :
    (compileHeaders [some "a"]).outcome = .ok [some (.norm "a" none)] ∧
      elementOf (.element ⟨tableInCell, [0], ""⟩) = .ok ⟨tableInCell, [0], ""⟩ ∧
      InBody tableInCell [0] [0, 0, 0, 0, 1, 0] ∧ InBareTable tableInCell [0] [0, 0, 0, 0, 1, 0] ∧
      (tableToRecords (.element ⟨tableInCell, [0], ""⟩) [some "a"] none none).outcome =
        .ok [[("a", .text "xy")], [("a", .text "y")]] := by
  have compiled : (compileHeaders [some "a"]).outcome = .ok [some (.norm "a" none)] := rfl
  have element : elementOf (.element ⟨tableInCell, [0], ""⟩) = .ok ⟨tableInCell, [0], ""⟩ := rfl
  have inBody : InBody tableInCell [0] [0, 0, 0, 0, 1, 0] :=
    ⟨[0, 0], by decide, by decide, by decide, _, rfl, rfl⟩
  have inTable : InBareTable tableInCell [0] [0, 0, 0, 0, 1, 0] := by
    refine ⟨[0, 0, 0, 0, 1], ⟨by decide, ⟨_, rfl, rfl⟩, 0, rfl⟩, ?_⟩
    rw [hasChildNamed_iff rfl]
    decide
  refine ⟨compiled, element, inBody, inTable, ?_⟩
  obtain ⟨-, -, -, -, records⟩ := @tableToRecords_bodyRows _ none _ _ _ compiled element
  have read : bodyRows tableInCell [0] = [[0, 0, 0], [0, 0, 0, 0, 1, 0]] := by
    have found : rowsInBodies tableInCell [0] ++ rowsOfBareTables tableInCell [0] =
        [[0, 0, 0], [0, 0, 0, 0, 1, 0], [0, 0, 0, 0, 1, 0]] := by decide
    rw [bodyRows, found]
    exact inOrder_eq (by decide) (by simp)
  have outer : Text.sanitise "xy" = "xy" := by decide +kernel
  have inner : Text.sanitise "y" = "y" := by decide +kernel
  rw [records, read]
  refine .cons ?_ (.cons ?_ .nil)
  · rw [← outer]
    rfl
  · rw [← inner]
    rfl

end Table

end RaggedTables
