import RaggedTables.Proofs.Table.Batch
import RaggedTables.Proofs.Trace.Recording

/-! What a recorder keeps when a table is read. The records or the fault are those of a computation
that makes no traced calls. The marks tell how far the reading came: a call that a failure passes
through has a beginning and no end, and every row that came to a record has both. -/

namespace RaggedTables

/-- What a processor gives for the cell of a column. -/
def CellProcessor.onCell (processor : CellProcessor) (column : Nat) (cell : PageElement) :
    Except Fault Value :=
  processor.replace column cell.innerMarkup (Text.sanitise cell.textContent)

namespace Table

open Mark (begins ends)

/-! ### Without traced calls -/

/-- The record of a row, by a computation without traced calls. -/
def plainRow (row : PageElement) (headers : List (Option Header))
    (processor : Option CellProcessor) : Except Fault Record := do
  Record.assemble (← rowCells row processor) headers

/-- The records of rows, the first of which has number `index`, without traced calls. -/
def plainRows (headers : List (Option Header)) (processor : Option CellProcessor) (index : Nat) :
    List PageElement → Except Fault (List Record)
  | [] => .ok []
  | row :: rest => do
    let record ← (plainRow row headers processor).mapError (inRow index)
    return record :: (← plainRows headers processor (index + 1) rest)

/-- The records of a table, without traced calls. -/
def plainTable (source : TableSource) (templates : List (Option String))
    (processor : Option CellProcessor) (rows : Option String) : Except Fault (List Record) := do
  let headers ← Header.compileAll templates
  let table ← elementOf source
  plainRows headers processor 0 (← selectRows table rows)

/-! ### What is recorded -/

/-- A processor fails on a cell of a row; the cells before it have their values. -/
inductive Raises (processor : Option CellProcessor) (row : PageElement) (fault : Fault) : Prop
  | at_ {p before cell after} (given : processor = some p)
      (cells : row.children = before ++ cell :: after)
      (sound : ∀ n c, before[n]? = some c → ∃ v, p.onCell (n + 1) c = .ok v)
      (raised : p.onCell (before.length + 1) cell = .error fault)

/-- The marks of `n` rows that come to records. -/
def rowMarks (n : Nat) : List Mark :=
  (List.replicate n [begins "assemble_record", ends "assemble_record"]).flatten

/-- The marks of a table whose templates are compiled. -/
def opening : List Mark :=
  [begins "table_to_records", begins "compile_headers", ends "compile_headers"]

/-- How the reading of a table ends, and what a recorder has kept by then. -/
inductive Story (source : TableSource) (templates : List (Option String))
    (processor : Option CellProcessor) (rows : Option String) :
    Except Fault (List Record) → List Mark → Prop
  /-- A template is refused. -/
  | refused {fault} (refusal : Header.compileAll templates = .error fault) :
      Story source templates processor rows (.error fault)
        [begins "table_to_records", begins "compile_headers"]
  /-- The text of the table holds no element. -/
  | noTable {headers fault} (compiled : Header.compileAll templates = .ok headers)
      (unread : elementOf source = .error fault) :
      Story source templates processor rows (.error fault) opening
  /-- The selector of the rows is refused. -/
  | noRows {headers table fault} (compiled : Header.compileAll templates = .ok headers)
      (element : elementOf source = .ok table) (unselected : selectRows table rows = .error fault) :
      Story source templates processor rows (.error fault) opening
  /-- Every row comes to a record. -/
  | complete {headers table found records} (compiled : Header.compileAll templates = .ok headers)
      (element : elementOf source = .ok table) (selected : selectRows table rows = .ok found)
      (each : List.Forall₂ (fun row record => plainRow row headers processor = .ok record)
        found records) :
      Story source templates processor rows (.ok records)
        (opening ++ begins "rows_to_records" :: rowMarks found.length ++
          [ends "rows_to_records", ends "table_to_records"])
  /-- The processor fails on a row, the first that comes to no record. -/
  | raised {headers table before row after own fault}
      (compiled : Header.compileAll templates = .ok headers)
      (element : elementOf source = .ok table)
      (selected : selectRows table rows = .ok (before ++ row :: after))
      (sound : ∀ r ∈ before, ∃ record, plainRow r headers processor = .ok record)
      (raises : Raises processor row own) (located : Fault.Located before.length own fault) :
      Story source templates processor rows (.error fault)
        (opening ++ begins "rows_to_records" :: rowMarks before.length)
  /-- The cells of a row, the first that comes to no record, cannot be assembled. -/
  | unassembled {headers table before row after cells own fault}
      (compiled : Header.compileAll templates = .ok headers)
      (element : elementOf source = .ok table)
      (selected : selectRows table rows = .ok (before ++ row :: after))
      (sound : ∀ r ∈ before, ∃ record, plainRow r headers processor = .ok record)
      (read : rowCells row processor = .ok cells)
      (refusal : Record.assemble cells headers = .error own)
      (located : Fault.Located before.length own fault) :
      Story source templates processor rows (.error fault)
        (opening ++ begins "rows_to_records" :: rowMarks before.length ++
          [begins "assemble_record"])

/-! ### Cells -/

variable {headers : List (Option Header)} {processor : Option CellProcessor}

theorem cellValue_some (p : CellProcessor) (column : Nat) (cell : PageElement) :
    cellValue (some p) column cell = (p.onCell column cell).map fun v =>
      if v == .text cell.innerMarkup then .text (Text.sanitise cell.textContent) else v := by
  rw [cellValue, CellProcessor.onCell]
  cases p.replace column cell.innerMarkup (Text.sanitise cell.textContent) <;> rfl

theorem cellValues_cons (column : Nat) (cell : PageElement) (rest : List PageElement) :
    cellValues processor column (cell :: rest) = (do
      let v ← cellValue processor column cell
      return v :: (← cellValues processor (column + 1) rest)) := rfl

/-- Without a processor every cell has a value, and it is a text. -/
theorem cellValues_none (column : Nat) (cells : List PageElement) :
    cellValues none column cells =
      .ok (cells.map fun cell => .text (Text.sanitise cell.textContent)) := by
  induction cells generalizing column with
  | nil => rfl
  | cons cell rest ih =>
    rw [cellValues_cons, ih]
    rfl

theorem cellValues_error {column : Nat} {cells : List PageElement} {fault : Fault} :
    cellValues processor column cells = .error fault ↔
      ∃ p before cell after, processor = some p ∧ cells = before ++ cell :: after ∧
        (∀ n c, before[n]? = some c → ∃ v, p.onCell (column + n) c = .ok v) ∧
        p.onCell (column + before.length) cell = .error fault := by
  cases processor with
  | none => simp [cellValues_none]
  | some p =>
    have steps : cellValues (some p) column cells = .error fault ↔
        ∃ before cell after, cells = before ++ cell :: after ∧
          (∀ n c, before[n]? = some c → ∃ v, p.onCell (column + n) c = .ok v) ∧
          p.onCell (column + before.length) cell = .error fault := by
      refine traversal_error (by simp [cellValues]) fun i cell rest own => ?_
      rw [cellValues_cons, cellValue_some]
      cases p.onCell i cell with
      | error _ => simp [Except.map]
      | ok v => simp [Except.map, bind_eq_error]
    rw [steps]
    simp

theorem rowCells_error {row : PageElement} {fault : Fault} :
    rowCells row processor = .error fault ↔ Raises processor row fault := by
  rw [rowCells, cellValues_error]
  constructor
  · rintro ⟨p, before, cell, after, given, cells, sound, raised⟩
    refine .at_ given cells (fun n c hc => ?_) ?_
    · rw [Nat.add_comm]
      exact sound n c hc
    · rw [Nat.add_comm]
      exact raised
  · rintro ⟨given, cells, sound, raised⟩
    refine ⟨_, _, _, _, given, cells, fun n c hc => ?_, ?_⟩
    · rw [Nat.add_comm]
      exact sound n c hc
    · rw [Nat.add_comm]
      exact raised

/-! ### Rows -/

theorem outcome_sourceRecord (row : PageElement) :
    (sourceRecord (.element row) headers processor).outcome = plainRow row headers processor := by
  rw [sourceRecord, Traced.outcome_bind, Traced.outcome_lift, elementOf, plainRow]
  show (rowRecord row headers processor).outcome = _
  rw [rowRecord, Traced.outcome_bind, Traced.outcome_lift]
  rfl

theorem outcome_recordsFrom (index : Nat) (rows : List PageElement) :
    (recordsFrom headers processor index (rows.map .element)).outcome =
      plainRows headers processor index rows := by
  induction rows generalizing index with
  | nil => rfl
  | cons row rest ih =>
    rw [List.map_cons, recordsFrom_cons, outcome_sourceRecord, ih]
    rfl

theorem plainRows_ok {index : Nat} {rows : List PageElement} {records : List Record} :
    plainRows headers processor index rows = .ok records ↔
      List.Forall₂ (fun row record => plainRow row headers processor =
        .ok record) rows records := by
  rw [← outcome_recordsFrom, recordsFrom_ok, List.forall₂_map_left_iff]
  simp only [outcome_sourceRecord]

theorem plainRows_sound {index : Nat} {rows : List PageElement} {records : List Record}
    (h : plainRows headers processor index rows = .ok records) :
    ∀ row ∈ rows, ∃ record, plainRow row headers processor = .ok record := by
  have each := plainRows_ok.mp h
  clear h
  induction each with
  | nil => simp
  | cons first _ ih => simpa using ⟨⟨_, first⟩, ih⟩

theorem plainRows_error {index : Nat} {rows : List PageElement} {fault : Fault} :
    plainRows headers processor index rows = .error fault ↔
      ∃ before row after own, rows = before ++ row :: after ∧
        (∀ r ∈ before, ∃ record, plainRow r headers processor = .ok record) ∧
        plainRow row headers processor = .error own ∧
        fault = inRow (index + before.length) own := by
  rw [← outcome_recordsFrom, recordsFrom_error]
  constructor
  · rintro ⟨before, row, after, own, split, sound, fails, rfl⟩
    obtain ⟨before, rest, rfl, rfl, hrest⟩ := List.map_eq_append_iff.mp split
    obtain ⟨row, after, rfl, rfl, rfl⟩ := List.map_eq_cons_iff.mp hrest
    rw [outcome_sourceRecord] at fails
    refine ⟨before, row, after, own, rfl, fun r hr => ?_, fails, by rw [List.length_map]⟩
    simpa only [outcome_sourceRecord] using sound (.element r) (List.mem_map_of_mem hr)
  · rintro ⟨before, row, after, own, rfl, sound, fails, rfl⟩
    refine ⟨before.map .element, .element row, after.map .element, own, by simp, ?_, ?_,
      by rw [List.length_map]⟩
    · simpa [outcome_sourceRecord] using sound
    · rw [outcome_sourceRecord, fails]

theorem plainRows_failing {before after : List PageElement} {row : PageElement} {own : Fault}
    (sound : ∀ r ∈ before, ∃ record, plainRow r headers processor = .ok record)
    (fails : plainRow row headers processor = .error own) :
    plainRows headers processor 0 (before ++ row :: after) = .error (inRow before.length own) :=
  plainRows_error.mpr ⟨before, row, after, own, rfl, sound, fails, by rw [Nat.zero_add]⟩

theorem plainRow_error {row : PageElement} {own : Fault} :
    plainRow row headers processor = .error own ↔
      Raises processor row own ∨
        ∃ cells, rowCells row processor = .ok cells ∧
        Record.assemble cells headers = .error own := by
  rw [plainRow, bind_eq_error, rowCells_error]

/-! ### Marks of rows -/

theorem recorded_sourceRecord (row : PageElement) :
    (sourceRecord (.element row) headers processor).recorded =
      match rowCells row processor with
      | .error _ => []
      | .ok cells => (assembleRecord cells headers).recorded := by
  rw [sourceRecord, elementOf, Traced.lift_ok_bind, rowRecord]
  cases rowCells row processor <;> simp

theorem recorded_sourceRecord_ok {row : PageElement} {record : Record}
    (h : plainRow row headers processor = .ok record) :
    (sourceRecord (.element row) headers processor).recorded =
      [begins "assemble_record", ends "assemble_record"] := by
  obtain ⟨cells, read, assembled⟩ := bind_eq_ok.mp h
  have body : (Traced.lift (Record.assemble cells headers)).outcome = .ok record := assembled
  rw [recorded_sourceRecord, read]
  dsimp only
  rw [assembleRecord, Traced.recorded_call_ok body, Traced.recorded_lift, List.nil_append]

theorem recorded_sourceRecord_unassembled {row : PageElement} {cells : List Value} {own : Fault}
    (read : rowCells row processor = .ok cells)
    (refusal : Record.assemble cells headers = .error own) :
    (sourceRecord (.element row) headers processor).recorded = [begins "assemble_record"] := by
  have body : (Traced.lift (Record.assemble cells headers)).outcome = .error own := refusal
  rw [recorded_sourceRecord, read]
  dsimp only
  rw [assembleRecord, Traced.recorded_call_error body, Traced.recorded_lift]

theorem recorded_recordsFrom_cons_ok {index : Nat} {row : PageElement} {rest : List TableSource}
    {record : Record} (h : plainRow row headers processor = .ok record) :
    (recordsFrom headers processor index (.element row :: rest)).recorded =
      begins "assemble_record" :: ends "assemble_record" ::
        (recordsFrom headers processor (index + 1) rest).recorded := by
  have first : ((sourceRecord (.element row) headers processor).mapFault (inRow index)).outcome =
      .ok record := by
    rw [Traced.outcome_mapFault, outcome_sourceRecord, h, mapError_ok]
  rw [recordsFrom, Traced.recorded_bind_ok first, Traced.recorded_mapFault,
    recorded_sourceRecord_ok h]
  have others : (recordsFrom headers processor (index + 1) rest >>= fun more =>
      (pure (record :: more) : Traced (List Record))).recorded =
      (recordsFrom headers processor (index + 1) rest).recorded := by
    cases more : (recordsFrom headers processor (index + 1) rest).outcome with
    | error fault => rw [Traced.recorded_bind_error more]
    | ok records => rw [Traced.recorded_bind_ok more, Traced.recorded_pure, List.append_nil]
  rw [others]
  rfl

theorem recorded_recordsFrom_ok {index : Nat} {rows : List PageElement}
    (sound : ∀ row ∈ rows, ∃ record, plainRow row headers processor = .ok record)
    (rest : List TableSource) :
    (recordsFrom headers processor index (rows.map .element ++ rest)).recorded =
      rowMarks rows.length ++
        (recordsFrom headers processor (index + rows.length) rest).recorded := by
  induction rows generalizing index with
  | nil => rfl
  | cons row rows ih =>
    obtain ⟨record, h⟩ := sound row (by simp)
    have next : index + (row :: rows).length = index + 1 + rows.length := by
      rw [List.length_cons]
      omega
    rw [List.map_cons, List.cons_append, recorded_recordsFrom_cons_ok h,
      ih fun r hr => sound r (by simp [hr]), next]
    rfl

theorem recorded_recordsFrom_error {index : Nat} {row : PageElement} {own : Fault}
    (fails : plainRow row headers processor = .error own) (rest : List TableSource) :
    (recordsFrom headers processor index (.element row :: rest)).recorded =
      (sourceRecord (.element row) headers processor).recorded := by
  have first : ((sourceRecord (.element row) headers processor).mapFault (inRow index)).outcome =
      .error (inRow index own) := by
    rw [Traced.outcome_mapFault, outcome_sourceRecord, fails, mapError_error]
  rw [recordsFrom, Traced.recorded_bind_error first, Traced.recorded_mapFault]

/-! ### Marks of tables -/

section

variable {args : List Shown} {source : TableSource} {templates : List (Option String)}
  {rows : Option String} {table : PageElement} {found : List PageElement} {fault : Fault}

theorem outcome_recordsOf :
    (recordsOf args source templates processor rows).outcome =
      plainTable source templates processor rows := by
  rw [recordsOf, Traced.outcome_call, Traced.outcome_bind, plainTable]
  refine congrArg (Except.bind (Header.compileAll templates)) (funext fun headers => ?_)
  rw [Traced.outcome_bind, Traced.outcome_lift]
  refine congrArg (Except.bind (elementOf source)) (funext fun table => ?_)
  rw [Traced.outcome_bind, Traced.outcome_lift]
  refine congrArg (Except.bind (selectRows table rows)) (funext fun found => ?_)
  rw [rowsToRecords, Traced.outcome_call, outcome_recordsFrom]

theorem recorded_compileHeaders_ok (compiled : Header.compileAll templates = .ok headers) :
    (compileHeaders templates).recorded = [begins "compile_headers", ends "compile_headers"] := by
  have body : (Traced.lift (Header.compileAll templates)).outcome = .ok headers := compiled
  rw [compileHeaders, Traced.recorded_call_ok body, Traced.recorded_lift, List.nil_append]

theorem recorded_compileHeaders_error (refusal : Header.compileAll templates = .error fault) :
    (compileHeaders templates).recorded = [begins "compile_headers"] := by
  have body : (Traced.lift (Header.compileAll templates)).outcome = .error fault := refusal
  rw [compileHeaders, Traced.recorded_call_error body, Traced.recorded_lift]

theorem recorded_recordsOf_refused (refusal : Header.compileAll templates = .error fault) :
    (recordsOf args source templates processor rows).recorded =
      [begins "table_to_records", begins "compile_headers"] := by
  have first : (compileHeaders templates).outcome = .error fault := refusal
  have body : (recordsOf args source templates processor rows).outcome = .error fault := by
    rw [outcome_recordsOf, plainTable, refusal, error_bind]
  rw [recordsOf, Traced.outcome_call] at body
  rw [recordsOf, Traced.recorded_call_error body, Traced.recorded_bind_error first,
    recorded_compileHeaders_error refusal]

theorem recorded_recordsOf_noTable (compiled : Header.compileAll templates = .ok headers)
    (unread : elementOf source = .error fault) :
    (recordsOf args source templates processor rows).recorded = opening := by
  have first : (compileHeaders templates).outcome = .ok headers := compiled
  have body : (recordsOf args source templates processor rows).outcome = .error fault := by
    rw [outcome_recordsOf, plainTable, compiled, ok_bind, unread, error_bind]
  rw [recordsOf, Traced.outcome_call] at body
  rw [recordsOf, Traced.recorded_call_error body, Traced.recorded_bind_ok first,
    recorded_compileHeaders_ok compiled, unread, Traced.lift_error_bind, Traced.recorded_lift]
  rfl

theorem recorded_recordsOf_noRows (compiled : Header.compileAll templates = .ok headers)
    (element : elementOf source = .ok table) (unselected : selectRows table rows = .error fault) :
    (recordsOf args source templates processor rows).recorded = opening := by
  have first : (compileHeaders templates).outcome = .ok headers := compiled
  have body : (recordsOf args source templates processor rows).outcome = .error fault := by
    rw [outcome_recordsOf, plainTable, compiled, ok_bind, element, ok_bind, unselected, error_bind]
  rw [recordsOf, Traced.outcome_call] at body
  rw [recordsOf, Traced.recorded_call_error body, Traced.recorded_bind_ok first,
    recorded_compileHeaders_ok compiled, element, Traced.lift_ok_bind, unselected,
    Traced.lift_error_bind, Traced.recorded_lift]
  rfl

theorem plainTable_rows (compiled : Header.compileAll templates = .ok headers)
    (element : elementOf source = .ok table) (selected : selectRows table rows = .ok found) :
    plainTable source templates processor rows = plainRows headers processor 0 found := by
  rw [plainTable, compiled, ok_bind, element, ok_bind, selected, ok_bind]

theorem plainTable_ok {records : List Record} :
    plainTable source templates processor rows = .ok records ↔
      ∃ headers table found, Header.compileAll templates = .ok headers ∧
        elementOf source = .ok table ∧ selectRows table rows = .ok found ∧
        List.Forall₂ (fun row record => plainRow row headers processor = .ok record)
          found records := by
  simp only [plainTable, bind_eq_ok, plainRows_ok]
  constructor
  · rintro ⟨headers, compiled, table, element, found, selected, each⟩
    exact ⟨headers, table, found, compiled, element, selected, each⟩
  · rintro ⟨headers, table, found, compiled, element, selected, each⟩
    exact ⟨headers, compiled, table, element, found, selected, each⟩

theorem plainTable_failing {before after : List PageElement} {row : PageElement} {own : Fault}
    (compiled : Header.compileAll templates = .ok headers) (element : elementOf source = .ok table)
    (selected : selectRows table rows = .ok (before ++ row :: after))
    (sound : ∀ r ∈ before, ∃ record, plainRow r headers processor = .ok record)
    (fails : plainRow row headers processor = .error own) :
    plainTable source templates processor rows = .error (inRow before.length own) := by
  rw [plainTable_rows compiled element selected, plainRows_failing sound fails]

theorem recorded_recordsOf_complete {records : List Record}
    (compiled : Header.compileAll templates = .ok headers) (element : elementOf source = .ok table)
    (selected : selectRows table rows = .ok found)
    (all : plainRows headers processor 0 found = .ok records) :
    (recordsOf args source templates processor rows).recorded =
      opening ++ begins "rows_to_records" :: rowMarks found.length ++
        [ends "rows_to_records", ends "table_to_records"] := by
  have first : (compileHeaders templates).outcome = .ok headers := compiled
  have body : (recordsOf args source templates processor rows).outcome = .ok records := by
    rw [outcome_recordsOf, plainTable_rows compiled element selected, all]
  have batch : (recordsFrom headers processor 0 (found.map .element)).outcome = .ok records := by
    rw [outcome_recordsFrom, all]
  have marks : (recordsFrom headers processor 0 (found.map .element)).recorded =
      rowMarks found.length := by
    rw [← List.append_nil (found.map TableSource.element),
      recorded_recordsFrom_ok (plainRows_sound all), recordsFrom, Traced.recorded_pure,
      List.append_nil]
  rw [recordsOf, Traced.outcome_call] at body
  rw [recordsOf, Traced.recorded_call_ok body, Traced.recorded_bind_ok first,
    recorded_compileHeaders_ok compiled, element, Traced.lift_ok_bind, selected,
    Traced.lift_ok_bind, rowsToRecords, Traced.recorded_call_ok batch, marks]
  simp [opening]

/-- A failing batch leaves the marks of the rows before the failing one, and what that row left. -/
theorem recorded_recordsOf_failing {before after : List PageElement} {row : PageElement}
    {own : Fault} (compiled : Header.compileAll templates = .ok headers)
    (element : elementOf source = .ok table)
    (selected : selectRows table rows = .ok (before ++ row :: after))
    (sound : ∀ r ∈ before, ∃ record, plainRow r headers processor = .ok record)
    (fails : plainRow row headers processor = .error own) :
    (recordsOf args source templates processor rows).recorded =
      opening ++ begins "rows_to_records" :: rowMarks before.length ++
        (sourceRecord (.element row) headers processor).recorded := by
  have first : (compileHeaders templates).outcome = .ok headers := compiled
  have body : (recordsOf args source templates processor rows).outcome =
      .error (inRow before.length own) := by
    rw [outcome_recordsOf, plainTable_failing compiled element selected sound fails]
  have batch : (recordsFrom headers processor 0
      ((before ++ row :: after).map .element)).outcome = .error (inRow before.length own) := by
    rw [outcome_recordsFrom, plainRows_failing sound fails]
  rw [recordsOf, Traced.outcome_call] at body
  rw [recordsOf, Traced.recorded_call_error body, Traced.recorded_bind_ok first,
    recorded_compileHeaders_ok compiled, element, Traced.lift_ok_bind, selected,
    Traced.lift_ok_bind, rowsToRecords, Traced.recorded_call_error batch, List.map_append,
    List.map_cons, recorded_recordsFrom_ok sound, recorded_recordsFrom_error fails]
  simp [opening]

/-! ### The story of a table -/

theorem story_recordsOf :
    Story source templates processor rows (plainTable source templates processor rows)
      (recordsOf args source templates processor rows).recorded := by
  cases compiled : Header.compileAll templates with
  | error fault =>
    rw [plainTable, compiled, error_bind, recorded_recordsOf_refused compiled]
    exact .refused compiled
  | ok headers =>
  cases element : elementOf source with
  | error fault =>
    rw [plainTable, compiled, ok_bind, element, error_bind,
      recorded_recordsOf_noTable compiled element]
    exact .noTable compiled element
  | ok table =>
  cases selected : selectRows table rows with
  | error fault =>
    rw [plainTable, compiled, ok_bind, element, ok_bind, selected, error_bind,
      recorded_recordsOf_noRows compiled element selected]
    exact .noRows compiled element selected
  | ok found =>
  cases all : plainRows headers processor 0 found with
  | ok records =>
    rw [plainTable_rows compiled element selected, all,
      recorded_recordsOf_complete compiled element selected all]
    exact .complete compiled element selected (plainRows_ok.mp all)
  | error fault =>
    obtain ⟨before, row, after, own, rfl, sound, fails, rfl⟩ := plainRows_error.mp all
    rw [plainTable_rows compiled element selected, all,
      recorded_recordsOf_failing compiled element selected sound fails, Nat.zero_add]
    have located : Fault.Located before.length own (inRow before.length own) := located_iff.mpr rfl
    rcases plainRow_error.mp fails with raises | ⟨cells, read, refusal⟩
    · rw [recorded_sourceRecord, rowCells_error.mpr raises, List.append_nil]
      exact .raised compiled element selected sound raises located
    · rw [recorded_sourceRecord_unassembled read refusal]
      exact .unassembled compiled element selected sound read refusal located

/-- The story of a table is that of its reading: there is no second one. -/
theorem Story.unique {outcome : Except Fault (List Record)} {marks : List Mark}
    (story : Story source templates processor rows outcome marks) :
    outcome = plainTable source templates processor rows ∧
      marks = (recordsOf args source templates processor rows).recorded := by
  cases story with
  | refused refusal =>
    rw [plainTable, refusal, error_bind, recorded_recordsOf_refused refusal]
    exact ⟨rfl, rfl⟩
  | noTable compiled unread =>
    rw [plainTable, compiled, ok_bind, unread, error_bind,
      recorded_recordsOf_noTable compiled unread]
    exact ⟨rfl, rfl⟩
  | noRows compiled element unselected =>
    rw [plainTable, compiled, ok_bind, element, ok_bind, unselected, error_bind,
      recorded_recordsOf_noRows compiled element unselected]
    exact ⟨rfl, rfl⟩
  | complete compiled element selected each =>
    have all : plainRows _ processor 0 _ = .ok _ := plainRows_ok.mpr each
    refine ⟨?_, (recorded_recordsOf_complete compiled element selected all).symm⟩
    rw [plainTable_rows compiled element selected, all]
  | @raised headers table before row after own fault compiled element selected sound raises
      located =>
    have fails : plainRow row headers processor = .error own := plainRow_error.mpr (.inl raises)
    refine ⟨?_, ?_⟩
    · rw [plainTable_failing compiled element selected sound fails, located_iff.mp located]
    · rw [recorded_recordsOf_failing compiled element selected sound fails, recorded_sourceRecord,
        rowCells_error.mpr raises, List.append_nil]
  | @unassembled headers table before row after cells own fault compiled element selected sound read
      refusal located =>
    have fails := plainRow_error.mpr (.inr ⟨cells, read, refusal⟩)
    refine ⟨?_, ?_⟩
    · rw [plainTable_failing compiled element selected sound fails, located_iff.mp located]
    · rw [recorded_recordsOf_failing compiled element selected sound fails,
        recorded_sourceRecord_unassembled read refusal]

end

/-- A table that is read under a recorder comes to the records or to the fault to which it comes
without traced calls. With them the marks that the recorder keeps make a story of how far the
reading came, and every story of the table has that outcome and those marks. -/
theorem recordsOf_story (args : List Shown) (source : TableSource)
    (templates : List (Option String)) (processor : Option CellProcessor) (rows : Option String) :
    (recordsOf args source templates processor rows).outcome =
      plainTable source templates processor rows ∧
    ∀ outcome marks, Story source templates processor rows outcome marks ↔
      outcome = plainTable source templates processor rows ∧
        marks = (recordsOf args source templates processor rows).recorded := by
  refine ⟨outcome_recordsOf, fun outcome marks => ⟨Story.unique, ?_⟩⟩
  rintro ⟨rfl, rfl⟩
  exact story_recordsOf

end Table

end RaggedTables
