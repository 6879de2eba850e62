import RaggedTables.Proofs.Json.Writing
import RaggedTables.Proofs.Record.TextCells
import RaggedTables.Proofs.Table.Recording

/-! Rows that are read without a processor. Their cells are texts, so a record that comes of one has
a JSON form, and there are only two reasons why none comes of it: a transform does not match, or the
mapping of a split comes to a group of its delimiter that took no part. -/

namespace RaggedTables

namespace Table

/-- The cells of a row as texts. -/
def textCells (row : PageElement) : List Value :=
  row.children.map fun cell => .text (Text.sanitise cell.textContent)

theorem rowCells_none (row : PageElement) : rowCells row none = .ok (textCells row) :=
  cellValues_none 1 row.children

theorem plainRow_none (row : PageElement) (headers : List (Option Header)) :
    plainRow row headers none = Record.assemble (textCells row) headers := by
  rw [plainRow, rowCells_none, ok_bind]

end Table

namespace Record

open Json (HasForm)

/-! ### What comes of a text -/

theorem hasForm_optionalText (s : Option String) : HasForm (Report.optionalText s) := by
  cases s with
  | none => exact .null
  | some s => exact .text s

theorem optionalText_key (s : Option String) :
    Report.optionalText s = .null ∨ ∃ t, Report.optionalText s = .text t := by
  cases s with
  | none => exact .inl rfl
  | some s => exact .inr ⟨s, rfl⟩

theorem hasForm_splitCell {s : String} {delimiter : Pattern} {mapping : Option Pattern} {v : Value}
    (h : splitCell (.text s) delimiter mapping = .ok v) : HasForm v := by
  have pieces : HasForm (.list ((delimiter.split s).map Report.optionalText)) := by
    refine .list fun v hv => ?_
    obtain ⟨piece, -, rfl⟩ := List.mem_map.mp hv
    exact hasForm_optionalText piece
  rw [splitCell, cellPieces, ok_bind] at h
  cases mapping with
  | none =>
    obtain rfl := Except.ok.inj h
    exact pieces
  | some m =>
    obtain ⟨found, -, h⟩ := bind_eq_ok.mp h
    cases found with
    | none =>
      obtain rfl := Except.ok.inj h
      exact pieces
    | some found =>
      obtain rfl := Except.ok.inj h
      refine .map (fun entry hentry => ?_) fun entry hentry => ?_
      · obtain ⟨pair, -, rfl⟩ := List.mem_map.mp hentry
        exact optionalText_key pair.1
      · obtain ⟨pair, -, rfl⟩ := List.mem_map.mp hentry
        exact hasForm_optionalText pair.2

theorem Gives.hasForm {s : String} {header : Header} {i : Nat} {v : Value}
    (h : Gives (.text s) header i v) : HasForm v := by
  cases h with
  | norm => exact .text s
  | transform => exact hasForm_optionalText _
  | spread => exact hasForm_optionalText _
  | unmatched => exact .null
  | split cut => exact hasForm_splitCell cut

/-- A record of texts has a JSON form. -/
theorem hasForm_assemble {cells : List Value} {headers : List (Option Header)} {record : Record}
    (texts : ∀ cell ∈ cells, ∃ s, cell = .text s) (h : assemble cells headers = .ok record) :
    HasForm (.ofFields record) := by
  have distinct : record.keys.Nodup := keys_assemble h ▸ Fields.nodup_eraseDups _
  refine .map (fun entry hentry => ?_) fun entry hentry => ?_
  · obtain ⟨field, -, rfl⟩ := List.mem_map.mp hentry
    exact .inr ⟨field.1, rfl⟩
  · obtain ⟨field, hfield, rfl⟩ := List.mem_map.mp hentry
    obtain ⟨v, ⟨c, i, ⟨cell, header, hcell, -, -, gives⟩, -⟩, hget⟩ :=
      get?_assemble h (List.mem_map_of_mem hfield)
    obtain ⟨s, rfl⟩ := texts cell (List.mem_of_getElem? hcell)
    rw [Fields.get?_eq_some_of_mem distinct hfield] at hget
    rw [Option.some.inj hget]
    exact gives.hasForm

/-! ### Why nothing comes of a text -/

/-- A row of texts fails by a mismatch or by a missing piece. -/
theorem fault_of_texts {cells : List Value} {headers : List (Option Header)} {fault : Fault}
    (texts : ∀ cell ∈ cells, ∃ s, cell = .text s) (h : FirstFails 0 cells headers fault) :
    (∃ cell header column, fault = .report (.mismatch cell header column none)) ∨
      fault = .kind (.notText "NoneType") := by
  have textual : ∀ cell ∈ cells, IsTextual cell := by
    intro cell hcell
    obtain ⟨s, rfl⟩ := texts cell hcell
    exact .text s
  obtain ⟨column, fails, -⟩ := h
  obtain ⟨cell, header, -, -, refused⟩ := (failsAt_iff_refusedAt textual).mp fails
  cases refused with
  | mismatch missed => exact .inl ⟨_, _, _, rfl⟩
  | gap text gap => exact .inr rfl

end Record

namespace Table

theorem texts_textCells (row : PageElement) : ∀ cell ∈ textCells row, ∃ s, cell = .text s := by
  intro cell hcell
  obtain ⟨e, -, rfl⟩ := List.mem_map.mp hcell
  exact ⟨_, rfl⟩

variable {headers : List (Option Header)} {row : PageElement}

theorem hasForm_plainRow {record : Record} (h : plainRow row headers none = .ok record) :
    Json.HasForm (.ofFields record) := by
  rw [plainRow_none] at h
  exact Record.hasForm_assemble (texts_textCells row) h

theorem plainRow_none_error {fault : Fault} :
    plainRow row headers none = .error fault ↔
      Record.FirstFails 0 (textCells row) headers fault := by
  rw [plainRow_none, Record.assemble_error]

end Table

end RaggedTables
