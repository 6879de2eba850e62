import RaggedTables.CommandLine.Program
import RaggedTables.Proofs.Csv.Blocks
import RaggedTables.Proofs.Json.Writing

/-! Faults that the table command explains, by the stages that can fail. Of the stages here only the
compiling of templates has another fault. -/

namespace RaggedTables.CommandLine

/-- The faults that the table command explains. -/
def explains (fault : Fault) : Bool := Command.table.explained.covers fault

section

variable {fault : Fault}

theorem explains_place {files : FileTree} {path : String} (h : files.place path = .error fault) :
    explains fault = true := by
  unfold FileTree.place at h
  split at h
  · rw [← Except.error.inj h]
    rfl
  · obtain ⟨own, -, rfl⟩ := mapError_eq_error.mp h
    rfl

theorem explains_textOf {bytes : List UInt8} (h : FileTree.textOf bytes = .error fault) :
    explains fault = true := by
  unfold FileTree.textOf at h
  split at h
  · cases h
  · rw [← Except.error.inj h]
    rfl

theorem explains_file {files : FileTree} {path : String} (h : files.file path = .error fault) :
    explains fault = true := by
  unfold FileTree.file at h
  rcases bind_eq_error.mp h with place | ⟨place, -, h⟩
  · exact explains_place place
  · split at h
    · rw [← Except.error.inj h]
      rfl
    · rw [← Except.error.inj h]
      rfl
    · cases h

theorem explains_read {files : FileTree} {path : String} (h : files.read path = .error fault) :
    explains fault = true := by
  unfold FileTree.read at h
  rcases bind_eq_error.mp h with file | ⟨found, -, text⟩
  · exact explains_file file
  · exact explains_textOf text

theorem explains_write {files : FileTree} {path text : String} {now : Int}
    (h : files.write path text now = .error fault) : explains fault = true := by
  obtain ⟨own, written, rfl⟩ := mapError_eq_error.mp h
  unfold FileTree.writeBytes at written
  rcases bind_eq_error.mp written with place | ⟨place, -, written⟩
  · have explained := explains_place place
    cases own <;> first | rfl | exact explained
  · split at written
    · rw [← Except.error.inj written]
      rfl
    · cases written

theorem explains_check {α : Type} {wanted : Wanted} {url : String} {found : Option (List α)}
    (h : wanted.check url found = .error fault) : explains fault = true := by
  unfold Wanted.check at h
  split at h
  · rw [← Except.error.inj h]
    rfl
  · split at h
    · cases h
    · rw [← Except.error.inj h]
      rfl

/-- A lookup that wants one table does not come back without any. -/
theorem explains_theTable {page : PageElement} {selector : String}
    (h : theTable page selector = .error fault) : explains fault = true := by
  rcases bind_eq_error.mp h with select | ⟨found, select, h⟩
  · exact explains_check select
  · cases found with
    | nil =>
      unfold PageElement.select Wanted.check at select
      split at select
      · cases select
      · split at select
        · rename_i allowed
          obtain rfl := Except.ok.inj select
          unfold Bounds.allows at allowed
          simp at allowed
        · cases select
    | cons table rest => cases h

theorem explains_selectRows {table : PageElement} {rows : Option String}
    (h : Table.selectRows table rows = .error fault) : explains fault = true := by
  cases rows with
  | none => cases h
  | some selector => exact explains_check h

theorem explains_compile {template : String} (h : Header.compile template = .error fault) :
    explains fault = true ∨ fault = .hugeRepeat := by
  obtain ⟨bad, -, rfl⟩ := mapError_eq_error.mp h
  unfold Header.BadPattern.toFault
  split
  · exact .inl rfl
  · exact .inr rfl
  · exact .inl rfl
  · exact .inl rfl

theorem explains_compileAll {templates : List (Option String)}
    (h : Header.compileAll templates = .error fault) :
    explains fault = true ∨ fault = .hugeRepeat := by
  induction templates with
  | nil => cases h
  | cons template rest ih =>
    cases template with
    | none =>
      rcases bind_eq_error.mp h with rest | ⟨headers, -, h⟩
      · exact ih rest
      · cases h
    | some template =>
      rcases bind_eq_error.mp h with first | ⟨header, -, h⟩
      · exact explains_compile first
      · rcases bind_eq_error.mp h with rest | ⟨headers, -, h⟩
        · exact ih rest
        · cases h

theorem explains_csvOptions {qualifier delimiter : String}
    (h : CsvOptions.ofValue (.map [(.text "qualifier", .text qualifier),
      (.text "delimiter", .text delimiter)]) = .error fault) : explains fault = true := by
  have names : CsvOptions.named [(.text "qualifier", .text qualifier),
      (.text "delimiter", .text delimiter)] =
        .ok [("qualifier", .text qualifier), ("delimiter", .text delimiter)] := by
    have first : Text.lower "qualifier" = "qualifier" := by decide +kernel
    have second : Text.lower "delimiter" = "delimiter" := by decide +kernel
    simp [CsvOptions.named, first, second, csvModel]
  unfold CsvOptions.ofValue at h
  rw [if_neg (by simp [Value.isEmpty])] at h
  dsimp only at h
  rw [names, ok_bind] at h
  split at h
  · cases h
  · rename_i problems _
    rw [← Except.error.inj h]
    cases problems <;> rfl

/-- The text of records that have a JSON form is refused for the options of CSV alone. -/
theorem explains_recordsText {options : TableOptions} {records : List Record}
    (forms : ∀ record ∈ records, Json.HasForm (.ofFields record))
    (h : (recordsText options (records.map .ofFields)).outcome = .error fault) :
    explains fault = true := by
  unfold recordsText at h
  split at h
  · have form : Json.HasForm (.list (records.map .ofFields)) := by
      refine .list fun v hv => ?_
      obtain ⟨record, hrecord, rfl⟩ := List.mem_map.mp hv
      exact forms record hrecord
    rw [Traced.outcome_lift, Json.write] at h
    obtain ⟨text, written⟩ := Json.writeAt_of_hasForm form
      (if options.output.isSome = true then .tabbed else .spaced) 0
    rw [written] at h
    cases h
  · rw [Traced.outcome_bind, Traced.outcome_lift] at h
    rcases bind_eq_error.mp h with refused | ⟨document, blocks, encoded⟩
    · cases csv : CsvOptions.ofValue (.map [(.text "qualifier", .text options.qualifier),
          (.text "delimiter", .text options.delimiter)]) with
      | error own =>
        have keys := CsvDocument.keysOf_records [] records
        rw [List.eraseDups_nil, List.map_nil] at keys
        rw [CsvDocument.fromRecords, keys, ok_bind, csv, error_bind] at refused
        rw [← Except.error.inj refused]
        exact explains_csvOptions csv
      | ok options =>
        rw [CsvDocument.fromRecords_records records csv] at refused
        cases refused
    · obtain ⟨blocks', -, rows⟩ := (CsvDocument.Aligned.fromRecords blocks).rows
      rw [CsvDocument.toText, Traced.outcome_call, Traced.outcome_bind, rows] at encoded
      cases encoded

end

end RaggedTables.CommandLine
