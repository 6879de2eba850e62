import RaggedTables.Proofs.Csv.Alignment
import RaggedTables.Proofs.Fields
import RaggedTables.Record.Assembly

/-! The document of a list of records. Its headers are all keys of the records, its rows are one
block for each record, and in a column of a block stand the values that its record has under the
header, whatever keys the other records have. -/

namespace RaggedTables

/-! ### What a block shows of a record -/

/-- The values that the column of a field shows: those of a list or a tuple, a text for each entry
of a mapping, else the value itself. -/
def Value.fieldValues : Value → List Value
  | .list items | .tuple items => items
  | .map entries => entries.map fun (key, v) => .text (key.plain ++ ": " ++ v.plain)
  | v => [v]

/-- The number of values of a field with several, else nothing. -/
def Value.fieldSize : Value → Nat
  | .list items | .tuple items => items.length
  | .map entries => entries.length
  | _ => 0

/-- The rows that a record takes: as many as its longest field has values, at least one. -/
def Record.rowCount (record : Record) : Nat :=
  record.foldl (fun count entry => max count entry.2.fieldSize) 1

/-- All keys of records in the order in which they are first seen. -/
def Record.keysSeen (records : List Record) : List String := (records.flatMap Fields.keys).eraseDups

/-- The rows of a record under the given names. In the column of a name stand, from the top down,
the values under that key that count as something, and none if the record lacks the key. -/
structure Record.IsBlock (names : List String) (record : Record) (rows : List (List Value)) :
    Prop where
  height : rows.length = record.rowCount
  width : ∀ row ∈ rows, row.length = names.length
  column : ∀ k name, names[k]? = some name →
    (CsvEntry.columnAt k rows).filter Value.isTruthy =
      (((record.get? name).map Value.fieldValues).getD []).filter Value.isTruthy

namespace CsvDocument

/-- What the entry of a record has under each name, a mapping as a list of texts. -/
def fieldsUnder (names : List String) (record : Record) : Record :=
  names.map fun name => (name, cellOf ((record.get? name).getD .null))

theorem valuesOf_cellOf (v : Value) : CsvEntry.valuesOf (cellOf v) = v.fieldValues := by
  cases v <;> rfl

theorem several_cellOf (v : Value) : CsvEntry.several (cellOf v) = v.fieldSize := by
  cases v <;> simp [CsvEntry.several, cellOf, Value.several?, Value.fieldSize]

theorem cellOf_ne_map (v : Value) (entries : List (Value × Value)) : cellOf v ≠ .map entries := by
  cases v <;> simp [cellOf]

/-! ### Keys as values -/

theorem unfitItem?_texts (names : List String) : Value.unfitItem? (names.map .text) = none := by
  induction names with
  | nil => rfl
  | cons name names ih => simpa [Value.unfitItem?, Value.unfitKey?] using ih

theorem contains_texts (names : List String) (name : String) :
    (names.map Value.text).contains (.text name) = decide (name ∈ names) := by
  induction names with
  | nil => simp
  | cons first names ih => simp [List.contains_cons, ih, Bool.beq_eq_decide_eq]

/-- Going on from the distinct keys of `seen`, the keys of a record that are new go to the end. -/
theorem foldl_seen (seen keys : List String) :
    (keys.map Value.text).foldl
        (fun seen key => if seen.contains key then seen else seen ++ [key])
        (seen.eraseDups.map .text) =
      (seen ++ keys).eraseDups.map .text := by
  induction keys generalizing seen with
  | nil => simp
  | cons key keys ih =>
    rw [List.map_cons, List.foldl_cons, contains_texts]
    have step : (if decide (key ∈ seen.eraseDups) then seen.eraseDups.map Value.text
        else seen.eraseDups.map .text ++ [.text key]) = (seen ++ [key]).eraseDups.map .text := by
      rw [Fields.eraseDups_concat]
      by_cases h : key ∈ seen <;> simp [h, List.mem_eraseDups]
    rw [step, ih]
    simp

theorem keysOf_records (seen : List String) (records : List Record) :
    keysOf (seen.eraseDups.map .text) (records.map Value.ofFields) =
      .ok ((seen ++ records.flatMap Fields.keys).eraseDups.map .text) := by
  induction records generalizing seen with
  | nil => simp [keysOf]
  | cons record records ih =>
    have hkeys : (Value.ofFields record).itemsOf = .ok (record.keys.map .text) := by
      simp [Value.itemsOf, Value.items?, Value.ofFields, Fields.keys, Function.comp_def]
    rw [List.map_cons, keysOf, hkeys, ok_bind]
    simp only [unfitItem?_texts, foldl_seen, ih]
    simp

/-! ### One record -/

theorem keys_fieldsUnder (names : List String) (record : Record) :
    (fieldsUnder names record).keys = names := by
  simp [fieldsUnder, Fields.keys, Function.comp_def]

/-- The object of a record has a field for every name. -/
theorem objectOf_ofFields {names : List String} (distinct : names.Nodup) (record : Record) :
    objectOf (names.map .text) (.ofFields record) =
      .ok (.ofFields (fieldsUnder names record)) := by
  have hget (name : String) :
      Fields.get? (record.map fun entry => (Value.text entry.1, entry.2)) (.text name) =
        record.get? name := Fields.get?_map Value.text_beq_text record name
  have hkeys : (fieldsUnder names record).keys.Nodup := by
    rw [keys_fieldsUnder]
    exact distinct
  have hentries := Fields.ofEntries_map Value.text_beq_text (fieldsUnder names record)
  rw [Fields.ofEntries_of_nodup hkeys] at hentries
  simp only [fieldsUnder, List.map_map, Function.comp_def] at hentries
  simp only [objectOf, Value.ofFields, Value.ofEntries, List.map_map, Function.comp_def, hget,
    hentries, fieldsUnder]

theorem indexOf_text (entry : CsvEntry) {before after : List String} {name : String}
    (headers : entry.headers = (before ++ name :: after).map .text) (new : name ∉ before) :
    entry.indexOf (.text name) = .ok before.length := by
  have hfind : (entry.headers.findIdx? fun h => h == .text name) = some before.length := by
    rw [headers, List.findIdx?_eq_some_iff_getElem]
    refine ⟨by simp, by simp, fun j hj => ?_⟩
    have hne : before[j] ≠ name := fun e => new (e ▸ List.getElem_mem hj)
    simp only [List.getElem_map, Value.text_beq_text, List.getElem_append_left hj]
    simpa using hne
  simp [CsvEntry.indexOf, hfind]

theorem modify_length_append {α : Type} (before : List α) (a : α) (after : List α) (f : α → α) :
    (before ++ a :: after).modify before.length f = before ++ f a :: after := by
  induction before with
  | nil => rfl
  | cons b before ih => simp [ih]

/-- The first value under a header is stored as it is. -/
theorem add_first {entry : CsvEntry} {i : Nat} {header v : Value} {before after : List Value}
    (plain : ∀ entries, v ≠ .map entries) (place : entry.indexOf header = .ok i)
    (cells : entry.cells = before ++ .null :: after) (length : before.length = i) :
    entry.add header v = .ok { entry with cells := before ++ v :: after } := by
  have hadd : entry.add header v = (do
      let i ← entry.indexOf header
      let cells := entry.cells.modify i fun cell => CsvEntry.extended cell v
      return { entry with cells }) := by
    cases v with
    | map entries => exact absurd rfl (plain entries)
    | _ => rfl
  rw [hadd, place, ok_bind, cells, ← length, modify_length_append]
  rfl

/-- Filling puts the values of the fields that are left behind those of the fields that are done. -/
theorem fill_fields (done todo : Record) (distinct : (Fields.keys (done ++ todo)).Nodup)
    (plain : ∀ name v, (name, v) ∈ todo → ∀ entries, v ≠ .map entries) :
    fill ⟨(Fields.keys (done ++ todo)).map .text,
        done.map Prod.snd ++ todo.map fun _ => .null⟩
        (todo.map fun entry => (.text entry.1, entry.2)) =
      .ok ⟨(Fields.keys (done ++ todo)).map .text, (done ++ todo).map Prod.snd⟩ := by
  induction todo generalizing done with
  | nil => simp [fill]
  | cons field todo ih =>
    obtain ⟨name, v⟩ := field
    have hkeys : Fields.keys (done ++ (name, v) :: todo) =
        Fields.keys done ++ name :: Fields.keys todo := by simp [Fields.keys]
    have new : name ∉ Fields.keys done := fun h =>
      (List.nodup_append.mp (hkeys ▸ distinct)).2.2 name h name (by simp) rfl
    have place := indexOf_text ⟨(Fields.keys (done ++ (name, v) :: todo)).map .text,
      done.map Prod.snd ++ .null :: todo.map fun _ => .null⟩ (by rw [hkeys]) new
    have hadd := add_first (plain name v (by simp)) place rfl (by simp [Fields.keys])
    have known : ((Fields.keys (done ++ (name, v) :: todo)).map Value.text).any
        (fun h => h == .text name) = true := by
      rw [hkeys, List.any_eq_true]
      exact ⟨.text name, by simp, by simp⟩
    rw [List.map_cons, List.map_cons, fill, if_pos known, hadd, ok_bind]
    have rest := ih (done ++ [(name, v)]) (by simpa using distinct)
      fun n w hw => plain n w (by simp [hw])
    simpa using rest

/-- The entry of a record under the given names. -/
def entryOf (names : List String) (record : Record) : CsvEntry :=
  ⟨names.map .text, (fieldsUnder names record).map Prod.snd⟩

theorem addObject_record {doc : CsvDocument} {names : List String} (distinct : names.Nodup)
    (headers : doc.headers = names.map .text) (record : Record) :
    doc.addObject (.ofFields (fieldsUnder names record)) =
      .ok ({ doc with entries := doc.entries ++ [entryOf names record] },
        entryOf names record) := by
  have filled := fill_fields [] (fieldsUnder names record)
    (by rw [List.nil_append, keys_fieldsUnder]; exact distinct) (by
      intro name v hv entries
      obtain ⟨_, -, hpair⟩ := List.mem_map.mp hv
      obtain ⟨-, rfl⟩ := Prod.mk.inj hpair
      exact cellOf_ne_map _ entries)
  have start : CsvEntry.ofValue doc.headers .null =
      .ok ⟨names.map .text, (fieldsUnder names record).map fun _ => .null⟩ := by
    simp [CsvEntry.ofValue, headers, fieldsUnder, Function.comp_def]
  rw [List.nil_append, keys_fieldsUnder, List.map_nil, List.nil_append] at filled
  simp only [addObject, Value.ofFields]
  rw [if_neg (by simp [headers, fieldsUnder]), start, ok_bind, filled]
  rfl

/-- Adding records adds their entries in order. -/
theorem addRecords_records (doc : CsvDocument) {names : List String} (distinct : names.Nodup)
    (headers : doc.headers = names.map .text) (records : List Record) :
    doc.addRecords (records.map .ofFields) =
      .ok { doc with entries := doc.entries ++ records.map (entryOf names) } := by
  induction records generalizing doc with
  | nil => simp [addRecords]
  | cons record records ih =>
    have rest := ih { doc with entries := doc.entries ++ [entryOf names record] } headers
    have object := objectOf_ofFields distinct record
    rw [← headers] at object
    rw [List.map_cons, addRecords, object, ok_bind, addObject_record distinct headers, ok_bind]
    simpa using rest

/-- The document of records has their keys as headers and an entry for each. -/
theorem fromRecords_records (records : List Record) {options : Value} {csv : CsvOptions}
    (valid : CsvOptions.ofValue options = .ok csv) :
    fromRecords (records.map .ofFields) options =
      .ok ⟨(Record.keysSeen records).map .text, csv,
        records.map (entryOf (Record.keysSeen records))⟩ := by
  have keys := keysOf_records [] records
  rw [List.nil_append, List.eraseDups_nil, List.map_nil] at keys
  have added := addRecords_records ⟨(Record.keysSeen records).map .text, csv, []⟩
    (Fields.nodup_eraseDups _) rfl records
  rw [fromRecords, keys, ok_bind, valid, ok_bind]
  exact added

/-! ### Blocks -/

theorem height_entryOf {names : List String} {record : Record} (distinct : record.keys.Nodup)
    (covers : ∀ key ∈ record.keys, key ∈ names) :
    CsvEntry.height (entryOf names record).cells = record.rowCount := by
  have same (bound : Nat) :
      CsvEntry.height (entryOf names record).cells ≤ bound ↔ record.rowCount ≤ bound := by
    rw [CsvEntry.height_le_iff, Record.rowCount, CsvEntry.foldl_max_le_iff]
    refine and_congr_right fun _ => ⟨fun h field hfield => ?_, fun h cell hcell => ?_⟩
    · have hkey : field.1 ∈ names := covers _ (List.mem_map_of_mem hfield)
      have hget : record.get? field.1 = some field.2 := Fields.get?_eq_some_of_mem distinct hfield
      have := h (cellOf ((record.get? field.1).getD .null))
        (by simpa [entryOf, fieldsUnder] using ⟨field.1, hkey, rfl⟩)
      simpa [hget, several_cellOf] using this
    · simp only [entryOf, fieldsUnder, List.map_map, List.mem_map, Function.comp_apply] at hcell
      obtain ⟨name, -, rfl⟩ := hcell
      rw [several_cellOf]
      cases hget : record.get? name with
      | none => exact Nat.zero_le _
      | some v => exact h _ (Fields.mem_of_get? hget)
  exact Nat.le_antisymm ((same _).mpr (Nat.le_refl _)) ((same _).mp (Nat.le_refl _))

/-- The rows of a record's entry are the record's block. -/
theorem isBlock_entryOf {names : List String} {record : Record} {rows : List (List Value)}
    (distinct : record.keys.Nodup) (covers : ∀ key ∈ record.keys, key ∈ names)
    (h : CsvEntry.IsBlock (entryOf names record).cells rows) : record.IsBlock names rows := by
  refine ⟨h.height.trans (height_entryOf distinct covers), fun row hrow => ?_, fun k name hk => ?_⟩
  · simpa [entryOf, fieldsUnder] using h.width row hrow
  · have hcell : (entryOf names record).cells[k]? =
        some (cellOf ((record.get? name).getD .null)) := by simp [entryOf, fieldsUnder, hk]
    rw [h.column k _ hcell, valuesOf_cellOf]
    cases record.get? name with
    | none => rfl
    | some v => rfl

/-- A document of records always exists. Its headers are the keys in the order in which they are
first seen, it has one entry for each record, and below the headers stand the blocks of the records,
in order. -/
theorem fromRecords_blocks (records : List Record)
    (distinct : ∀ record ∈ records, record.keys.Nodup) {options : Value} {csv : CsvOptions}
    (valid : CsvOptions.ofValue options = .ok csv) :
    ∃ doc blocks, fromRecords (records.map .ofFields) options = .ok doc ∧
      doc.options = csv ∧
      doc.headers = (Record.keysSeen records).map .text ∧
      doc.entries.length = records.length ∧
      List.Forall₂ (fun entry block => entry.outputRows.outcome = .ok block) doc.entries blocks ∧
      doc.rows.outcome = .ok (doc.headers :: blocks.flatten) ∧
      List.Forall₂ (Record.IsBlock (Record.keysSeen records)) records blocks := by
  have built := fromRecords_records records valid
  obtain ⟨blocks, hblocks, hrows⟩ := (Aligned.fromRecords built).rows
  refine ⟨_, blocks, built, rfl, rfl, by simp, hblocks.imp fun _ _ h => h.1, hrows, ?_⟩
  have covers : ∀ record ∈ records, ∀ key ∈ record.keys, key ∈ Record.keysSeen records := by
    intro record hrecord key hkey
    rw [Record.keysSeen, List.mem_eraseDups, List.mem_flatMap]
    exact ⟨record, hrecord, hkey⟩
  have both := (List.forall₂_and_left records blocks).mpr
    ⟨fun _ hrecord => hrecord, List.forall₂_map_left_iff.mp hblocks⟩
  exact both.imp fun record _ h =>
    isBlock_entryOf (distinct record h.1) (covers record h.1) h.2.2

/-- Records with different keys: a list with a value that counts as nothing, a mapping, no value and
no field at all. -/
def unevenRecords : List Record :=
  [[("a", .int 1), ("b", .list [.text "x", .text "", .text "y"])],
    [("c", .map [(.text "k", .int 2)]), ("a", .null)], []]

theorem fromRecords_blocks_uneven :
    (∀ record ∈ unevenRecords, record.keys.Nodup) ∧
      CsvOptions.ofValue (.map [(.text "Delimiter", .text ";")]) = .ok ⟨"\"", ";"⟩ ∧
      ∃ doc blocks, fromRecords (unevenRecords.map .ofFields)
          (.map [(.text "Delimiter", .text ";")]) = .ok doc ∧
        doc.headers = ["a", "b", "c"].map .text ∧ doc.entries.length = 3 ∧
        doc.rows.outcome = .ok (doc.headers :: blocks.flatten) ∧
        List.Forall₂ (Record.IsBlock ["a", "b", "c"]) unevenRecords blocks := by
  have distinct : ∀ record ∈ unevenRecords, record.keys.Nodup := by decide
  have valid : CsvOptions.ofValue (.map [(.text "Delimiter", .text ";")]) = .ok ⟨"\"", ";"⟩ :=
    eq_ok_of_toOption (by decide +kernel)
  obtain ⟨doc, blocks, built, -, headers, length, -, rows, shown⟩ :=
    fromRecords_blocks unevenRecords distinct valid
  exact ⟨distinct, valid, doc, blocks, built, headers, length, rows, shown⟩

end CsvDocument

end RaggedTables
