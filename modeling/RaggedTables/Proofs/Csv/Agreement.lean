import RaggedTables.Proofs.Csv.Blocks
import RaggedTables.Proofs.Csv.Decoding
import RaggedTables.Proofs.Csv.FlatLines

/-! Two ways to the text of flat records. A document goes through entries and their rows, flat text
is written record by record; for records with the same keys and plain values they come to the same
lines, as long as no qualifier has to be taken out of a value. -/

namespace RaggedTables

/-! ### Plain values -/

/-- No value, a text or a whole number. -/
def Value.IsPlain : Value → Prop
  | .null | .text _ | .int _ => True
  | _ => False

instance (v : Value) : Decidable v.IsPlain :=
  match v with
  | .null | .text _ | .int _ => isTrue trivial
  | .bool _ | .float _ | .decimal _ | .fraction _ | .list _ | .tuple _ | .map _ => isFalse id

theorem Value.IsPlain.field {v : Value} (plain : v.IsPlain) : v.field = FlatCsv.written v := by
  cases v with
  | null => rfl
  | text s =>
    by_cases h : s = ""
    · subst h
      rfl
    · have filled : (Value.text s).isEmpty = false := by simp [Value.isEmpty, h]
      rw [Value.field, filled]
      · rfl
      all_goals nofun
  | int n =>
    by_cases h : n = 0
    · subst h
      rfl
    · have filled : (Value.int n).isEmpty = false := by
        simp [Value.isEmpty, Value.worth?, Value.Exact.isZero, h]
      rw [Value.field, filled]
      · rfl
      all_goals nofun
  | _ => exact absurd plain id

theorem Value.IsPlain.cellOf {v : Value} (plain : v.IsPlain) : CsvDocument.cellOf v = v := by
  cases v with
  | map entries => exact absurd plain id
  | _ => rfl

theorem Value.IsPlain.scalar {v : Value} (plain : v.IsPlain) : v.IsScalar := by
  cases v with
  | list items | tuple items | map entries => exact absurd plain id
  | _ => trivial

/-! ### Records with the same keys -/

namespace Record

/-- Records that all have the same keys, at least one, in any order, and plain values. -/
structure Uniform (records : List Record) : Prop where
  some : records ≠ []
  named : ∀ record ∈ records, record ≠ []
  distinct : ∀ record ∈ records, record.keys.Nodup
  same : ∀ record ∈ records, ∀ other ∈ records, record.keys.Perm other.keys
  plain : ∀ record ∈ records, ∀ entry ∈ record, entry.2.IsPlain

theorem keysSeen_of_same {first : Record} {rest : List Record} (distinct : first.keys.Nodup)
    (same : ∀ record ∈ rest, record.keys.Perm first.keys) :
    keysSeen (first :: rest) = first.keys := by
  have seen : ∀ name ∈ rest.flatMap Fields.keys, name ∈ first.keys := by
    intro name hname
    obtain ⟨record, hrecord, hkey⟩ := List.mem_flatMap.mp hname
    exact (same record hrecord).mem_iff.mp hkey
  rw [keysSeen, List.flatMap_cons, Fields.eraseDups_append_of_subset seen,
    Fields.eraseDups_of_nodup distinct]

end Record

/-! ### The rows of plain records -/

namespace CsvDocument

open Record (valuesUnder)

theorem expand_of_single {headers cells : List Value} (length : cells.length = headers.length)
    (single : ∀ cell ∈ cells, cell.several? = none) :
    CsvEntry.expand headers cells = .ok [cells] := by
  have height : CsvEntry.height cells = 1 := by
    refine Nat.le_antisymm (CsvEntry.height_le_iff.mpr ⟨Nat.le_refl 1, fun cell hcell => ?_⟩)
      CsvEntry.one_le_height
    simp [CsvEntry.several, single cell hcell]
  have columns : cells.map (CsvEntry.columnOf 1) = cells.map fun cell => [cell] := by
    refine List.map_congr_left fun cell hcell => ?_
    simp [CsvEntry.columnOf, CsvEntry.padded, single cell hcell]
  rw [CsvEntry.expand_eq length, CsvEntry.rowsOfCells, height, columns]
  simp [CsvEntry.rowsOf, Function.comp_def]

theorem cells_entryOf {names : List String} {record : Record}
    (plain : ∀ entry ∈ record, entry.2.IsPlain) :
    (entryOf names record).cells = valuesUnder names record := by
  have values := Record.forall_valuesUnder (P := Value.IsPlain) trivial plain names
  simp only [entryOf, fieldsUnder, List.map_map, valuesUnder]
  refine List.map_congr_left fun name hname => ?_
  exact (values _ (List.mem_map_of_mem hname)).cellOf

/-- The entry of a plain record takes one row. -/
theorem outputRows_entryOf {names : List String} {record : Record}
    (plain : ∀ entry ∈ record, entry.2.IsPlain) :
    (entryOf names record).outputRows.outcome = .ok [valuesUnder names record] := by
  have single : ∀ cell ∈ (entryOf names record).cells, cell.several? = none := by
    rw [cells_entryOf plain]
    intro cell hcell
    exact (Record.forall_valuesUnder trivial plain names cell hcell).scalar.several?
  have length : (entryOf names record).cells.length = (entryOf names record).headers.length := by
    simp [entryOf, fieldsUnder]
  rw [CsvEntry.outputRows, Traced.outcome_call, Traced.outcome_lift, expand_of_single length single,
    cells_entryOf plain]

theorem rows_of_plain {names : List String} {options : CsvOptions} {records : List Record}
    (plain : ∀ record ∈ records, ∀ entry ∈ record, entry.2.IsPlain) :
    (rows ⟨names.map .text, options, records.map (entryOf names)⟩).outcome =
      .ok (names.map .text :: records.map (valuesUnder names)) := by
  have blocks : List.Forall₂ (fun (entry : CsvEntry) block => entry.outputRows.outcome = .ok block)
      (records.map (entryOf names)) (records.map fun record => [valuesUnder names record]) := by
    rw [List.forall₂_map_left_iff, List.forall₂_map_right_iff, List.forall₂_same]
    exact fun record hrecord => outputRows_entryOf (plain record hrecord)
  have joined : (records.map fun record => [valuesUnder names record]).flatten =
      records.map (valuesUnder names) := by
    rw [← List.flatMap_def, ← List.map_eq_flatMap]
  simp [rows, entryRows_of_forall₂ blocks, joined, Except.bind]

end CsvDocument

/-! ### The lines of plain records -/

namespace FlatCsv

open Record (valuesUnder)

theorem qualify_of_absent {qualifier text : String}
    (absent : qualifier ≠ "" → ¬ qualifier.toList <:+: text.toList) :
    qualify qualifier text = qualifier ++ text ++ qualifier := by
  rw [qualify, Text.without_of_absent absent]

/-- Lines that all end with a line break. -/
theorem join_lines {lines : List String} (some : lines ≠ []) :
    String.join (lines.map (· ++ "\n")) = "\n".intercalate lines ++ "\n" := by
  induction lines with
  | nil => exact absurd rfl some
  | cons line lines ih =>
    cases lines with
    | nil => simp
    | cons next lines =>
      have rest := ih (by simp)
      rw [List.map_cons, String.join_cons, rest, String.intercalate_cons_cons]
      simp [String.append_assoc]

end FlatCsv

/-! ### Options -/

theorem readQualifier_text (path : List Value) (qualifier : String) :
    readQualifier path (.text qualifier) = .ok (.value (.text qualifier)) := by
  unfold readQualifier
  by_cases h : qualifier = ""
  · subst h
    rfl
  · have filled : (Value.text qualifier).isEmpty = false := by simp [Value.isEmpty, h]
    rw [filled]
    rfl

/-- A qualifier is taken as it is, and the delimiter stays a comma. -/
theorem CsvOptions.ofValue_qualifier (qualifier : String) :
    ofValue (.map [(.text "qualifier", .text qualifier)]) = .ok ⟨qualifier, ","⟩ := by
  have lower : Text.lower "qualifier" = "qualifier" := by decide +kernel
  have given : named [(.text "qualifier", .text qualifier)] =
      .ok [("qualifier", .text qualifier)] := by
    rw [named, lower]
    rfl
  have whole : Fields.ofEntries [("qualifier", Value.text qualifier)] =
      [("qualifier", .text qualifier)] := rfl
  have built : csvModel.build [("qualifier", .text qualifier)] =
      .ok [("qualifier", .value (.text qualifier)), ("delimiter", .value (.text ","))] := by
    simp [SettingModel.build, SettingModel.problems, csvModel, SettingModel.readField, Fields.get?,
      readQualifier_text, SettingModel.problemsOf]
  rw [ofValue, if_neg (by simp [Value.isEmpty])]
  simp only [given, ok_bind, whole, built]
  rfl

/-! ### Agreement -/

namespace FlatCsv

open Record (valuesUnder)

/-- The line of a record is that of the fields of its row. -/
theorem line_of_record {record : Record} {qualifier : String}
    (plain : ∀ entry ∈ record, entry.2.IsPlain)
    (absent : ∀ entry ∈ record,
      qualifier ≠ "" → ¬ qualifier.toList <:+: (written entry.2).toList) (names : List String) :
    ",".intercalate (((valuesUnder names record).map written).map (qualify qualifier)) =
      CsvDocument.line ⟨qualifier, ","⟩ ((valuesUnder names record).map Value.field) := by
  rw [CsvDocument.line, List.map_map, List.map_map]
  refine congrArg (String.intercalate ",") (List.map_congr_left fun v hv => ?_)
  have value := Record.forall_valuesUnder trivial plain names v hv
  have clear : qualifier ≠ "" → ¬ qualifier.toList <:+: (written v).toList := by
    obtain ⟨name, -, rfl⟩ := List.mem_map.mp hv
    cases found : record.get? name with
    | none =>
      intro filled inside
      have none : qualifier.toList = [] := List.infix_nil.mp inside
      exact filled (String.toList_inj.mp none)
    | some w => exact absent _ (Fields.mem_of_get? found)
  rw [Function.comp_apply, Function.comp_apply, qualify_of_absent clear, value.field]

theorem fields_of_texts (names : List String) : (names.map Value.text).map Value.field = names := by
  rw [List.map_map]
  refine (List.map_congr_left fun name _ => ?_).trans (List.map_id names)
  have plain : (Value.text name).IsPlain := trivial
  exact plain.field

theorem rendered_rows (names : List String) (records : List Record) :
    CsvDocument.rendered (names.map .text :: records.map (valuesUnder names)) =
      names :: records.map fun record => (valuesUnder names record).map Value.field := by
  rw [CsvDocument.rendered, List.map_cons, fields_of_texts, List.map_map]
  rfl

/-- The flat text of plain records, line by line. -/
theorem generate_of_plain {first : Record} {rest : List Record} {qualifier : String}
    (named : first.keys ≠ []) (plain : ∀ record ∈ first :: rest, ∀ entry ∈ record, entry.2.IsPlain)
    (size : ∀ record ∈ first :: rest, record.length = first.keys.length)
    (absent : ∀ record ∈ first :: rest, ∀ entry ∈ record,
      qualifier ≠ "" → ¬ qualifier.toList <:+: (written entry.2).toList) :
    generate ((first :: rest).map .ofFields) none qualifier =
      .ok (CsvDocument.encode ⟨qualifier, ","⟩ (first.keys :: (first :: rest).map fun record =>
        (valuesUnder first.keys record).map Value.field) ++ "\n") := by
  have scalar : ∀ record ∈ first :: rest, ∀ entry ∈ record, entry.2.IsScalar :=
    fun record mem entry hentry => (plain record mem entry hentry).scalar
  refine (generate_scalar_ok scalar).mpr ⟨size, ?_⟩
  have same : (first :: rest).map (fun record => ",".intercalate
        (((valuesUnder first.keys record).map written).map (qualify qualifier))) =
      (first :: rest).map fun record => CsvDocument.line ⟨qualifier, ","⟩
        ((valuesUnder first.keys record).map Value.field) :=
    List.map_congr_left fun record mem =>
      line_of_record (plain record mem) (absent record mem) first.keys
  rw [textOf, List.map_map, Function.comp_def, same, header_eq_line named, join_lines (by simp)]
  simp [CsvDocument.encode, Function.comp_def]

/-- Of records with the same keys and plain values, in which the qualifier does not occur, the flat
text is the text of their document and one more line break. -/
theorem generate_eq_toText {records : List Record} (uniform : Record.Uniform records)
    {qualifier : String}
    (absent : ∀ record ∈ records, ∀ entry ∈ record,
      qualifier ≠ "" → ¬ qualifier.toList <:+: (written entry.2).toList) :
    ∃ doc text,
      CsvDocument.fromRecords (records.map .ofFields)
        (.map [(.text "qualifier", .text qualifier)]) = .ok doc ∧
      doc.toText.outcome = .ok text ∧
      generate (records.map .ofFields) none qualifier = .ok (text ++ "\n") := by
  cases records with
  | nil => exact absurd rfl uniform.some
  | cons first rest =>
    have same : ∀ record ∈ first :: rest, record.keys.Perm first.keys :=
      fun record mem => uniform.same record mem first (by simp)
    have named : first.keys ≠ [] := by
      intro none
      exact uniform.named first (by simp) (List.map_eq_nil_iff.mp none)
    have size : ∀ record ∈ first :: rest, record.length = first.keys.length := by
      intro record mem
      rw [← (same record mem).length_eq]
      simp [Fields.keys]
    have seen : Record.keysSeen (first :: rest) = first.keys :=
      Record.keysSeen_of_same (uniform.distinct first (by simp)) fun record mem =>
        same record (by simp [mem])
    have built := CsvDocument.fromRecords_records (first :: rest)
      (CsvOptions.ofValue_qualifier qualifier)
    rw [seen] at built
    refine ⟨_, _, built, CsvDocument.outcome_toText (CsvDocument.rows_of_plain uniform.plain), ?_⟩
    rw [generate_of_plain named uniform.plain size absent, rendered_rows]

/-- Records with their keys in different order, and values that count as nothing. -/
def shuffledRecords : List Record :=
  [[("a", .int 0), ("b'", .text "x,\n")], [("b'", .null), ("a", .text "")]]

/-- The qualifier is in a header, and in no value. -/
theorem generate_eq_toText_shuffled :
    Record.Uniform shuffledRecords ∧
      (∀ record ∈ shuffledRecords, ∀ entry ∈ record,
        "'" ≠ "" → ¬ "'".toList <:+: (written entry.2).toList) ∧
      ∃ doc text,
        CsvDocument.fromRecords (shuffledRecords.map .ofFields)
          (.map [(.text "qualifier", .text "'")]) = .ok doc ∧
        doc.toText.outcome = .ok text ∧
        generate (shuffledRecords.map .ofFields) none "'" = .ok (text ++ "\n") := by
  have uniform : Record.Uniform shuffledRecords :=
    ⟨List.cons_ne_nil _ _, by simp [shuffledRecords], by decide, by decide, by decide⟩
  have absent : ∀ record ∈ shuffledRecords, ∀ entry ∈ record,
      "'" ≠ "" → ¬ "'".toList <:+: (written entry.2).toList := by
    decide
  exact ⟨uniform, absent, generate_eq_toText uniform absent⟩

end FlatCsv

end RaggedTables
