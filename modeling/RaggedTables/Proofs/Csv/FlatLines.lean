import Mathlib.Data.List.Forall2
import RaggedTables.Csv.Flat
import RaggedTables.Proofs.Csv.Decoding
import RaggedTables.Proofs.Fields
import RaggedTables.Record.Assembly

/-! The lines of flat text. A text is written exactly if the keys of the first record are texts,
every record has as many fields, and every value under such a key can be rendered; then there is a
line for the keys and one for each record. -/

namespace RaggedTables

/-- The values of a record under the given names. -/
def Record.valuesUnder (names : List String) (record : Record) : List Value :=
  names.map fun name => (record.get? name).getD .null

theorem Record.forall_valuesUnder {P : Value → Prop} {record : Record} (null : P .null)
    (all : ∀ field ∈ record, P field.2) (names : List String) :
    ∀ v ∈ valuesUnder names record, P v := by
  intro v hv
  obtain ⟨name, -, rfl⟩ := List.mem_map.mp hv
  cases found : record.get? name with
  | none => exact null
  | some w => exact all _ (Fields.mem_of_get? found)

theorem Value.IsScalar.rendered {v : Value} (scalar : v.IsScalar) (render : Option FlatCsv.Render)
    (header : String) : FlatCsv.rendered render header v = .ok v := by
  cases v with
  | list items | tuple items | map entries => exact absurd scalar id
  | _ => rfl

namespace FlatCsv

section Rows

variable {render : Option Render}

/-- The text of the value that stands under a name; without one it is empty. -/
def IsField (render : Option Render) (entries : List (Value × Value))
    (name field : String) : Prop :=
  ∃ v, rendered render name ((Fields.get? entries (.text name)).getD .null) = .ok v ∧
    field = written v

/-- The fields of a record of the right size. -/
structure IsRow (render : Option Render) (names : List String) (record : Value)
    (row : List String) :
    Prop where
  size : sizeOf record = .ok names.length
  fields : fieldsOf render record names = .ok row

/-- Names and rows as text, a line for the names and one for each row. -/
def textOf (qualifier : String) (names : List String) (rows : List (List String)) : String :=
  String.join (((qualifier ++ (qualifier ++ "," ++ qualifier).intercalate names ++ qualifier) ::
    rows.map fun row => ",".intercalate (row.map (qualify qualifier))).map (· ++ "\n"))

theorem header_eq_line {qualifier : String} {names : List String} (some : names ≠ []) :
    qualifier ++ (qualifier ++ "," ++ qualifier).intercalate names ++ qualifier =
      CsvDocument.line ⟨qualifier, ","⟩ names := by
  rw [← String.toList_inj, CsvDocument.toList_line some]
  simp [CsvDocument.seam, String.toList_intercalate]

/-- The text of rows is made of lines of fields, out of which the qualifier was taken. -/
theorem textOf_eq_lines {names : List String} (named : names ≠ []) (qualifier : String)
    (rows : List (List String)) :
    textOf qualifier names rows =
      String.join ((names :: rows.map fun row => row.map (Text.without qualifier)).map fun row =>
        CsvDocument.line ⟨qualifier, ","⟩ row ++ "\n") := by
  have lines (row : List String) : ",".intercalate (row.map (qualify qualifier)) =
      CsvDocument.line ⟨qualifier, ","⟩ (row.map (Text.without qualifier)) := by
    rw [CsvDocument.line, List.map_map]
    rfl
  simp [textOf, header_eq_line named, lines, Function.comp_def]

theorem texts_ok {i : Nat} {keys : List Value} {names : List String} :
    joinTexts.texts i keys = .ok names ↔ keys = names.map .text := by
  induction keys generalizing i names with
  | nil => cases names <;> simp [joinTexts.texts]
  | cons key keys ih =>
    cases key with
    | text s =>
      rw [joinTexts.texts, bind_eq_ok]
      cases names <;> simp [ih, and_comm]
    | _ => cases names <;> simp [joinTexts.texts]

theorem joinTexts_ok {separator : String} {keys : List Value} {head : String} :
    joinTexts separator keys = .ok head ↔
      ∃ names, keys = names.map .text ∧ head = separator.intercalate names := by
  rw [joinTexts, bind_eq_ok]
  simp only [texts_ok, pure_eq_ok, Except.ok.injEq]
  exact exists_congr fun names => and_congr_right fun _ => eq_comm

theorem textsOf_texts (names : List String) : textsOf (names.map .text) = names := by
  simp [textsOf, List.filterMap_map]

theorem fieldsOf_ok {entries : List (Value × Value)} {names row : List String} :
    fieldsOf render (.map entries) names = .ok row ↔
      List.Forall₂ (IsField render entries) names row := by
  induction names generalizing row with
  | nil => simp [fieldsOf, eq_comm]
  | cons name names ih =>
    simp only [fieldsOf, bind_eq_ok, pure_eq_ok, Except.ok.injEq, ih]
    constructor
    · rintro ⟨v, shown, fields, rest, rfl⟩
      exact .cons ⟨v, shown, rfl⟩ rest
    · intro all
      cases all with
      | cons field rest =>
        obtain ⟨v, shown, rfl⟩ := field
        exact ⟨v, shown, _, rest, rfl⟩

/-- Where there are names, only a mapping has a row: another value has no fields to look up. -/
theorem IsRow.exists_fields {names : List String} (named : names ≠ []) {record : Value}
    {row : List String} (h : IsRow render names record row) :
    ∃ entries, record = .map entries ∧ List.Forall₂ (IsField render entries) names row := by
  obtain ⟨name, names, rfl⟩ := List.exists_cons_of_ne_nil named
  cases record with
  | map entries => exact ⟨entries, rfl, fieldsOf_ok.mp h.fields⟩
  | _ => cases h.fields

/-- Of a record the size is looked at first, then its fields, and then the other records. -/
theorem linesOf_cons (qualifier : String) (names : List String) (record : Value)
    (records : List Value) :
    linesOf names render qualifier (record :: records) =
      sizeOf record >>= fun size =>
        if size = names.length then
          fieldsOf render record names >>= fun row =>
            (linesOf names render qualifier records).map
              (",".intercalate (row.map (qualify qualifier)) :: ·)
        else .error (.report (.cardinality names.length size "Record")) := by
  rw [linesOf]
  refine congrArg _ (funext fun size => ?_)
  by_cases same : size = names.length
  · simp only [same, ne_eq, not_true_eq_false, if_false, if_true]
    refine congrArg _ (funext fun row => ?_)
    cases linesOf names render qualifier records <;> rfl
  · simp only [same, ne_eq, not_false_eq_true, if_true, if_false]
    rfl

theorem linesOf_ok {qualifier : String} {names : List String} {records : List Value}
    {lines : List String} :
    linesOf names render qualifier records = .ok lines ↔
      ∃ rows, List.Forall₂ (IsRow render names) records rows ∧
        lines = rows.map fun row => ",".intercalate (row.map (qualify qualifier)) := by
  induction records generalizing lines with
  | nil => simp [linesOf, eq_comm]
  | cons record records ih =>
    rw [linesOf_cons, bind_eq_ok]
    constructor
    · rintro ⟨size, counted, h⟩
      split at h
      · rename_i same
        obtain ⟨row, fields, h⟩ := bind_eq_ok.mp h
        cases others : linesOf names render qualifier records with
        | error fault =>
          rw [others] at h
          cases h
        | ok rest =>
          rw [others] at h
          obtain rfl := Except.ok.inj h
          obtain ⟨rows, all, rfl⟩ := ih.mp others
          exact ⟨row :: rows, .cons ⟨same ▸ counted, fields⟩ all, rfl⟩
      · cases h
    · rintro ⟨_, _ | ⟨own, others⟩, rfl⟩
      refine ⟨_, own.size, ?_⟩
      rw [if_pos rfl, own.fields, ok_bind, ih.mpr ⟨_, others, rfl⟩]
      rfl

theorem generate_ok {qualifier text : String} {first : List (Value × Value)} {rest : List Value} :
    generate (.map first :: rest) render qualifier = .ok text ↔
      ∃ names rows, first.map Prod.fst = names.map .text ∧
        List.Forall₂ (IsRow render names) (.map first :: rest) rows ∧
        text = textOf qualifier names rows := by
  simp only [generate, bind_eq_ok, joinTexts_ok, linesOf_ok, pure_eq_ok, Except.ok.injEq]
  constructor
  · rintro ⟨_, ⟨names, keys, rfl⟩, _, ⟨rows, all, rfl⟩, rfl⟩
    rw [keys, textsOf_texts] at all
    exact ⟨names, rows, keys, all, rfl⟩
  · rintro ⟨names, rows, keys, all, rfl⟩
    refine ⟨_, ⟨names, keys, rfl⟩, _, ⟨rows, ?_, rfl⟩, rfl⟩
    rw [keys, textsOf_texts]
    exact all

end Rows

/-! ### Records of scalars -/

section Scalars

open Record (valuesUnder)

variable {render : Option Render} {first : Record} {rest : List Record}

theorem isRow_scalar {names : List String} {record : Record} {row : List String}
    (scalar : ∀ field ∈ record, field.2.IsScalar) :
    IsRow render names (.ofFields record) row ↔
      record.length = names.length ∧ row = (valuesUnder names record).map written := by
  have size : sizeOf (.ofFields record) = .ok record.length := by
    simp [sizeOf, Value.items?, Value.ofFields]
  have fields : fieldsOf render (.ofFields record) names =
      .ok ((valuesUnder names record).map written) := by
    refine fieldsOf_ok.mpr ?_
    rw [valuesUnder, List.map_map, List.forall₂_map_right_iff, List.forall₂_same]
    intro name _
    have found : Fields.get? (record.map fun entry => (Value.text entry.1, entry.2)) (.text name) =
        record.get? name := Fields.get?_map Value.text_beq_text record name
    have value : ((record.get? name).getD .null).IsScalar :=
      Record.forall_valuesUnder trivial scalar [name] _
        (List.mem_map_of_mem (List.mem_singleton_self name))
    exact ⟨_, by rw [found, value.rendered], rfl⟩
  constructor
  · rintro ⟨size', fields'⟩
    exact ⟨Except.ok.inj (size.symm.trans size'), Except.ok.inj (fields'.symm.trans fields)⟩
  · rintro ⟨length, rfl⟩
    exact ⟨length ▸ size, fields⟩

theorem forall₂_isRow_scalar {names : List String} {records : List Record}
    {rows : List (List String)}
    (scalar : ∀ record ∈ records, ∀ field ∈ record, field.2.IsScalar) :
    List.Forall₂ (IsRow render names) (records.map .ofFields) rows ↔
      (∀ record ∈ records, record.length = names.length) ∧
        rows = records.map fun record => (valuesUnder names record).map written := by
  induction records generalizing rows with
  | nil => simp
  | cons record records ih =>
    obtain ⟨own, others⟩ := List.forall_mem_cons.mp scalar
    simp only [List.map_cons, List.forall₂_cons_left_iff, isRow_scalar own, ih others,
      List.forall_mem_cons]
    constructor
    · rintro ⟨_, _, ⟨length, rfl⟩, ⟨lengths, rfl⟩, rfl⟩
      exact ⟨⟨length, lengths⟩, rfl⟩
    · rintro ⟨⟨length, lengths⟩, rfl⟩
      exact ⟨_, _, ⟨length, rfl⟩, ⟨lengths, rfl⟩, rfl⟩

theorem keys_ofFields (record : Record) :
    (record.map fun entry => (Value.text entry.1, entry.2)).map Prod.fst =
      record.keys.map .text := by
  simp [Fields.keys, Function.comp_def]

/-- Records of scalars are written exactly if they all have as many fields as the first one. -/
theorem generate_scalar_ok (scalar : ∀ record ∈ first :: rest, ∀ field ∈ record, field.2.IsScalar)
    {qualifier text : String} :
    generate ((first :: rest).map .ofFields) render qualifier = .ok text ↔
      (∀ record ∈ first :: rest, record.length = first.keys.length) ∧
        text = textOf qualifier first.keys
          ((first :: rest).map fun record => (valuesUnder first.keys record).map written) := by
  rw [List.map_cons, Value.ofFields, generate_ok, keys_ofFields, ← Value.ofFields, ← List.map_cons]
  have injective : Function.Injective Value.text := fun _ _ => Value.text.inj
  constructor
  · rintro ⟨names, rows, keys, all, rfl⟩
    obtain rfl := List.map_injective_iff.mpr injective keys
    obtain ⟨lengths, rfl⟩ := (forall₂_isRow_scalar scalar).mp all
    exact ⟨lengths, rfl⟩
  · rintro ⟨lengths, rfl⟩
    exact ⟨_, _, rfl, (forall₂_isRow_scalar scalar).mpr ⟨lengths, rfl⟩, rfl⟩

end Scalars

end FlatCsv

end RaggedTables
