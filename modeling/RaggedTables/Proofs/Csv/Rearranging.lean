import RaggedTables.Proofs.Csv.Acceptance
import RaggedTables.Proofs.Csv.Accumulation
import RaggedTables.Proofs.Csv.RaggedRows
import RaggedTables.Record.Reshape

/-! Records under chosen names. Whatever keys records have, after rearranging they all have the
distinct names in the order in which they are asked for, so flat text finds every record as wide as
the first, and a document has these names as headers and an entry for each record. Rearranging once
more looks only at values that the first time kept. -/

namespace RaggedTables

namespace FlatCsv

variable {render : Option Render} {qualifier : String} {fault : Fault}

theorem fieldsOf_error {record : Record} {names : List String}
    (h : fieldsOf render (.ofFields record) names = .error fault) :
    ∃ name ∈ names, rendered render name ((record.get? name).getD .null) = .error fault := by
  have found (name : String) :
      Fields.get? (record.map fun entry => (Value.text entry.1, entry.2)) (.text name) =
        record.get? name := Fields.get?_map Value.text_beq_text record name
  induction names with
  | nil => cases h
  | cons name names ih =>
    rcases bind_eq_error.mp h with own | ⟨v, -, h⟩
    · exact ⟨name, by simp, found name ▸ own⟩
    · rcases bind_eq_error.mp h with later | ⟨row, -, h⟩
      · obtain ⟨other, mem, fails⟩ := ih later
        exact ⟨other, by simp [mem], fails⟩
      · cases h

/-- Records that are all of one size are refused for nothing but a value that cannot be rendered. -/
theorem linesOf_error_of_even {names : List String} {records : List Record}
    (even : ∀ record ∈ records, record.length = names.length)
    (h : linesOf names render qualifier (records.map .ofFields) = .error fault) :
    ∃ record ∈ records, ∃ name ∈ names,
      rendered render name ((record.get? name).getD .null) = .error fault := by
  induction records with
  | nil => cases h
  | cons record records ih =>
    obtain ⟨own, others⟩ := List.forall_mem_cons.mp even
    have size : sizeOf (.ofFields record) = .ok record.length := by
      simp [sizeOf, Value.items?, Value.ofFields]
    rw [List.map_cons, linesOf_cons, size, ok_bind, if_pos own] at h
    rcases bind_eq_error.mp h with fails | ⟨row, -, h⟩
    · exact ⟨record, by simp, fieldsOf_error fails⟩
    · cases later : linesOf names render qualifier (records.map .ofFields) with
      | ok lines =>
        rw [later] at h
        cases h
      | error other =>
        rw [later] at h
        obtain rfl := Except.error.inj h
        obtain ⟨record', mem, fails⟩ := ih others later
        exact ⟨record', by simp [mem], fails⟩

/-- Only a renderer can report an uneven record where a value is rendered. -/
theorem rendered_cardinality {name what : String} {v : Value} {expected actual : Int}
    (h : rendered render name v = .error (.report (.cardinality expected actual what))) :
    ∃ own, render = some own ∧
      own name v = .error (.report (.cardinality expected actual what)) := by
  cases render with
  | none => cases v <;> cases h
  | some own =>
    cases v with
    | list items | tuple items | map entries => exact ⟨own, rfl, h⟩
    | _ => cases h

end FlatCsv

namespace Reshape

/-! ### One record -/

/-- The value under a name, none if there is no such key. -/
def valueUnder (entries : List (Value × Value)) (name : String) : Value :=
  (Fields.get? entries (.text name)).getD .null

/-- A record under names: the distinct ones in the order in which they are asked for, each with what
stood under it. -/
structure IsChoice (names : List String) (entries : List (Value × Value))
    (record : Record) : Prop where
  keys : record.keys = names.eraseDups
  values : ∀ name ∈ names, record.get? name = some (valueUnder entries name)

/-- The record that has a value under each of the names. -/
def chosen (names : List String) (value : String → Value) : Record :=
  names.eraseDups.map fun name => (name, value name)

theorem keys_chosen (names : List String) (value : String → Value) :
    (chosen names value).keys = names.eraseDups := by
  simp [chosen, Fields.keys, Function.comp_def]

theorem get?_chosen {names : List String} {name : String} (mem : name ∈ names)
    (value : String → Value) : (chosen names value).get? name = some (value name) :=
  Fields.get?_table value (List.mem_eraseDups.mpr mem)

theorem choose_map (entries : List (Value × Value)) (names : List String) :
    choose (.map entries) (names.map .text) =
      .ok (.ofFields (chosen names (valueUnder entries))) := by
  have fields := Fields.ofEntries_map Value.text_beq_text
    (names.map fun name => (name, valueUnder entries name))
  rw [Fields.ofEntries_table, List.map_map] at fields
  cases names with
  | nil => rfl
  | cons name names =>
    have fit : Value.unfitItem? (Value.text name :: names.map .text) = none :=
      CsvDocument.unfitItem?_texts (name :: names)
    simp only [List.map_cons, choose, fit]
    rw [List.map_map]
    exact congrArg (fun fields => Except.ok (Value.map fields)) fields

theorem rearrange_map (records : List (List (Value × Value))) (names : List String) :
    rearrange (records.map .map) (names.map .text) =
      .ok ((records.map fun entries => chosen names (valueUnder entries)).map .ofFields) := by
  rw [rearrange, mapM_ok, List.map_map, List.forall₂_map_left_iff, List.forall₂_map_right_iff,
    List.forall₂_same]
  exact fun entries _ => choose_map entries names

/-! ### Once more -/

/-- Entries without the values of the keys that are asked for but not kept. -/
def withheld (kept asked : List String) (entries : List (Value × Value)) : List (Value × Value) :=
  entries.map fun (key, v) =>
    (key, match key with
      | .text name => if name ∈ asked ∧ name ∉ kept then .null else v
      | _ => v)

theorem valueUnder_withheld {kept asked : List String} {name : String} (mem : name ∈ asked)
    (entries : List (Value × Value)) :
    valueUnder (withheld kept asked entries) name =
      if name ∈ kept then valueUnder entries name else .null := by
  induction entries with
  | nil => simp [valueUnder, withheld, Fields.get?]
  | cons entry entries ih =>
    obtain ⟨key, v⟩ := entry
    by_cases own : (key == .text name) = true
    · obtain rfl := Value.beq_text_iff.mp own
      by_cases known : name ∈ kept <;> simp [valueUnder, withheld, Fields.get?, mem, known]
    · simp only [valueUnder, withheld, List.map_cons, Fields.get?, own] at ih ⊢
      exact ih

theorem valueUnder_chosen (kept : List String) (value : String → Value) (name : String) :
    valueUnder ((chosen kept value).map fun entry => (.text entry.1, entry.2)) name =
      if name ∈ kept then value name else .null := by
  rw [valueUnder, Fields.get?_map Value.text_beq_text]
  by_cases known : name ∈ kept
  · rw [get?_chosen known, if_pos known, Option.getD_some]
  · have absent : Fields.get? (chosen kept value) name = none := by
      rw [Fields.get?_eq_none_iff, keys_chosen, List.mem_eraseDups]
      exact known
    rw [absent, if_neg known, Option.getD_none]

theorem chosen_congr {names : List String} {value other : String → Value}
    (same : ∀ name ∈ names, value name = other name) : chosen names value = chosen names other :=
  List.map_congr_left fun name mem => by rw [same name (List.mem_eraseDups.mp mem)]

theorem rearrange_chosen (records : List (List (Value × Value))) (names more : List String) :
    rearrange ((records.map fun entries => chosen names (valueUnder entries)).map .ofFields)
        (more.map .text) =
      rearrange ((records.map (withheld names more)).map .map) (more.map .text) := by
  have again := rearrange_map (records.map fun entries =>
    (chosen names (valueUnder entries)).map fun entry => (.text entry.1, entry.2)) more
  have values : (records.map fun entries => (chosen names (valueUnder entries)).map
        fun entry => (Value.text entry.1, entry.2)).map (fun entries =>
          chosen more (valueUnder entries)) =
      (records.map (withheld names more)).map fun entries => chosen more (valueUnder entries) := by
    rw [List.map_map, List.map_map]
    refine List.map_congr_left fun entries _ => chosen_congr fun name mem => ?_
    exact (valueUnder_chosen names _ name).trans (valueUnder_withheld mem entries).symm
  rw [values, ← rearrange_map, List.map_map] at again
  rw [List.map_map]
  exact again

/-! ### Uniform records -/

theorem keysSeen_uniform {names : List String} {records : List Record} (some : records ≠ [])
    (same : ∀ record ∈ records, record.keys = names.eraseDups) :
    Record.keysSeen records = names.eraseDups := by
  obtain ⟨first, rest, rfl⟩ := List.exists_cons_of_ne_nil some
  obtain ⟨own, others⟩ := List.forall_mem_cons.mp same
  have subset : ∀ name ∈ rest.flatMap Fields.keys, name ∈ names.eraseDups := by
    intro name mem
    obtain ⟨record, hrecord, hname⟩ := List.mem_flatMap.mp mem
    exact others record hrecord ▸ hname
  rw [Record.keysSeen, List.flatMap_cons, own, Fields.eraseDups_append_of_subset subset,
    Fields.eraseDups_of_nodup (Fields.nodup_eraseDups names)]

theorem generate_uniform {names : List String} {records : List Record} (some : records ≠ [])
    (same : ∀ record ∈ records, record.keys = names.eraseDups) {render : Option FlatCsv.Render}
    {qualifier : String} {fault : Fault}
    (h : FlatCsv.generate (records.map .ofFields) render qualifier = .error fault) :
    ∃ record ∈ records, ∃ name ∈ names,
      FlatCsv.rendered render name ((record.get? name).getD .null) = .error fault := by
  obtain ⟨first, rest, rfl⟩ := List.exists_cons_of_ne_nil some
  have keys := same first List.mem_cons_self
  have even : ∀ record ∈ first :: rest, record.length = first.keys.length := fun record mem => by
    rw [keys, ← same record mem, Fields.keys, List.length_map]
  obtain ⟨record, mem, name, hname, fails⟩ :=
    FlatCsv.linesOf_error_of_even even (FlatCsv.generate_error.mp h)
  exact ⟨record, mem, name, List.mem_eraseDups.mp (keys ▸ hname), fails⟩

/-- Rearranging always succeeds, and every record then has the distinct names in the order in which
they are asked for, with its own values and none where it lacks the key. So flat text of such
records fails only where a value cannot be rendered, and never finds them uneven unless a renderer
says so; and their document has these names as headers and an entry for each record, in order.
Rearranging a second time is rearranging the records once, without the values of the keys that are
asked for now and were not the first time. -/
theorem rearrange_uniform (records : List (List (Value × Value))) (names : List String) :
    ∃ made : List Record,
      rearrange (records.map .map) (names.map .text) = .ok (made.map .ofFields) ∧
      List.Forall₂ (IsChoice names) records made ∧
      (records ≠ [] →
        (∀ render qualifier fault,
          FlatCsv.generate (made.map .ofFields) render qualifier = .error fault →
          ∃ record ∈ made, ∃ name ∈ names,
            FlatCsv.rendered render name ((record.get? name).getD .null) = .error fault) ∧
        (∀ render qualifier expected actual what,
          FlatCsv.generate (made.map .ofFields) render qualifier =
            .error (.report (.cardinality expected actual what)) →
          ∃ own name v, render = some own ∧
            own name v = .error (.report (.cardinality expected actual what))) ∧
        ∀ options csv, CsvOptions.ofValue options = .ok csv →
          ∃ doc, CsvDocument.fromRecords (made.map .ofFields) options = .ok doc ∧
            doc.headers = names.eraseDups.map .text ∧
            List.Forall₂ (fun record entry => ∀ name ∈ names,
              entry.get (.text name) =
                .ok (((record.get? name).map CsvDocument.cellOf).getD .null)) made doc.entries) ∧
      ∀ more : List String,
        rearrange (made.map .ofFields) (more.map .text) =
          rearrange ((records.map (withheld names more)).map .map) (more.map .text) := by
  refine ⟨_, rearrange_map records names, ?_, fun present => ?_, rearrange_chosen records names⟩
  · rw [List.forall₂_map_right_iff, List.forall₂_same]
    exact fun entries _ => ⟨keys_chosen names _, fun name mem => get?_chosen mem _⟩
  have some : (records.map fun entries => chosen names (valueUnder entries)) ≠ [] := by
    simpa using present
  have same : ∀ record ∈ records.map fun entries => chosen names (valueUnder entries),
      record.keys = names.eraseDups := by
    intro record mem
    obtain ⟨entries, -, rfl⟩ := List.mem_map.mp mem
    exact keys_chosen names _
  refine ⟨fun render qualifier fault h => generate_uniform some same h,
    fun render qualifier expected actual what h => ?_, fun options csv valid => ?_⟩
  · obtain ⟨record, -, name, -, fails⟩ := generate_uniform some same h
    obtain ⟨own, given, raised⟩ := FlatCsv.rendered_cardinality fails
    exact ⟨own, name, _, given, raised⟩
  · have keys := keysSeen_uniform some same
    refine ⟨_, CsvDocument.fromRecords_records _ valid, by rw [keys], ?_⟩
    rw [List.forall₂_map_right_iff, List.forall₂_same, keys]
    exact fun record _ name mem => CsvDocument.get_entryOf record (List.mem_eraseDups.mpr mem)

/-- Records with a key that is no text, a list, and nothing at all, under names of which one comes
twice and one is missing everywhere; then under one of these and one that was left out. -/
theorem rearrange_uniform_repeated :
    let records : List (List (Value × Value)) :=
      [[(.int 1, .text "n"), (.text "b", .text "y"), (.text "a", .text "x")],
        [(.text "a", .list [.text "u", .text "v"])], []]
    records ≠ [] ∧ CsvOptions.ofValue .null = .ok {} ∧
      ∃ made : List Record,
        rearrange (records.map .map) (["a", "c", "a"].map .text) = .ok (made.map .ofFields) ∧
        (∀ record ∈ made, record.keys = ["a", "c"]) ∧
        (∃ doc, CsvDocument.fromRecords (made.map .ofFields) .null = .ok doc ∧
          doc.headers = [.text "a", .text "c"] ∧ doc.entries.length = 3) ∧
        rearrange (made.map .ofFields) (["b", "a"].map .text) =
          .ok [.map [(.text "b", .null), (.text "a", .text "x")],
            .map [(.text "b", .null), (.text "a", .list [.text "u", .text "v"])],
            .map [(.text "b", .null), (.text "a", .null)]] := by
  intro records
  have present : records ≠ [] := by simp [records]
  have valid : CsvOptions.ofValue .null = .ok {} := rfl
  obtain ⟨made, done, choices, uniform, again⟩ := rearrange_uniform records ["a", "c", "a"]
  obtain ⟨doc, built, headers, entries⟩ := (uniform present).2.2 .null {} valid
  refine ⟨present, valid, made, done, ?_, ⟨doc, built, headers, ?_⟩, (again ["b", "a"]).trans rfl⟩
  · have keys : List.Forall₂ (fun record _ => record.keys = ["a", "c"] ∧ True) made records :=
      choices.flip.imp fun record entries choice => ⟨choice.keys, trivial⟩
    exact ((List.forall₂_and_left made records).mp keys).1
  · rw [← entries.length_eq, ← choices.length_eq]
    rfl

end Reshape

end RaggedTables
