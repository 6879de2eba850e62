import Mathlib.Data.List.Nodup
import Mathlib.Data.List.Perm.Subperm
import RaggedTables.Proofs.Csv.Accumulation
import RaggedTables.Proofs.Csv.Adding
import RaggedTables.Proofs.Fields
import RaggedTables.Record.Assembly

/-! Objects as entries of a document. An object is counted and then looked at field by field; that
is enough to fill every cell exactly once. An object is taken when its keys are the headers, each
header stands once and no field holds a mapping, and its entry has under every header the value of
that field, in whatever order the fields stand. -/

namespace RaggedTables

/-- A field has its place under the given names. -/
structure FitsUnder (names : List String) (field : String × Value) : Prop where
  known : field.1 ∈ names
  plain : ∀ entries, field.2 ≠ .map entries

/-- A field has no place under the given names, for want of a name or as it holds a mapping. -/
inductive UnfitUnder (names : List String) : String × Value → Fault → Prop
  | unknown {name v} (absent : name ∉ names) :
      UnfitUnder names (name, v) (.report (.unknownField (.text name) (.list (names.map .text))))
  | mapping {name entries} (known : name ∈ names) :
      UnfitUnder names (name, .map entries) (.kind .mappingInCell)

theorem fits_or_unfit (names : List String) (field : String × Value) :
    FitsUnder names field ∨ ∃ fault, UnfitUnder names field fault := by
  obtain ⟨name, v⟩ := field
  by_cases known : name ∈ names
  · cases v with
    | map entries => exact .inr ⟨_, .mapping known⟩
    | _ => exact .inl ⟨known, nofun⟩
  · exact .inr ⟨_, .unknown known⟩

theorem UnfitUnder.not_fits {names : List String} {field : String × Value} {fault : Fault}
    (h : UnfitUnder names field fault) : ¬ FitsUnder names field := by
  rintro ⟨known, plain⟩
  cases h with
  | unknown absent => exact absent known
  | mapping => exact plain _ rfl

theorem UnfitUnder.unique {names : List String} {field : String × Value} {fault other : Fault}
    (h : UnfitUnder names field fault) (h' : UnfitUnder names field other) : other = fault := by
  cases h with
  | unknown absent =>
    cases h' with
    | unknown => rfl
    | mapping known => exact absurd known absent
  | mapping known =>
    cases h' with
    | unknown absent => exact absurd known absent
    | mapping => rfl

/-- The first field without a place under the given names. -/
def FirstUnfit (names : List String) (fields : Record) (fault : Fault) : Prop :=
  ∃ before field after, fields = before ++ field :: after ∧
    (∀ fitting ∈ before, FitsUnder names fitting) ∧ UnfitUnder names field fault

theorem all_fit_or_firstUnfit (names : List String) (fields : Record) :
    (∀ field ∈ fields, FitsUnder names field) ∨ ∃ fault, FirstUnfit names fields fault := by
  induction fields with
  | nil => exact .inl nofun
  | cons field fields ih =>
    rcases fits_or_unfit names field with fits | ⟨fault, unfit⟩
    · rcases ih with rest | ⟨fault, before, bad, after, rfl, fitting, unfit⟩
      · exact .inl (List.forall_mem_cons.mpr ⟨fits, rest⟩)
      · exact .inr ⟨fault, field :: before, bad, after, rfl,
          List.forall_mem_cons.mpr ⟨fits, fitting⟩, unfit⟩
    · exact .inr ⟨fault, [], field, fields, rfl, nofun, unfit⟩

namespace CsvEntry

section Fill

open CsvDocument (fill)

variable {names : List String}

theorem exists_indexOf {entry : CsvEntry} (headers : entry.headers = names.map .text)
    {name : String}
    (known : name ∈ names) : ∃ i, entry.indexOf (.text name) = .ok i := by
  simp only [indexOf_iff, toOption_indexOf, headers, ← Option.isSome_iff_exists]
  simpa [List.findIdx?_isSome] using known

/-- The header of a text is the first that is the same text, so the one there is if names do not
repeat. -/
theorem indexOf_getElem {entry : CsvEntry} (headers : entry.headers = names.map .text)
    (distinct : names.Nodup) {i : Nat} (h : i < names.length) :
    entry.indexOf (.text names[i]) = .ok i := by
  obtain ⟨j, hj⟩ := exists_indexOf headers (List.getElem_mem h)
  have place := header_of_indexOf hj
  rw [headers, List.getElem?_map, Option.map_eq_some_iff] at place
  obtain ⟨name, hname, htext⟩ := place
  obtain rfl := Value.text.inj htext
  obtain ⟨hjlt, heq⟩ := List.getElem?_eq_some_iff.mp hname
  obtain rfl := (List.Nodup.getElem_inj_iff distinct).mp heq
  exact hj

theorem any_texts (names : List String) (name : String) :
    ((names.map Value.text).any fun h => h == .text name) = decide (name ∈ names) := by
  rw [Bool.eq_iff_iff, decide_eq_true_iff, List.any_eq_true]
  simp

/-- A field that fits is added to the entry, and the rest is filled in after it. -/
theorem fill_of_fits {entry : CsvEntry} (headers : entry.headers = names.map .text)
    {field : String × Value} (fits : FitsUnder names field) :
    ∃ next, next.headers = names.map .text ∧ entry.add (.text field.1) field.2 = .ok next ∧
      ∀ rest, fill entry ((.text field.1, field.2) :: rest) = fill next rest := by
  obtain ⟨i, hi⟩ := exists_indexOf headers fits.known
  let next : CsvEntry :=
    { entry with cells := entry.cells.modify i fun cell => extended cell field.2 }
  have added : entry.add (.text field.1) field.2 = .ok next := add_of_plain hi fits.plain
  refine ⟨next, headers, added, fun rest => ?_⟩
  rw [fill, headers, any_texts, if_pos (decide_eq_true fits.known), added, ok_bind]

theorem fill_of_unfit {entry : CsvEntry} (headers : entry.headers = names.map .text)
    {field : String × Value} {fault : Fault} (unfit : UnfitUnder names field fault)
    (rest : List (Value × Value)) :
    fill entry ((.text field.1, field.2) :: rest) = .error fault := by
  cases unfit with
  | unknown absent => rw [fill, headers, any_texts, if_neg (by simp [absent])]; rfl
  | mapping known => rw [fill, headers, any_texts, if_pos (decide_eq_true known)]; rfl

/-- Filling depends on the headers alone, and a field that fits leaves them as they are. -/
theorem fill_error {entry : CsvEntry} (headers : entry.headers = names.map .text) {fields : Record}
    {fault : Fault} :
    fill entry (fields.map fun field => (.text field.1, field.2)) = .error fault ↔
      FirstUnfit names fields fault := by
  induction fields generalizing entry with
  | nil => exact ⟨nofun, fun ⟨before, _, _, h, _⟩ => by cases before <;> cases h⟩
  | cons field fields ih =>
    rw [List.map_cons]
    rcases fits_or_unfit names field with fits | ⟨own, unfit⟩
    · obtain ⟨next, headers', -, hnext⟩ := fill_of_fits headers fits
      rw [hnext, ih headers']
      constructor
      · rintro ⟨before, bad, after, rfl, fitting, unfit⟩
        exact ⟨field :: before, bad, after, rfl, List.forall_mem_cons.mpr ⟨fits, fitting⟩, unfit⟩
      · rintro ⟨_ | ⟨_, before⟩, bad, after, split, fitting, unfit⟩
        · obtain ⟨rfl, -⟩ := List.cons.inj split
          exact absurd fits unfit.not_fits
        · obtain ⟨-, rfl⟩ := List.cons.inj split
          exact ⟨before, bad, after, rfl, (List.forall_mem_cons.mp fitting).2, unfit⟩
    · rw [fill_of_unfit headers unfit]
      constructor
      · rintro ⟨⟩
        exact ⟨[], field, fields, rfl, nofun, unfit⟩
      · rintro ⟨_ | ⟨_, before⟩, bad, after, split, fitting, unfit'⟩
        · obtain ⟨rfl, -⟩ := List.cons.inj split
          rw [unfit'.unique unfit]
        · obtain ⟨rfl, -⟩ := List.cons.inj split
          exact absurd (List.forall_mem_cons.mp fitting).1 unfit.not_fits

/-- Fields that fit are filled in like values that are added. -/
theorem fill_eq_addAll {entry : CsvEntry} (headers : entry.headers = names.map .text)
    {fields : Record} (fits : ∀ field ∈ fields, FitsUnder names field) :
    fill entry (fields.map fun field => (.text field.1, field.2)) =
      entry.addAll (fields.map fun field => (.text field.1, field.2)) := by
  induction fields generalizing entry with
  | nil => rfl
  | cons field fields ih =>
    obtain ⟨first, rest⟩ := List.forall_mem_cons.mp fits
    obtain ⟨next, headers', added, filled⟩ := fill_of_fits headers first
    rw [List.map_cons, filled, addAll, added, ok_bind]
    exact ih headers' rest

end Fill

/-! ### The entry of an object -/

section Object

variable {names : List String} {fields : Record}

theorem ofObject_ofFields (names : List String) (fields : Record) :
    ofObject (names.map .text) (.ofFields fields) =
      if fields.length ≠ names.length then
        .error (.report (.cardinality names.length fields.length "Object"))
      else CsvDocument.fill ⟨names.map .text, names.map fun _ => .null⟩
        (fields.map fun field => (.text field.1, field.2)) := by
  simp [ofObject, Value.ofFields, ofValue, Function.comp_def]

theorem ofObject_error {fault : Fault} :
    ofObject (names.map .text) (.ofFields fields) = .error fault ↔
      fields.length ≠ names.length ∧
          fault = .report (.cardinality names.length fields.length "Object") ∨
        fields.length = names.length ∧ FirstUnfit names fields fault := by
  rw [ofObject_ofFields]
  by_cases count : fields.length = names.length
  · rw [if_neg (not_not.mpr count), fill_error rfl]
    simp [count]
  · rw [if_pos count]
    simp [count, eq_comm]

/-- As many distinct keys as there are names, all of them names, are the names in some order. -/
theorem keys_perm (distinct : fields.keys.Nodup) (count : fields.length = names.length)
    (known : ∀ key ∈ fields.keys, key ∈ names) : fields.keys.Perm names :=
  (distinct.subperm known).perm_of_length_le (by simp [Fields.keys, count])

/-- In the place of a name one value is added, that of the field with that key. -/
theorem valuesAt_fields {entry : CsvEntry} (headers : entry.headers = names.map .text)
    (distinct : names.Nodup) (distinct' : fields.keys.Nodup) {i : Nat} (hi : i < names.length) :
    entry.valuesAt i (fields.map fun field => (.text field.1, field.2)) =
      (fields.get? names[i]).toList := by
  rw [valuesAt_text (indexOf_getElem headers distinct hi)]
  simpa [List.filter_map, Function.comp_def] using Fields.values_filter distinct' names[i]

/-- The entry of an object whose keys are the names has under each name the value of that field. -/
theorem ofObject_ok (distinct : fields.keys.Nodup) (keys : fields.keys.Perm names)
    (plain : ∀ field ∈ fields, ∀ entries, field.2 ≠ .map entries) :
    ∃ entry, ofObject (names.map .text) (.ofFields fields) = .ok entry ∧
      entry.headers = names.map .text ∧ entry.cells.map some = names.map fields.get? := by
  let start : CsvEntry := ⟨names.map .text, names.map fun _ => .null⟩
  have fits : ∀ field ∈ fields, FitsUnder names field := fun field hfield =>
    ⟨keys.subset (List.mem_map_of_mem hfield), plain field hfield⟩
  have admits :
      ∀ call ∈ fields.map fun field => (Value.text field.1, field.2), start.Admits call := by
    intro call hcall
    obtain ⟨field, hfield, rfl⟩ := List.mem_map.mp hcall
    exact ⟨exists_indexOf rfl (fits field hfield).known, plain field hfield⟩
  obtain ⟨entry, added, headers, cells⟩ := addAll_spec admits
  have count : fields.length = names.length := by simpa [Fields.keys] using keys.length_eq
  refine ⟨entry, ?_, headers, List.ext_getElem? fun i => ?_⟩
  · rw [ofObject_ofFields, if_neg (not_not.mpr count), fill_eq_addAll rfl fits]
    exact added
  · rw [List.getElem?_map, List.getElem?_map, cells]
    by_cases hi : i < names.length
    · obtain ⟨v, hv⟩ : ∃ v, fields.get? names[i] = some v :=
        Option.ne_none_iff_exists'.mp fun none =>
          Fields.get?_eq_none_iff.mp none (keys.symm.subset (List.getElem_mem hi))
      have cell : start.cells[i]? = some .null := by simp [start, hi]
      rw [cell, valuesAt_fields rfl (keys.nodup_iff.mp distinct) distinct hi, hv]
      have empty : Value.null.isEmpty = true := rfl
      simp [hi, hv, extended_of_empty empty]
    · have none : start.cells[i]? = none := by simp [start, hi]
      simp [none, hi]

/-- Only an object whose keys are the names, and that holds no mapping, has an entry. -/
theorem fits_of_ofObject (distinct : fields.keys.Nodup) {entry : CsvEntry}
    (h : ofObject (names.map .text) (.ofFields fields) = .ok entry) :
    fields.keys.Perm names ∧ ∀ field ∈ fields, ∀ entries, field.2 ≠ .map entries := by
  have sound (fault : Fault) : ofObject (names.map .text) (.ofFields fields) ≠ .error fault := by
    simp [h]
  have count : fields.length = names.length := by
    by_contra count
    exact sound _ (ofObject_error.mpr (.inl ⟨count, rfl⟩))
  rcases all_fit_or_firstUnfit names fields with fits | ⟨fault, unfit⟩
  · refine ⟨keys_perm distinct count fun key hkey => ?_,
      fun field hfield => (fits field hfield).plain⟩
    obtain ⟨field, hfield, rfl⟩ := List.mem_map.mp hkey
    exact (fits field hfield).known
  · exact absurd (ofObject_error.mpr (.inr ⟨count, unfit⟩)) (sound fault)

/-- The order of the fields of an object plays no part in its entry. -/
theorem ofObject_perm (distinct : fields.keys.Nodup) {others : Record} (perm : others.Perm fields)
    {entry : CsvEntry} (h : ofObject (names.map .text) (.ofFields fields) = .ok entry) :
    ofObject (names.map .text) (.ofFields others) = .ok entry := by
  obtain ⟨keys, plain⟩ := fits_of_ofObject distinct h
  obtain ⟨own, hown, headers, cells⟩ := ofObject_ok distinct keys plain
  obtain rfl := Except.ok.inj (h.symm.trans hown)
  have keys' : (Fields.keys others).Perm fields.keys := perm.map Prod.fst
  obtain ⟨other, hother, headers', cells'⟩ := ofObject_ok (keys'.nodup_iff.mpr distinct)
    (keys'.trans keys) fun field hfield => plain field (perm.subset hfield)
  rw [funext (Fields.get?_perm distinct perm), ← cells] at cells'
  have same : other.cells = entry.cells :=
    List.map_injective_iff.mpr (fun _ _ => Option.some.inj) cells'
  obtain rfl : other = entry := by
    cases other
    cases entry
    simp_all
  exact hother

end Object

end CsvEntry

namespace CsvDocument

/-- A document takes an object exactly if the headers are distinct, the keys are the headers and no
field holds a mapping. The entry has under each header the value of that field; it is the entry that
a line of these cells adds, and the order of the fields plays no part. An object is refused for its
number of fields or else as the first field is that has no place under the headers. -/
theorem addObject_exact (doc : CsvDocument) {names : List String}
    (headers : doc.headers = names.map .text) {fields : Record} (distinct : fields.keys.Nodup) :
    ((∃ added, doc.addObject (.ofFields fields) = .ok added) ↔
      names.Nodup ∧ (∀ key, key ∈ fields.keys ↔ key ∈ names) ∧
        ∀ field ∈ fields, ∀ entries, field.2 ≠ .map entries) ∧
    (∀ next entry, doc.addObject (.ofFields fields) = .ok (next, entry) →
      next = doc.adding entry ∧ entry.headers = doc.headers ∧
        entry.cells.map some = names.map fields.get? ∧
        doc.addLine (.list entry.cells) = .ok (next, entry) ∧
        ∀ others : Record, others.Perm fields →
          doc.addObject (.ofFields others) = .ok (next, entry)) ∧
    ∀ fault, doc.addObject (.ofFields fields) = .error fault ↔
      fields.length ≠ names.length ∧
          fault = .report (.cardinality names.length fields.length "Object") ∨
        fields.length = names.length ∧ FirstUnfit names fields fault := by
  refine ⟨⟨?_, ?_⟩, ?_, fun fault => ?_⟩
  · rintro ⟨⟨next, entry⟩, h⟩
    rw [addObject_ok, headers] at h
    obtain ⟨keys, plain⟩ := CsvEntry.fits_of_ofObject distinct h.1
    exact ⟨keys.nodup_iff.mp distinct, fun key => keys.mem_iff, plain⟩
  · rintro ⟨distinct', same, plain⟩
    obtain ⟨entry, hentry, -⟩ :=
      CsvEntry.ofObject_ok distinct ((List.perm_ext_iff_of_nodup distinct distinct').mpr same) plain
    exact ⟨(doc.adding entry, entry), addObject_ok.mpr ⟨headers ▸ hentry, rfl⟩⟩
  · intro next entry h
    rw [addObject_ok, headers] at h
    obtain ⟨hentry, rfl⟩ := h
    obtain ⟨keys, plain⟩ := CsvEntry.fits_of_ofObject distinct hentry
    obtain ⟨own, hown, headers', cells⟩ := CsvEntry.ofObject_ok distinct keys plain
    obtain rfl := Except.ok.inj (hentry.symm.trans hown)
    refine ⟨rfl, headers'.trans headers.symm, cells, ?_, fun others perm => ?_⟩
    · have count : entry.cells.length = doc.headers.length := by
        simpa [headers] using congrArg List.length cells
      rw [addLine_eq, CsvEntry.ofValue, if_pos count, headers, ← headers']
      rfl
    · exact addObject_ok.mpr ⟨headers ▸ CsvEntry.ofObject_perm distinct perm hentry, rfl⟩
  · rw [addObject_error, headers, CsvEntry.ofObject_error]

/-- Fields that do not stand in the order of the headers, one of them with a zero. -/
theorem addObject_exact_shuffled :
    let doc : CsvDocument := ⟨[.text "a", .text "b"], {}, []⟩
    let fields : Record := [("b", .int 0), ("a", .list [.text "x"])]
    doc.headers = ["a", "b"].map .text ∧ fields.keys.Nodup ∧
      ∃ next entry, doc.addObject (.ofFields fields) = .ok (next, entry) ∧
        entry.cells = [.list [.text "x"], .int 0] ∧
        doc.addLine (.list entry.cells) = .ok (next, entry) ∧
        doc.addObject (.ofFields fields.reverse) = .ok (next, entry) := by
  intro doc fields
  have distinct : fields.keys.Nodup := by decide
  have headers : doc.headers = ["a", "b"].map .text := rfl
  obtain ⟨accepted, result, -⟩ := addObject_exact doc headers distinct
  have same : ∀ key, key ∈ fields.keys ↔ key ∈ ["a", "b"] := by
    simp [fields, Fields.keys, or_comm]
  obtain ⟨⟨next, entry⟩, h⟩ := accepted.mpr ⟨by decide, same, by simp [fields]⟩
  obtain ⟨-, -, cells, line, perm⟩ := result next entry h
  have values : entry.cells.map some = [Value.list [.text "x"], .int 0].map some := cells
  exact ⟨headers, distinct, next, entry, h,
    List.map_injective_iff.mpr (fun _ _ => Option.some.inj) values, line,
    perm _ (List.reverse_perm fields)⟩

end CsvDocument

end RaggedTables
