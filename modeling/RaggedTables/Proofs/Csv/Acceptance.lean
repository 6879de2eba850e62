import RaggedTables.Proofs.Csv.FlatLines
import RaggedTables.Proofs.Csv.Objects

/-! Which records are written. A document under the keys of the first record takes the records that
all have these keys. Flat text asks for as many fields as the first record has and then looks the
values up by key; so it is written for more records, and what stands under a key of another kind is
left out of it. -/

namespace RaggedTables.FlatCsv

open Record (valuesUnder)

/-- The first record with another number of fields than `count`. -/
def FirstUneven (count : Nat) (records : List Record) (fault : Fault) : Prop :=
  ∃ before record after, records = before ++ record :: after ∧
    (∀ even ∈ before, even.length = count) ∧ record.length ≠ count ∧
    fault = .report (.cardinality count record.length "Record")

/-- A field of a record is in its row: the value stands in the place of its own key. -/
def Stands (names : List String) (record : Record) (field : String × Value) : Prop :=
  ∃ k : Nat, names[k]? = some field.1 ∧ (valuesUnder names record)[k]? = some field.2

theorem stands_iff {names : List String} {record : Record} (distinct : record.keys.Nodup)
    {field : String × Value} (mem : field ∈ record) :
    Stands names record field ↔ field.1 ∈ names := by
  constructor
  · rintro ⟨k, hk, -⟩
    exact List.mem_of_getElem? hk
  · intro known
    obtain ⟨k, hk⟩ := List.mem_iff_getElem?.mp known
    refine ⟨k, hk, ?_⟩
    simp [valuesUnder, hk, Fields.get?_eq_some_of_mem distinct mem]

theorem firstUneven_cons {count : Nat} {record : Record} {records : List Record} {fault : Fault} :
    FirstUneven count (record :: records) fault ↔
      record.length ≠ count ∧ fault = .report (.cardinality count record.length "Record") ∨
        record.length = count ∧ FirstUneven count records fault := by
  constructor
  · rintro ⟨_ | ⟨even, before⟩, uneven, after, split, others, bad, rfl⟩
    · obtain ⟨rfl, -⟩ := List.cons.inj split
      exact .inl ⟨bad, rfl⟩
    · obtain ⟨rfl, rfl⟩ := List.cons.inj split
      obtain ⟨own, others⟩ := List.forall_mem_cons.mp others
      exact .inr ⟨own, before, uneven, after, rfl, others, bad, rfl⟩
  · rintro (⟨bad, rfl⟩ | ⟨own, before, uneven, after, rfl, others, bad, rfl⟩)
    · exact ⟨[], record, records, rfl, nofun, bad, rfl⟩
    · exact ⟨record :: before, uneven, after, rfl, List.forall_mem_cons.mpr ⟨own, others⟩, bad, rfl⟩

/-- The document path takes the records that all have the given keys. -/
theorem addObjects_ok {doc : CsvDocument} {names : List String}
    (headers : doc.headers = names.map .text)
    {records : List Record} (distinct : ∀ record ∈ records, record.keys.Nodup)
    (scalar : ∀ record ∈ records, ∀ field ∈ record, field.2.IsScalar) :
    (doc.addObjects (.list (records.map .ofFields))).2 = .ok () ↔
      ∀ record ∈ records, record.keys.Perm names := by
  have items : (Value.list (records.map .ofFields)).itemsOf = .ok (records.map .ofFields) := rfl
  rw [CsvDocument.addObjects, items, CsvDocument.addEach_ok, headers, List.forall_mem_map]
  refine forall₂_congr fun record mem => ⟨?_, fun keys => ?_⟩
  · rintro ⟨entry, hentry⟩
    exact (CsvEntry.fits_of_ofObject (distinct record mem) hentry).1
  · obtain ⟨entry, hentry, -⟩ := CsvEntry.ofObject_ok (distinct record mem) keys
      fun field hfield => (scalar record mem field hfield).ne_map
    exact ⟨entry, hentry⟩

section Records

variable {render : Option Render} {first : Record} {rest : List Record} {qualifier : String}

theorem linesOf_error {names : List String} {records : List Record} {fault : Fault}
    (scalar : ∀ record ∈ records, ∀ field ∈ record, field.2.IsScalar) :
    linesOf names render qualifier (records.map .ofFields) = .error fault ↔
      FirstUneven names.length records fault := by
  induction records with
  | nil =>
    constructor
    · nofun
    · rintro ⟨before, record, after, split, -⟩
      simp at split
  | cons record records ih =>
    obtain ⟨own, others⟩ := List.forall_mem_cons.mp scalar
    have size : sizeOf (.ofFields record) = .ok record.length := by
      simp [sizeOf, Value.items?, Value.ofFields]
    rw [List.map_cons, linesOf_cons, size, ok_bind, firstUneven_cons]
    by_cases same : record.length = names.length
    · have row : IsRow render names (.ofFields record) ((valuesUnder names record).map written) :=
        (isRow_scalar own).mpr ⟨same, rfl⟩
      rw [if_pos same, row.fields, ok_bind, ← ih others]
      cases linesOf names render qualifier (records.map .ofFields) <;> simp [Except.map, same]
    · rw [if_neg same]
      simp [same, eq_comm]

/-- Records with texts as keys have names that can be joined, so what refuses them is a line. -/
theorem generate_error {fault : Fault} :
    generate ((first :: rest).map .ofFields) render qualifier = .error fault ↔
      linesOf first.keys render qualifier ((first :: rest).map .ofFields) = .error fault := by
  have head : joinTexts (qualifier ++ "," ++ qualifier) (first.keys.map .text) =
      .ok ((qualifier ++ "," ++ qualifier).intercalate first.keys) := joinTexts_ok.mpr ⟨_, rfl, rfl⟩
  have split : generate ((first :: rest).map .ofFields) render qualifier = (do
      let head ← joinTexts (qualifier ++ "," ++ qualifier)
        ((first.map fun entry => (Value.text entry.1, entry.2)).map Prod.fst)
      let lines ← linesOf
        (textsOf ((first.map fun entry => (Value.text entry.1, entry.2)).map Prod.fst)) render
        qualifier ((first :: rest).map .ofFields)
      return String.join (((qualifier ++ head ++ qualifier) :: lines).map (· ++ "\n"))) := rfl
  rw [split, keys_ofFields, head, ok_bind, textsOf_texts]
  cases linesOf first.keys render qualifier ((first :: rest).map .ofFields) <;> simp

theorem generate_scalar_error (scalar : ∀ record ∈ first :: rest, ∀ field ∈ record,
    field.2.IsScalar)
    {fault : Fault} :
    generate ((first :: rest).map .ofFields) render qualifier = .error fault ↔
      FirstUneven first.keys.length (first :: rest) fault :=
  generate_error.trans (linesOf_error scalar)

end Records

/-- Records of scalars are written as flat text exactly if they all have as many fields as the first
one, and the first that has not is the one that is refused. Under each key of the first record
stands the value that a record has there, or nothing, so a value is left out exactly if its key is
not one of these. A document under these keys takes the records exactly if they all have them all,
that is, if they are written and no value is left out. -/
theorem generate_accepts {first : Record} {rest : List Record}
    (distinct : ∀ record ∈ first :: rest, record.keys.Nodup)
    (scalar : ∀ record ∈ first :: rest, ∀ field ∈ record, field.2.IsScalar)
    (render : Option Render) (qualifier : String) :
    (∀ text, generate ((first :: rest).map .ofFields) render qualifier = .ok text ↔
      (∀ record ∈ first :: rest, record.length = first.keys.length) ∧
        text = textOf qualifier first.keys
          ((first :: rest).map fun record => (valuesUnder first.keys record).map written)) ∧
      (∀ fault, generate ((first :: rest).map .ofFields) render qualifier = .error fault ↔
        FirstUneven first.keys.length (first :: rest) fault) ∧
      (∀ record ∈ first :: rest, ∀ field ∈ record,
        Stands first.keys record field ↔ field.1 ∈ first.keys) ∧
      ∃ doc, CsvDocument.ofValues (.list (first.keys.map .text)) .null = .ok doc ∧
        ((doc.addObjects (.list ((first :: rest).map .ofFields))).2 = .ok () ↔
          ∀ record ∈ first :: rest, record.keys.Perm first.keys) ∧
        ((doc.addObjects (.list ((first :: rest).map .ofFields))).2 = .ok () ↔
          (∃ text, generate ((first :: rest).map .ofFields) render qualifier = .ok text) ∧
            ∀ record ∈ first :: rest, ∀ field ∈ record, Stands first.keys record field) := by
  let doc : CsvDocument := ⟨first.keys.map .text, {}, []⟩
  have taken := addObjects_ok (show doc.headers = first.keys.map .text from rfl) distinct scalar
  refine ⟨fun text => generate_scalar_ok scalar, fun fault => generate_scalar_error scalar,
    fun record mem field hfield => stands_iff (distinct record mem) hfield, _, rfl, taken, ?_⟩
  rw [taken]
  constructor
  · intro same
    have lengths : ∀ record ∈ first :: rest, record.length = first.keys.length := fun record mem =>
      by simpa [Fields.keys] using (same record mem).length_eq
    refine ⟨⟨_, (generate_scalar_ok scalar).mpr ⟨lengths, rfl⟩⟩, fun record mem field hfield => ?_⟩
    exact (stands_iff (distinct record mem) hfield).mpr
      ((same record mem).subset (List.mem_map_of_mem hfield))
  · rintro ⟨⟨text, written⟩, stands⟩ record mem
    have lengths := ((generate_scalar_ok scalar).mp written).1
    refine CsvEntry.keys_perm (distinct record mem) (lengths record mem) fun key hkey => ?_
    obtain ⟨field, hfield, rfl⟩ := List.mem_map.mp hkey
    exact (stands_iff (distinct record mem) hfield).mp (stands record mem field hfield)

/-- Two records with two fields each, the second with a key of its own. -/
def strayRecords : List Record :=
  [[("a", .text "x"), ("b", .text "y")], [("c", .text "w"), ("a", .text "z")]]

theorem generate_accepts_stray :
    (∀ record ∈ strayRecords, record.keys.Nodup) ∧
      (∀ record ∈ strayRecords, ∀ field ∈ record, field.2.IsScalar) ∧
      generate (strayRecords.map .ofFields) none "'" = .ok "'a','b'\n'x','y'\n'z',''\n" ∧
      ¬ Stands ["a", "b"] [("c", .text "w"), ("a", .text "z")] ("c", .text "w") := by
  have distinct : ∀ record ∈ strayRecords, record.keys.Nodup := by decide
  have scalar : ∀ record ∈ strayRecords, ∀ field ∈ record, field.2.IsScalar := by decide
  obtain ⟨written, -, stands, -⟩ := generate_accepts distinct scalar none "'"
  refine ⟨distinct, scalar, (written _).mpr ⟨by decide, by decide +kernel⟩, fun h => ?_⟩
  exact absurd ((stands _ (by simp) _ (by simp)).mp h) (by decide)

/-- Records that flat text is written for are not always taken by a document under the first one's
keys. -/
theorem not_refused_stray :
    ¬∀ (first : Record) (rest : List Record) render qualifier doc,
      (∀ record ∈ first :: rest, record.keys.Nodup) →
      (∀ record ∈ first :: rest, ∀ field ∈ record, field.2.IsScalar) →
      CsvDocument.ofValues (.list (first.keys.map .text)) .null = .ok doc →
      ((∃ text, generate ((first :: rest).map .ofFields) render qualifier = .ok text) ↔
        (doc.addObjects (.list ((first :: rest).map .ofFields))).2 = .ok ()) := by
  intro agree
  have made : CsvDocument.ofValues (.list [.text "a", .text "b"]) .null =
      .ok ⟨[.text "a", .text "b"], {}, []⟩ := rfl
  have same :=
    agree [("a", .text "x"), ("b", .text "y")] [[("c", .text "w"), ("a", .text "z")]] none
    "'" _ (by decide) (by decide) made
  have taken := same.mp ⟨_, rfl⟩
  cases taken

end RaggedTables.FlatCsv
