import Mathlib.Algebra.Ring.Nat
import RaggedTables.Csv.Document
import RaggedTables.Proofs.Csv.Expansion
import RaggedTables.Proofs.Outcome

/-! Documents whose entries have a cell for each header. Every operation keeps it so, and it is what
makes the rows of a document exist. -/

namespace RaggedTables

/-- An entry under the given headers, with a cell for each. -/
structure CsvEntry.AlignedWith (columns : List Value) (entry : CsvEntry) : Prop where
  headers : entry.headers = columns
  cells : entry.cells.length = columns.length

/-- Every entry has a cell for each header of the document. -/
def CsvDocument.Aligned (doc : CsvDocument) : Prop :=
  ∀ entry ∈ doc.entries, entry.AlignedWith doc.headers

namespace CsvEntry

/-! ### Entries -/

theorem AlignedWith.ofValue {headers : List Value} {data : Value} {entry : CsvEntry}
    (h : ofValue headers data = .ok entry) : entry.AlignedWith headers := by
  unfold CsvEntry.ofValue at h
  split at h
  · obtain rfl := Except.ok.inj h
    exact ⟨rfl, by simp⟩
  · split at h
    · rename_i hlength
      obtain rfl := Except.ok.inj h
      exact ⟨rfl, hlength⟩
    · simp at h
  · split at h
    · rename_i hlength
      obtain rfl := Except.ok.inj h
      exact ⟨rfl, hlength⟩
    · simp at h
  · simp at h

/-- Adding a value keeps the headers and the number of cells. -/
theorem AlignedWith.add {headers : List Value} {entry result : CsvEntry} {header v : Value}
    (aligned : entry.AlignedWith headers) (h : entry.add header v = .ok result) :
    result.AlignedWith headers := by
  unfold CsvEntry.add at h
  split at h
  · simp at h
  · obtain ⟨i, -, hi⟩ := bind_eq_ok.mp h
    obtain rfl := Except.ok.inj hi
    exact ⟨aligned.headers, by simpa using aligned.cells⟩

end CsvEntry

namespace CsvDocument

open CsvEntry (AlignedWith IsBlock exists_forall₂ expand_spec)

/-! ### Operations -/

theorem Aligned.append {doc : CsvDocument} {entry : CsvEntry} (aligned : doc.Aligned)
    (h : entry.AlignedWith doc.headers) :
    Aligned { doc with entries := doc.entries ++ [entry] } := by
  intro other hother
  rcases List.mem_append.mp hother with hother | hother
  · exact aligned other hother
  · rwa [List.mem_singleton.mp hother]

theorem Aligned.ofValues {headers options : Value} {doc : CsvDocument}
    (h : ofValues headers options = .ok doc) : doc.Aligned := by
  obtain ⟨_, -, h⟩ := bind_eq_ok.mp h
  obtain ⟨_, -, h⟩ := bind_eq_ok.mp h
  obtain rfl := Except.ok.inj h
  intro entry hentry
  simp at hentry

theorem Aligned.addLine {doc result : CsvDocument} {line : Value} {entry : CsvEntry}
    (aligned : doc.Aligned) (h : doc.addLine line = .ok (result, entry)) : result.Aligned := by
  obtain ⟨entry', hentry, h⟩ := bind_eq_ok.mp h
  obtain ⟨rfl, -⟩ := Prod.mk.inj (Except.ok.inj h)
  exact aligned.append (.ofValue hentry)

theorem alignedWith_fill {headers : List Value} {entry result : CsvEntry}
    {entries : List (Value × Value)} (aligned : entry.AlignedWith headers)
    (h : fill entry entries = .ok result) : result.AlignedWith headers := by
  induction entries generalizing entry with
  | nil =>
    obtain rfl : entry = result := by simpa [fill] using h
    exact aligned
  | cons pair rest ih =>
    obtain ⟨key, v⟩ := pair
    simp only [fill] at h
    split at h
    · obtain ⟨next, hnext, h⟩ := bind_eq_ok.mp h
      exact ih (aligned.add hnext) h
    · simp at h

theorem Aligned.addObject {doc result : CsvDocument} {object : Value} {entry : CsvEntry}
    (aligned : doc.Aligned) (h : doc.addObject object = .ok (result, entry)) : result.Aligned := by
  unfold CsvDocument.addObject at h
  split at h
  · split at h
    · simp at h
    · obtain ⟨start, hstart, h⟩ := bind_eq_ok.mp h
      obtain ⟨filled, hfilled, h⟩ := bind_eq_ok.mp h
      obtain ⟨rfl, -⟩ := Prod.mk.inj (Except.ok.inj h)
      exact aligned.append (alignedWith_fill (.ofValue hstart) hfilled)
  · simp at h

theorem Aligned.addEach {doc : CsvDocument} {objects : List Value} (aligned : doc.Aligned) :
    (doc.addEach objects).1.Aligned := by
  induction objects generalizing doc with
  | nil => exact aligned
  | cons object rest ih =>
    simp only [CsvDocument.addEach]
    split
    · rename_i h
      exact ih (aligned.addObject h)
    · exact aligned

theorem Aligned.addObjects {doc : CsvDocument} {objects : Value} (aligned : doc.Aligned) :
    (doc.addObjects objects).1.Aligned := by
  unfold CsvDocument.addObjects
  split
  · exact aligned.addEach
  · exact aligned

theorem Aligned.addToEntry {doc result : CsvDocument} {index : Int} {header v : Value}
    (aligned : doc.Aligned) (h : doc.addToEntry index header v = .ok result) : result.Aligned := by
  unfold CsvDocument.addToEntry at h
  split at h
  · simp at h
  · split at h
    · simp at h
    · rename_i i _ entry hentry
      obtain ⟨added, hadded, h⟩ := bind_eq_ok.mp h
      obtain rfl := Except.ok.inj h
      intro other hother
      rcases List.mem_or_eq_of_mem_set hother with hother | rfl
      · exact aligned other hother
      · exact (aligned entry (List.mem_of_getElem? hentry)).add hadded

theorem Aligned.addRecords {doc result : CsvDocument} {records : List Value}
    (aligned : doc.Aligned) (h : doc.addRecords records = .ok result) : result.Aligned := by
  induction records generalizing doc with
  | nil =>
    obtain rfl : doc = result := by simpa [CsvDocument.addRecords] using h
    exact aligned
  | cons record rest ih =>
    obtain ⟨object, -, h⟩ := bind_eq_ok.mp h
    obtain ⟨⟨next, entry⟩, hnext, h⟩ := bind_eq_ok.mp h
    exact ih (aligned.addObject hnext) h

theorem Aligned.fromRecords {records : List Value} {options : Value} {doc : CsvDocument}
    (h : fromRecords records options = .ok doc) : doc.Aligned := by
  obtain ⟨headers, -, h⟩ := bind_eq_ok.mp h
  obtain ⟨csv, -, h⟩ := bind_eq_ok.mp h
  have empty : Aligned ⟨headers, csv, []⟩ := fun entry hentry => by simp at hentry
  exact empty.addRecords h

/-- The documents that come of a new one, or of one made from records, by adding to it. -/
inductive Built : CsvDocument → Prop
  | new {headers options doc} (h : ofValues headers options = .ok doc) : Built doc
  | records {records options doc} (h : fromRecords records options = .ok doc) : Built doc
  | line {doc result line entry} (built : Built doc)
      (h : doc.addLine line = .ok (result, entry)) : Built result
  | object {doc result object entry} (built : Built doc)
      (h : doc.addObject object = .ok (result, entry)) : Built result
  | objects {doc objects} (built : Built doc) : Built (doc.addObjects objects).1
  | value {doc result index header v} (built : Built doc)
      (h : doc.addToEntry index header v = .ok result) : Built result

/-- However a document is built, its entries are aligned. -/
theorem Built.aligned {doc : CsvDocument} (built : doc.Built) : doc.Aligned := by
  induction built with
  | new h => exact .ofValues h
  | records h => exact .fromRecords h
  | line _ h ih => exact ih.addLine h
  | object _ h ih => exact ih.addObject h
  | objects _ ih => exact ih.addObjects
  | value _ h ih => exact ih.addToEntry h

/-! ### Rows -/

theorem entryRows_of_forall₂ {entries : List CsvEntry} {blocks : List (List (List Value))}
    (h : List.Forall₂ (fun entry block => entry.outputRows.outcome = .ok block) entries blocks) :
    (entryRows entries).outcome = .ok blocks.flatten := by
  induction h with
  | nil => rfl
  | cons head _ ih => simp [entryRows, head, ih, Except.bind]

/-- The rows of a document whose entries have a cell for each header: the headers, and below them
one block for each entry, in order. -/
theorem Aligned.rows {doc : CsvDocument} (aligned : doc.Aligned) :
    ∃ blocks,
      List.Forall₂ (fun entry block => entry.outputRows.outcome = .ok block ∧
        IsBlock entry.cells block) doc.entries blocks ∧
      doc.rows.outcome = .ok (doc.headers :: blocks.flatten) := by
  have expands : ∀ entry ∈ doc.entries, ∃ block, entry.outputRows.outcome = .ok block ∧
      IsBlock entry.cells block := by
    intro entry hentry
    obtain ⟨hheaders, hcells⟩ := aligned entry hentry
    exact expand_spec (hheaders ▸ hcells)
  obtain ⟨blocks, hblocks⟩ := exists_forall₂ expands
  refine ⟨blocks, hblocks, ?_⟩
  simp [CsvDocument.rows, entryRows_of_forall₂ (hblocks.imp fun _ _ h => h.1), Except.bind]

/-- Every row has a slot for each header. -/
theorem Aligned.width {doc : CsvDocument} (aligned : doc.Aligned) {rows : List (List Value)}
    (h : doc.rows.outcome = .ok rows) : ∀ row ∈ rows, row.length = doc.headers.length := by
  obtain ⟨blocks, hblocks, hrows⟩ := aligned.rows
  obtain rfl := Except.ok.inj (hrows.symm.trans h)
  intro row hrow
  rcases List.mem_cons.mp hrow with rfl | hrow
  · rfl
  obtain ⟨block, hblock, hrow⟩ := List.mem_flatten.mp hrow
  obtain ⟨i, hi, rfl⟩ := List.getElem_of_mem hblock
  have hlt : i < doc.entries.length := hblocks.length_eq ▸ hi
  have block := (hblocks.get hlt hi).2
  exact (block.width row hrow).trans (aligned _ (List.getElem_mem hlt)).cells

theorem lengths_of_forall₂ {entries : List CsvEntry} {blocks : List (List (List Value))}
    (h : List.Forall₂ (fun entry block => IsBlock entry.cells block) entries blocks) :
    blocks.map List.length = entries.map fun entry => CsvEntry.height entry.cells := by
  induction h with
  | nil => rfl
  | cons head _ ih => simp [head.height, ih]

/-- The rows are the headers and, for each entry, as many as it is high. -/
theorem Aligned.length_rows {doc : CsvDocument} (aligned : doc.Aligned) {rows : List (List Value)}
    (h : doc.rows.outcome = .ok rows) :
    rows.length = 1 + (doc.entries.map fun entry => CsvEntry.height entry.cells).sum := by
  obtain ⟨blocks, hblocks, hrows⟩ := aligned.rows
  obtain rfl := Except.ok.inj (hrows.symm.trans h)
  rw [List.length_cons, List.length_flatten, lengths_of_forall₂ (hblocks.imp fun _ _ h => h.2),
    Nat.add_comm]

end CsvDocument

end RaggedTables
