import Mathlib.Data.List.Forall2
import RaggedTables.Proofs.Fields
import RaggedTables.Proofs.Outcome
import RaggedTables.Record.Assembly
import RaggedTables.Record.Reshape

/-! The records of a grid. Headers and cells are paired by position: a single name takes its cell
whole, and several names share out the items of a list. Every name stands where it is first written
and holds what is last written under it. Several names beside a cell that is no list have nothing to
share out; the cell cannot be stored under them, and one such cell anywhere refuses the grid. -/

namespace RaggedTables.Reshape

/-- A header of a grid: one name, or several for the items of a list. -/
inductive GridHeader where
  | single (name : String)
  | several (names : List String)
deriving Repr, DecidableEq

namespace GridHeader

/-- A header as it is given. -/
def value : GridHeader → Value
  | .single name => .text name
  | .several names => .list (names.map .text)

/-- What a header writes of a cell: the cell under a single name, or the items of a list under
several names, one each up to the shorter of the two. -/
def share : GridHeader → Value → List (String × Value)
  | .single name, cell => [(name, cell)]
  | .several names, .list items => names.zip items
  | .several _, _ => []

/-- Several names beside a cell that is no list. -/
def Unshared (header : GridHeader) (cell : Value) : Prop :=
  (∃ names, header = .several names) ∧ ∀ items, cell ≠ .list items

end GridHeader

/-- Some header of a row has nothing to share out of its cell. -/
def Unstorable (headers : List GridHeader) (cells : List Value) : Prop :=
  ∃ (i : Nat) (header : GridHeader) (cell : Value),
    headers[i]? = some header ∧ cells[i]? = some cell ∧ header.Unshared cell

/-- Header `i` writes `v` under `name`, as number `j` of what it writes. -/
def WrittenAt (headers : List GridHeader) (cells : List Value) (i j : Nat) (name : String)
    (v : Value) :
    Prop :=
  ∃ header cell, headers[i]? = some header ∧ cells[i]? = some cell ∧
    (header.share cell)[j]? = some (name, v)

/-- `v` is written under `name`, and nothing is written there later: not by a header to the right,
nor by the same one. -/
def LastWritten (headers : List GridHeader) (cells : List Value) (name : String)
    (v : Value) : Prop :=
  ∃ i j, WrittenAt headers cells i j name v ∧
    ∀ i' j' w, WrittenAt headers cells i' j' name w → i' < i ∨ i' = i ∧ j' ≤ j

/-- All that is written of a row, from left to right. -/
def writes (headers : List GridHeader) (cells : List Value) : List (String × Value) :=
  (headers.zip cells).flatMap fun pair => pair.1.share pair.2

/-- The record of a row: the names in the order in which they are first written, each with what is
last written under it. -/
structure IsRecordOf (headers : List GridHeader) (cells : List Value) (record : Record) : Prop where
  keys : record.keys = ((writes headers cells).map Prod.fst).eraseDups
  values : ∀ name ∈ record.keys, ∃ v, LastWritten headers cells name v ∧ record.get? name = some v

section Row

variable {header : GridHeader} {headers : List GridHeader} {cell : Value} {cells : List Value}
  {i j : Nat} {name : String} {v : Value}

/-! ### What is written last -/

theorem writtenAt_zero : WrittenAt (header :: headers) (cell :: cells) 0 j name v ↔
    (header.share cell)[j]? = some (name, v) := by
  simp [WrittenAt]

theorem writtenAt_succ : WrittenAt (header :: headers) (cell :: cells) (i + 1) j name v ↔
    WrittenAt headers cells i j name v := by
  simp [WrittenAt]

theorem LastWritten.cons (h : LastWritten headers cells name v) :
    LastWritten (header :: headers) (cell :: cells) name v := by
  obtain ⟨i, j, written, last⟩ := h
  refine ⟨i + 1, j, writtenAt_succ.mpr written, fun i' j' w other => ?_⟩
  cases i' with
  | zero => exact .inl (Nat.succ_pos i)
  | succ i' =>
    have := last i' j' w (writtenAt_succ.mp other)
    omega

/-- A name that no later header writes is last written where the first header last writes it. -/
theorem LastWritten.front (own : Fields.IsLastWrite (header.share cell) name j v)
    (later : ∀ i j w, ¬WrittenAt headers cells i j name w) :
    LastWritten (header :: headers) (cell :: cells) name v := by
  refine ⟨0, j, writtenAt_zero.mpr own.writes, fun i' j' w other => ?_⟩
  cases i' with
  | zero =>
    have written := writtenAt_zero.mp other
    exact .inr ⟨rfl, own.last j' (by rw [List.getElem?_map, written]; rfl)⟩
  | succ i' => exact absurd (writtenAt_succ.mp other) (later i' j' w)

theorem not_writtenAt_cons (own : name ∉ (header.share cell).map Prod.fst)
    (later : ∀ i j w, ¬WrittenAt headers cells i j name w) (i j : Nat) (w : Value) :
    ¬WrittenAt (header :: headers) (cell :: cells) i j name w := by
  intro written
  cases i with
  | zero => exact own (List.mem_map_of_mem (List.mem_of_getElem? (writtenAt_zero.mp written)))
  | succ i => exact later i j w (writtenAt_succ.mp written)

/-- The writes of a row leave under a name what is last written there, or what stood there if no
header writes it. -/
theorem get?_writes (fields : Record) (headers : List GridHeader) (cells : List Value)
    (name : String) :
    (∃ v, LastWritten headers cells name v ∧
        (fields.update (writes headers cells)).get? name = some v) ∨
      ((∀ i j w, ¬WrittenAt headers cells i j name w) ∧
        (fields.update (writes headers cells)).get? name = fields.get? name) := by
  induction headers generalizing fields cells with
  | nil => exact .inr ⟨by simp [WrittenAt], rfl⟩
  | cons header headers ih =>
    cases cells with
    | nil => exact .inr ⟨by simp [WrittenAt], rfl⟩
    | cons cell cells =>
      have step : fields.update (writes (header :: headers) (cell :: cells)) =
          (fields.update (header.share cell)).update (writes headers cells) :=
        List.foldl_append
      rw [step]
      rcases ih (fields.update (header.share cell)) cells with ⟨v, last, found⟩ | ⟨later, found⟩
      · exact .inl ⟨v, last.cons, found⟩
      rcases Fields.get?_update fields (header.share cell) name with ⟨j, v, own, put⟩ | ⟨own, put⟩
      · exact .inl ⟨v, .front own later, found.trans put⟩
      · exact .inr ⟨not_writtenAt_cons own later, found.trans put⟩

theorem isRecordOf_ofEntries (headers : List GridHeader) (cells : List Value) :
    IsRecordOf headers cells (Fields.ofEntries (writes headers cells)) := by
  have empty : Fields.keys ([] : Record) = ([] : List String).eraseDups := rfl
  have keys := Fields.keys_update_of_eraseDups empty (writes headers cells)
  rw [List.nil_append] at keys
  refine ⟨keys, fun name mem => ?_⟩
  rcases get?_writes [] headers cells name with found | ⟨-, absent⟩
  · exact found
  · exact absurd mem (Fields.get?_eq_none_iff.mp absent)

/-! ### What can be stored -/

theorem unstorable_cons : Unstorable (header :: headers) (cell :: cells) ↔
    header.Unshared cell ∨ Unstorable headers cells := by
  constructor
  · rintro ⟨_ | i, h, c, hh, hc, unshared⟩
    · obtain rfl : header = h := by simpa using hh
      obtain rfl : cell = c := by simpa using hc
      exact .inl unshared
    · exact .inr ⟨i, h, c, by simpa using hh, by simpa using hc, unshared⟩
  · rintro (unshared | ⟨i, h, c, hh, hc, unshared⟩)
    · exact ⟨0, header, cell, rfl, rfl, unshared⟩
    · exact ⟨i + 1, h, c, by simpa using hh, by simpa using hc, unshared⟩

theorem named_shared (shared : ¬header.Unshared cell) :
    named header.value cell = (header.share cell).map fun entry => (.text entry.1, entry.2) := by
  cases header with
  | single name => rfl
  | several names =>
    obtain ⟨items, rfl⟩ : ∃ items, cell = .list items := by
      simpa [GridHeader.Unshared] using shared
    simp [named, GridHeader.value, GridHeader.share, Value.several?, List.zip_map_left]

theorem named_unshared (unshared : header.Unshared cell) :
    named header.value cell = [(header.value, cell)] := by
  obtain ⟨⟨names, rfl⟩, other⟩ := unshared
  cases cell with
  | list items => exact absurd rfl (other items)
  | _ => rfl

theorem unfitItem?_texts_append (names : List String) (rest : List Value) :
    Value.unfitItem? (names.map .text ++ rest) = Value.unfitItem? rest := by
  induction names with
  | nil => rfl
  | cons name names ih => simpa [Value.unfitItem?, Value.unfitKey?] using ih

/-- The entries that a row is stored as. -/
def entriesOf (headers : List GridHeader) (cells : List Value) : List (Value × Value) :=
  ((headers.map GridHeader.value).zip cells).flatMap fun (header, cell) => named header cell

theorem entriesOf_cons : entriesOf (header :: headers) (cell :: cells) =
    named header.value cell ++ entriesOf headers cells := rfl

theorem entriesOf_storable (storable : ¬Unstorable headers cells) :
    entriesOf headers cells = (writes headers cells).map fun entry => (.text entry.1, entry.2) := by
  induction headers generalizing cells with
  | nil => rfl
  | cons header headers ih =>
    cases cells with
    | nil => rfl
    | cons cell cells =>
      obtain ⟨shared, others⟩ := not_or.mp (unstorable_cons.not.mp storable)
      rw [entriesOf_cons, named_shared shared, ih others, ← List.map_append]
      rfl

theorem unfitItem?_unstorable (unstorable : Unstorable headers cells) :
    Value.unfitItem? ((entriesOf headers cells).map Prod.fst) = some "list" := by
  induction headers generalizing cells with
  | nil =>
    obtain ⟨i, header, cell, hh, -⟩ := unstorable
    simp at hh
  | cons header headers ih =>
    cases cells with
    | nil =>
      obtain ⟨i, header, cell, -, hc, -⟩ := unstorable
      simp at hc
    | cons cell cells =>
      rw [entriesOf_cons, List.map_append]
      by_cases unshared : header.Unshared cell
      · rw [named_unshared unshared]
        obtain ⟨⟨names, rfl⟩, -⟩ := unshared
        rfl
      · have names : (named header.value cell).map Prod.fst =
            ((header.share cell).map Prod.fst).map .text := by
          simp [named_shared unshared, Function.comp_def]
        rw [names, unfitItem?_texts_append]
        exact ih ((unstorable_cons.mp unstorable).resolve_left unshared)

theorem recordOf_storable (storable : ¬Unstorable headers cells) :
    recordOf (headers.map GridHeader.value) (.list cells) =
      .ok (.ofFields (Fields.ofEntries (writes headers cells))) := by
  have entries := entriesOf_storable storable
  have fit := unfitItem?_texts_append ((writes headers cells).map Prod.fst) []
  rw [List.append_nil, List.map_map] at fit
  rw [entriesOf] at entries
  simp only [recordOf, Value.items?, entries, List.map_map, Function.comp_def] at fit ⊢
  rw [fit]
  exact congrArg (fun fields => Except.ok (Value.map fields))
    (Fields.ofEntries_map Value.text_beq_text (writes headers cells))

theorem recordOf_unstorable (unstorable : Unstorable headers cells) :
    recordOf (headers.map GridHeader.value) (.list cells) = .error (.kind (.unfitKey "list")) := by
  have unfit := unfitItem?_unstorable unstorable
  rw [entriesOf] at unfit
  simp only [recordOf, Value.items?, unfit]

end Row

/-! ### Grids -/

section Grid

variable {grid : List (List Value)} {headers : List GridHeader}

theorem gridRecords_rows (grid : List (List Value)) (headers : List GridHeader) :
    gridRecords (.list (grid.map .list)) (.list (headers.map GridHeader.value)) =
      (grid.map .list).mapM (recordOf (headers.map GridHeader.value)) := by
  cases grid <;> rfl

theorem gridRecords_ok (storable : ∀ cells ∈ grid, ¬Unstorable headers cells) :
    gridRecords (.list (grid.map .list)) (.list (headers.map GridHeader.value)) =
      .ok ((grid.map fun cells => Fields.ofEntries (writes headers cells)).map .ofFields) := by
  rw [gridRecords_rows, mapM_ok, List.map_map, List.forall₂_map_left_iff,
    List.forall₂_map_right_iff, List.forall₂_same]
  exact fun cells mem => recordOf_storable (storable cells mem)

theorem storable_of_gridRecords {records : List Value}
    (h : gridRecords (.list (grid.map .list))
      (.list (headers.map GridHeader.value)) = .ok records) :
    ∀ cells ∈ grid, ¬Unstorable headers cells := by
  rw [gridRecords_rows, mapM_ok, List.forall₂_map_left_iff] at h
  have both : List.Forall₂ (fun cells _ => ¬Unstorable headers cells ∧ True) grid records := by
    refine h.imp fun cells record stored => ⟨fun unstorable => ?_, trivial⟩
    rw [recordOf_unstorable unstorable] at stored
    cases stored
  exact ((List.forall₂_and_left grid records).mp both).1

/-- Whichever row is the first that cannot be stored, the fault is the same. -/
theorem fault_of_gridRecords {fault : Fault}
    (h : gridRecords (.list (grid.map .list)) (.list (headers.map GridHeader.value)) =
      .error fault) : fault = .kind (.unfitKey "list") := by
  rw [gridRecords_rows, mapM_error] at h
  obtain ⟨before, row, after, split, -, fails⟩ := h
  have mem : row ∈ grid.map .list := by simp [split]
  obtain ⟨cells, -, rfl⟩ := List.mem_map.mp mem
  by_cases unstorable : Unstorable headers cells
  · exact Except.error.inj (fails.symm.trans (recordOf_unstorable unstorable))
  · rw [recordOf_storable unstorable] at fails
    cases fails

end Grid

/-- A grid without a cell that cannot be stored has a record for every row, in order: each name that
is written in the row, where it is first written, with what is last written under it. A grid is
refused exactly if some header has several names beside a cell that is no list, and then because a
list is no key. -/
theorem gridRecords_paired (grid : List (List Value)) (headers : List GridHeader) :
    ((∀ cells ∈ grid, ¬Unstorable headers cells) →
        ∃ records : List Record,
          gridRecords (.list (grid.map .list)) (.list (headers.map GridHeader.value)) =
            .ok (records.map .ofFields) ∧
          List.Forall₂ (IsRecordOf headers) grid records) ∧
      ∀ fault, gridRecords (.list (grid.map .list)) (.list (headers.map GridHeader.value)) =
          .error fault ↔
        (∃ cells ∈ grid, Unstorable headers cells) ∧ fault = .kind (.unfitKey "list") := by
  constructor
  · intro storable
    refine ⟨_, gridRecords_ok storable, ?_⟩
    rw [List.forall₂_map_right_iff, List.forall₂_same]
    exact fun cells _ => isRecordOf_ofEntries headers cells
  · intro fault
    constructor
    · intro h
      refine ⟨?_, fault_of_gridRecords h⟩
      by_contra none
      rw [gridRecords_ok (by simpa using none)] at h
      cases h
    · rintro ⟨⟨cells, mem, unstorable⟩, rfl⟩
      cases outcome : gridRecords (.list (grid.map .list))
        (.list (headers.map GridHeader.value)) with
      | error fault => rw [fault_of_gridRecords outcome]
      | ok records => exact absurd unstorable (storable_of_gridRecords outcome cells mem)

/-- A row whose list has an item more than its header has names, and a row that is shorter than the
headers; the name `x` is written twice in the first. -/
theorem gridRecords_paired_ragged :
    let headers : List GridHeader := [.single "x", .several ["y", "x"]]
    let grid : List (List Value) := [[.text "a", .list [.text "1", .text "2", .text "3"]], [.null]]
    (∀ cells ∈ grid, ¬Unstorable headers cells) ∧
      gridRecords (.list (grid.map .list)) (.list (headers.map GridHeader.value)) =
        .ok [.map [(.text "x", .text "2"), (.text "y", .text "1")], .map [(.text "x", .null)]] ∧
      ∃ records : List Record, List.Forall₂ (IsRecordOf headers) grid records := by
  intro headers grid
  have storable : ∀ cells ∈ grid, ¬Unstorable headers cells := by
    rintro cells mem ⟨_ | _ | i, header, cell, hh, hc, ⟨names, rfl⟩, other⟩
    · simp [headers] at hh
    · rcases List.mem_pair.mp mem with rfl | rfl
      · exact other _ (Option.some.inj hc).symm
      · simp at hc
    · simp [headers] at hh
  obtain ⟨records, -, made⟩ := (gridRecords_paired grid headers).1 storable
  exact ⟨storable, rfl, records, made⟩

/-- A grid of texts, missing values and lists under names and lists of names need not have records:
the text beside two names is stored nowhere. -/
theorem not_recorded_unshared :
    ¬∀ (grid : List (List Value)) (headers : List GridHeader),
      (∀ cells ∈ grid, ∀ cell ∈ cells,
        cell = .null ∨ (∃ s, cell = .text s) ∨ ∃ items, cell = .list items) →
      ∃ records, gridRecords (.list (grid.map .list)) (.list (headers.map GridHeader.value)) =
        .ok records := by
  intro recorded
  obtain ⟨records, h⟩ := recorded [[.text "a"]] [.several ["x", "y"]] (by simp)
  have refused : gridRecords (.list [.list [.text "a"]]) (.list [.list [.text "x", .text "y"]]) =
      .error (.kind (.unfitKey "list")) := rfl
  exact nomatch refused.symm.trans h

end RaggedTables.Reshape
