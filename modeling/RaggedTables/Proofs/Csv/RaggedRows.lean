import Mathlib.Data.List.Perm.Basic
import RaggedTables.Proofs.Csv.Blocks
import RaggedTables.Proofs.Record.Columns

/-! The document of ragged rows. The names of a short row are the first ones of any longer row, so
the columns of the document are those of the longest row, in the order of the headers, wherever that
row stands. -/

namespace RaggedTables

open Record (columnNames)

/-- The number of cells of the longest row, none if there is no row. -/
def widest (rows : List (List Value)) : Nat :=
  rows.foldl (fun most cells => max most cells.length) 0

namespace Record

theorem columnNames_append (first second : List (Option Header)) :
    columnNames (first ++ second) = columnNames first ++ columnNames second := by
  simp [columnNames]

/-- The names of fewer columns are the first of the names of more. -/
theorem columnNames_take_le (headers : List (Option Header)) {few many : Nat}
    (h : few ≤ many) :
    columnNames (headers.take few) <+: columnNames (headers.take many) := by
  obtain ⟨rest, hrest⟩ := List.take_prefix_take_left h (l := headers)
  rw [← hrest, columnNames_append]
  exact List.prefix_append _ _

/-- The distinct names of some columns, followed by the distinct names of others, are those of the
more columns. -/
theorem eraseDups_columnNames_max (headers : List (Option Header)) (m n : Nat) :
    (columnNames (headers.take m) ++ (columnNames (headers.take n)).eraseDups).eraseDups =
      (columnNames (headers.take (max m n))).eraseDups := by
  rcases Nat.le_total n m with h | h
  · rw [Nat.max_eq_left h]
    apply Fields.eraseDups_append_of_subset
    intro name hname
    exact (columnNames_take_le headers h).subset (List.mem_eraseDups.mp hname)
  · rw [Nat.max_eq_right h]
    obtain ⟨rest, hrest⟩ := columnNames_take_le headers h
    rw [Fields.eraseDups_append_eraseDups, ← hrest, ← List.append_assoc]
    apply Fields.eraseDups_append_congr
    exact Fields.eraseDups_append_of_subset fun name hname => hname

/-- The keys of rows that were assembled are the names of the columns that some row has a cell for.
-/
theorem keysSeen_assembled {headers : List (Option Header)} {rows : List (List Value)}
    {records : List Record}
    (assembled : List.Forall₂
      (fun cells record => (assembleRecord cells headers).outcome = .ok record) rows records) :
    keysSeen records =
      (columnNames (headers.take (min headers.length (widest rows)))).eraseDups := by
  have take_min (n : Nat) : headers.take (min headers.length n) = headers.take n := by
    rw [Nat.min_comm, ← List.take_take, List.take_length]
  have from_width (m : Nat) :
      (columnNames (headers.take m) ++ records.flatMap Fields.keys).eraseDups =
        (columnNames (headers.take
          (rows.foldl (fun most cells => max most cells.length) m))).eraseDups := by
    induction assembled generalizing m with
    | nil => simp
    | @cons cells record rows records head _ ih =>
      have keys := keys_assemble head
      rw [Nat.min_comm, take_min] at keys
      rw [List.flatMap_cons, List.foldl_cons, keys, ← List.append_assoc,
        Fields.eraseDups_append_congr (eraseDups_columnNames_max headers m cells.length), ih]
  have start := from_width 0
  rw [List.take_zero, columnNames_nil, List.nil_append] at start
  rw [take_min]
  exact start

end Record

/-- The widest of rows does not depend on their order. -/
theorem widest_perm {rows others : List (List Value)} (h : others.Perm rows) :
    widest others = widest rows := by
  have le {a b : List (List Value)} (h : a.Perm b) : widest a ≤ widest b := by
    refine (CsvEntry.foldl_max_le_iff _ _ _ _).mpr ⟨Nat.zero_le _, fun cells hcells => ?_⟩
    exact ((CsvEntry.foldl_max_le_iff _ _ _ _).mp (Nat.le_refl (widest b))).2 cells
      (h.mem_iff.mp hcells)
  exact Nat.le_antisymm (le h) (le h.symm)

namespace CsvDocument

/-- An entry of a record has its value under each of the names, and none where it lacks the key. -/
theorem get_entryOf {names : List String} (record : Record) {name : String} (mem : name ∈ names) :
    (entryOf names record).get (.text name) =
      .ok (((record.get? name).map cellOf).getD .null) := by
  obtain ⟨before, after, rfl, new⟩ := List.eq_append_cons_of_mem mem
  have index := indexOf_text (entryOf (before ++ name :: after) record) rfl new
  have cell : (entryOf (before ++ name :: after) record).cells[before.length]? =
      some (cellOf ((record.get? name).getD .null)) := by simp [entryOf, fieldsUnder]
  rw [CsvEntry.get, index, ok_bind]
  simp only [cell]
  cases record.get? name <;> rfl

/-- The document of rows assembled under the same headers: its headers are the distinct names of the
columns up to the longest row, in the order of the headers and whatever the order of the rows, and
its entries are those of the rows in order, without a value where the row's record lacks the key. -/
theorem fromRecords_ragged {headers : List (Option Header)} {rows : List (List Value)}
    {records : List Record}
    (assembled : List.Forall₂
      (fun cells record => (assembleRecord cells headers).outcome = .ok record) rows records)
    {options : Value} {csv : CsvOptions} (valid : CsvOptions.ofValue options = .ok csv) :
    ∃ doc, fromRecords (records.map .ofFields) options = .ok doc ∧
      doc.headers =
        (columnNames (headers.take (min headers.length (widest rows)))).eraseDups.map .text ∧
      (rows = [] → doc.headers = []) ∧
      List.Forall₂ (fun record entry => ∀ name : String, .text name ∈ doc.headers →
        entry.get (.text name) = .ok (((record.get? name).map cellOf).getD .null))
        records doc.entries ∧
      ∀ others : List Record, others.Perm records →
        ∃ other, fromRecords (others.map .ofFields) options = .ok other ∧
          other.headers = doc.headers := by
  have keys := Record.keysSeen_assembled assembled
  refine ⟨_, fromRecords_records records valid, by rw [← keys], ?_, ?_, fun others perm => ?_⟩
  · rintro rfl
    cases assembled
    rfl
  · rw [List.forall₂_map_right_iff, List.forall₂_same]
    intro record _ name hname
    refine get_entryOf record ?_
    obtain ⟨other, hother, htext⟩ := List.mem_map.mp hname
    obtain rfl := Value.text.inj htext
    exact hother
  · refine ⟨_, fromRecords_records others valid, ?_⟩
    obtain ⟨otherRows, hrows, hperm⟩ := List.perm_comp_forall₂ perm assembled.flip
    have otherKeys := Record.keysSeen_assembled hrows.flip
    simp only [keys, otherKeys, widest_perm hperm]

/-- A row of one cell before a row of four, under headers that name `a` twice: the short row's entry
has no value under `b` and `c`. -/
theorem fromRecords_ragged_short_first :
    List.Forall₂
        (fun cells record => (assembleRecord cells Record.raggedHeaders).outcome = .ok record)
        [[.text "x"], [.text "x", .text "y", .text "uv", .text "wz"]]
        [[("a", .text "x")], [("a", .text "v"), ("b", .null), ("c", .text "w")]] ∧
      CsvOptions.ofValue .null = .ok {} ∧
      ∃ doc, fromRecords [.map [(.text "a", .text "x")],
          .map [(.text "a", .text "v"), (.text "b", .null), (.text "c", .text "w")]] .null =
            .ok doc ∧
        doc.headers = [.text "a", .text "b", .text "c"] ∧
        ∃ entry ∈ doc.entries, entry.get (.text "c") = .ok .null := by
  have assembled : List.Forall₂
      (fun cells record => (assembleRecord cells Record.raggedHeaders).outcome = .ok record)
      [[.text "x"], [.text "x", .text "y", .text "uv", .text "wz"]]
      [[("a", .text "x")], [("a", .text "v"), ("b", .null), ("c", .text "w")]] :=
    .cons rfl (.cons rfl .nil)
  have valid : CsvOptions.ofValue .null = .ok {} := rfl
  obtain ⟨doc, built, headers, -, entries, -⟩ := fromRecords_ragged assembled valid
  have names : doc.headers = [.text "a", .text "b", .text "c"] := headers
  refine ⟨assembled, valid, doc, built, names, ?_⟩
  obtain ⟨short, _, hshort, _, hentries⟩ := List.forall₂_cons_left_iff.mp entries
  exact ⟨short, by simp [hentries], hshort "c" (by simp [names])⟩

end CsvDocument

end RaggedTables
