import Mathlib.Data.List.Forall2
import Mathlib.Data.List.Induction
import RaggedTables.Csv.Entry
import RaggedTables.Proofs.Outcome

/-! The rows of an entry. There is a row for each value of the longest cell, at least one; every row
has a slot for each header. In the slots of a column stand the values of its cell from the top down,
apart from values that count as nothing: of several values only the last one is kept if it counts as
nothing, below the others. -/

namespace RaggedTables

/-- Neither a list nor a tuple nor a mapping. -/
def Value.IsScalar : Value → Prop
  | .list _ | .tuple _ | .map _ => False
  | _ => True

instance (v : Value) : Decidable v.IsScalar :=
  match v with
  | .list _ | .tuple _ | .map _ => isFalse id
  | .null | .bool _ | .int _ | .float _ | .decimal _ | .fraction _ | .text _ => isTrue trivial

theorem Value.IsScalar.several? {v : Value} (scalar : v.IsScalar) : v.several? = none := by
  cases v with
  | list items | tuple items => exact absurd scalar id
  | _ => rfl

theorem Value.IsScalar.ne_map {v : Value} (scalar : v.IsScalar) (entries : List (Value × Value)) :
    v ≠ .map entries := by
  rintro rfl
  exact scalar

namespace CsvEntry

/-- The values of a cell: those of a list or a tuple, else the cell itself. -/
def valuesOf (cell : Value) : List Value := cell.several?.getD [cell]

/-- The slots of column `k`, from the top. -/
def columnAt (k : Nat) (rows : List (List Value)) : List Value := rows.filterMap (·[k]?)

/-- Where every element has a partner, so has the list. -/
theorem exists_forall₂ {α β : Type} {R : α → β → Prop} {as : List α}
    (h : ∀ a ∈ as, ∃ b, R a b) : ∃ bs, List.Forall₂ R as bs := by
  induction as with
  | nil => exact ⟨[], .nil⟩
  | cons a as ih =>
    obtain ⟨b, hb⟩ := h a (by simp)
    obtain ⟨bs, hbs⟩ := ih fun a' ha' => h a' (by simp [ha'])
    exact ⟨b :: bs, .cons hb hbs⟩

/-! ### Height -/

theorem foldl_max_le_iff {α : Type} (f : α → Nat) (items : List α) (start bound : Nat) :
    items.foldl (fun h item => max h (f item)) start ≤ bound ↔
      start ≤ bound ∧ ∀ item ∈ items, f item ≤ bound := by
  induction items generalizing start with
  | nil => simp
  | cons item items ih => rw [List.foldl_cons, ih, Nat.max_le, List.forall_mem_cons, and_assoc]

theorem height_le_iff {cells : List Value} {bound : Nat} :
    height cells ≤ bound ↔ 1 ≤ bound ∧ ∀ cell ∈ cells, several cell ≤ bound :=
  foldl_max_le_iff several cells 1 bound

theorem one_le_height {cells : List Value} : 1 ≤ height cells :=
  (height_le_iff.mp (Nat.le_refl _)).1

theorem several_le_height {cells : List Value} {cell : Value} (mem : cell ∈ cells) :
    several cell ≤ height cells :=
  (height_le_iff.mp (Nat.le_refl _)).2 cell mem

/-! ### Columns -/

/-- A value goes to the first slot that holds what counts as nothing. -/
theorem place?_packed {packed : List Value} (present : ∀ v ∈ packed, v.isEmpty = false)
    {slot : Value} (free : slot.isEmpty = true) (rest : List Value) (v : Value) :
    place? (packed ++ slot :: rest) v = some (packed ++ v :: rest) := by
  induction packed with
  | nil => simp [place?, free]
  | cons first packed ih =>
    have hfirst : first.isEmpty = false := present first (by simp)
    simp [place?, hfirst, ih fun w hw => present w (by simp [hw])]

/-- What several values come to in a column, from the top: those that count as something and, below
them, the last one if it counts as nothing. -/
def settled (items : List Value) : List Value :=
  items.filter Value.isTruthy ++ (items.getLast?.filter Value.isEmpty).toList

/-- Slots with blanks below, up to a height. -/
def padded (height : Nat) (slots : List Value) : List Value :=
  slots ++ List.replicate (height - slots.length) blank

/-- The column of a cell: its values as they come to stand there, and blanks below. -/
def columnOf (height : Nat) (cell : Value) : List Value :=
  padded height ((cell.several?.map settled).getD [cell])

theorem settled_concat (items : List Value) (v : Value) :
    settled (items ++ [v]) = items.filter Value.isTruthy ++ [v] := by
  cases hv : v.isEmpty <;> simp [settled, Value.isTruthy, List.filter_append, hv]

theorem length_settled_le (items : List Value) : (settled items).length ≤ items.length := by
  induction items using List.reverseRecOn with
  | nil => simp [settled]
  | append_singleton items v _ =>
    rw [settled_concat]
    simpa using List.length_filter_le Value.isTruthy items

theorem length_padded {height : Nat} {slots : List Value} (room : slots.length ≤ height) :
    (padded height slots).length = height := by
  simp [padded, room]

/-- The free slot is a blank, or holds the last value if that counts as nothing. -/
theorem padded_settled {height : Nat} {items : List Value} (room : items.length < height) :
    ∃ slot, slot.isEmpty = true ∧ padded height (settled items) =
      items.filter Value.isTruthy ++
        slot :: List.replicate (height - ((items.filter Value.isTruthy).length + 1)) blank := by
  have present := List.length_filter_le Value.isTruthy items
  cases hlast : items.getLast?.filter Value.isEmpty with
  | none =>
    have left : height - (items.filter Value.isTruthy).length =
        height - ((items.filter Value.isTruthy).length + 1) + 1 := by omega
    refine ⟨blank, rfl, ?_⟩
    simp [padded, settled, hlast, left, List.replicate_succ]
  | some v =>
    exact ⟨v, (Option.filter_eq_some_iff.mp hlast).2, by simp [padded, settled, hlast]⟩

theorem placeAll?_concat (slots items : List Value) (v : Value) :
    placeAll? slots (items ++ [v]) = (placeAll? slots items).bind (place? · v) := by
  induction items generalizing slots with
  | nil => cases h : place? slots v <;> simp [placeAll?, h]
  | cons first items ih => cases h : place? slots first <;> simp [placeAll?, h, ih]

/-- Values placed in order settle, and the slots do not run out. -/
theorem placeAll?_blanks {height : Nat} {items : List Value} (room : items.length ≤ height) :
    placeAll? (List.replicate height blank) items = some (padded height (settled items)) := by
  induction items using List.reverseRecOn with
  | nil => simp [placeAll?, padded, settled]
  | append_singleton items v ih =>
    have room : items.length < height := by simpa [Nat.succ_le_iff] using room
    obtain ⟨slot, free, slots⟩ := padded_settled room
    have present : ∀ w ∈ items.filter Value.isTruthy, w.isEmpty = false := by
      intro w hw
      simpa [Value.isTruthy] using (List.mem_filter.mp hw).2
    rw [placeAll?_concat, ih (Nat.le_of_lt room), Option.bind_some, slots,
      place?_packed present free, settled_concat]
    simp [padded]

theorem filter_isTruthy_of_empty {slots : List Value} (h : ∀ v ∈ slots, v.isEmpty = true) :
    slots.filter Value.isTruthy = [] := by
  rw [List.filter_eq_nil_iff]
  intro v hv
  simp [Value.isTruthy, h v hv]

theorem isEmpty_of_mem_replicate {n : Nat} {v : Value} (h : v ∈ List.replicate n blank) :
    v.isEmpty = true := by
  rw [List.eq_of_mem_replicate h]
  rfl

theorem column?_eq {height : Nat} {cell : Value} (room : several cell ≤ height) :
    column? height cell = some (columnOf height cell) := by
  unfold column? columnOf
  cases hs : cell.several? with
  | none => simp [padded]
  | some items => exact placeAll?_blanks (by simpa [several, hs] using room)

theorem length_columnOf {height : Nat} {cell : Value} (room : several cell ≤ height)
    (pos : 1 ≤ height) : (columnOf height cell).length = height := by
  unfold columnOf
  cases hs : cell.several? with
  | none => exact length_padded pos
  | some items =>
    have fits : items.length ≤ height := by simpa [several, hs] using room
    exact length_padded (Nat.le_trans (length_settled_le items) fits)

theorem filter_columnOf (height : Nat) (cell : Value) :
    (columnOf height cell).filter Value.isTruthy = (valuesOf cell).filter Value.isTruthy := by
  have blanks (n : Nat) : (List.replicate n blank).filter Value.isTruthy = [] :=
    filter_isTruthy_of_empty fun v => isEmpty_of_mem_replicate
  unfold columnOf valuesOf
  cases cell.several? with
  | none => simp [padded, List.filter_cons, blanks]
  | some items =>
    have last : (items.getLast?.filter Value.isEmpty).toList.filter Value.isTruthy = [] := by
      refine filter_isTruthy_of_empty fun v hv => ?_
      exact (Option.filter_eq_some_iff.mp (Option.mem_toList.mp hv)).2
    simp [padded, settled, blanks, last]

theorem mapM_column? {height : Nat} {cells : List Value} {column : Value → List Value}
    (h : ∀ cell ∈ cells, column? height cell = some (column cell)) :
    cells.mapM (column? height) = some (cells.map column) := by
  induction cells with
  | nil => rfl
  | cons cell cells ih =>
    simp [h cell (by simp), ih fun other hother => h other (by simp [hother])]

/-! ### Rows -/

/-- Column `k` of the rows is column `k`. -/
theorem columnAt_rowsOf {height : Nat} {columns : List (List Value)} {k : Nat}
    {slots : List Value} (hk : columns[k]? = some slots) (hlength : slots.length = height) :
    columnAt k (rowsOf height columns) = slots := by
  subst hlength
  apply List.ext_getElem?
  intro i
  simp only [columnAt, rowsOf, List.filterMap_map, Function.comp_def, List.getElem?_map, hk,
    Option.map_some, List.filterMap_eq_map', List.getElem?_map]
  by_cases hi : i < slots.length
  · simp [hi]
  · simp [hi]

/-- The block of rows of cells: as many rows as the longest cell needs, each with one slot for every
cell, and in each column the values of its cell that count as something, from the top down. -/
structure IsBlock (cells : List Value) (rows : List (List Value)) : Prop where
  height : rows.length = height cells
  width : ∀ row ∈ rows, row.length = cells.length
  column : ∀ k cell, cells[k]? = some cell →
    (columnAt k rows).filter Value.isTruthy = (valuesOf cell).filter Value.isTruthy

/-- The rows whose columns are those of the cells. -/
def rowsOfCells (cells : List Value) : List (List Value) :=
  rowsOf (height cells) (cells.map (columnOf (height cells)))

theorem expand_eq {headers cells : List Value} (h : cells.length = headers.length) :
    expand headers cells = .ok (rowsOfCells cells) := by
  have columns := mapM_column? fun cell (hcell : cell ∈ cells) =>
    column?_eq (several_le_height hcell)
  simp [expand, h, columns, rowsOfCells]

theorem columnAt_rowsOfCells {cells : List Value} {k : Nat} {cell : Value}
    (hk : cells[k]? = some cell) :
    columnAt k (rowsOfCells cells) = columnOf (height cells) cell := by
  refine columnAt_rowsOf (by simp [hk]) ?_
  exact length_columnOf (several_le_height (List.mem_of_getElem? hk)) one_le_height

theorem isBlock_rowsOfCells (cells : List Value) : IsBlock cells (rowsOfCells cells) := by
  refine ⟨by simp [rowsOfCells, rowsOf], fun row hrow => ?_, fun k cell hk => ?_⟩
  · obtain ⟨i, -, rfl⟩ := List.mem_map.mp hrow
    simp
  · rw [columnAt_rowsOfCells hk, filter_columnOf]

/-- An entry with one cell for each header always has rows. -/
theorem expand_spec {headers cells : List Value} (h : cells.length = headers.length) :
    ∃ rows, expand headers cells = .ok rows ∧ IsBlock cells rows :=
  ⟨rowsOfCells cells, expand_eq h, isBlock_rowsOfCells cells⟩

/-- As many cells as headers always have rows: the least number of rows, at least one, that is
enough for every cell, each with a slot for each header. A column is made of its own cell and the
number of rows alone, and no value that counts as something is lost, doubled or moved. -/
theorem expandValues_columns {headers cells : Value} {names items : List Value}
    (named : headers.items? = some names) (held : cells.items? = some items)
    (aligned : items.length = names.length) :
    ∃ rows, expandValues headers cells = .ok rows ∧
      (∀ bound, rows.length ≤ bound ↔ 1 ≤ bound ∧ ∀ cell ∈ items, several cell ≤ bound) ∧
      (∀ row ∈ rows, row.length = names.length) ∧
      ∀ k cell, items[k]? = some cell →
        columnAt k rows = columnOf rows.length cell ∧
        (columnAt k rows).filter Value.isTruthy = (valuesOf cell).filter Value.isTruthy := by
  have block := isBlock_rowsOfCells items
  refine ⟨rowsOfCells items, ?_, fun bound => ?_, fun row hrow => ?_, fun k cell hk =>
    ⟨?_, block.column k cell hk⟩⟩
  · simp only [expandValues, sizedItems, named, held, ok_bind]
    exact expand_eq aligned
  · rw [block.height, height_le_iff]
  · rw [block.width row hrow, aligned]
  · rw [block.height, columnAt_rowsOfCells hk]

/-- Of the values `a`, zero, `b`, none and false of a cell, `a` and `b` are kept and, below them,
false. -/
theorem expandValues_columns_mixed :
    let mixed : Value := .list [.text "a", .int 0, .text "b", .null, .bool false]
    let items : List Value := [.int 0, mixed, .tuple [.text "", .text "c"]]
    let names : List Value := [.text "x", .text "y", .text "z"]
    (Value.tuple names).items? = some names ∧ (Value.list items).items? = some items ∧
      items.length = names.length ∧
      ∃ rows, expandValues (.tuple names) (.list items) = .ok rows ∧ rows.length = 5 ∧
        columnAt 1 rows = [.text "a", .text "b", .bool false, blank, blank] := by
  intro mixed items names
  have named : (Value.tuple names).items? = some names := rfl
  have held : (Value.list items).items? = some items := rfl
  obtain ⟨rows, expanded, least, -, columns⟩ := expandValues_columns named held rfl
  have enough : rows.length ≤ 5 := (least 5).mpr (by decide)
  have needed : 5 ≤ rows.length :=
    ((least rows.length).mp (Nat.le_refl _)).2 mixed (List.mem_cons_of_mem _ List.mem_cons_self)
  have height := Nat.le_antisymm enough needed
  refine ⟨named, held, rfl, rows, expanded, height, ?_⟩
  rw [(columns 1 mixed rfl).1, height]
  rfl

end CsvEntry

end RaggedTables
