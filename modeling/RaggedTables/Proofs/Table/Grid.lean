import RaggedTables.Proofs.Outcome
import RaggedTables.Proofs.Table.BodyPath
import RaggedTables.Table.Grid

/-! Tables as grids. Rows are looked for at any depth and cells only among the children of a row, so
a cell belongs to the one row that it is a child of, and however tables are nested every data cell
of a row has one slot. A value that counts as nothing leaves its slot empty and moves no other. -/

namespace RaggedTables.Table

open Markup XPath

/-! ### Rows and their cells -/

/-- The places of the rows at an element or below it. -/
def rowPlaces (e : PageElement) : List Place :=
  (namedNodes "tr" (selfAndBelow e.document e.place)).map Prod.fst

/-- The places of the data cells of a row. -/
def cellPlaces (nodes : List Node) (row : Place) : List Place :=
  (namedNodes "td" (placedChildren nodes row)).map Prod.fst

section

variable {e : PageElement} {nodes : List Node} {row cell : Place}

theorem mem_rowPlaces : row ∈ rowPlaces e ↔ e.place <+: row ∧ Named e.document "tr" row := by
  simp only [rowPlaces, List.mem_map, Prod.exists, mem_namedNodes, mem_selfAndBelow]
  constructor
  · rintro ⟨_, n, ⟨⟨below, hn⟩, isRow⟩, rfl⟩
    exact ⟨below, n, hn, isRow⟩
  · rintro ⟨below, n, hn, isRow⟩
    exact ⟨row, n, ⟨⟨below, hn⟩, isRow⟩, rfl⟩

theorem pairwise_rowPlaces (e : PageElement) : (rowPlaces e).Pairwise Before :=
  List.pairwise_map.mpr ((pairwise_selfAndBelow e.document e.place).filter _)

theorem mem_cellPlaces :
    cell ∈ cellPlaces nodes row ↔ ∃ i, cell = row ++ [i] ∧ Named nodes "td" cell := by
  simp only [cellPlaces, List.mem_map, Prod.exists, mem_namedNodes, mem_placedChildren]
  constructor
  · rintro ⟨_, n, ⟨⟨i, rfl, hn⟩, isCell⟩, rfl⟩
    exact ⟨i, rfl, n, hn, isCell⟩
  · rintro ⟨i, rfl, n, hn, isCell⟩
    exact ⟨_, n, ⟨⟨i, rfl, hn⟩, isCell⟩, rfl⟩

theorem pairwise_cellPlaces (nodes : List Node) (row : Place) :
    (cellPlaces nodes row).Pairwise Before :=
  List.pairwise_map.mpr ((pairwise_placedChildren nodes row).filter _)

theorem gridCells_eq (e : PageElement) :
    gridCells e = (rowPlaces e).map fun row => e.others (cellPlaces e.document row) := by
  rw [gridCells, PageElement.others, List.map_map]
  rfl

/-! ### Lookups -/

theorem read_row : Selector.read? "tr" = some [⟨⟨some "tr", none, false⟩, []⟩] := by decide +kernel

theorem read_cell : Expr.read? "./td" = some (childrenNamed "td") := by decide +kernel

theorem select_rows (e : PageElement) :
    e.select "tr" "table rows" { least := 0 } = .ok (e.others (rowPlaces e)) := by
  have chain : Selector.Chain.select e.document ⟨⟨some "tr", none, false⟩, []⟩ e.place =
      rowPlaces e := by
    simp only [Selector.Chain.select, Selector.follow, Selector.Compound.among,
      Selector.Compound.holds, Selector.fitsTag, Bool.and_true, if_neg Bool.false_ne_true]
    rfl
  have once : inOrder (rowPlaces e) = rowPlaces e :=
    inOrder_eq (pairwise_rowPlaces e) fun _ => Iff.rfl
  rw [PageElement.select, PageElement.select?, read_row, Option.map_some, Wanted.check_least,
    Selector.select, List.flatMap_cons, chain, List.flatMap_nil, List.append_nil, once]

theorem find_cells (e : PageElement) (row : Place) :
    PageElement.find { e with place := row } "./td" "row cells" { least := 0 } =
      .ok (e.others (cellPlaces e.document row)) := by
  have places := (@finds_childrenNamed e.document "td" row 1 1).elements
    (fun cell ⟨_, _, isCell⟩ => ⟨"td", isCell⟩) (pairwise_cellPlaces e.document row)
    fun _ => mem_cellPlaces
  rw [PageElement.find, PageElement.find?, read_cell, Option.bind_some, places, Option.map_some,
    Wanted.check_least]
  rfl

end

/-! ### Slots -/

/-- What stands in a slot, told by its row and its column. -/
def slot? {α : Type} (grid : List (List α)) (slot : Nat × Nat) : Option α :=
  grid[slot.1]?.bind fun row => row[slot.2]?

section

variable {e : PageElement}

theorem slot?_gridCells {slot : Nat × Nat} {found : PageElement} :
    slot? (gridCells e) slot = some found ↔
      ∃ row cell, (rowPlaces e)[slot.1]? = some row ∧
        (cellPlaces e.document row)[slot.2]? = some cell ∧ found = { e with place := cell } := by
  rw [slot?, gridCells_eq, List.getElem?_map]
  cases (rowPlaces e)[slot.1]? with
  | none => simp
  | some row => simp [PageElement.others, List.getElem?_map, eq_comm]

theorem number_unique {α : Type} {items : List α} (distinct : items.Nodup) {a : α} {i j : Nat}
    (first : items[i]? = some a) (second : items[j]? = some a) : i = j := by
  obtain ⟨hi, -⟩ := List.getElem?_eq_some_iff.mp first
  exact (List.getElem?_inj hi distinct).mp (first.trans second.symm)

/-- The place of a cell names its row, and neither rows nor cells are listed twice. -/
theorem existsUnique_slot {row : Place} {i : Nat} (below : e.place <+: row)
    (isRow : Named e.document "tr" row) (isCell : Named e.document "td" (row ++ [i])) :
    ∃! slot, slot? (gridCells e) slot = some { e with place := row ++ [i] } := by
  obtain ⟨r, hr⟩ := List.mem_iff_getElem?.mp (mem_rowPlaces.mpr ⟨below, isRow⟩)
  obtain ⟨c, hc⟩ := List.mem_iff_getElem?.mp (mem_cellPlaces.mpr ⟨i, rfl, isCell⟩)
  refine ⟨(r, c), slot?_gridCells.mpr ⟨row, _, hr, hc, rfl⟩, ?_⟩
  rintro ⟨r', c'⟩ h
  obtain ⟨row', cell, hr', hc', same⟩ := slot?_gridCells.mp h
  have same : row ++ [i] = cell := congrArg PageElement.place same
  obtain ⟨j, same', -⟩ := mem_cellPlaces.mp (List.mem_of_getElem? hc')
  obtain ⟨rfl, -⟩ := List.append_inj' (same.trans same') rfl
  rw [← same] at hc'
  have rows : r' = r := number_unique (pairwise_rowPlaces e).nodup hr' hr
  have columns : c' = c := number_unique (pairwise_cellPlaces e.document row).nodup hc' hc
  rw [rows, columns]

end

/-! ### Filling -/

/-- What a slot keeps of a value. -/
def kept (v : Value) : Value := if v.isTruthy then v else .null

section

variable {fill : PageElement → Nat → Except Fault Value}

theorem fillRow_cons (column : Nat) (cell : PageElement) (rest : List PageElement) :
    fillRow fill column (cell :: rest) = (do
      let v ← fill cell column
      return kept v :: (← fillRow fill (column + 1) rest)) := by
  rw [fillRow]
  refine congrArg (Except.bind (fill cell column)) (funext fun v => ?_)
  have same : (if v.isEmpty then Value.null else v) = kept v := by
    rw [kept, Value.isTruthy]
    cases v.isEmpty <;> rfl
  rw [same]

theorem fillRow_ok {column : Nat} {cells : List PageElement} {values : List Value} :
    fillRow fill column cells = .ok values ↔
      values.length = cells.length ∧ ∀ i cell, cells[i]? = some cell →
        ∃ v, fill cell (column + i) = .ok v ∧ values[i]? = some (kept v) := by
  induction cells generalizing column values with
  | nil => simp [fillRow, eq_comm]
  | cons cell rest ih =>
    have next (i : Nat) : column + (i + 1) = column + 1 + i := by omega
    rw [fillRow_cons]
    simp only [bind_eq_ok, ih]
    constructor
    · rintro ⟨v, first, more, ⟨length, each⟩, same⟩
      obtain rfl := Except.ok.inj same
      refine ⟨by simp [length], fun i c hc => ?_⟩
      cases i with
      | zero =>
        obtain rfl := Option.some.inj hc
        exact ⟨v, first, rfl⟩
      | succ i => exact next i ▸ each i c hc
    · rintro ⟨length, each⟩
      cases values with
      | nil => cases length
      | cons w more =>
        obtain ⟨v, first, same⟩ := each 0 cell rfl
        obtain rfl := Option.some.inj same
        refine ⟨v, first, more, ⟨by simpa using length, fun i c hc => ?_⟩, rfl⟩
        exact next i ▸ each (i + 1) c hc

theorem fillRow_error {column : Nat} {cells : List PageElement} {fault : Fault} :
    fillRow fill column cells = .error fault ↔
      ∃ before cell after, cells = before ++ cell :: after ∧
        (∀ i c, before[i]? = some c → ∃ v, fill c (column + i) = .ok v) ∧
        fill cell (column + before.length) = .error fault := by
  refine @traversal_error _ _ _ _ (fillRow fill) (fun i cell => fill cell i) (by simp [fillRow])
    (fun i cell rest e => ?_) column cells fault
  rw [fillRow_cons]
  cases fill cell i with
  | error _ => simp
  | ok v => simp [bind_eq_error]

/-- Every slot of a row has a value for its cell, and holds what it keeps of it; columns are
numbered from one on. -/
def FillsRow (fill : PageElement → Nat → Except Fault Value) (cells : List PageElement)
    (values : List Value) : Prop :=
  values.length = cells.length ∧ ∀ i cell, cells[i]? = some cell →
    ∃ v, fill cell (i + 1) = .ok v ∧ values[i]? = some (kept v)

/-- Every cell of a row has a value. -/
def Fillable (fill : PageElement → Nat → Except Fault Value) (cells : List PageElement) : Prop :=
  ∀ i cell, cells[i]? = some cell → ∃ v, fill cell (i + 1) = .ok v

theorem fillRow_fills {cells : List PageElement} {values : List Value} :
    fillRow fill 1 cells = .ok values ↔ FillsRow fill cells values := by
  rw [fillRow_ok, FillsRow]
  simp only [Nat.add_comm 1]

theorem fillable_iff {cells : List PageElement} :
    Fillable fill cells ↔ ∃ values, fillRow fill 1 cells = .ok values := by
  constructor
  · intro each
    cases row : fillRow fill 1 cells with
    | ok values => exact ⟨values, rfl⟩
    | error fault =>
      obtain ⟨before, cell, after, rfl, -, fails⟩ := fillRow_error.mp row
      obtain ⟨v, value⟩ := each before.length cell (by simp)
      rw [Nat.add_comm, value] at fails
      cases fails
  · rintro ⟨values, row⟩ i cell h
    obtain ⟨v, value, -⟩ := (fillRow_fills.mp row).2 i cell h
    exact ⟨v, value⟩

theorem fillGrid_ok {e : PageElement} {grid : List (List Value)} :
    fillGrid e fill = .ok grid ↔ List.Forall₂ (FillsRow fill) (gridCells e) grid := by
  rw [fillGrid, mapM_ok]
  simp only [fillRow_fills]

/-- The filling of a grid ends at the first cell, row by row, that comes to no value. -/
theorem fillGrid_error {e : PageElement} {fault : Fault} :
    fillGrid e fill = .error fault ↔
      ∃ above before cell after below,
        gridCells e = above ++ (before ++ cell :: after) :: below ∧
          (∀ row ∈ above, Fillable fill row) ∧ Fillable fill before ∧
          fill cell (before.length + 1) = .error fault := by
  rw [fillGrid, mapM_error]
  simp only [← fillable_iff, fillRow_error]
  constructor
  · rintro ⟨above, _, below, split, sound, before, cell, after, rfl, each, fails⟩
    refine ⟨above, before, cell, after, below, split, sound, fun i c hc => ?_, ?_⟩
    · rw [Nat.add_comm]
      exact each i c hc
    · rw [Nat.add_comm, fails]
  · rintro ⟨above, before, cell, after, below, split, sound, each, fails⟩
    refine ⟨above, _, below, split, sound, before, cell, after, rfl, fun i c hc => ?_, ?_⟩
    · rw [Nat.add_comm]
      exact each i c hc
    · rw [Nat.add_comm, fails]

end

/-! ### The grid of a table -/

/-- A table comes to one list for each row at its element or below it, in document order, and the
slots of that list are the data cells among the row's children, in order. So a data cell whose
parent is such a row has one slot, also in a table inside a cell. Values fill the slots of a grid of
the same shape: each is asked for with the number of its column, and one that counts as nothing
leaves its slot empty. -/
theorem grid_slots (e : PageElement) :
    e.select "tr" "table rows" { least := 0 } = .ok (e.others (rowPlaces e)) ∧
      (rowPlaces e).Pairwise Before ∧
      (∀ row, row ∈ rowPlaces e ↔ e.place <+: row ∧ Named e.document "tr" row) ∧
      List.Forall₂ (fun row cells =>
        PageElement.find { e with place := row } "./td" "row cells" { least := 0 } = .ok cells ∧
          ∃ places, cells = e.others places ∧ places.Pairwise Before ∧
            ∀ cell, cell ∈ places ↔ ∃ i, cell = row ++ [i] ∧ Named e.document "td" cell)
        (rowPlaces e) (gridCells e) ∧
      (∀ row i, e.place <+: row → Named e.document "tr" row → Named e.document "td" (row ++ [i]) →
        ∃! slot, slot? (gridCells e) slot = some { e with place := row ++ [i] }) ∧
      ∀ fill, ((∃ grid, fillGrid e fill = .ok grid) ↔ ∀ cells ∈ gridCells e, Fillable fill cells) ∧
        ∀ grid, fillGrid e fill = .ok grid ↔ List.Forall₂ (FillsRow fill) (gridCells e) grid := by
  refine ⟨select_rows e, pairwise_rowPlaces e, fun row => mem_rowPlaces, ?_,
    fun row i => existsUnique_slot, fun fill => ⟨?_, fun grid => fillGrid_ok⟩⟩
  · rw [gridCells_eq, List.forall₂_map_right_iff, List.forall₂_same]
    intro row _
    exact ⟨find_cells e row, _, rfl, pairwise_cellPlaces _ _, fun cell => mem_cellPlaces⟩
  · constructor
    · rintro ⟨grid, filled⟩
      rw [fillGrid, mapM_ok] at filled
      exact ((List.forall₂_and_left _ _).mp
        (filled.imp fun cells values row => ⟨fillable_iff.mpr ⟨values, row⟩, row⟩)).1
    · intro each
      cases filled : fillGrid e fill with
      | ok grid => exact ⟨grid, rfl⟩
      | error fault =>
        obtain ⟨above, before, cell, after, below, split, -, -, fails⟩ := fillGrid_error.mp filled
        have row : before ++ cell :: after ∈ gridCells e := by simp [split]
        obtain ⟨v, value⟩ := each _ row before.length cell (by simp)
        rw [value] at fails
        cases fails

/-- A row with an empty cell, and with a table in the cell behind it. -/
def tableBehindGap : List Node :=
  [.element "table" [] [.element "tr" [] [.element "td" [] [.text "a"], .element "td" [] [],
    .element "td" [] [.element "table" [] [.element "tr" [] [.element "td" [] [.text "b"]]]]]]]

/-- The cell of the inner table has one slot, in a row of its own, and the empty cell leaves its
slot empty. -/
theorem grid_slots_nested :
    [0] <+: [0, 0, 2, 0, 0] ∧ Named tableBehindGap "tr" [0, 0, 2, 0, 0] ∧
      Named tableBehindGap "td" [0, 0, 2, 0, 0, 0] ∧
      (∃! slot, slot? (gridCells ⟨tableBehindGap, [0], ""⟩) slot =
        some ⟨tableBehindGap, [0, 0, 2, 0, 0, 0], ""⟩) ∧
      fillGrid ⟨tableBehindGap, [0], ""⟩ (fun cell _ => .ok (.text cell.textContent)) =
        .ok [[.text "a", .null, .text "b"], [.text "b"]] := by
  have below : [0] <+: [0, 0, 2, 0, 0] := by decide
  have isRow : Named tableBehindGap "tr" [0, 0, 2, 0, 0] := ⟨_, rfl, rfl⟩
  have isCell : Named tableBehindGap "td" [0, 0, 2, 0, 0, 0] := ⟨_, rfl, rfl⟩
  obtain ⟨-, -, -, -, slots, -⟩ := grid_slots ⟨tableBehindGap, [0], ""⟩
  exact ⟨below, isRow, isCell, slots _ 0 below isRow isCell, rfl⟩

end RaggedTables.Table
