import RaggedTables.Proofs.Markup.Tree
import RaggedTables.Table.BodyRows

/-! Which rows are body rows. Both rules are about what stands above a row and at which names its
cells have, so the body rows are told by their places alone, however tables are nested. -/

namespace RaggedTables.Table

open Markup

/-! ### The rules -/

section

variable (nodes : List Node) (x row : Place)

/-- A body stands above the row, at the place `x` or below it. -/
def InBody : Prop := ∃ body, x <+: body ∧ body <+: row ∧ body ≠ row ∧ Named nodes "tbody" body

/-- The row is a child of a table at the place `x` or below it. -/
def DirectIn (table : Place) : Prop :=
  x <+: table ∧ Named nodes "table" table ∧ ∃ i, row = table ++ [i]

/-- The row is a child of a table that has no body. -/
def InBareTable : Prop := ∃ table, DirectIn nodes x row table ∧ ¬ HasChildNamed nodes "tbody" table

/-- The row has a data cell, or no header cell. -/
def HoldsData : Prop := HasChildNamed nodes "td" row ∨ ¬ HasChildNamed nodes "th" row

/-- A row that is in a body, or with data in a table without one. -/
structure IsBodyRow : Prop where
  isRow : Named nodes "tr" row
  rule : InBody nodes x row ∨ InBareTable nodes x row ∧ HoldsData nodes row

end

/-! ### The selection -/

section

variable {nodes : List Node} {x p : Place}

theorem mem_namedNodes {tag : String} {n : Node} {found : List (Place × Node)} :
    (p, n) ∈ namedNodes tag found ↔ (p, n) ∈ found ∧ n.isNamed tag = true := List.mem_filter

theorem isDataRow_iff {node : Node} (h : nodeAt? nodes p = some node) :
    isDataRow node = true ↔ HoldsData nodes p := by
  rw [isDataRow, HoldsData, hasChildNamed_iff h, hasChildNamed_iff h, Bool.or_eq_true,
    Bool.not_eq_true', Bool.not_eq_true]
  rfl

theorem mem_rowsInBodies :
    p ∈ rowsInBodies nodes x ↔ Named nodes "tr" p ∧ InBody nodes x p := by
  simp only [rowsInBodies, List.mem_flatMap, List.mem_map, Prod.exists, mem_namedNodes,
    mem_selfAndBelow, mem_descendants]
  constructor
  · rintro ⟨body, b, ⟨⟨above, hb⟩, isBody⟩, _, n, ⟨⟨i, rest, rfl, hn⟩, isRow⟩, rfl⟩
    refine ⟨⟨n, hn, isRow⟩, body, above, List.prefix_append _ _, ?_, b, hb, isBody⟩
    simp
  · rintro ⟨⟨n, hn, isRow⟩, body, above, ⟨rest, rfl⟩, apart, b, hb, isBody⟩
    cases rest with
    | nil => exact absurd (List.append_nil body).symm apart
    | cons i rest =>
      exact ⟨body, b, ⟨⟨above, hb⟩, isBody⟩, _, n, ⟨⟨i, rest, rfl, hn⟩, isRow⟩, rfl⟩

theorem mem_rowsOfBareTables :
    p ∈ rowsOfBareTables nodes x ↔
      Named nodes "tr" p ∧ InBareTable nodes x p ∧ HoldsData nodes p := by
  simp only [rowsOfBareTables, List.mem_flatMap, List.mem_map, List.mem_filter, Prod.exists,
    mem_namedNodes, mem_selfAndBelow, mem_placedChildren]
  constructor
  · rintro ⟨table, t, ⟨⟨⟨below, ht⟩, isTable⟩, bare⟩, _, n, ⟨⟨⟨i, rfl, hn⟩, isRow⟩, data⟩, rfl⟩
    refine ⟨⟨n, hn, isRow⟩, ⟨table, ⟨below, ⟨t, ht, isTable⟩, i, rfl⟩, ?_⟩,
      (isDataRow_iff hn).mp data⟩
    rw [hasChildNamed_iff ht]
    simpa [hasChild] using bare
  · rintro ⟨⟨n, hn, isRow⟩, ⟨table, ⟨below, ⟨t, ht, isTable⟩, i, rfl⟩, bare⟩, data⟩
    rw [hasChildNamed_iff ht] at bare
    exact ⟨table, t, ⟨⟨⟨below, ht⟩, isTable⟩, by simpa [hasChild] using bare⟩, _, n,
      ⟨⟨⟨i, rfl, hn⟩, isRow⟩, (isDataRow_iff hn).mpr data⟩, rfl⟩

/-- The rows that are selected are those that one of the rules is for. -/
theorem mem_bodyRows : p ∈ bodyRows nodes x ↔ IsBodyRow nodes x p := by
  rw [bodyRows, mem_inOrder, List.mem_append, mem_rowsInBodies, mem_rowsOfBareTables, ← and_or_left]
  exact ⟨fun ⟨row, rule⟩ => ⟨row, rule⟩, fun ⟨row, rule⟩ => ⟨row, rule⟩⟩

/-- They are selected in document order, and a row that both rules are for is selected once. -/
theorem pairwise_bodyRows (nodes : List Node) (x : Place) : (bodyRows nodes x).Pairwise Before :=
  pairwise_inOrder _

theorem IsBodyRow.below (h : IsBodyRow nodes x p) : x <+: p := by
  rcases h.rule with ⟨body, above, below, -⟩ | ⟨⟨table, ⟨above, -, i, rfl⟩, -⟩, -⟩
  · exact above.trans below
  · exact above.trans (List.prefix_append _ _)

theorem sublist_bodyRows (nodes : List Node) (x : Place) :
    (bodyRows nodes x).Sublist ((selfAndBelow nodes x).map Prod.fst) := by
  refine sublist_selfAndBelow (pairwise_bodyRows nodes x) fun row hrow => ?_
  have body := mem_bodyRows.mp hrow
  obtain ⟨node, hnode, -⟩ := body.isRow
  exact ⟨body.below, node, hnode⟩

end

end RaggedTables.Table
