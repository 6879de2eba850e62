import Mathlib.Data.List.Forall2
import RaggedTables.Proofs.Table.BodyRows

/-! What stands above a row, told on the way down to it. The rules for body rows ask for little:
whether a body was passed, and what the parent is. That can be handed from a node to its children,
so the rows of an element can be listed with it and without their places. -/

namespace RaggedTables.Table

open Markup
open Node (under underAll)

/-- What has been passed on the way from a context to a node: a body, a row that is a child of a
table, and, just above the node, a table without a body or with one. -/
structure Standing where
  body : Bool := false
  bare : Bool := false
  mixed : Bool := false
  row : Bool := false

/-- What has been passed on the way to the children of a node. -/
def Standing.below (s : Standing) (node : Node) : Standing where
  body := s.body || node.isNamed "tbody"
  bare := node.isNamed "table" && !hasChild "tbody" node
  mixed := node.isNamed "table" && hasChild "tbody" node
  row := s.row || (node.isNamed "tr" && (s.bare || s.mixed))

mutual

/-- A node and the nodes below it in document order, each with what has been passed on the way. -/
def standings (s : Standing) : Node → List (Node × Standing)
  | .element tag attributes children =>
    (.element tag attributes children, s) ::
      standingsAll (s.below (.element tag attributes children)) children
  | node => [(node, s)]

def standingsAll (s : Standing) : List Node → List (Node × Standing)
  | [] => []
  | node :: rest => standings s node ++ standingsAll s rest

end

/-- A row inside a row that is a child of a table at the place `x` or below it. -/
def InDirectRow (nodes : List Node) (x p : Place) : Prop :=
  ∃ row, x <+: row ∧ row <+: p ∧ row ≠ p ∧ Named nodes "tr" row ∧
    ∃ table, DirectIn nodes x row table

/-- The row is a child of a table that has a body. -/
def InMixedTable (nodes : List Node) (x row : Place) : Prop :=
  ∃ table, DirectIn nodes x row table ∧ HasChildNamed nodes "tbody" table

/-- A standing says what stands above a place, up to the place `x`. -/
structure Describes (nodes : List Node) (x p : Place) (s : Standing) : Prop where
  body : s.body = true ↔ InBody nodes x p
  bare : s.bare = true ↔ InBareTable nodes x p
  mixed : s.mixed = true ↔ InMixedTable nodes x p
  row : s.row = true ↔ InDirectRow nodes x p

/-! ### Ways down -/

section

variable {nodes : List Node} {x p : Place}

theorem above_child_iff {Q : Place → Prop} (below : x <+: p) (i : Nat) :
    (∃ a, x <+: a ∧ a <+: p ++ [i] ∧ a ≠ p ++ [i] ∧ Q a) ↔
      (∃ a, x <+: a ∧ a <+: p ∧ a ≠ p ∧ Q a) ∨ Q p := by
  constructor
  · rintro ⟨a, hx, ha, apart, hq⟩
    rcases List.prefix_concat_iff.mp ha with same | ha
    · exact absurd same apart
    · by_cases same : a = p
      · exact .inr (same ▸ hq)
      · exact .inl ⟨a, hx, ha, same, hq⟩
  · have shorter : ∀ a, a <+: p → a ≠ p ++ [i] := by
      rintro a ha rfl
      exact not_child_above p i ha
    rintro (⟨a, hx, ha, -, hq⟩ | hq)
    · exact ⟨a, hx, ha.trans (List.prefix_append _ _), shorter a ha, hq⟩
    · exact ⟨p, below, List.prefix_append _ _, shorter p List.prefix_rfl, hq⟩

theorem not_above_self {Q : Place → Prop} : ¬ ∃ a, x <+: a ∧ a <+: x ∧ a ≠ x ∧ Q a := by
  rintro ⟨a, hx, ha, apart, -⟩
  exact apart (ha.eq_of_length (Nat.le_antisymm ha.length_le hx.length_le))

theorem directIn_child_iff (below : x <+: p) (i : Nat) {table : Place} :
    DirectIn nodes x (p ++ [i]) table ↔ table = p ∧ Named nodes "table" p := by
  constructor
  · rintro ⟨-, isTable, j, same⟩
    obtain ⟨rfl, -⟩ := List.append_inj' same rfl
    exact ⟨rfl, isTable⟩
  · rintro ⟨rfl, isTable⟩
    exact ⟨below, isTable, i, rfl⟩

theorem not_directIn_self {table : Place} : ¬ DirectIn nodes x x table := by
  rintro ⟨below, -, i, rfl⟩
  exact not_child_above table i below

theorem describes_self (nodes : List Node) (x : Place) : Describes nodes x x {} where
  body := iff_of_false nofun not_above_self
  bare := iff_of_false nofun fun ⟨_, direct, _⟩ => not_directIn_self direct
  mixed := iff_of_false nofun fun ⟨_, direct, _⟩ => not_directIn_self direct
  row := iff_of_false nofun not_above_self

theorem named_iff {node : Node} (h : nodeAt? nodes p = some node) (tag : String) :
    Named nodes tag p ↔ node.isNamed tag = true := by
  simp [Named, h]

theorem Describes.direct {s : Standing} (h : Describes nodes x p s) :
    (s.bare || s.mixed) = true ↔ ∃ table, DirectIn nodes x p table := by
  rw [Bool.or_eq_true, h.bare, h.mixed]
  constructor
  · rintro (⟨table, direct, -⟩ | ⟨table, direct, -⟩) <;> exact ⟨table, direct⟩
  · rintro ⟨table, direct⟩
    by_cases body : HasChildNamed nodes "tbody" table
    · exact .inr ⟨table, direct, body⟩
    · exact .inl ⟨table, direct, body⟩

/-- What describes a node, handed on, describes its children. -/
theorem Describes.child {s : Standing} {node : Node} (h : Describes nodes x p s) (below : x <+: p)
    (hnode : nodeAt? nodes p = some node) (i : Nat) :
    Describes nodes x (p ++ [i]) (s.below node) where
  body := by
    rw [InBody, above_child_iff below, named_iff hnode, Standing.below, Bool.or_eq_true, h.body]
    rfl
  bare := by
    simp only [InBareTable, directIn_child_iff below, named_iff hnode, and_assoc, exists_eq_left,
      hasChildNamed_iff hnode, Standing.below, Bool.and_eq_true, Bool.not_eq_true',
      Bool.not_eq_true]
    rfl
  mixed := by
    simp only [InMixedTable, directIn_child_iff below, named_iff hnode, and_assoc, exists_eq_left,
      hasChildNamed_iff hnode, Standing.below, Bool.and_eq_true]
    rfl
  row := by
    rw [InDirectRow, above_child_iff below, named_iff hnode, ← h.direct, Standing.below,
      Bool.or_eq_true, Bool.and_eq_true, h.row]
    rfl

/-! ### The two listings -/

/-- A placed node and a node with its standing are the same, and the standing describes the place.
-/
def Fits (nodes : List Node) (x : Place) (entry : Place × Node) (entry' : Node × Standing) : Prop :=
  entry.2 = entry'.1 ∧ nodeAt? nodes entry.1 = some entry.2 ∧ Describes nodes x entry.1 entry'.2

theorem fits_standings (node : Node) : ∀ (p : Place) (s : Standing), x <+: p →
    nodeAt? nodes p = some node → Describes nodes x p s →
      List.Forall₂ (Fits nodes x) ((p, node) :: under p node) (standings s node) := by
  induction node using Node.induct with
  | text content =>
    intro p s below here describes
    exact .cons ⟨rfl, here, describes⟩ .nil
  | comment content =>
    intro p s below here describes
    exact .cons ⟨rfl, here, describes⟩ .nil
  | instruction target content =>
    intro p s below here describes
    exact .cons ⟨rfl, here, describes⟩ .nil
  | element tag attributes children ih =>
    intro p s below here describes
    refine .cons ⟨rfl, here, describes⟩ ?_
    have from_child (i : Nat) (rest : List Node) (sub : ∀ c ∈ rest, c ∈ children)
        (place : ∀ j, nodeAt? nodes (p ++ [i + j]) = rest[j]?) :
        List.Forall₂ (Fits nodes x) (underAll p i rest)
          (standingsAll (s.below (.element tag attributes children)) rest) := by
      induction rest generalizing i with
      | nil => exact .nil
      | cons c rest ihr =>
        have first := ih c (sub c (List.mem_cons_self ..)) (p ++ [i]) _
          (below.trans (List.prefix_append _ _)) (place 0) (describes.child below here i)
        have others := ihr (i + 1) (fun d hd => sub d (List.mem_cons_of_mem c hd)) fun j => by
          rw [show i + 1 + j = i + (j + 1) by omega, place (j + 1), List.getElem?_cons_succ]
        exact List.rel_append first others
    refine from_child 0 children (fun c hc => hc) fun j => ?_
    rw [Nat.zero_add, nodeAt?_append, childrenAt_of_node here]
    rfl

theorem fits_selfAndBelow {node : Node} (here : nodeAt? nodes x = some node) :
    List.Forall₂ (Fits nodes x) (selfAndBelow nodes x) (standings {} node) := by
  have listed : selfAndBelow nodes x = (x, node) :: under x node := by
    rw [selfAndBelow, placed, here, descendants, childrenAt_of_node here]
    cases node <;> rfl
  rw [listed]
  exact fits_standings node x {} List.prefix_rfl here (describes_self nodes x)

/-- Whether a row is a body row is told by its standing. -/
theorem Fits.isBodyRow_iff {entry : Place × Node} {entry' : Node × Standing}
    (fits : Fits nodes x entry entry') (isRow : entry.2.isNamed "tr" = true) :
    IsBodyRow nodes x entry.1 ↔
      entry'.2.body = true ∨ entry'.2.bare = true ∧ isDataRow entry.2 = true := by
  obtain ⟨-, here, describes⟩ := fits
  rw [describes.body, describes.bare, isDataRow_iff here]
  constructor
  · rintro ⟨-, rule⟩
    exact rule
  · intro rule
    exact ⟨⟨entry.2, here, isRow⟩, rule⟩

end

end RaggedTables.Table
