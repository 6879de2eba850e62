import RaggedTables.Proofs.Markup.Order

/-! What stands at and below a place. A listing of nodes holds those that places lead to, each with
its place, and it is in document order. -/

namespace RaggedTables.Markup

open Node (under underAll)

/-- What holds of a node if it holds of its children holds of every node. -/
theorem Node.induct {P : Node → Prop} (text : ∀ content, P (.text content))
    (comment : ∀ content, P (.comment content))
    (instruction : ∀ target content, P (.instruction target content))
    (element : ∀ tag attributes children, (∀ c ∈ children, P c) →
      P (.element tag attributes children)) : ∀ node, P node
  | .text content => text content
  | .comment content => comment content
  | .instruction target content => instruction target content
  | .element tag attributes children =>
    element tag attributes children fun c _ => induct text comment instruction element c

/-! ### Ways through a document -/

theorem nodeAt?_cons_cons (nodes : List Node) (i k : Nat) (rest : Place) :
    nodeAt? nodes (i :: k :: rest) =
      nodes[i]?.bind fun node => nodeAt? node.children (k :: rest) := rfl

theorem nodeAt?_zero (node : Node) (nodes : List Node) :
    nodeAt? (node :: nodes) [0] = some node := rfl

theorem nodeAt?_zero_cons (node : Node) (nodes : List Node) (k : Nat) (rest : Place) :
    nodeAt? (node :: nodes) (0 :: k :: rest) = nodeAt? node.children (k :: rest) := rfl

theorem nodeAt?_succ (node : Node) (nodes : List Node) (j : Nat) (rest : Place) :
    nodeAt? (node :: nodes) ((j + 1) :: rest) = nodeAt? nodes (j :: rest) := by
  cases rest <;> rfl

theorem nodeAt?_nil (place : Place) : nodeAt? [] place = none := by
  cases place with
  | nil => rfl
  | cons i rest => cases rest <;> rfl

theorem childrenAt_of_node {nodes : List Node} {place : Place} {node : Node}
    (h : nodeAt? nodes place = some node) : childrenAt nodes place = node.children := by
  cases place with
  | nil => cases h
  | cons i rest => rw [childrenAt, List.isEmpty_cons, if_neg Bool.false_ne_true, h]; rfl

/-- A way that goes on from a place leads through its children. -/
theorem nodeAt?_append (nodes : List Node) (place : Place) (i : Nat) (rest : Place) :
    nodeAt? nodes (place ++ i :: rest) = nodeAt? (childrenAt nodes place) (i :: rest) := by
  induction place generalizing nodes with
  | nil => rfl
  | cons j place ih =>
    cases place with
    | nil =>
      rw [List.cons_append, List.nil_append, nodeAt?_cons_cons]
      cases h : nodeAt? nodes [j] with
      | none =>
        have missing : nodes[j]? = none := h
        simp [childrenAt, h, missing, nodeAt?_nil]
      | some node =>
        have found : nodes[j]? = some node := h
        rw [childrenAt_of_node h, found, Option.bind_some]
    | cons k place =>
      rw [List.cons_append, List.cons_append, nodeAt?_cons_cons]
      cases h : nodes[j]? with
      | none => simp [childrenAt, nodeAt?_cons_cons, h, nodeAt?_nil]
      | some node =>
        rw [Option.bind_some, ← List.cons_append, ih node.children]
        simp [childrenAt, nodeAt?_cons_cons, h]

theorem not_child_above (place : Place) (i : Nat) : ¬ place ++ [i] <+: place := by
  intro above
  have length := above.length_le
  rw [List.length_append, List.length_singleton] at length
  omega

/-- What stands at a place has something above it, up to the document. -/
theorem exists_node_above {nodes : List Node} {place : Place} {i : Nat} {n : Node}
    (h : nodeAt? nodes (place ++ [i]) = some n) (ne : place ≠ []) :
    ∃ node, nodeAt? nodes place = some node := by
  cases above : nodeAt? nodes place with
  | some node => exact ⟨node, rfl⟩
  | none =>
    have nothing : childrenAt nodes place = [] := by
      rw [childrenAt, List.isEmpty_eq_false_iff.mpr ne, above]
      rfl
    rw [nodeAt?_append, nothing, nodeAt?_nil] at h
    cases h

/-! ### Listings -/

mutual

theorem mem_under (place p : Place) (n : Node) : ∀ node : Node,
    (p, n) ∈ under place node ↔
      ∃ i rest, p = place ++ i :: rest ∧ nodeAt? node.children (i :: rest) = some n
  | .element tag attributes children => by
    have h := mem_underAll place p n 0 children
    simpa only [under, Node.children, Nat.zero_add] using h
  | .text _ | .comment _ | .instruction _ _ => by simp [under, Node.children, nodeAt?_nil]

theorem mem_underAll (place p : Place) (n : Node) (i : Nat) : ∀ nodes : List Node,
    (p, n) ∈ underAll place i nodes ↔
      ∃ j rest, p = place ++ (i + j) :: rest ∧ nodeAt? nodes (j :: rest) = some n
  | [] => by simp [underAll, nodeAt?_nil]
  | node :: nodes => by
    rw [underAll, List.cons_append, List.mem_cons, List.mem_append,
      mem_under (place ++ [i]) p n node, mem_underAll place p n (i + 1) nodes, Prod.mk.injEq]
    constructor
    · rintro (⟨rfl, rfl⟩ | ⟨k, rest, rfl, h⟩ | ⟨j, rest, rfl, h⟩)
      · exact ⟨0, [], rfl, nodeAt?_zero n nodes⟩
      · exact ⟨0, k :: rest, by simp, by rw [nodeAt?_zero_cons, h]⟩
      · refine ⟨j + 1, rest, ?_, by rw [nodeAt?_succ, h]⟩
        rw [show i + 1 + j = i + (j + 1) by omega]
    · rintro ⟨j, rest, rfl, h⟩
      cases j with
      | zero =>
        cases rest with
        | nil => exact .inl ⟨rfl, (Option.some.inj h).symm⟩
        | cons k rest => exact .inr (.inl ⟨k, rest, by simp, by rw [← nodeAt?_zero_cons, h]⟩)
      | succ j =>
        refine .inr (.inr ⟨j, rest, ?_, by rw [← nodeAt?_succ node, h]⟩)
        rw [show i + 1 + j = i + (j + 1) by omega]

end

section

variable {nodes : List Node} {x p : Place} {n : Node}

theorem mem_placed : (p, n) ∈ placed nodes x ↔ p = x ∧ nodeAt? nodes p = some n := by
  rw [placed, Option.mem_toList, Option.map_eq_some_iff]
  constructor
  · rintro ⟨node, h, same⟩
    obtain ⟨rfl, rfl⟩ := Prod.mk.inj same
    exact ⟨rfl, h⟩
  · rintro ⟨rfl, h⟩
    exact ⟨n, h, rfl⟩

theorem mem_descendants :
    (p, n) ∈ descendants nodes x ↔ ∃ i rest, p = x ++ i :: rest ∧ nodeAt? nodes p = some n := by
  rw [descendants, mem_underAll]
  constructor
  · rintro ⟨i, rest, rfl, h⟩
    rw [Nat.zero_add]
    exact ⟨i, rest, rfl, by rw [nodeAt?_append, h]⟩
  · rintro ⟨i, rest, rfl, h⟩
    exact ⟨i, rest, by rw [Nat.zero_add], by rw [← nodeAt?_append, h]⟩

theorem mem_selfAndBelow :
    (p, n) ∈ selfAndBelow nodes x ↔ x <+: p ∧ nodeAt? nodes p = some n := by
  rw [selfAndBelow, List.mem_append, mem_placed, mem_descendants]
  constructor
  · rintro (⟨rfl, h⟩ | ⟨i, rest, rfl, h⟩)
    · exact ⟨List.prefix_rfl, h⟩
    · exact ⟨List.prefix_append _ _, h⟩
  · rintro ⟨⟨rest, rfl⟩, h⟩
    cases rest with
    | nil => exact .inl ⟨List.append_nil x, h⟩
    | cons i rest => exact .inr ⟨i, rest, rfl, h⟩

theorem mem_placedChildren :
    (p, n) ∈ placedChildren nodes x ↔ ∃ i, p = x ++ [i] ∧ nodeAt? nodes p = some n := by
  rw [placedChildren, numbered, List.mem_mapIdx]
  constructor
  · rintro ⟨i, hi, same⟩
    obtain ⟨rfl, rfl⟩ := Prod.mk.inj same
    exact ⟨i, rfl, by rw [nodeAt?_append]; exact List.getElem?_eq_getElem hi⟩
  · rintro ⟨i, rfl, h⟩
    rw [nodeAt?_append] at h
    obtain ⟨hi, rfl⟩ := List.getElem?_eq_some_iff.mp (h : (childrenAt nodes x)[i]? = some n)
    exact ⟨i, hi, rfl⟩

end

/-! ### Names -/

/-- An element of the given name stands at a place. -/
def Named (nodes : List Node) (tag : String) (place : Place) : Prop :=
  ∃ node, nodeAt? nodes place = some node ∧ node.isNamed tag = true

/-- What stands at a place has a child of the given name. -/
def HasChildNamed (nodes : List Node) (tag : String) (place : Place) : Prop :=
  ∃ i, Named nodes tag (place ++ [i])

theorem hasChildNamed_iff {nodes : List Node} {place : Place} {node : Node}
    (h : nodeAt? nodes place = some node) (tag : String) :
    HasChildNamed nodes tag place ↔ node.children.any (Node.isNamed tag) = true := by
  have child (i : Nat) : nodeAt? nodes (place ++ [i]) = node.children[i]? := by
    rw [nodeAt?_append, childrenAt_of_node h]
    rfl
  simp only [HasChildNamed, Named, child, List.any_eq_true, List.mem_iff_getElem?]
  constructor
  · rintro ⟨i, c, hc, named⟩
    exact ⟨c, ⟨i, hc⟩, named⟩
  · rintro ⟨c, ⟨i, hc⟩, named⟩
    exact ⟨i, c, hc, named⟩

/-! ### Document order -/

def Earlier (a b : Place × Node) : Prop := Before a.1 b.1

mutual

theorem pairwise_under (place : Place) : ∀ node : Node, (under place node).Pairwise Earlier
  | .element _ _ children => pairwise_underAll place 0 children
  | .text _ | .comment _ | .instruction _ _ => by simp [under]

theorem pairwise_underAll (place : Place) (i : Nat) : ∀ nodes : List Node,
    (underAll place i nodes).Pairwise Earlier
  | [] => .nil
  | node :: nodes => by
    rw [underAll, List.cons_append, List.pairwise_cons, List.pairwise_append]
    refine ⟨?_, pairwise_under (place ++ [i]) node, pairwise_underAll place (i + 1) nodes, ?_⟩
    · rintro ⟨p, n⟩ h
      rcases List.mem_append.mp h with h | h
      · obtain ⟨k, rest, rfl, -⟩ := (mem_under _ p n node).mp h
        exact before_below _ k rest
      · obtain ⟨j, rest, rfl, -⟩ := (mem_underAll place p n _ nodes).mp h
        exact before_beside place (by omega) [] rest
    · rintro ⟨p, n⟩ h ⟨p', n'⟩ h'
      obtain ⟨k, rest, rfl, -⟩ := (mem_under _ p n node).mp h
      obtain ⟨j, rest', rfl, -⟩ := (mem_underAll place p' n' _ nodes).mp h'
      rw [List.append_assoc]
      exact before_beside place (by omega) _ rest'

end

theorem pairwise_selfAndBelow (nodes : List Node) (x : Place) :
    (selfAndBelow nodes x).Pairwise Earlier := by
  rw [selfAndBelow, List.pairwise_append]
  refine ⟨?_, pairwise_underAll x 0 _, ?_⟩
  · rw [placed]
    cases nodeAt? nodes x with
    | none => exact .nil
    | some node => exact List.pairwise_singleton _ _
  · rintro ⟨p, n⟩ h ⟨p', n'⟩ h'
    obtain ⟨i, rest, rfl, -⟩ := mem_descendants.mp h'
    obtain ⟨rfl, -⟩ := mem_placed.mp h
    exact before_below _ i rest

theorem pairwise_placedChildren (nodes : List Node) (x : Place) :
    (placedChildren nodes x).Pairwise Earlier := by
  rw [placedChildren, numbered, List.pairwise_iff_getElem]
  intro i j hi hj h
  rw [List.getElem_mapIdx, List.getElem_mapIdx]
  exact before_beside x h [] []

/-- Places in document order at and below a place are met in that order on the way through it. -/
theorem sublist_selfAndBelow {nodes : List Node} {x : Place} {places : List Place}
    (sorted : places.Pairwise Before)
    (h : ∀ place ∈ places, x <+: place ∧ ∃ node, nodeAt? nodes place = some node) :
    places.Sublist ((selfAndBelow nodes x).map Prod.fst) := by
  have whole : ((selfAndBelow nodes x).map Prod.fst).Pairwise Before :=
    List.pairwise_map.mpr (pairwise_selfAndBelow nodes x)
  refine List.sublist_of_subperm_of_pairwise (List.subperm_of_subset sorted.nodup ?_) sorted whole
  intro place hplace
  obtain ⟨below, node, hnode⟩ := h place hplace
  exact List.mem_map.mpr ⟨(place, node), mem_selfAndBelow.mpr ⟨below, hnode⟩, rfl⟩

end RaggedTables.Markup
