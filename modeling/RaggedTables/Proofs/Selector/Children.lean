import Mathlib.Data.Set.Card
import RaggedTables.Proofs.Markup.Order
import RaggedTables.Proofs.Markup.Tree
import RaggedTables.Proofs.Selector.Chains
import RaggedTables.Selector.Matching

/-! What a chain of compounds that are joined by `>` selects. An element matches the chain when it
meets the last compound and its parent matches the compounds before it, so where nothing matches the
front of a chain nothing matches the whole. -/

namespace RaggedTables.Selector

open Markup

variable {nodes : List Node} {root place : Place} {c : Compound} {cs : List Compound}

/-! ### Matches -/

/-- An element that meets a compound. -/
def Meets (nodes : List Node) (c : Compound) (place : Place) : Prop :=
  ∃ node, nodeAt? nodes place = some node ∧ c.holds nodes place node

/-- A place that a compound picks among some: an element there meets it, and if it asks for the
scope, no earlier one does. -/
structure Picked (nodes : List Node) (c : Compound) (among : Place → Prop)
    (place : Place) : Prop where
  mem : among place
  meets : Meets nodes c place
  first : c.scope → ∀ other, among other → Meets nodes c other → ¬ Before other place

/-- What compounds that are joined by `>` match: the first one is picked at the root or below it,
and each other one among the children of what those before it match. -/
inductive Matched (nodes : List Node) (root : Place) : List Compound → Place → Prop
  | head {c : Compound} {place : Place} (picked : Picked nodes c (root <+: ·) place) :
      Matched nodes root [c] place
  | child {cs : List Compound} {c : Compound} {parent place : Place}
      (above : Matched nodes root cs parent)
      (picked : Picked nodes c (fun place => ∃ i, place = parent ++ [i]) place) :
      Matched nodes root (cs ++ [c]) place

theorem Matched.ne_nil (h : Matched nodes root cs place) : cs ≠ [] := by
  cases h <;> simp

theorem matched_singleton : Matched nodes root [c] place ↔ Picked nodes c (root <+: ·) place := by
  constructor
  · intro h
    generalize hcs : [c] = all at h
    cases h with
    | head picked =>
      cases hcs
      exact picked
    | @child cs _ _ _ above =>
      obtain rfl : [] = cs := (List.append_inj' ((List.nil_append _).trans hcs) rfl).1
      exact absurd rfl above.ne_nil
  · exact .head

theorem matched_concat (nonempty : cs ≠ []) :
    Matched nodes root (cs ++ [c]) place ↔
      ∃ parent, Matched nodes root cs parent ∧
        Picked nodes c (fun place => ∃ i, place = parent ++ [i]) place := by
  constructor
  · intro h
    generalize hcs : cs ++ [c] = all at h
    cases h with
    | head picked =>
      exact absurd (List.append_inj' (hcs.trans (List.nil_append _).symm) rfl).1 nonempty
    | child above picked =>
      obtain ⟨rfl, same⟩ := List.append_inj' hcs rfl
      cases same
      exact ⟨_, above, picked⟩
  · rintro ⟨parent, above, picked⟩
    exact .child above picked

/-- Where something matches a whole chain, something matches each front of it. -/
theorem Matched.exists_front {cs' : List Compound} (h : Matched nodes root (cs ++ cs') place)
    (nonempty : cs ≠ []) : ∃ above, Matched nodes root cs above := by
  induction cs' using List.reverseRecOn generalizing place with
  | nil => exact ⟨place, by rwa [List.append_nil] at h⟩
  | append_singleton cs' c ih =>
    rw [← List.append_assoc] at h
    obtain ⟨parent, above, -⟩ := (matched_concat (by simp [nonempty])).mp h
    exact ih above

/-! ### Selecting -/

/-- In a list in order the first item is the one that no other comes before. -/
theorem mem_take_one {places : List Place} (sorted : places.Pairwise Before) :
    place ∈ places.take 1 ↔ place ∈ places ∧ ∀ other ∈ places, ¬ Before other place := by
  cases places with
  | nil => simp
  | cons first rest =>
    rw [List.take_succ_cons, List.take_zero, List.mem_singleton]
    constructor
    · rintro rfl
      refine ⟨List.mem_cons_self .., fun other hother earlier => ?_⟩
      obtain rfl | later := List.mem_cons.mp hother
      · exact earlier.ne rfl
      · exact (earlier.trans (List.rel_of_pairwise_cons sorted later)).ne rfl
    · rintro ⟨hplace, first_of_all⟩
      obtain rfl | later := List.mem_cons.mp hplace
      · rfl
      · exact absurd (List.rel_of_pairwise_cons sorted later)
          (first_of_all first (List.mem_cons_self ..))

theorem mem_among {found : List (Place × Node)} {among : Place → Prop}
    (sorted : found.Pairwise Earlier)
    (mem : ∀ place node, Compound.holds nodes c place node →
      ((place, node) ∈ found ↔ among place ∧ nodeAt? nodes place = some node)) :
    place ∈ c.among nodes found ↔ Picked nodes c among place := by
  let fit := (found.filter fun entry => c.holds nodes entry.1 entry.2).map Prod.fst
  have mem_fit (place : Place) : place ∈ fit ↔ among place ∧ Meets nodes c place := by
    simp only [fit, List.mem_map, List.mem_filter, Prod.exists]
    constructor
    · rintro ⟨_, node, ⟨hmem, holds⟩, rfl⟩
      obtain ⟨hamong, here⟩ := (mem _ node holds).mp hmem
      exact ⟨hamong, node, here, holds⟩
    · rintro ⟨hamong, node, here, holds⟩
      exact ⟨place, node, ⟨(mem place node holds).mpr ⟨hamong, here⟩, holds⟩, rfl⟩
  have sorted_fit : fit.Pairwise Before := List.pairwise_map.mpr (sorted.filter _)
  have places : c.among nodes found = if c.scope then fit.take 1 else fit := by
    rw [Compound.among]
    split
    · rw [List.map_take]
    · rfl
  rw [places]
  split
  · rename_i scope
    rw [mem_take_one sorted_fit, mem_fit]
    constructor
    · rintro ⟨⟨hamong, meets⟩, first⟩
      exact ⟨hamong, meets, fun _ other hamong meets =>
        first other ((mem_fit other).mpr ⟨hamong, meets⟩)⟩
    · rintro ⟨hamong, meets, first⟩
      refine ⟨⟨hamong, meets⟩, fun other hother => ?_⟩
      obtain ⟨hamong', meets'⟩ := (mem_fit other).mp hother
      exact first scope other hamong' meets'
  · rename_i scope
    rw [mem_fit]
    exact ⟨fun ⟨hamong, meets⟩ => ⟨hamong, meets, fun h => absurd h scope⟩,
      fun h => ⟨h.mem, h.meets⟩⟩

/-- What meets a compound is an element. -/
theorem isElement_of_holds {node : Node} (h : c.holds nodes place node) : node.isElement := by
  rw [Compound.holds, Bool.and_eq_true] at h
  cases node with
  | element => rfl
  | _ => cases tag : c.tag <;> simp [tag, fitsTag, Node.isElement, Node.isNamed, Node.tag?] at h

theorem mem_among_selfAndBelow :
    place ∈ c.among nodes (selfAndBelow nodes root) ↔ Picked nodes c (root <+: ·) place :=
  mem_among (pairwise_selfAndBelow nodes root) fun _ _ _ => mem_selfAndBelow

theorem mem_among_children {parent : Place} :
    place ∈ c.among nodes (Combinator.child.step nodes parent) ↔
      Picked nodes c (fun place => ∃ i, place = parent ++ [i]) place := by
  refine mem_among ((pairwise_placedChildren nodes parent).filter _) fun place node holds => ?_
  rw [Combinator.step, elementsOf, List.mem_filter, mem_placedChildren]
  simp [isElement_of_holds holds]

theorem follow_append (links links' : List (Combinator × Compound)) (places : List Place) :
    follow nodes (links ++ links') places = follow nodes links' (follow nodes links places) := by
  induction links generalizing places with
  | nil => rfl
  | cons link links ih => exact ih _

theorem mem_select_childChain :
    place ∈ (childChain c cs).select nodes root ↔ Matched nodes root (c :: cs) place := by
  induction cs using List.reverseRecOn generalizing place with
  | nil => exact mem_among_selfAndBelow.trans matched_singleton.symm
  | append_singleton cs last ih =>
    have front : (c :: cs) ≠ [] := List.cons_ne_nil c cs
    rw [Chain.select, childChain, List.map_append, follow_append]
    rw [← List.cons_append, matched_concat front]
    simp only [List.map_cons, List.map_nil, follow, mem_inOrder, List.mem_flatMap,
      mem_among_children]
    exact exists_congr fun parent => and_congr_left fun _ => ih

theorem nodup_select (selector : Selector) : (selector.select nodes root).Nodup :=
  (pairwise_inOrder _).nodup

/-- How many elements a chain selects is how many match it. -/
theorem encard_matched (c : Compound) (cs : List Compound) :
    {place | Matched nodes root (c :: cs) place}.encard =
      (Selector.select nodes [childChain c cs] root).length := by
  have mem (place : Place) : place ∈ Selector.select nodes [childChain c cs] root ↔
      Matched nodes root (c :: cs) place := by
    rw [RaggedTables.Selector.select, mem_inOrder, List.flatMap_cons, List.flatMap_nil,
      List.append_nil, mem_select_childChain]
  have set : {place | Matched nodes root (c :: cs) place} =
      ((Selector.select nodes [childChain c cs] root).toFinset : Set Place) := by
    ext place
    simp [mem]
  rw [set, Set.encard_coe_eq_coe_finsetCard, List.toFinset_card_of_nodup (nodup_select _)]

end RaggedTables.Selector
