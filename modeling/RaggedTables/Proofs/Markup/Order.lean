import Mathlib.Data.List.Sort
import RaggedTables.Markup.Order

/-! Places in document order. The order is lexicographic, so what stands above comes before what
stands below, and arranged places come one after the other, each once. -/

namespace RaggedTables.Markup

/-- A place comes before another in document order. -/
def Before (a b : Place) : Prop := comparePlaces a b = .lt

instance : DecidableRel Before := fun a b => inferInstanceAs (Decidable (comparePlaces a b = .lt))

theorem comparePlaces_eq_compare (a b : Place) : comparePlaces a b = compare a b := by
  induction a generalizing b with
  | nil => cases b <;> rfl
  | cons i a ih =>
    cases b with
    | nil => rfl
    | cons j b =>
      rw [comparePlaces, List.compare_cons_cons, ih]
      rcases Nat.lt_trichotomy i j with h | rfl | h
      · rw [if_pos h, Nat.compare_eq_lt.mpr h]
        rfl
      · rw [if_neg (Nat.lt_irrefl i), if_neg (Nat.lt_irrefl i), Nat.compare_eq_eq.mpr rfl]
        rfl
      · rw [if_neg (Nat.lt_asymm h), if_pos h, Nat.compare_eq_gt.mpr h]
        rfl

/-! ### The order -/

instance : Std.Irrefl Before where
  irrefl a h := by
    have same : compare a a = .eq := Std.ReflCmp.compare_self
    rw [Before, comparePlaces_eq_compare, same] at h
    cases h

theorem Before.trans {a b c : Place} (first : Before a b) (second : Before b c) : Before a c := by
  simp only [Before, comparePlaces_eq_compare] at *
  exact Std.TransCmp.lt_trans first second

theorem Before.ne {a b : Place} (h : Before a b) : a ≠ b := by
  rintro rfl
  exact Std.Irrefl.irrefl a h

instance : Std.Antisymm Before where
  antisymm _ _ first second := absurd rfl (first.trans second).ne

theorem before_of_noLater {a b : Place} (h : noLater a b = true) (ne : a ≠ b) : Before a b := by
  rw [noLater] at h
  cases order : comparePlaces a b with
  | lt => exact order
  | eq =>
    rw [comparePlaces_eq_compare] at order
    exact absurd (Std.LawfulEqCmp.eq_of_compare order) ne
  | gt => simp [order] at h

theorem noLater_eq_isLE (a b : Place) : noLater a b = (compare a b).isLE := by
  rw [noLater, comparePlaces_eq_compare]
  cases compare a b <;> rfl

theorem noLater_trans (a b c : Place) (first : noLater a b = true) (second : noLater b c = true) :
    noLater a c = true := by
  rw [noLater_eq_isLE] at *
  exact Std.TransCmp.isLE_trans first second

theorem noLater_total (a b : Place) : (noLater a b || noLater b a) = true := by
  have swap : compare b a = (compare a b).swap := Std.OrientedCmp.eq_swap
  rw [noLater_eq_isLE, noLater_eq_isLE, swap]
  cases compare a b <;> rfl

/-! ### Above and below -/

/-- The way that two places share plays no part in their order. -/
theorem before_append_iff (front a b : Place) : Before (front ++ a) (front ++ b) ↔ Before a b := by
  induction front with
  | nil => rfl
  | cons i front ih =>
    rw [← ih]
    simp [Before, comparePlaces]

theorem before_below (place : Place) (i : Nat) (rest : Place) :
    Before place (place ++ i :: rest) := by
  have h := (before_append_iff place [] (i :: rest)).mpr rfl
  rwa [List.append_nil] at h

/-- What stands at or below an earlier child comes before what stands at or below a later one. -/
theorem before_beside (place : Place) {i j : Nat} (h : i < j) (a b : Place) :
    Before (place ++ i :: a) (place ++ j :: b) := by
  rw [before_append_iff, Before, comparePlaces, if_pos h]

/-! ### Arranging -/

section Arranging

variable {α β : Type} [DecidableEq α] [DecidableEq β]

theorem mem_withoutRepeats {a : α} {items : List α} : a ∈ withoutRepeats items ↔ a ∈ items := by
  fun_induction withoutRepeats items with
  | case1 b rest ih =>
    rw [ih]
    simp
  | case2 b c rest _ ih => rw [List.mem_cons, ih, List.mem_cons (a := a) (b := b)]
  | case3 items => rfl

/-- Neighbours that differ stay apart when the list is in order. -/
theorem pairwise_withoutRepeats {le : α → α → Bool}
    (antisymm : ∀ a b, le a b = true → le b a = true → a = b) {items : List α}
    (sorted : items.Pairwise fun a b => le a b = true) :
    (withoutRepeats items).Pairwise fun a b => le a b = true ∧ a ≠ b := by
  fun_induction withoutRepeats items with
  | case1 b rest ih => exact ih sorted.of_cons
  | case2 a b rest ne ih =>
    refine List.pairwise_cons.mpr ⟨fun c hc => ?_, ih sorted.of_cons⟩
    have later := List.rel_of_pairwise_cons sorted (mem_withoutRepeats.mp hc)
    refine ⟨later, ?_⟩
    rintro rfl
    have first := List.rel_of_pairwise_cons sorted (List.mem_cons_self ..)
    rcases List.mem_cons.mp (mem_withoutRepeats.mp hc) with same | hrest
    · exact ne same
    · exact ne (antisymm _ _ first (List.rel_of_pairwise_cons sorted.of_cons hrest))
  | case3 items neighbours =>
    cases items with
    | nil => exact .nil
    | cons a items =>
      cases items with
      | nil => exact List.pairwise_singleton _ _
      | cons b rest => exact absurd rfl (neighbours a b rest)

theorem mem_arrange {le : α → α → Bool} {a : α} {items : List α} :
    a ∈ arrange le items ↔ a ∈ items := by
  rw [arrange, mem_withoutRepeats, List.mem_mergeSort]

theorem withoutRepeats_of_pairwise {items : List α} (apart : items.Pairwise (· ≠ ·)) :
    withoutRepeats items = items := by
  fun_induction withoutRepeats items with
  | case1 b rest => exact absurd rfl (List.rel_of_pairwise_cons apart (List.mem_cons_self ..))
  | case2 a b rest _ ih => rw [ih apart.of_cons]
  | case3 items => rfl

theorem arrange_of_pairwise {le : α → α → Bool} {items : List α}
    (sorted : items.Pairwise fun a b => le a b = true ∧ a ≠ b) : arrange le items = items := by
  rw [arrange, List.mergeSort_of_pairwise (sorted.imp And.left),
    withoutRepeats_of_pairwise (sorted.imp And.right)]

theorem withoutRepeats_map {f : α → β} (inj : Function.Injective f) (items : List α) :
    withoutRepeats (items.map f) = (withoutRepeats items).map f := by
  fun_induction withoutRepeats items with
  | case1 b rest ih =>
    rw [← ih]
    simp [withoutRepeats]
  | case2 a b rest ne ih =>
    have apart : f a ≠ f b := fun h => ne (inj h)
    rw [List.map_cons, List.map_cons, withoutRepeats, if_neg apart, ← List.map_cons, ih,
      List.map_cons]
  | case3 items neighbours =>
    cases items with
    | nil => rfl
    | cons a items =>
      cases items with
      | nil => rfl
      | cons b rest => exact absurd rfl (neighbours a b rest)

theorem arrange_map {le : α → α → Bool} {le' : β → β → Bool} {f : α → β}
    (inj : Function.Injective f) (agree : ∀ a b, le a b = le' (f a) (f b)) (items : List α) :
    arrange le' (items.map f) = (arrange le items).map f := by
  rw [arrange, arrange, ← withoutRepeats_map inj,
    List.map_mergeSort (s := le') fun a _ b _ => agree a b]

end Arranging

@[simp] theorem mem_inOrder {place : Place} {places : List Place} :
    place ∈ inOrder places ↔ place ∈ places := mem_arrange

theorem pairwise_inOrder (places : List Place) : (inOrder places).Pairwise Before := by
  have sorted := List.pairwise_mergeSort noLater_trans noLater_total places
  have antisymm : ∀ a b, noLater a b = true → noLater b a = true → a = b := by
    intro a b first second
    by_contra ne
    have loop := (before_of_noLater first ne).trans (before_of_noLater second (Ne.symm ne))
    exact loop.ne rfl
  refine (pairwise_withoutRepeats antisymm sorted).imp ?_
  rintro a b ⟨le, ne⟩
  exact before_of_noLater le ne

/-- Places in order are fixed by which places they are. -/
theorem eq_of_mem_iff {first second : List Place} (sorted : first.Pairwise Before)
    (sorted' : second.Pairwise Before) (h : ∀ place, place ∈ first ↔ place ∈ second) :
    first = second := List.Pairwise.eq_of_mem_iff sorted sorted' h

theorem inOrder_eq {items places : List Place} (sorted : places.Pairwise Before)
    (same : ∀ place, place ∈ items ↔ place ∈ places) : inOrder items = places :=
  eq_of_mem_iff (pairwise_inOrder items) sorted fun place => mem_inOrder.trans (same place)

end RaggedTables.Markup
