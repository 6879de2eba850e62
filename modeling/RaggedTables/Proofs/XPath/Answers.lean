import RaggedTables.Proofs.Markup.Tree
import RaggedTables.XPath.Evaluation

/-! The sets that path expressions come to. Steps, unions and identities arrange what they find, and
a predicate only leaves spots out. So a set is in document order, with each spot once, whatever the
expression; and since every axis stays inside the document, so does every set. -/

namespace RaggedTables.XPath

open Markup

namespace Spot

/-! ### The order of spots -/

theorem noLater_iff {a b : Spot} : a.noLater b = true ↔
    Before a.place b.place ∨
      a.place = b.place ∧ ∀ i, a.number = some i → ∃ j, b.number = some j ∧ i ≤ j := by
  rw [noLater, Before]
  cases order : comparePlaces a.place b.place with
  | lt => simp
  | gt =>
    have apart : a.place ≠ b.place := by
      intro same
      have self : compare b.place b.place = .eq := Std.ReflCmp.compare_self
      rw [same, comparePlaces_eq_compare, self] at order
      cases order
    simp [apart]
  | eq =>
    rw [comparePlaces_eq_compare] at order
    have same := Std.LawfulEqCmp.eq_of_compare order
    cases a.number with
    | none => simp [same]
    | some i =>
      cases b.number with
      | none => simp
      | some j => simp [same]

theorem noLater_trans (a b c : Spot) (first : a.noLater b = true) (second : b.noLater c = true) :
    a.noLater c = true := by
  rw [noLater_iff] at *
  rcases first with first | ⟨same, numbers⟩
  · rcases second with second | ⟨same', -⟩
    · exact .inl (first.trans second)
    · exact .inl (same' ▸ first)
  · rcases second with second | ⟨same', numbers'⟩
    · exact .inl (same ▸ second)
    · refine .inr ⟨same.trans same', fun i hi => ?_⟩
      obtain ⟨j, hj, le⟩ := numbers i hi
      obtain ⟨k, hk, le'⟩ := numbers' j hj
      exact ⟨k, hk, Nat.le_trans le le'⟩

theorem noLater_total (a b : Spot) : (a.noLater b || b.noLater a) = true := by
  rw [Bool.or_eq_true, noLater_iff, noLater_iff]
  by_cases same : a.place = b.place
  · cases ha : a.number with
    | none => exact .inl (.inr ⟨same, nofun⟩)
    | some i =>
      cases hb : b.number with
      | none => exact .inr (.inr ⟨same.symm, nofun⟩)
      | some j => rcases Nat.le_total i j with le | le <;> simp [same, le]
  · rcases Bool.or_eq_true_iff.mp (Markup.noLater_total a.place b.place) with le | le
    · exact .inl (.inl (before_of_noLater le same))
    · exact .inr (.inl (before_of_noLater le (Ne.symm same)))

theorem noLater_antisymm (a b : Spot) (first : a.noLater b = true) (second : b.noLater a = true) :
    a = b := by
  rw [noLater_iff] at *
  rcases first with first | ⟨same, numbers⟩
  · rcases second with second | ⟨same', -⟩
    · exact absurd rfl (first.trans second).ne
    · exact absurd same'.symm first.ne
  · rcases second with second | ⟨-, numbers'⟩
    · exact absurd same.symm second.ne
    · obtain ⟨place, number⟩ := a
      obtain ⟨place', number'⟩ := b
      obtain rfl : place = place' := same
      cases number with
      | none =>
        cases number' with
        | none => rfl
        | some j => simpa using numbers' j rfl
      | some i =>
        obtain ⟨j, hj, le⟩ := numbers i rfl
        obtain ⟨k, hk, le'⟩ := numbers' j hj
        obtain rfl : i = k := Option.some.inj hk
        rw [Nat.le_antisymm le le']
        exact congrArg (Spot.mk place) hj.symm

/-- A spot comes before another one in document order. -/
def Earlier (a b : Spot) : Prop := a.noLater b = true ∧ a ≠ b

theorem pairwise_arrange (spots : List Spot) : (arrange noLater spots).Pairwise Earlier :=
  pairwise_withoutRepeats noLater_antisymm
    (List.pairwise_mergeSort noLater_trans noLater_total spots)

/-! ### Spots of a document -/

/-- A spot is the document itself, a node of it or an attribute of one. -/
inductive IsIn (doc : List Node) : Spot → Prop
  | top : IsIn doc ⟨[], none⟩
  | node {place n} (found : nodeAt? doc place = some n) : IsIn doc ⟨place, none⟩
  | held {place n i a} (found : nodeAt? doc place = some n) (at_ : n.attributes[i]? = some a) :
      IsIn doc ⟨place, some i⟩

end Spot

variable {doc : List Node}

/-- What stands above a node of a document, up to the document. -/
theorem isIn_above {above below : Place} {n : Node} (h : nodeAt? doc (above ++ below) = some n) :
    Spot.IsIn doc ⟨above, none⟩ := by
  cases below with
  | nil =>
    rw [List.append_nil] at h
    exact .node h
  | cons i rest =>
    cases found : nodeAt? doc above with
    | some node => exact .node found
    | none =>
      cases above with
      | nil => exact .top
      | cons j above =>
        have nothing : childrenAt doc (j :: above) = [] := by
          rw [childrenAt, List.isEmpty_cons, if_neg Bool.false_ne_true, found]
          rfl
        rw [nodeAt?_append, nothing, nodeAt?_nil] at h
        cases h

theorem isIn_ofPlaced {found : List (Place × Node)} {spot : Spot}
    (nodes : ∀ entry ∈ found, nodeAt? doc entry.1 = some entry.2) (h : spot ∈ Spot.ofPlaced found) :
    spot.IsIn doc := by
  obtain ⟨entry, hentry, rfl⟩ := List.mem_map.mp h
  exact .node (nodes entry hentry)

theorem nodeAt?_of_child {place : Place} {entry : Place × Node}
    (h : entry ∈ placedChildren doc place) :
    nodeAt? doc entry.1 = some entry.2 := by
  obtain ⟨i, -, found⟩ := mem_placedChildren.mp h
  exact found

theorem nodeAt?_of_sibling {place : Place} {entry : Place × Node}
    (h : entry ∈ siblingsAfter doc place ∨ entry ∈ siblingsBefore doc place) :
    nodeAt? doc entry.1 = some entry.2 := by
  rw [siblingsAfter, siblingsBefore] at h
  by_cases empty : place.isEmpty = true
  · rw [if_pos empty, if_pos empty, or_self] at h
    cases h
  · rw [if_neg empty, if_neg empty] at h
    rcases h with h | h
    · exact nodeAt?_of_child (List.mem_of_mem_drop h)
    · exact nodeAt?_of_child (List.mem_of_mem_take h)

theorem isIn_spotsAbove {place : Place} {n : Node} (h : nodeAt? doc place = some n) {spot : Spot}
    (above : spot ∈ spotsAbove place) : spot.IsIn doc := by
  obtain ⟨k, -, rfl⟩ := List.mem_map.mp above
  rw [← List.take_append_drop k place] at h
  exact isIn_above h

theorem isIn_descendants {place : Place} {spot : Spot}
    (h : spot ∈ Spot.ofPlaced (descendants doc place)) : spot.IsIn doc := by
  refine isIn_ofPlaced (fun entry h => ?_) h
  obtain ⟨i, rest, -, found⟩ := mem_descendants.mp h
  exact found

theorem isIn_selfAndBelow {place : Place} {spot : Spot}
    (h : spot ∈ Spot.ofPlaced (selfAndBelow doc place)) : spot.IsIn doc :=
  isIn_ofPlaced (fun _ entry => (mem_selfAndBelow.mp entry).2) h

theorem isIn_nodesAfter {place : Place} {spot : Spot} (h : spot ∈ nodesAfter doc place) :
    spot.IsIn doc := by
  obtain ⟨k, -, hk⟩ := List.mem_flatMap.mp h
  obtain ⟨entry, -, hentry⟩ := List.mem_flatMap.mp hk
  exact isIn_selfAndBelow hentry

theorem isIn_nodesBefore {place : Place} {spot : Spot} (h : spot ∈ nodesBefore doc place) :
    spot.IsIn doc := by
  obtain ⟨k, -, hk⟩ := List.mem_flatMap.mp h
  obtain ⟨entry, -, hentry⟩ := List.mem_flatMap.mp hk
  exact isIn_selfAndBelow (List.mem_reverse.mp hentry)

/-- Above an attribute stands its element. -/
theorem isIn_up {start spot : Spot} (inside : start.IsIn doc)
    (h : spot ∈ if start.number.isNone then spotsAbove start.place
      else ⟨start.place, none⟩ :: spotsAbove start.place) : spot.IsIn doc := by
  cases inside with
  | top => simp [spotsAbove] at h
  | node found => exact isIn_spotsAbove found h
  | held found at_ =>
    rcases List.mem_cons.mp h with rfl | h
    · exact .node found
    · exact isIn_spotsAbove found h

theorem isIn_attributes {start spot : Spot} (inside : start.IsIn doc)
    (h : spot ∈ Axis.spots doc start .attribute) : spot.IsIn doc := by
  rw [Axis.spots] at h
  split at h
  · rename_i node hnode
    obtain ⟨i, hi, rfl⟩ := List.mem_map.mp h
    have found : nodeAt? doc start.place = some node := by
      cases inside with
      | top => cases hnode
      | node => exact hnode
      | held => cases hnode
    exact .held found (List.getElem?_eq_getElem (List.mem_range.mp hi))
  · cases h

/-- Every axis stays inside the document. -/
theorem isIn_spots {axis : Axis} {start spot : Spot} (inside : start.IsIn doc)
    (h : spot ∈ axis.spots doc start) : spot.IsIn doc := by
  cases axis with
  | ancestor => exact isIn_up inside h
  | ancestorOrSelf =>
    rcases List.mem_cons.mp h with rfl | h
    · exact inside
    · exact isIn_up inside h
  | parent => exact isIn_up inside (List.mem_of_mem_take h)
  | here => rwa [List.mem_singleton.mp h]
  | following => exact isIn_nodesAfter h
  | preceding => exact isIn_nodesBefore h
  | descendant => exact isIn_descendants (List.mem_ite_nil_right.mp h).2
  | descendantOrSelf =>
    rcases List.mem_cons.mp h with rfl | h
    · exact inside
    · exact isIn_descendants (List.mem_ite_nil_right.mp h).2
  | child => exact isIn_ofPlaced (fun _ => nodeAt?_of_child) (List.mem_ite_nil_right.mp h).2
  | followingSibling =>
    exact isIn_ofPlaced (fun _ h => nodeAt?_of_sibling (.inl h)) (List.mem_ite_nil_right.mp h).2
  | precedingSibling =>
    have reversed := List.mem_reverse.mp (List.mem_ite_nil_right.mp h).2
    exact isIn_ofPlaced (fun _ h => nodeAt?_of_sibling (.inr h)) reversed
  | «attribute» => exact isIn_attributes inside h
  | namespaces => cases h

/-! ### Predicates -/

theorem keepBy_sublist {predicate : Context → Option Answer} {found kept : List Spot}
    (h : keepBy predicate found = some kept) : kept.Sublist found := by
  have judged (n k : Nat) (spots : List Spot) (judged : List (Spot × Bool))
      (h : (spots.zipIdx k).mapM (fun entry =>
        (predicate ⟨entry.1, entry.2 + 1, n⟩).map fun answer =>
          (entry.1, keeps ⟨entry.1, entry.2 + 1, n⟩ answer)) = some judged) :
      judged.map Prod.fst = spots := by
    induction spots generalizing k judged with
    | nil =>
      obtain rfl : [] = judged := by simpa using h
      rfl
    | cons spot spots ih =>
      rw [List.zipIdx_cons, List.mapM_cons] at h
      obtain ⟨first, hfirst, h⟩ := Option.bind_eq_some_iff.mp h
      obtain ⟨more, hmore, h⟩ := Option.bind_eq_some_iff.mp h
      obtain ⟨answer, -, rfl⟩ := Option.map_eq_some_iff.mp hfirst
      obtain rfl : _ = judged := Option.some.inj h
      rw [List.map_cons, ih (k + 1) more hmore]
  rw [keepBy] at h
  split at h
  · rename_i all hall
    obtain rfl := Option.some.inj h
    rw [← judged _ _ _ _ hall]
    exact List.filter_sublist.map Prod.fst
  · cases h

theorem keepAll_sublist {predicates : List Expr} {found kept : List Spot}
    (h : keepAll? doc predicates found = some kept) : kept.Sublist found := by
  induction predicates generalizing found with
  | nil =>
    rw [keepAll?] at h
    rw [Option.some.inj h]
  | cons predicate rest ih =>
    rw [keepAll?] at h
    split at h
    · rename_i first hfirst
      exact (ih h).trans (keepBy_sublist hfirst)
    · cases h

theorem mem_of_mapM {α β : Type} {f : α → Option β} {items : List α} {results : List β}
    (h : items.mapM f = some results) {b : β} (hb : b ∈ results) : ∃ a ∈ items, f a = some b := by
  induction items generalizing results with
  | nil =>
    obtain rfl : [] = results := by simpa using h
    cases hb
  | cons a items ih =>
    rw [List.mapM_cons] at h
    obtain ⟨first, hfirst, h⟩ := Option.bind_eq_some_iff.mp h
    obtain ⟨more, hmore, h⟩ := Option.bind_eq_some_iff.mp h
    obtain rfl : first :: more = results := Option.some.inj h
    rcases List.mem_cons.mp hb with rfl | hb
    · exact ⟨a, List.mem_cons_self .., hfirst⟩
    · obtain ⟨c, hc, hf⟩ := ih hmore hb
      exact ⟨c, List.mem_cons_of_mem a hc, hf⟩

/-! ### Functions -/

theorem textFunction_ne_spots (name : String) (texts : List String) (found : List Spot) :
    textFunction? name texts ≠ some (.spots found) := by
  unfold textFunction?
  split <;> nofun

theorem spotsFunction_ne_spots (name : String) (spots found : List Spot) :
    spotsFunction? doc name spots ≠ some (.spots found) := by
  unfold spotsFunction?
  split <;> nofun

theorem numberFunction_ne_spots (name : String) (x : Float) (found : List Spot) :
    numberFunction? name x ≠ some (.spots found) := by
  unfold numberFunction?
  split <;> nofun

/-- Every function but the look-up of identities comes to a text, a number or a truth value. -/
theorem functionValue_spots {context : Context} {name : String} {arguments : List Answer}
    {found : List Spot} (h : functionValue? doc context name arguments = some (.spots found)) :
    ∃ answer, found = identifiedAll doc answer := by
  unfold functionValue? at h
  simp only at h
  split at h <;> try cases h
  · exact ⟨_, rfl⟩
  · split at h
    · rename_i answer text
      obtain rfl := Option.some.inj h
      exact absurd text (textFunction_ne_spots _ _ found)
    · split at h
      · split at h
        · rename_i answer value
          obtain rfl := Option.some.inj h
          exact absurd value (spotsFunction_ne_spots _ _ found)
        · exact absurd h (numberFunction_ne_spots _ _ found)
      · exact absurd h (numberFunction_ne_spots _ _ found)
      · cases h

theorem isIn_identifiedAll {answer : Answer} {spot : Spot} (h : spot ∈ identifiedAll doc answer) :
    spot.IsIn doc := by
  obtain ⟨word, -, hword⟩ := List.mem_filterMap.mp (mem_arrange.mp h)
  obtain ⟨entry, hentry, rfl⟩ := Option.map_eq_some_iff.mp hword
  obtain ⟨i, rest, -, found⟩ := mem_descendants.mp (List.mem_of_find?_eq_some hentry)
  exact .node found

theorem apply_spots {operator : Operator} {a b : Answer} {found : List Spot}
    (h : operator.apply doc a b = some (.spots found)) :
    ∃ x y, a = .spots x ∧ b = .spots y ∧ found = arrange Spot.noLater (x ++ y) := by
  cases operator <;> try cases h
  cases a <;> try cases h
  cases b <;> try cases h
  exact ⟨_, _, rfl, rfl, rfl⟩

/-- Only a union comes to a set. The two logical operators have equations of their own, since they
may not ask for `b`. -/
theorem operation_spots {context : Context} {operator : Operator} {a b : Expr} {found : List Spot}
    (h : (Expr.operation operator a b).evaluate? doc context = some (.spots found)) :
    ∃ x y, a.evaluate? doc context = some (.spots x) ∧ b.evaluate? doc context = some (.spots y) ∧
      found = arrange Spot.noLater (x ++ y) := by
  by_cases or : operator = .or
  · subst or
    rw [Expr.evaluate?] at h
    split at h
    · cases h
    · split at h
      · cases h
      · obtain ⟨v, -, same⟩ := Option.map_eq_some_iff.mp h
        cases same
  by_cases and : operator = .and
  · subst and
    rw [Expr.evaluate?] at h
    split at h
    · cases h
    · split at h
      · obtain ⟨v, -, same⟩ := Option.map_eq_some_iff.mp h
        cases same
      · cases h
  rw [Expr.evaluate?] at h
  · split at h
    · rename_i v w first second
      obtain ⟨x, y, rfl, rfl, same⟩ := apply_spots h
      exact ⟨x, y, first, second, same⟩
    · cases h
  · exact or
  · exact and

/-! ### Expressions -/

/-- A set of spots of a document, in order and each once. -/
structure IsSet (doc : List Node) (found : List Spot) : Prop where
  order : found.Pairwise Spot.Earlier
  inside : ∀ spot ∈ found, spot.IsIn doc

theorem isSet_singleton {spot : Spot} (inside : spot.IsIn doc) : IsSet doc [spot] :=
  ⟨List.pairwise_singleton _ _, by simpa using inside⟩

theorem isSet_arrange {found : List Spot} (inside : ∀ spot ∈ found, spot.IsIn doc) :
    IsSet doc (arrange Spot.noLater found) :=
  ⟨Spot.pairwise_arrange found, fun spot h => inside spot (mem_arrange.mp h)⟩

theorem isSet_identifiedAll (answer : Answer) : IsSet doc (identifiedAll doc answer) :=
  ⟨Spot.pairwise_arrange _, fun _ => isIn_identifiedAll⟩

theorem IsSet.union {x y : List Spot} (first : IsSet doc x) (second : IsSet doc y) :
    IsSet doc (arrange Spot.noLater (x ++ y)) := by
  refine isSet_arrange fun spot hspot => ?_
  rcases List.mem_append.mp hspot with hspot | hspot
  · exact first.inside spot hspot
  · exact second.inside spot hspot

theorem IsSet.step {found : List Spot} (set : IsSet doc found) {axis : Axis} {test : NodeTest}
    {predicates : List Expr} {kept : List (List Spot)}
    (h : (found.mapM fun spot =>
      keepAll? doc predicates ((axis.spots doc spot).filter fun s => test.passes doc axis s)) =
        some kept) : IsSet doc (arrange Spot.noLater kept.flatten) := by
  refine isSet_arrange fun spot hspot => ?_
  obtain ⟨group, hgroup, hspot⟩ := List.mem_flatten.mp hspot
  obtain ⟨from_, hfrom, hall⟩ := mem_of_mapM h hgroup
  have passed := (keepAll_sublist hall).subset hspot
  exact isIn_spots (set.inside from_ hfrom) (List.mem_filter.mp passed).1

theorem IsSet.keepBy {found kept : List Spot} (set : IsSet doc found)
    {predicate : Context → Option Answer} (h : XPath.keepBy predicate found = some kept) :
    IsSet doc kept :=
  have sublist := keepBy_sublist h
  ⟨set.order.sublist sublist, fun spot hspot => set.inside spot (sublist.subset hspot)⟩

/-- What an expression comes to, where it comes to a set, is a set of the document. -/
theorem isSet_evaluate {context : Context} (inside : context.spot.IsIn doc) :
    ∀ (expr : Expr) (found : List Spot),
      expr.evaluate? doc context = some (.spots found) → IsSet doc found
  | .root, found, h => by
    rw [Expr.evaluate?] at h
    obtain rfl := Answer.spots.inj (Option.some.inj h)
    exact isSet_singleton .top
  | .here, found, h => by
    rw [Expr.evaluate?] at h
    obtain rfl := Answer.spots.inj (Option.some.inj h)
    exact isSet_singleton inside
  | .number _, found, h | .text _, found, h | .unknown, found, h => by
    rw [Expr.evaluate?] at h
    cases h
  | .call name arguments, found, h => by
    rw [Expr.evaluate?] at h
    obtain ⟨answers, -, value⟩ := Option.bind_eq_some_iff.mp h
    obtain ⟨answer, rfl⟩ := functionValue_spots value
    exact isSet_identifiedAll answer
  | .negative a, found, h => by
    rw [Expr.evaluate?] at h
    obtain ⟨v, -, same⟩ := Option.map_eq_some_iff.mp h
    cases same
  | .operation operator a b, found, h => by
    obtain ⟨x, y, first, second, rfl⟩ := operation_spots h
    exact (isSet_evaluate inside a x first).union (isSet_evaluate inside b y second)
  | .step start axis test predicates, found, h => by
    rw [Expr.evaluate?] at h
    split at h
    · rename_i spots hspots
      split at h
      · cases h
      · obtain ⟨kept, hkept, same⟩ := Option.map_eq_some_iff.mp h
        obtain rfl := Answer.spots.inj same
        exact (isSet_evaluate inside start spots hspots).step hkept
    · cases h
  | .filter nodes predicate, found, h => by
    rw [Expr.evaluate?] at h
    split at h
    · rename_i spots hspots
      obtain ⟨kept, hkept, same⟩ := Option.map_eq_some_iff.mp h
      obtain rfl := Answer.spots.inj same
      exact (isSet_evaluate inside nodes spots hspots).keepBy hkept
    · cases h

end RaggedTables.XPath
