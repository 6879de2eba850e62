import RaggedTables.Proofs.Markup.Tree
import RaggedTables.XPath.Evaluation

/-! What path expressions find. An expression of steps finds places in document order, each once, so
what it finds is fixed by which places these are; a step leads on from each place found, and a
predicate keeps those places at which it is true. -/

namespace RaggedTables.XPath

open Markup

def spotsAt (places : List Place) : List Spot := places.map fun place => ⟨place, none⟩

/-- An expression finds the places with a property, in document order. -/
def Finds (doc : List Node) (context : Context) (expr : Expr) (P : Place → Prop) : Prop :=
  ∃ places, expr.evaluate? doc context = some (.spots (spotsAt places)) ∧
    places.Pairwise Before ∧ ∀ place, place ∈ places ↔ P place

/-- A predicate is true at the places with a property, in whatever position. -/
def Judges (doc : List Node) (predicate : Expr) (K : Place → Prop) : Prop :=
  ∀ place, ∃ b : Bool, (b = true ↔ K place) ∧ ∀ position size,
    predicate.evaluate? doc ⟨⟨place, none⟩, position, size⟩ = some (.truth b)

/-- Predicates keep the places with a property. -/
def Keep (doc : List Node) (predicates : List Expr) (K : Place → Prop) : Prop :=
  ∀ places, ∃ kept, keepAll? doc predicates (spotsAt places) = some (spotsAt kept) ∧
    ∀ place, place ∈ kept ↔ place ∈ places ∧ K place

/-- From a place an axis and a test lead to the places in a relation to it. -/
def Leads (doc : List Node) (axis : Axis) (test : NodeTest) (R : Place → Place → Prop) : Prop :=
  ∀ place, ∃ next,
    (axis.spots doc ⟨place, none⟩).filter (fun spot => test.passes doc axis spot) = spotsAt next ∧
      ∀ p, p ∈ next ↔ R place p

section

variable {doc : List Node} {context : Context}

/-! ### Sets of spots -/

theorem arrange_spotsAt (places : List Place) :
    arrange Spot.noLater (spotsAt places) = spotsAt (inOrder places) := by
  have inj : Function.Injective fun place : Place => (⟨place, none⟩ : Spot) := by
    intro a b h
    exact congrArg Spot.place h
  refine arrange_map inj (fun a b => ?_) places
  rw [Markup.noLater, Spot.noLater]
  cases comparePlaces a b <;> rfl

theorem Finds.congr {expr : Expr} {P Q : Place → Prop} (h : Finds doc context expr P)
    (same : ∀ place, P place ↔ Q place) : Finds doc context expr Q := by
  obtain ⟨places, value, sorted, mem⟩ := h
  exact ⟨places, value, sorted, fun place => (mem place).trans (same place)⟩

/-- What is found is fixed by which places have the property. -/
theorem Finds.evaluate {expr : Expr} {P : Place → Prop} (h : Finds doc context expr P)
    {places : List Place} (sorted : places.Pairwise Before)
    (mem : ∀ place, place ∈ places ↔ P place) :
    expr.evaluate? doc context = some (.spots (spotsAt places)) := by
  obtain ⟨found, value, sorted', mem'⟩ := h
  have same := eq_of_mem_iff sorted' sorted fun place => (mem' place).trans (mem place).symm
  rw [value, same]

/-! ### Predicates -/

theorem keepBy_spotsAt {predicate : Context → Option Answer} {test : Place → Bool}
    (judge : ∀ place position size,
      predicate ⟨⟨place, none⟩, position, size⟩ = some (.truth (test place)))
    (places : List Place) :
    keepBy predicate (spotsAt places) = some (spotsAt (places.filter test)) := by
  have judged (n k : Nat) : ((spotsAt places).zipIdx k).mapM (fun entry =>
      (predicate ⟨entry.1, entry.2 + 1, n⟩).map fun answer =>
        (entry.1, keeps ⟨entry.1, entry.2 + 1, n⟩ answer)) =
      some (places.map fun place => (⟨place, none⟩, test place)) := by
    induction places generalizing k with
    | nil => rfl
    | cons place places ih =>
      have rest := ih (k + 1)
      rw [spotsAt] at rest ⊢
      rw [List.map_cons, List.zipIdx_cons, List.mapM_cons, judge, rest]
      rfl
  have kept : ((places.map fun place => ((⟨place, none⟩ : Spot), test place)).filter Prod.snd).map
      Prod.fst = spotsAt (places.filter test) := by
    rw [List.filter_map, List.map_map]
    rfl
  rw [keepBy]
  simp only [judged, kept]

theorem Keep.all : Keep doc [] fun _ => True := by
  intro places
  refine ⟨places, ?_, fun place => (and_iff_left trivial).symm⟩
  rw [keepAll?]

theorem Judges.keep {predicate : Expr} {K : Place → Prop} (h : Judges doc predicate K) :
    Keep doc [predicate] K := by
  intro places
  choose test truth value using h
  refine ⟨places.filter test, ?_, fun place => ?_⟩
  · rw [keepAll?, keepBy_spotsAt value]
    simp only [keepAll?]
  · rw [List.mem_filter, truth]

theorem toTruth_spotsAt (places : List Place) :
    (Answer.spots (spotsAt places)).toTruth = true ↔ ∃ place, place ∈ places := by
  cases places with
  | nil => simp [Answer.toTruth, spotsAt]
  | cons place places => simp [Answer.toTruth, spotsAt]

theorem Judges.not {expr : Expr} {R : Place → Place → Prop}
    (found : ∀ place position size, Finds doc ⟨⟨place, none⟩, position, size⟩ expr (R place)) :
    Judges doc (.call "not" [expr]) fun place => ¬ ∃ p, R place p := by
  classical
  intro place
  refine ⟨decide (¬ ∃ p, R place p), decide_eq_true_iff, fun position size => ?_⟩
  obtain ⟨places, value, -, mem⟩ := found place position size
  have truth : (Answer.spots (spotsAt places)).toTruth = decide (∃ p, R place p) := by
    rw [Bool.eq_iff_iff, toTruth_spotsAt, decide_eq_true_iff]
    exact exists_congr mem
  rw [Expr.evaluate?, evaluateAll?, value, evaluateAll?]
  simp only [Option.bind_some, functionValue?, truth, decide_not, List.isEmpty_cons,
    Bool.false_and, if_neg Bool.false_ne_true]

theorem Judges.or {a b : Expr} {R : Place → Place → Prop} {K : Place → Prop}
    (found : ∀ place position size, Finds doc ⟨⟨place, none⟩, position, size⟩ a (R place))
    (h : Judges doc b K) :
    Judges doc (.operation .or a b) fun place => (∃ p, R place p) ∨ K place := by
  intro place
  obtain ⟨other, truth, value'⟩ := h place
  by_cases any : ∃ p, R place p
  · refine ⟨true, iff_of_true rfl (.inl any), fun position size => ?_⟩
    obtain ⟨places, value, -, mem⟩ := found place position size
    have holds := (toTruth_spotsAt places).mpr ((exists_congr mem).mpr any)
    rw [Expr.evaluate?, value]
    simp only [if_pos holds]
  · refine ⟨other, by simp only [truth, any, false_or], fun position size => ?_⟩
    obtain ⟨places, value, -, mem⟩ := found place position size
    have fails : ¬ (Answer.spots (spotsAt places)).toTruth = true := fun h =>
      any ((exists_congr mem).mp ((toTruth_spotsAt places).mp h))
    rw [Expr.evaluate?, value]
    simp only [if_neg fails, value', Option.map_some]
    rfl

/-! ### Steps -/

theorem Finds.here (x : Place) (position size : Nat) :
    Finds doc ⟨⟨x, none⟩, position, size⟩ .here (· = x) := by
  refine ⟨[x], ?_, List.pairwise_singleton _ _, fun place => List.mem_singleton⟩
  rw [Expr.evaluate?]
  rfl

theorem mapM_spotsAt {f : Spot → Option (List Spot)} {next : Place → List Place}
    (h : ∀ place, f ⟨place, none⟩ = some (spotsAt (next place))) (places : List Place) :
    (spotsAt places).mapM f = some (places.map fun place => spotsAt (next place)) := by
  induction places with
  | nil => rfl
  | cons place places ih =>
    rw [spotsAt, List.map_cons, List.mapM_cons, h place]
    rw [spotsAt] at ih
    rw [ih]
    rfl

/-- A step leads on from each place found, by its axis and its test, to the places kept. -/
theorem Finds.step {start : Expr} {axis : Axis} {test : NodeTest} {predicates : List Expr}
    {P K : Place → Prop} {R : Place → Place → Prop} (found : Finds doc context start P)
    (leads : Leads doc axis test R) (keep : Keep doc predicates K) (declared : test ≠ .undeclared) :
    Finds doc context (.step start axis test predicates) fun p => (∃ q, P q ∧ R q p) ∧ K p := by
  obtain ⟨places, value, -, mem⟩ := found
  choose next spots related using leads
  choose kept keeps isKept using keep
  refine ⟨inOrder (places.flatMap fun place => kept (next place)), ?_, pairwise_inOrder _,
    fun p => ?_⟩
  · have all : (spotsAt places).mapM (fun spot => keepAll? doc predicates
        ((axis.spots doc spot).filter fun s => test.passes doc axis s)) =
          some (places.map fun place => spotsAt (kept (next place))) := by
      apply mapM_spotsAt
      intro place
      rw [spots, keeps]
    have flat : (places.map fun place => spotsAt (kept (next place))).flatten =
        spotsAt (places.flatMap fun place => kept (next place)) := by
      rw [spotsAt, List.map_flatMap]
      rfl
    rw [Expr.evaluate?, value]
    simp only [if_neg declared, all, Option.map_some, flat, arrange_spotsAt]
  · simp only [mem_inOrder, List.mem_flatMap, isKept, related, mem]
    constructor
    · rintro ⟨q, hq, hr, hk⟩
      exact ⟨⟨q, hq, hr⟩, hk⟩
    · rintro ⟨⟨q, hq, hr⟩, hk⟩
      exact ⟨q, hq, hr, hk⟩

/-! ### Axes -/

theorem passes_named {axis : Axis} (h : axis ≠ .attribute) (tag : String) (place : Place) :
    (NodeTest.named tag).passes doc axis ⟨place, none⟩ = true ↔ Named doc tag place := by
  rw [NodeTest.passes, if_neg h, Named, Spot.node?]
  cases nodeAt? doc place with
  | none => simp
  | some node => simp

theorem ofPlaced_eq (found : List (Place × Node)) :
    Spot.ofPlaced found = spotsAt (found.map Prod.fst) := by
  rw [Spot.ofPlaced, spotsAt, List.map_map]
  rfl

theorem filter_spotsAt (places : List Place) (test : Spot → Bool) :
    (spotsAt places).filter test = spotsAt (places.filter fun place => test ⟨place, none⟩) := by
  rw [spotsAt, List.filter_map]
  rfl

theorem leads_child (tag : String) :
    Leads doc .child (.named tag) fun q p => ∃ i, p = q ++ [i] ∧ Named doc tag p := by
  intro q
  have children : Axis.child.spots doc ⟨q, none⟩ =
      spotsAt ((placedChildren doc q).map Prod.fst) := ofPlaced_eq _
  rw [children]
  refine ⟨_, filter_spotsAt _ _, fun p => ?_⟩
  simp only [List.mem_filter, List.mem_map, Prod.exists, mem_placedChildren,
    passes_named (show Axis.child ≠ .attribute by decide)]
  constructor
  · rintro ⟨⟨_, n, ⟨i, rfl, -⟩, rfl⟩, named⟩
    exact ⟨i, rfl, named⟩
  · rintro ⟨i, rfl, named⟩
    obtain ⟨n, hn, -⟩ := id named
    exact ⟨⟨_, n, ⟨i, rfl, hn⟩, rfl⟩, named⟩

theorem leads_descendantOrSelf {test : NodeTest} {T : Place → Prop}
    (passes : ∀ place, test.passes doc .descendantOrSelf ⟨place, none⟩ = true ↔ T place) :
    Leads doc .descendantOrSelf test fun q p =>
      T p ∧ (p = q ∨ q <+: p ∧ ∃ node, nodeAt? doc p = some node) := by
  intro q
  have spots : Axis.descendantOrSelf.spots doc ⟨q, none⟩ =
      spotsAt (q :: (descendants doc q).map Prod.fst) := by
    rw [spotsAt, List.map_cons, ← spotsAt, ← ofPlaced_eq]
    rfl
  rw [spots]
  refine ⟨_, filter_spotsAt _ _, fun p => ?_⟩
  simp only [List.mem_filter, List.mem_cons, List.mem_map, Prod.exists, mem_descendants, passes]
  constructor
  · rintro ⟨rfl | ⟨_, n, ⟨i, rest, rfl, hn⟩, rfl⟩, holds⟩
    · exact ⟨holds, .inl rfl⟩
    · exact ⟨holds, .inr ⟨List.prefix_append _ _, n, hn⟩⟩
  · rintro ⟨holds, rfl | ⟨⟨rest, rfl⟩, n, hn⟩⟩
    · exact ⟨.inl rfl, holds⟩
    · cases rest with
      | nil => exact ⟨.inl (List.append_nil q), holds⟩
      | cons i rest => exact ⟨.inr ⟨_, n, ⟨i, rest, rfl, hn⟩, rfl⟩, holds⟩

/-! ### Unions -/

theorem Finds.union {a b : Expr} {P Q : Place → Prop} (first : Finds doc context a P)
    (second : Finds doc context b Q) :
    Finds doc context (.operation .union a b) fun p => P p ∨ Q p := by
  obtain ⟨places, value, -, mem⟩ := first
  obtain ⟨places', value', -, mem'⟩ := second
  refine ⟨inOrder (places ++ places'), ?_, pairwise_inOrder _, fun p => ?_⟩
  · have both : spotsAt places ++ spotsAt places' = spotsAt (places ++ places') :=
      List.map_append.symm
    simp [Expr.evaluate?, value, value', Operator.apply, both, arrange_spotsAt]
  · rw [mem_inOrder, List.mem_append, mem, mem']

/-! ### Results -/

theorem Finds.elements {x : Place} {expr : Expr} {P : Place → Prop}
    (found : Finds doc { spot := ⟨x, none⟩ } expr P)
    (elements : ∀ place, P place → ∃ tag, Named doc tag place)
    {places : List Place} (sorted : places.Pairwise Before)
      (mem : ∀ place, place ∈ places ↔ P place) :
    expr.elements? doc x = some places := by
  have all : (spotsAt places).filter (fun spot =>
      ((spot.node? doc).map Node.isElement).getD false) = spotsAt places := by
    rw [List.filter_eq_self]
    intro spot hspot
    obtain ⟨place, hplace, rfl⟩ := List.mem_map.mp hspot
    obtain ⟨tag, node, hnode, named⟩ := elements place ((mem place).mp hplace)
    rw [Spot.node?, hnode]
    cases node with
    | element => rfl
    | text | comment | instruction => cases named
  have back : (spotsAt places).map Spot.place = places := by
    rw [spotsAt, List.map_map]
    exact List.map_id places
  rw [Expr.elements?, found.evaluate sorted mem]
  simp only [all, back]

end

end RaggedTables.XPath
