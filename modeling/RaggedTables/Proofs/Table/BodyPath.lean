import RaggedTables.Page.Lookup
import RaggedTables.Proofs.Table.BodyRows
import RaggedTables.Proofs.XPath.Steps

/-! The body rows as a path expression. The rows of bodies are two steps apart from the bodies, at
any depth, the other rows one step from their tables, and the union puts both in document order. -/

namespace RaggedTables.Table

open Markup XPath

/-- The path expression for the body rows of tables. -/
def bodyPath : String :=
  "descendant-or-self::tbody//tr | descendant-or-self::table[not(tbody)]/tr[td or not(th)]"

def childrenNamed (tag : String) : Expr := .step .here .child (.named tag) []

def pathInBodies : Expr :=
  .step (.anyDepth (.step .here .descendantOrSelf (.named "tbody") [])) .child (.named "tr") []

def hasData : Expr := .operation .or (childrenNamed "td") (.call "not" [childrenNamed "th"])

def pathInBareTables : Expr :=
  .step (.step .here .descendantOrSelf (.named "table") [.call "not" [childrenNamed "tbody"]])
    .child (.named "tr") [hasData]

theorem read_bodyPath :
    Expr.read? bodyPath = some (.operation .union pathInBodies pathInBareTables) := by
  decide +kernel

section

variable {doc : List Node}

theorem finds_childrenNamed (tag : String) (place : Place) (position size : Nat) :
    Finds doc ⟨⟨place, none⟩, position, size⟩ (childrenNamed tag)
      fun p => ∃ i, p = place ++ [i] ∧ Named doc tag p := by
  refine ((Finds.here place position size).step (leads_child tag) .all nofun).congr fun p => ?_
  simp

theorem finds_named {tag : String} {x : Place} {predicates : List Expr} {K : Place → Prop}
    (keep : Keep doc predicates K) :
    Finds doc { spot := ⟨x, none⟩ } (.step .here .descendantOrSelf (.named tag) predicates)
      fun p => (x <+: p ∧ Named doc tag p) ∧ K p := by
  have leads := leads_descendantOrSelf (@passes_named doc .descendantOrSelf nofun tag)
  refine ((Finds.here x 1 1).step leads keep nofun).congr fun p => ?_
  constructor
  · rintro ⟨⟨_, rfl, named, rfl | ⟨below, -⟩⟩, hk⟩
    · exact ⟨⟨List.prefix_rfl, named⟩, hk⟩
    · exact ⟨⟨below, named⟩, hk⟩
  · rintro ⟨⟨below, named⟩, hk⟩
    obtain ⟨node, hnode, -⟩ := id named
    exact ⟨⟨x, rfl, named, .inr ⟨below, node, hnode⟩⟩, hk⟩

theorem finds_pathInBodies (doc : List Node) (x : Place) :
    Finds doc { spot := ⟨x, none⟩ } pathInBodies fun p => Named doc "tr" p ∧ InBody doc x p := by
  have bodies := @finds_named doc "tbody" x [] _ .all
  have anywhere : Leads doc .descendantOrSelf .anyNode _ :=
    leads_descendantOrSelf fun _ => iff_of_true rfl trivial
  refine ((bodies.step anywhere .all nofun).step (leads_child "tr") .all nofun).congr fun p => ?_
  constructor
  · rintro ⟨⟨q, ⟨⟨body, ⟨⟨above, isBody⟩, -⟩, -, from_body⟩, -⟩, i, rfl, isRow⟩, -⟩
    have below : body <+: q := by
      rcases from_body with rfl | ⟨below, -⟩
      · exact List.prefix_rfl
      · exact below
    refine ⟨isRow, body, above, below.trans (List.prefix_append _ _), ?_, isBody⟩
    rintro rfl
    exact not_child_above q i below
  · rintro ⟨isRow, body, above, ⟨rest, rfl⟩, apart, isBody⟩
    obtain ⟨n, hn, -⟩ := id isRow
    rcases List.eq_nil_or_concat rest with rfl | ⟨way, i, rfl⟩
    · exact absurd (List.append_nil body).symm apart
    · rw [List.concat_eq_append, ← List.append_assoc] at hn isRow ⊢
      have inside : body ++ way ≠ [] := by
        rintro empty
        obtain ⟨rfl, -⟩ := List.append_eq_nil_iff.mp empty
        obtain ⟨_, h, -⟩ := isBody
        cases h
      have found := exists_node_above hn inside
      exact ⟨⟨body ++ way, ⟨⟨body, ⟨⟨above, isBody⟩, trivial⟩, trivial,
        .inr ⟨List.prefix_append _ _, found⟩⟩, trivial⟩, i, rfl, isRow⟩, trivial⟩

theorem hasChildNamed_iff_exists (tag : String) (place : Place) :
    HasChildNamed doc tag place ↔ ∃ p, ∃ i, p = place ++ [i] ∧ Named doc tag p := by
  constructor
  · rintro ⟨i, named⟩
    exact ⟨_, i, rfl, named⟩
  · rintro ⟨_, i, rfl, named⟩
    exact ⟨i, named⟩

theorem judges_without (tag : String) :
    Judges doc (.call "not" [childrenNamed tag]) fun place => ¬ HasChildNamed doc tag place := by
  simp only [hasChildNamed_iff_exists]
  exact .not (finds_childrenNamed tag)

theorem judges_hasData : Judges doc hasData (HoldsData doc) := by
  have judges := Judges.or (finds_childrenNamed "td") (@judges_without doc "th")
  simp only [← hasChildNamed_iff_exists] at judges
  exact judges

theorem finds_pathInBareTables (doc : List Node) (x : Place) :
    Finds doc { spot := ⟨x, none⟩ } pathInBareTables
      fun p => Named doc "tr" p ∧ InBareTable doc x p ∧ HoldsData doc p := by
  have tables := @finds_named doc "table" x _ _ (judges_without "tbody").keep
  refine (tables.step (leads_child "tr") judges_hasData.keep nofun).congr fun p => ?_
  constructor
  · rintro ⟨⟨table, ⟨⟨above, isTable⟩, bare⟩, i, rfl, isRow⟩, data⟩
    exact ⟨isRow, ⟨table, ⟨above, isTable, i, rfl⟩, bare⟩, data⟩
  · rintro ⟨isRow, ⟨table, ⟨above, isTable, i, rfl⟩, bare⟩, data⟩
    exact ⟨⟨table, ⟨⟨above, isTable⟩, bare⟩, i, rfl, isRow⟩, data⟩

end

/-- The path expression finds the body rows. -/
theorem find_bodyPath (e : PageElement) :
    e.find? bodyPath = some (e.others (bodyRows e.document e.place)) := by
  have either :=
    (finds_pathInBodies e.document e.place).union (finds_pathInBareTables e.document e.place)
  have rows : ∀ p, p ∈ bodyRows e.document e.place ↔
      (Named e.document "tr" p ∧ InBody e.document e.place p) ∨
        (Named e.document "tr" p ∧ InBareTable e.document e.place p ∧ HoldsData e.document p) := by
    intro p
    rw [bodyRows, mem_inOrder, List.mem_append, mem_rowsInBodies, mem_rowsOfBareTables]
  have elements : ∀ p, (Named e.document "tr" p ∧ InBody e.document e.place p) ∨
      (Named e.document "tr" p ∧ InBareTable e.document e.place p ∧ HoldsData e.document p) →
        ∃ tag, Named e.document tag p := by
    rintro p (⟨isRow, -⟩ | ⟨isRow, -⟩) <;> exact ⟨"tr", isRow⟩
  rw [PageElement.find?, read_bodyPath, Option.bind_some,
    either.elements elements (pairwise_bodyRows _ _) rows, Option.map_some]

end RaggedTables.Table
