import RaggedTables.Proofs.Table.Records
import RaggedTables.Proofs.Table.Standing
import RaggedTables.Text.Blank

/-! Bodies that markup leaves out. A reader of pages puts a body around each run of rows that stand
directly in a table; here these bodies are put into the tree, and what that changes about the rows
that are read is told. -/

namespace RaggedTables

open Markup

namespace Table

/-! ### Putting in bodies -/

/-- What may stand between the rows of a run. -/
def isInterval : Node → Bool
  | .text content => Text.isBlankText content
  | .comment _ => true
  | _ => false

/-- The body around a run of rows, if there is a run. -/
def closeRun (run : List Node) : List Node := if run.isEmpty then [] else [.element "tbody" [] run]

/-- Children of a table with a body around each run of rows; `run` is what there already is of one.
-/
def wrapRuns (run : List Node) : List Node → List Node
  | [] => closeRun run
  | node :: rest =>
    if node.isNamed "tr" || (!run.isEmpty && isInterval node) then wrapRuns (run ++ [node]) rest
    else closeRun run ++ node :: wrapRuns [] rest

mutual

/-- A node in which no table has a row for a child. -/
def withBodies : Node → Node
  | .element tag attributes children =>
    .element tag attributes
      (if tag = "table" then wrapRuns [] (allWithBodies children) else allWithBodies children)
  | node => node

def allWithBodies : List Node → List Node
  | [] => []
  | node :: rest => withBodies node :: allWithBodies rest

end

/-! ### Rows with their standings -/

def rowsFrom (s : Standing) (node : Node) : List (Node × Standing) :=
  (standings s node).filter fun entry => entry.1.isNamed "tr"

def rowsFromAll (s : Standing) (nodes : List Node) : List (Node × Standing) :=
  (standingsAll s nodes).filter fun entry => entry.1.isNamed "tr"

/-- How a row stands once bodies are put in: in one that was there, in one around itself, or in one
around a row above it. -/
structure Moved (entry entry' : Node × Standing) : Prop where
  node : entry'.1 = withBodies entry.1
  body : entry'.2.body = (entry.2.body || entry.2.row || (entry.2.bare || entry.2.mixed))
  bare : entry'.2.bare = false

/-- How standings are related on the way down to the same node. -/
structure Parallel (s s' : Standing) (node : Node) : Prop where
  body : s'.body = (s.body || s.row || (node.isNamed "tr" && (s.bare || s.mixed)))
  bare : node.isNamed "tr" = true → s'.bare = false

theorem Parallel.below {s s' : Standing} {node node' : Node} (h : Parallel s s' node)
    (same : ∀ tag, node'.isNamed tag = node.isNamed tag) :
    (s'.below node').body = ((s.below node).body || (s.below node).row) := by
  simp only [Standing.below, same, h.body]
  simp only [Bool.or_assoc, Bool.or_comm, Bool.or_left_comm]

theorem isNamed_withBodies (tag : String) (node : Node) :
    (withBodies node).isNamed tag = node.isNamed tag := by
  cases node <;> rfl

theorem isInterval_withBodies (node : Node) : isInterval (withBodies node) = isInterval node := by
  cases node <;> rfl

theorem rowsFromAll_cons (s : Standing) (node : Node) (rest : List Node) :
    rowsFromAll s (node :: rest) = rowsFrom s node ++ rowsFromAll s rest := by
  rw [rowsFromAll, standingsAll, List.filter_append]
  rfl

theorem rowsFromAll_append (s : Standing) (first second : List Node) :
    rowsFromAll s (first ++ second) = rowsFromAll s first ++ rowsFromAll s second := by
  induction first with
  | nil => rfl
  | cons node first ih =>
    rw [List.cons_append, rowsFromAll_cons, rowsFromAll_cons, ih, List.append_assoc]

theorem rowsFrom_element (s : Standing) (tag : String) (attributes : List Attribute)
    (children : List Node) :
    rowsFrom s (.element tag attributes children) =
      (if tag = "tr" then [(.element tag attributes children, s)] else []) ++
        rowsFromAll (s.below (.element tag attributes children)) children := by
  rw [rowsFrom, standings, List.filter_cons, rowsFromAll]
  by_cases h : tag = "tr"
  · rw [if_pos h, if_pos (by simp [Node.isNamed, Node.tag?, h])]
    rfl
  · rw [if_neg h, if_neg (by simp [Node.isNamed, Node.tag?, h])]
    rfl

theorem rowsFrom_interval {s : Standing} {node : Node} (h : isInterval node = true) :
    rowsFrom s node = [] := by
  cases node with
  | element => cases h
  | instruction => cases h
  | text | comment => rfl

theorem rowsFromAll_closeRun (s : Standing) (run : List Node) :
    rowsFromAll s (closeRun run) = rowsFromAll (s.below (.element "tbody" [] [])) run := by
  cases run with
  | nil => rfl
  | cons node run =>
    rw [closeRun, List.isEmpty_cons, if_neg Bool.false_ne_true, rowsFromAll_cons, rowsFrom_element,
      if_neg (by decide), List.nil_append]
    exact List.append_nil _

section

variable {t t' : Standing} {nodes : List Node}
  (ih : ∀ c ∈ nodes, ∀ s s', Parallel s s' c →
    List.Forall₂ Moved (rowsFrom s c) (rowsFrom s' (withBodies c)))
include ih

theorem moved_all (parallel : ∀ c ∈ nodes, Parallel t t' c) :
    List.Forall₂ Moved (rowsFromAll t nodes) (rowsFromAll t' (allWithBodies nodes)) := by
  induction nodes with
  | nil => exact .nil
  | cons c rest ihr =>
    rw [allWithBodies, rowsFromAll_cons, rowsFromAll_cons]
    apply List.rel_append
    · exact ih c (List.mem_cons_self ..) t t' (parallel c (List.mem_cons_self ..))
    · exact ihr (fun d hd => ih d (List.mem_cons_of_mem c hd))
        fun d hd => parallel d (List.mem_cons_of_mem c hd)

/-- The rows of a table's children stay in their order; a row that is a child is in a body then. -/
theorem moved_wrapRuns (direct : (t.bare || t.mixed) = true) (body : t'.body = (t.body || t.row))
    {run : List Node} {rows : List (Node × Standing)}
    (sofar : List.Forall₂ Moved rows (rowsFromAll (t'.below (.element "tbody" [] [])) run)) :
    List.Forall₂ Moved (rows ++ rowsFromAll t nodes)
      (rowsFromAll t' (wrapRuns run (allWithBodies nodes))) := by
  induction nodes generalizing run rows with
  | nil =>
    rw [allWithBodies, wrapRuns, rowsFromAll_closeRun]
    simpa [rowsFromAll, standingsAll] using sofar
  | cons c rest ihr =>
    have ih_c := ih c (List.mem_cons_self ..)
    have ih_rest := @ihr fun d hd => ih d (List.mem_cons_of_mem c hd)
    rw [allWithBodies, wrapRuns, isNamed_withBodies, isInterval_withBodies, rowsFromAll_cons,
      ← List.append_assoc]
    by_cases inRun : (c.isNamed "tr" || (!run.isEmpty && isInterval c)) = true
    · rw [if_pos inRun]
      apply ih_rest
      rw [rowsFromAll_append, rowsFromAll_cons]
      refine List.rel_append sofar ?_
      rw [show ∀ s, rowsFromAll s [] = [] from fun s => rfl, List.append_nil]
      by_cases isRow : c.isNamed "tr" = true
      · refine ih_c t _ ⟨?_, fun _ => rfl⟩
        rw [isRow, direct]
        simp [Standing.below, Node.isNamed, Node.tag?]
      · rw [Bool.not_eq_true] at isRow
        rw [isRow, Bool.false_or, Bool.and_eq_true] at inRun
        rw [rowsFrom_interval inRun.2, rowsFrom_interval ((isInterval_withBodies c).trans inRun.2)]
        exact .nil
    · rw [if_neg inRun, rowsFromAll_append, rowsFromAll_closeRun, rowsFromAll_cons,
        List.append_assoc]
      have notRow : c.isNamed "tr" = false := by
        rw [Bool.not_eq_true, Bool.or_eq_false_iff] at inRun
        exact inRun.1
      refine List.rel_append sofar (List.rel_append (ih_c t t' ⟨?_, fun isRow => ?_⟩) ?_)
      · rw [notRow, body, Bool.false_and, Bool.or_false]
      · rw [notRow] at isRow
        cases isRow
      · exact @ih_rest [] [] .nil

end

theorem moved_withBodies (node : Node) : ∀ s s', Parallel s s' node →
    List.Forall₂ Moved (rowsFrom s node) (rowsFrom s' (withBodies node)) := by
  induction node using Node.induct with
  | text content => exact fun s s' _ => .nil
  | comment content => exact fun s s' _ => .nil
  | instruction target content => exact fun s s' _ => .nil
  | element tag attributes children ih =>
    intro s s' parallel
    rw [withBodies, rowsFrom_element, rowsFrom_element]
    have named (name : String) (children : List Node) :
        (Node.element tag attributes children).isNamed name = decide (tag = name) := rfl
    have below := parallel.below fun name =>
      isNamed_withBodies name (.element tag attributes children)
    rw [withBodies] at below
    refine List.rel_append ?_ ?_
    · by_cases isRow : tag = "tr"
      · have yes : (Node.element tag attributes children).isNamed "tr" = true :=
          decide_eq_true isRow
        have body := parallel.body
        rw [yes, Bool.true_and] at body
        rw [if_pos isRow, if_pos isRow]
        exact .cons ⟨rfl, body, parallel.bare yes⟩ .nil
      · rw [if_neg isRow, if_neg isRow]
        exact .nil
    · by_cases isTable : tag = "table"
      · have direct : ((s.below (.element tag attributes children)).bare ||
            (s.below (.element tag attributes children)).mixed) = true := by
          simp only [Standing.below, named, decide_eq_true isTable]
          cases hasChild "tbody" (.element tag attributes children) <;> rfl
        rw [if_pos isTable] at below ⊢
        exact @moved_wrapRuns _ _ _ ih direct below [] [] .nil
      · rw [if_neg isTable] at below ⊢
        refine moved_all ih fun c _ => ⟨?_, fun _ => ?_⟩
        · rw [below]
          simp [Standing.below, named, isTable]
        · simp [Standing.below, named, isTable]

/-! ### Elements that stay -/

/-- A node is among nodes or below one of them. -/
def Within (nodes : List Node) (node : Node) : Prop := ∃ place, nodeAt? nodes place = some node

theorem not_within_nil (node : Node) : ¬ Within [] node := by
  rintro ⟨place, h⟩
  rw [nodeAt?_nil] at h
  cases h

theorem within_cons_iff {c node : Node} {rest : List Node} :
    Within (c :: rest) node ↔ c = node ∨ Within c.children node ∨ Within rest node := by
  constructor
  · rintro ⟨place, h⟩
    cases place with
    | nil => cases h
    | cons i way =>
      cases i with
      | succ i => exact .inr (.inr ⟨i :: way, by rw [← nodeAt?_succ c, h]⟩)
      | zero =>
        cases way with
        | nil => exact .inl (Option.some.inj h)
        | cons k way => exact .inr (.inl ⟨k :: way, h⟩)
  · rintro (rfl | ⟨place, h⟩ | ⟨place, h⟩)
    · exact ⟨[0], rfl⟩
    · cases place with
      | nil => cases h
      | cons k way => exact ⟨0 :: k :: way, h⟩
    · cases place with
      | nil => cases h
      | cons i way => exact ⟨(i + 1) :: way, by rw [nodeAt?_succ, h]⟩

theorem within_append_iff {node : Node} {first second : List Node} :
    Within (first ++ second) node ↔ Within first node ∨ Within second node := by
  induction first with
  | nil => simp [not_within_nil]
  | cons c first ih =>
    rw [List.cons_append, within_cons_iff, within_cons_iff, ih, or_assoc, or_assoc]

theorem within_closeRun {node : Node} {run : List Node} (h : Within run node) :
    Within (closeRun run) node := by
  cases run with
  | nil => exact h
  | cons c run =>
    rw [closeRun, List.isEmpty_cons, if_neg Bool.false_ne_true, within_cons_iff]
    exact .inr (.inl h)

theorem within_wrapRuns {node : Node} {run nodes : List Node}
    (h : Within run node ∨ Within nodes node) : Within (wrapRuns run nodes) node := by
  induction nodes generalizing run with
  | nil => exact within_closeRun (h.resolve_right (not_within_nil node))
  | cons c rest ih =>
    rw [wrapRuns]
    by_cases inRun : (c.isNamed "tr" || (!run.isEmpty && isInterval c)) = true
    · rw [if_pos inRun]
      apply ih
      rw [within_append_iff, or_assoc]
      simpa [within_cons_iff, not_within_nil, or_assoc] using h
    · rw [if_neg inRun, within_append_iff, within_cons_iff]
      rcases h with h | h
      · exact .inl (within_closeRun h)
      · rcases within_cons_iff.mp h with same | below | after
        · exact .inr (.inl same)
        · exact .inr (.inr (.inl below))
        · exact .inr (.inr (.inr (ih (.inr after))))

theorem within_all {node : Node} {nodes : List Node}
    (ih : ∀ c ∈ nodes, Within c.children node → Within (withBodies c).children (withBodies node))
    (h : Within nodes node) : Within (allWithBodies nodes) (withBodies node) := by
  induction nodes with
  | nil => exact absurd h (not_within_nil node)
  | cons c rest ihr =>
    rw [allWithBodies, within_cons_iff]
    rcases within_cons_iff.mp h with rfl | below | after
    · exact .inl rfl
    · exact .inr (.inl (ih c (List.mem_cons_self ..) below))
    · exact .inr (.inr (ihr (fun d hd => ih d (List.mem_cons_of_mem c hd)) after))

/-- Every node of a document is in the document with bodies, with its own bodies put in. -/
theorem within_withBodies {node : Node} {nodes : List Node} (h : Within nodes node) :
    Within (allWithBodies nodes) (withBodies node) := by
  have below (c : Node) :
      Within c.children node → Within (withBodies c).children (withBodies node) := by
    induction c using Node.induct with
    | text content => exact fun h => absurd h (not_within_nil node)
    | comment content => exact fun h => absurd h (not_within_nil node)
    | instruction target content => exact fun h => absurd h (not_within_nil node)
    | element tag attributes children ih =>
      intro h
      have all := within_all ih h
      rw [withBodies, Node.children]
      by_cases isTable : tag = "table"
      · rw [if_pos isTable]
        exact within_wrapRuns (.inr all)
      · rw [if_neg isTable]
        exact all
  exact within_all (fun c _ => below c) h

/-! ### What is read -/

/-- The rows at an element and below it, in document order. -/
def rowsBelow (e : PageElement) : List (Place × Node) :=
  namedNodes "tr" (selfAndBelow e.document e.place)

/-- Without a selector the row at a place is among the rows that are read. -/
def Reads (e : PageElement) (row : Place) : Prop :=
  ∃ rows, selectRows e none = .ok rows ∧ { e with place := row } ∈ rows

theorem reads_iff {e : PageElement} {row : Place} :
    Reads e row ↔ IsBodyRow e.document e.place row := by
  rw [← mem_bodyRows]
  constructor
  · rintro ⟨rows, selected, h⟩
    obtain rfl := Except.ok.inj selected
    obtain ⟨place, hplace, same⟩ := List.mem_map.mp h
    have same : place = row := congrArg PageElement.place same
    exact same ▸ hplace
  · intro h
    exact ⟨_, rfl, List.mem_map.mpr ⟨row, h, rfl⟩⟩

theorem forall₂_comp {α β γ : Type} {R : α → β → Prop} {S : β → γ → Prop} {first : List α}
    {second : List β} {third : List γ} (h : List.Forall₂ R first second)
    (h' : List.Forall₂ S second third) : List.Forall₂ (Relation.Comp R S) first third := by
  induction h generalizing third with
  | nil =>
    cases h'
    exact .nil
  | cons head _ ih =>
    cases h' with
    | cons head' tail' => exact .cons ⟨_, head, head'⟩ (ih tail')

theorem fits_rowsBelow {e : PageElement} {node : Node}
    (here : nodeAt? e.document e.place = some node) :
    List.Forall₂ (fun row entry => row.2.isNamed "tr" = true ∧ Fits e.document e.place row entry)
      (rowsBelow e) (rowsFrom {} node) := by
  refine (List.forall₂_and_left _ _).mpr ⟨fun row h => (List.mem_filter.mp h).2, ?_⟩
  refine List.rel_filter ?_ (fits_selfAndBelow here)
  rintro row entry ⟨same, -⟩
  show row.2.isNamed "tr" = true ↔ entry.1.isNamed "tr" = true
  rw [same]

theorem reads_direct {e : PageElement} {row table : Place}
    (direct : DirectIn e.document e.place row table) (isRow : Named e.document "tr" row)
    (data : HasChildNamed e.document "td" row) :
    Reads e row ↔ ¬ HasChildNamed e.document "tbody" table ∨ InBody e.document e.place row := by
  rw [reads_iff]
  constructor
  · rintro ⟨-, inBody | ⟨⟨other, direct', bare⟩, -⟩⟩
    · exact .inr inBody
    · obtain ⟨-, -, i, rfl⟩ := direct
      obtain ⟨-, -, j, same⟩ := direct'
      obtain ⟨rfl, -⟩ := List.append_inj' same rfl
      exact .inl bare
  · rintro (bare | inBody)
    · exact ⟨isRow, .inr ⟨⟨table, direct, bare⟩, .inl data⟩⟩
    · exact ⟨isRow, .inl inBody⟩

theorem Moved.reads_with_data {e e' : PageElement} {row row' : Place × Node}
    {entry entry' : Node × Standing} (moved : Moved entry entry')
    (fits : Fits e.document e.place row entry)
    (fits' : Fits e'.document e'.place row' entry') (isRow : row.2.isNamed "tr" = true)
    (isRow' : row'.2.isNamed "tr" = true) (data : hasChild "td" row.2 = true) :
    Reads e' row'.1 ↔ Reads e row.1 ∨ InMixedTable e.document e.place row.1 ∨
      InDirectRow e.document e.place row.1 := by
  obtain ⟨-, -, describes⟩ := id fits
  have holds : isDataRow row.2 = true := by rw [isDataRow, data, Bool.true_or]
  rw [reads_iff, reads_iff, fits'.isBodyRow_iff isRow', fits.isBodyRow_iff isRow,
    moved.body, moved.bare, ← describes.mixed, ← describes.row, holds]
  simp only [Bool.or_eq_true, Bool.false_eq_true, false_and, or_false, and_true]
  tauto

/-- A table that has a row before its body. -/
def mixedTable : List Node :=
  [.element "table" [] [.element "tr" [] [.element "td" [] [.text "1"]],
    .element "tbody" [] [.element "tr" [] [.element "td" [] [.text "2"]]]]]

/-- A table whose one row holds a table that is all head. -/
def headInCell : List Node :=
  [.element "table" [] [.element "tr" [] [.element "td" [] [.element "table" []
    [.element "thead" [] [.element "tr" [] [.element "td" [] [.text "3"]]]]]]]]

/-- A row with a data cell that stands directly in a table is read when the table has no body, and
otherwise when the row stands in a body further up. Putting in the bodies that markup leaves out
keeps every node and takes no row with a data cell away from those that are read; the ones it adds
stand directly in a table that has a body, or inside a row that stands directly in a table. -/
theorem reads_withBodies {e : PageElement} {node : Node}
    (here : nodeAt? e.document e.place = some node) :
    (∀ row table, DirectIn e.document e.place row table → Named e.document "tr" row →
      HasChildNamed e.document "td" row →
        (Reads e row ↔ ¬ HasChildNamed e.document "tbody" table ∨ InBody e.document e.place row)) ∧
    (∃ x, nodeAt? (allWithBodies e.document) x = some (withBodies node)) ∧
    ∀ x, nodeAt? (allWithBodies e.document) x = some (withBodies node) →
      List.Forall₂
        (fun row row' => row'.2 = withBodies row.2 ∧ (hasChild "td" row.2 = true →
          (Reads ⟨allWithBodies e.document, x, e.url⟩ row'.1 ↔
            Reads e row.1 ∨ InMixedTable e.document e.place row.1 ∨
              InDirectRow e.document e.place row.1)))
        (rowsBelow e) (rowsBelow ⟨allWithBodies e.document, x, e.url⟩) := by
  refine ⟨fun row table => reads_direct, within_withBodies ⟨e.place, here⟩, fun x there => ?_⟩
  have before := fits_rowsBelow here
  have moved := moved_withBodies node {} {} ⟨by simp, fun _ => rfl⟩
  have after := @fits_rowsBelow ⟨allWithBodies e.document, x, e.url⟩ _ there
  refine (forall₂_comp (forall₂_comp before moved) after.flip).imp ?_
  rintro row row' ⟨entry', ⟨entry, ⟨isRow, fits⟩, moved⟩, isRow', fits'⟩
  refine ⟨?_, moved.reads_with_data fits fits' isRow isRow'⟩
  rw [fits'.1, moved.node, fits.1]

/-- The row before the body is not read, and a body put around it makes it one that is. -/
theorem reads_withBodies_mixed :
    nodeAt? mixedTable [0] = some mixedTable[0] ∧ InMixedTable mixedTable [0] [0, 0] ∧
      Reads ⟨allWithBodies mixedTable, [0], ""⟩ [0, 0, 0] := by
  have here : nodeAt? (PageElement.mk mixedTable [0] "").document [0] = some mixedTable[0] := rfl
  have mixed : InMixedTable mixedTable [0] [0, 0] :=
    ⟨[0], ⟨List.prefix_rfl, ⟨_, rfl, rfl⟩, 0, rfl⟩, 1, _, rfl, rfl⟩
  obtain ⟨-, -, rows⟩ := reads_withBodies (e := ⟨mixedTable, [0], ""⟩) here
  have first := rows [0] rfl
  cases first with
  | cons row _ => exact ⟨here, mixed, (row.2 rfl).mpr (.inr (.inl mixed))⟩

/-- A row with a data cell before the body of its table is not read, although it would be with a
body around it. A row of a head is not read either, and it would be with a body around the row that
its table stands in. -/
theorem not_reads_mixed :
    (DirectIn mixedTable [0] [0, 0] [0] ∧ Named mixedTable "tr" [0, 0] ∧
      HasChildNamed mixedTable "td" [0, 0] ∧ ¬ Reads ⟨mixedTable, [0], ""⟩ [0, 0] ∧
      (tableToRecords (.element ⟨mixedTable, [0], ""⟩) [some "a"] none none).outcome =
        .ok [[("a", .text "2")]] ∧
      allWithBodies mixedTable =
        [.element "table" [] [.element "tbody" [] [.element "tr" [] [.element "td" [] [.text "1"]]],
          .element "tbody" [] [.element "tr" [] [.element "td" [] [.text "2"]]]]] ∧
      Reads ⟨allWithBodies mixedTable, [0], ""⟩ [0, 0, 0]) ∧
    HasChildNamed headInCell "td" [0, 0, 0, 0, 0, 0] ∧
      ¬ Reads ⟨headInCell, [0], ""⟩ [0, 0, 0, 0, 0, 0] ∧
      Reads ⟨allWithBodies headInCell, [0], ""⟩ [0, 0, 0, 0, 0, 0, 0] := by
  have lost : bodyRows mixedTable [0] = [[0, 1, 0]] := by decide +kernel
  have kept : bodyRows (allWithBodies mixedTable) [0] = [[0, 0, 0], [0, 1, 0]] := by
    have found : rowsInBodies (allWithBodies mixedTable) [0] ++
        rowsOfBareTables (allWithBodies mixedTable) [0] = [[0, 0, 0], [0, 1, 0]] := by decide
    rw [bodyRows, found]
    exact inOrder_eq (by decide) fun _ => Iff.rfl
  have outer : bodyRows headInCell [0] = [[0, 0]] := by decide +kernel
  have inner : bodyRows (allWithBodies headInCell) [0] =
      [[0, 0, 0], [0, 0, 0, 0, 0, 0, 0]] := by
    have found : rowsInBodies (allWithBodies headInCell) [0] ++
        rowsOfBareTables (allWithBodies headInCell) [0] =
        [[0, 0, 0], [0, 0, 0, 0, 0, 0, 0]] := by decide
    rw [bodyRows, found]
    exact inOrder_eq (by decide) fun _ => Iff.rfl
  have records : (tableToRecords (.element ⟨mixedTable, [0], ""⟩) [some "a"] none none).outcome =
      .ok [[("a", .text "2")]] := by
    have compiled : (compileHeaders [some "a"]).outcome = .ok [some (.norm "a" none)] := rfl
    have clean : Text.sanitise "2" = "2" := by decide +kernel
    rw [outcome_tableToRecords compiled rfl, recordsFrom_ok, lost, ← clean]
    exact .cons rfl .nil
  simp only [reads_iff, ← mem_bodyRows, lost, kept, outer, inner]
  exact ⟨⟨⟨List.prefix_rfl, ⟨_, rfl, rfl⟩, 0, rfl⟩, ⟨_, rfl, rfl⟩, ⟨0, _, rfl, rfl⟩, by decide,
    records, rfl, by decide⟩, ⟨0, _, rfl, rfl⟩, by decide, by decide⟩

end Table

end RaggedTables
