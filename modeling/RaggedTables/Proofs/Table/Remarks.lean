import RaggedTables.Proofs.Markup.Remarks
import RaggedTables.Proofs.Table.ImpliedBodies
import RaggedTables.Proofs.Table.TextRows

/-! Remarks in tables. The cells of a row are its child elements, and which rows are read hangs on
names and on how elements stand to each other. So comments and instructions may be taken out
anywhere, with the text around them joined: the rows that are read stay the same ones, and so do
their cells. -/

namespace RaggedTables

open Markup
open Markup.Node (before without withoutFrom Left)

namespace PageElement

variable {e : PageElement} {node : Node}

theorem node_eq (here : nodeAt? e.document e.place = some node) : e.node = node := by
  rw [PageElement.node, here, Option.getD_some]

/-- The children of an element are its child elements, in order. -/
theorem map_node_children (here : nodeAt? e.document e.place = some node) :
    e.children.map PageElement.node = node.children.filter Node.isElement := by
  have nodes : (placedChildren e.document e.place).map Prod.snd = node.children := by
    rw [placedChildren, numbered, childrenAt_of_node here]
    exact List.ext_getElem (by simp) (by simp)
  rw [← nodes, List.filter_map, PageElement.children, others, List.map_map, List.map_map,
    elementsOf]
  refine List.map_congr_left fun entry hentry => ?_
  obtain ⟨i, -, found⟩ := mem_placedChildren.mp (List.mem_filter.mp hentry).1
  exact node_eq found

end PageElement

namespace Table

variable {gone : Place → Bool}

/-! ### Cells -/

/-- The texts of the cells of a row, told from its node. -/
def cellTexts (row : Node) : List Value :=
  (row.children.filter Node.isElement).map fun cell => .text (Text.sanitise cell.textContent)

theorem textCells_eq {row : PageElement} {node : Node}
    (here : nodeAt? row.document row.place = some node) : textCells row = cellTexts node := by
  rw [cellTexts, ← PageElement.map_node_children here, List.map_map]
  rfl

theorem map_eq_of_forall₂ {α β γ : Type} {R : α → β → Prop} {f : α → γ} {g : β → γ} {first : List α}
    {second : List β} (h : List.Forall₂ R first second) (same : ∀ a b, R a b → f a = g b) :
    first.map f = second.map g := by
  have each : List.Forall₂ (· = ·) (first.map f) (second.map g) :=
    List.forall₂_map_left_iff.mpr (List.forall₂_map_right_iff.mpr (h.imp same))
  rwa [List.forall₂_eq_eq_eq] at each

theorem cellTexts_without (gone : Place → Bool) (place : Place) (row : Node) :
    cellTexts (row.without gone place) = cellTexts row := by
  cases row with
  | text | comment | instruction => rfl
  | element tag attributes children =>
    refine (map_eq_of_forall₂ (elements_withoutFrom gone place 0 children) ?_).symm
    rintro cell _ ⟨at_, rfl⟩
    rw [textContent_without]

/-! ### Rows -/

@[simp] theorem hasChild_without (gone : Place → Bool) (place : Place) (tag : String)
    (node : Node) :
    hasChild tag (node.without gone place) = hasChild tag node := by
  cases node with
  | text | comment | instruction => rfl
  | element tag' attributes children => exact any_withoutFrom gone place tag 0 children

theorem isDataRow_without (gone : Place → Bool) (place : Place) (node : Node) :
    isDataRow (node.without gone place) = isDataRow node := by
  rw [isDataRow, isDataRow, hasChild_without, hasChild_without]

theorem Standing.below_without (s : Standing) (gone : Place → Bool) (place : Place) (node : Node) :
    s.below (node.without gone place) = s.below node := by
  simp only [Standing.below, isNamed_without, hasChild_without]

/-- A row is what is left of another one, and stands as that does. -/
def Stays (gone : Place → Bool) (entry entry' : Node × Standing) : Prop :=
  Left gone entry.1 entry'.1 ∧ entry'.2 = entry.2

theorem rowsFromAll_before (s : Standing) (node : Node) (rest : List Node) :
    rowsFromAll s (before node rest) = rowsFromAll s (node :: rest) := by
  fun_cases before node rest with
  | case1 t u rest => simp [rowsFromAll_cons, rowsFrom, standings, Node.isNamed, Node.tag?]
  | case2 => rfl

theorem rowsFrom_remark (s : Standing) {node : Node} (remark : node.isRemark = true) :
    rowsFrom s node = [] := by
  cases node with
  | element | text => cases remark
  | comment | instruction => rfl

mutual

theorem stays_without (place : Place) (s : Standing) : ∀ node : Node,
    List.Forall₂ (Stays gone) (rowsFrom s node) (rowsFrom s (node.without gone place))
  | .element tag attributes children => by
    have below := Standing.below_without s gone place (.element tag attributes children)
    have others := stays_withoutFrom place (s.below (.element tag attributes children)) 0 children
    rw [without] at below ⊢
    rw [rowsFrom_element, rowsFrom_element, below]
    refine List.rel_append ?_ others
    by_cases isRow : tag = "tr"
    · rw [if_pos isRow, if_pos isRow]
      exact .cons ⟨⟨place, by rw [without]⟩, rfl⟩ .nil
    · rw [if_neg isRow, if_neg isRow]
      exact .nil
  | .text _ | .comment _ | .instruction _ _ => .nil

theorem stays_withoutFrom (place : Place) (s : Standing) (i : Nat) : ∀ nodes : List Node,
    List.Forall₂ (Stays gone) (rowsFromAll s nodes) (rowsFromAll s (withoutFrom gone place i nodes))
  | [] => .nil
  | node :: rest => by
    have others := stays_withoutFrom place s (i + 1) rest
    rw [withoutFrom, rowsFromAll_cons]
    by_cases leaves : (node.isRemark && gone (place ++ [i])) = true
    · rw [if_pos leaves, rowsFrom_remark s (Bool.and_eq_true_iff.mp leaves).1, List.nil_append]
      exact others
    · rw [if_neg leaves, rowsFromAll_before, rowsFromAll_cons]
      exact List.rel_append (stays_without (place ++ [i]) s node) others

end

/-! ### Rows that are read -/

/-- A row with its standing is a body row. -/
def readsAs (entry : Node × Standing) : Bool := entry.2.body || entry.2.bare && isDataRow entry.1

theorem readsAs_of_stays {entry entry' : Node × Standing} (h : Stays gone entry entry') :
    readsAs entry' = readsAs entry := by
  obtain ⟨⟨place, left⟩, standing⟩ := h
  rw [readsAs, readsAs, standing, left, isDataRow_without]

/-- The body rows are those rows on the way down whose standings say so: both listings are in
document order, so it is enough that they have the same members. -/
theorem bodyRows_standings {e : PageElement} {node : Node}
    (here : nodeAt? e.document e.place = some node) :
    List.Forall₂ (fun row entry => nodeAt? e.document row = some entry.1)
      (bodyRows e.document e.place) ((rowsFrom {} node).filter readsAs) := by
  classical
  have listed := fits_rowsBelow here
  let isBody (row : Place × Node) : Bool := decide (IsBodyRow e.document e.place row.1)
  have rows : bodyRows e.document e.place = ((rowsBelow e).filter isBody).map Prod.fst := by
    have sorted := (pairwise_selfAndBelow e.document e.place).filter fun row => row.2.isNamed "tr"
    refine eq_of_mem_iff (pairwise_bodyRows _ _)
      (List.pairwise_map.mpr (sorted.filter _)) fun row => ?_
    rw [mem_bodyRows, List.mem_map]
    constructor
    · intro body
      obtain ⟨n, hn, isRow⟩ := body.isRow
      have listed := mem_namedNodes.mpr ⟨mem_selfAndBelow.mpr ⟨body.below, hn⟩, isRow⟩
      exact ⟨(row, n), List.mem_filter.mpr ⟨listed, decide_eq_true body⟩, rfl⟩
    · rintro ⟨entry, hentry, rfl⟩
      exact of_decide_eq_true (List.mem_filter.mp hentry).2
  have kept : List.Forall₂ (fun row entry => row.2.isNamed "tr" = true ∧
      Fits e.document e.place row entry)
      ((rowsBelow e).filter isBody) ((rowsFrom {} node).filter readsAs) := by
    refine List.rel_filter ?_ listed
    rintro row entry ⟨isRow, fits⟩
    show isBody row = true ↔ readsAs entry = true
    rw [decide_eq_true_iff, fits.isBodyRow_iff isRow, readsAs, fits.1]
    simp
  rw [rows, List.forall₂_map_left_iff]
  refine kept.imp ?_
  rintro row entry ⟨-, same, found, -⟩
  rw [found, same]

theorem plainRows_none_congr {headers : List (Option Header)} {index : Nat}
    {rows rows' : List PageElement}
    (same : List.Forall₂ (fun row row' => textCells row' = textCells row) rows rows') :
    plainRows headers none index rows' = plainRows headers none index rows := by
  induction same generalizing index with
  | nil => rfl
  | cons first _ ih => rw [plainRows, plainRows, plainRow_none, plainRow_none, first, ih]

theorem plainTable_without {source source' : TableSource} {e e' : PageElement} {node : Node}
    {place : Place} (element : elementOf source = .ok e) (element' : elementOf source' = .ok e')
    (here : nodeAt? e.document e.place = some node)
    (here' : nodeAt? e'.document e'.place = some (node.without gone place))
    (templates : List (Option String)) :
    plainTable source' templates none none = plainTable source templates none none := by
  have stay : List.Forall₂ (Stays gone) ((rowsFrom {} node).filter readsAs)
      ((rowsFrom {} (node.without gone place)).filter readsAs) := by
    refine List.rel_filter ?_ (stays_without place {} node)
    intro entry entry' stays
    show readsAs entry = true ↔ readsAs entry' = true
    rw [readsAs_of_stays stays]
  have cells : List.Forall₂ (fun row row' => textCells row' = textCells row)
      (e.others (bodyRows e.document e.place)) (e'.others (bodyRows e'.document e'.place)) := by
    rw [PageElement.others, PageElement.others, List.forall₂_map_left_iff,
      List.forall₂_map_right_iff]
    refine (forall₂_comp (forall₂_comp (bodyRows_standings here) stay)
      (bodyRows_standings here').flip).imp ?_
    rintro row row' ⟨entry', ⟨entry, found, ⟨at_, left⟩, -⟩, found'⟩
    have first : textCells { e with place := row } = cellTexts entry.1 := textCells_eq found
    have second : textCells { e' with place := row' } = cellTexts entry'.1 := textCells_eq found'
    rw [first, second, left, cellTexts_without]
  rw [plainTable, plainTable, element, element']
  refine congrArg (Except.bind (Header.compileAll templates)) (funext fun headers => ?_)
  exact plainRows_none_congr cells

/-! ### Tables without remarks -/

/-- Comments and instructions move no cell. A row comes to one cell for each child element, in
order, whatever else stands between them. Taking out any set of comments and instructions, the texts
around them joined, changes neither the cells of a row nor what a table comes to, be that records or
a fault: its element is found where it moved to, and is what is left of it. -/
theorem records_withoutRemarks {nodes : List Node} {place : Place} {tag : String}
    {attributes : List Attribute} {children : List Node}
    (here : nodeAt? nodes place = some (.element tag attributes children)) (gone : Place → Bool)
    (url url' : String) :
    let e : PageElement := ⟨nodes, place, url⟩
    let e' : PageElement := ⟨withoutRemarks gone nodes, movedPlace gone nodes place, url'⟩
    nodeAt? e'.document e'.place = some (e.node.without gone place) ∧
      (∀ source source' templates, elementOf source = .ok e → elementOf source' = .ok e' →
        (tableToRecords source' templates none none).outcome =
          (tableToRecords source templates none none).outcome) ∧
      rowCells e none = .ok ((children.filter Node.isElement).map fun cell =>
        .text (Text.sanitise cell.textContent)) ∧
      rowCells e' none = rowCells e none := by
  intro e e'
  have node : e.node = .element tag attributes children := PageElement.node_eq here
  have here' : nodeAt? e'.document e'.place = some (e.node.without gone place) := by
    rw [node]
    exact nodeAt?_movedFrom here rfl
  have cells : textCells e = cellTexts (.element tag attributes children) := textCells_eq here
  have cells' : textCells e' = cellTexts (e.node.without gone place) := textCells_eq here'
  refine ⟨here', fun source source' templates element element' => ?_, ?_, ?_⟩
  · rw [tableToRecords, tableToRecords, outcome_recordsOf, outcome_recordsOf]
    exact plainTable_without element element' (node ▸ here) here' templates
  · rw [rowCells_none, cells, cellTexts, Node.children]
  · rw [rowCells_none, rowCells_none, cells, cells', node, cellTexts_without]

/-- A row with remarks between its cells and inside of one. -/
def remarkedTable : List Node :=
  [.comment "top", .element "table" [] [.element "tr" [] [.text "x", .comment "a", .text "y",
    .element "td" [] [.text "1", .comment "b", .text "2"], .instruction "c" "d",
    .element "td" [] [.text "3"]]]]

/-- Without its remarks the table stands at another place, and its row has the cells it had. -/
theorem records_withoutRemarks_table :
    nodeAt? remarkedTable [1] = some remarkedTable[1] ∧
      withoutRemarks (fun _ => true) remarkedTable =
        [.element "table" [] [.element "tr" [] [.text "xy", .element "td" [] [.text "12"],
          .element "td" [] [.text "3"]]]] ∧
      (tableToRecords (.element ⟨remarkedTable, [1], ""⟩) [some "a", some "b"] none none).outcome =
        .ok [[("a", .text "12"), ("b", .text "3")]] ∧
      (tableToRecords (.element ⟨withoutRemarks (fun _ => true) remarkedTable, [0], ""⟩)
        [some "a", some "b"] none none).outcome = .ok [[("a", .text "12"), ("b", .text "3")]] := by
  have here : nodeAt? remarkedTable [1] = some remarkedTable[1] := rfl
  have records : (tableToRecords (.element ⟨remarkedTable, [1], ""⟩) [some "a", some "b"]
      none none).outcome = .ok [[("a", .text "12"), ("b", .text "3")]] := by
    have compiled : (compileHeaders [some "a", some "b"]).outcome =
        .ok [some (.norm "a" none), some (.norm "b" none)] := rfl
    have rows : bodyRows remarkedTable [1] = [[1, 0]] := by decide +kernel
    have first : Text.sanitise "12" = "12" := by decide +kernel
    have second : Text.sanitise "3" = "3" := by decide +kernel
    rw [outcome_tableToRecords compiled rfl, recordsFrom_ok, rows, ← first, ← second]
    exact .cons rfl .nil
  obtain ⟨-, same, -, -⟩ := records_withoutRemarks here (fun _ => true) "" ""
  exact ⟨here, rfl, records, (same _ _ _ rfl rfl).trans records⟩

end Table

end RaggedTables
