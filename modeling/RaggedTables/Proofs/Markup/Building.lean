import RaggedTables.Markup.Fragment
import RaggedTables.Proofs.Markup.Token

/-! What every document has in common that is read from a text: the names of its elements hold no
blank, and an element whose text is written as it is holds nothing but text. Each token keeps this
of the document under construction. -/

namespace RaggedTables.Markup

/-- A node as it is read. -/
inductive Node.Proper : Node → Prop
  | element {tag : String} {attributes : List Attribute} {children : List Node}
      (name : ' ' ∉ tag.toList)
      (raw : isRawText tag = true → ∀ child ∈ children, child.isText = true)
      (below : ∀ child ∈ children, Proper child) : Proper (.element tag attributes children)
  | text (content : String) : Proper (.text content)
  | comment (content : String) : Proper (.comment content)
  | instruction (target content : String) : Proper (.instruction target content)

/-- Whether a node is no element with raw text. -/
def Node.isUsual (node : Node) : Bool := node.tag?.all fun tag => !isRawText tag

/-- An element that has been read up to here. -/
structure OpenElement.Proper (e : OpenElement) : Prop where
  name : ' ' ∉ e.tag.toList
  raw : isRawText e.tag = true → ∀ child ∈ e.children, child.isText = true
  below : ∀ child ∈ e.children, child.Proper

theorem OpenElement.Proper.node {e : OpenElement} (h : e.Proper) :
    (Node.element e.tag e.attributes e.children.reverse).Proper :=
  .element h.name (fun raw child hc => h.raw raw child (List.mem_reverse.mp hc))
    fun child hc => h.below child (List.mem_reverse.mp hc)

namespace Building

/-- The innermost open element, if its text is raw. -/
def rawText? (b : Building) : Option String := b.current?.filter isRawText

/-- A document under construction: only the innermost open element may hold raw text, and it is not
the only one then. -/
structure Proper (b : Building) : Prop where
  top : ∀ node ∈ b.top, node.Proper ∧ node.isUsual = true
  stack : ∀ e ∈ b.stack, e.Proper
  around : ∀ e ∈ b.stack.tail, isRawText e.tag = false
  outermost : ∀ e, b.stack = [e] → isRawText e.tag = false

/-- A document under construction in which no element with raw text is open. -/
structure Clear (b : Building) : Prop extends Proper b where
  noRaw : b.rawText? = none

variable {b : Building} {tag : String} {attributes : List Attribute} {node : Node}

/-! ### Adding nodes -/

theorem mem_join {siblings : List Node} {n : Node} (h : n ∈ join siblings node) :
    n ∈ siblings ∨ n = node ∨ node.isText = true ∧ n.isText = true := by
  unfold join at h
  split at h
  · obtain rfl | h := List.mem_cons.mp h
    · exact .inr (.inr ⟨rfl, rfl⟩)
    · exact .inl (List.mem_cons_of_mem _ h)
  · obtain rfl | h := List.mem_cons.mp h
    · exact .inr (.inl rfl)
    · exact .inl h

theorem proper_of_isText (h : node.isText = true) : node.Proper := by
  cases node with
  | text content => exact .text content
  | element | comment | instruction => cases h

theorem proper_addBelowFirst {nodes : List Node} (proper : node.Proper)
    (usual : node.isUsual = true)
    (each : ∀ n ∈ nodes, n.Proper ∧ n.isUsual = true) :
    ∀ n ∈ addBelowFirst node nodes, n.Proper ∧ n.isUsual = true := by
  induction nodes with
  | nil =>
    intro n h
    obtain rfl := List.mem_singleton.mp h
    exact ⟨proper, usual⟩
  | cons first rest ih =>
    have later := ih fun n h => each n (List.mem_cons_of_mem _ h)
    have here := each first List.mem_cons_self
    intro n h
    cases first with
    | element tag attributes children =>
      rw [addBelowFirst] at h
      split at h
      · obtain rfl | h := List.mem_cons.mp h
        · exact here
        · exact later n h
      · obtain rfl | h := List.mem_cons.mp h
        · obtain ⟨⟨name, raw, below⟩, usual⟩ := here
          refine ⟨.element name (fun isRaw => ?_) fun child hc => ?_, usual⟩
          · simp [Node.isUsual, Node.tag?, isRaw] at usual
          · obtain hc | hc := List.mem_append.mp hc
            · exact below child hc
            · exact List.mem_singleton.mp hc ▸ proper
        · exact each n (List.mem_cons_of_mem _ h)
    | text | comment | instruction =>
      rw [addBelowFirst] at h
      · split at h
        · obtain rfl | h := List.mem_cons.mp h
          · exact here
          · exact later n h
        · obtain rfl | h := List.mem_cons.mp h
          · exact ⟨proper, usual⟩
          · exact each n h
      · rintro _ _ _ ⟨⟩

theorem proper_add (h : b.Proper) (proper : node.Proper)
    (usual : b.stack = [] → node.isUsual = true) (inside : b.rawText? ≠ none → node.isText = true) :
    (b.add node).Proper ∧ (b.add node).rawText? = b.rawText? := by
  obtain ⟨top, stack, around, outermost⟩ := h
  unfold add
  split
  · rename_i e rest open_
    rw [open_] at stack around outermost
    have innermost := stack e List.mem_cons_self
    have joined : OpenElement.Proper { e with children := join e.children node } := by
      refine ⟨innermost.name, fun raw child hc => ?_, fun child hc => ?_⟩
      · have isText := inside (by simp [rawText?, current?, open_, raw])
        obtain hc | rfl | ⟨-, text⟩ := mem_join hc
        · exact innermost.raw raw child hc
        · exact isText
        · exact text
      · obtain hc | rfl | ⟨-, text⟩ := mem_join hc
        · exact innermost.below child hc
        · exact proper
        · exact proper_of_isText text
    refine ⟨⟨top, fun e' he => ?_, around, fun e' only => ?_⟩, by simp [rawText?, current?, open_]⟩
    · obtain rfl | he := List.mem_cons.mp he
      · exact joined
      · exact stack e' (List.mem_cons_of_mem _ he)
    · obtain ⟨rfl, rfl⟩ := List.cons.inj only
      exact outermost e rfl
  · rename_i open_
    have usual := usual open_
    have whole (top') (each : ∀ n ∈ top', n.Proper ∧ n.isUsual = true) :
        ({ b with top := top' } : Building).Proper := ⟨each, stack, around, outermost⟩
    have front : ∀ n ∈ node :: b.top, n.Proper ∧ n.isUsual = true := by
      intro n hn
      obtain rfl | hn := List.mem_cons.mp hn
      · exact ⟨proper, usual⟩
      · exact top n hn
    split
    · exact ⟨⟨top, stack, around, outermost⟩, rfl⟩
    · split
      · exact ⟨whole _ (proper_addBelowFirst proper usual top), rfl⟩
      · exact ⟨whole _ front, rfl⟩
    · exact ⟨whole _ front, rfl⟩

/-! ### Opening and closing -/

theorem rawText?_eq_none : b.rawText? = none ↔ ∀ e ∈ b.stack.head?, isRawText e.tag = false := by
  simp [rawText?, current?]

theorem Clear.usual (h : b.Clear) : ∀ e ∈ b.stack, isRawText e.tag = false := by
  intro e he
  cases open_ : b.stack with
  | nil =>
    rw [open_] at he
    cases he
  | cons inner rest =>
    have innermost := rawText?_eq_none.mp h.noRaw
    have around := h.around
    rw [open_] at he innermost around
    obtain rfl | he := List.mem_cons.mp he
    · exact innermost e rfl
    · exact around e he

theorem clear_of_usual (top : ∀ node ∈ b.top, node.Proper ∧ node.isUsual = true)
    (stack : ∀ e ∈ b.stack, e.Proper ∧ isRawText e.tag = false) : b.Clear where
  top := top
  stack e he := (stack e he).1
  around e he := (stack e (List.mem_of_mem_tail he)).2
  outermost e only := (stack e (only ▸ List.mem_cons_self)).2
  noRaw := rawText?_eq_none.mpr fun e he => (stack e (List.mem_of_mem_head? he)).2

theorem clear_pop (h : b.Proper) : b.pop.Clear := by
  unfold pop
  split
  · rename_i none_
    exact ⟨h, by simp [rawText?, current?, none_]⟩
  · rename_i e rest open_
    obtain ⟨top, stack, around, outermost⟩ := h
    rw [open_] at stack around outermost
    have below : ({ b with stack := rest } : Building).Clear :=
      clear_of_usual top fun e' he => ⟨stack e' (List.mem_cons_of_mem _ he), around e' he⟩
    obtain ⟨proper, same⟩ := proper_add below.toProper (stack e List.mem_cons_self).node
      (fun only => by
        have usual := outermost e (by rw [show rest = [] from only])
        simp [Node.isUsual, Node.tag?, usual])
      (fun raw => absurd below.noRaw raw)
    exact ⟨proper, same.trans below.noRaw⟩

theorem rawText?_push :
    (b.push tag attributes).rawText? = if isRawText tag then some tag else none := rfl

theorem proper_push (h : b.Clear) (name : ' ' ∉ tag.toList)
    (under : b.stack = [] → isRawText tag = false) (attributes : List Attribute) :
    (b.push tag attributes).Proper := by
  refine ⟨h.top, fun e he => ?_, h.usual, fun e only => ?_⟩
  · obtain rfl | he := List.mem_cons.mp he
    · exact ⟨name, fun _ _ h => absurd h List.not_mem_nil, fun _ h => absurd h List.not_mem_nil⟩
    · exact h.stack e he
  · obtain ⟨rfl, empty⟩ := List.cons.inj only
    exact under empty

theorem clear_push (h : b.Clear) (name : ' ' ∉ tag.toList) (usual : isRawText tag = false)
    (attributes : List Attribute) : (b.push tag attributes).Clear :=
  ⟨proper_push h name (fun _ => usual) attributes, by rw [rawText?_push, usual]; rfl⟩

theorem clear_closeFor (h : b.Clear) (fuel : Nat) : (closeFor tag fuel b).Clear := by
  induction fuel generalizing b with
  | zero => exact h
  | succ fuel ih =>
    unfold closeFor
    split
    · split
      · exact ih (clear_pop h.toProper)
      · exact h
    · exact h

theorem clear_autoClose (h : b.Clear) (tag : String) : (b.autoClose tag).Clear := clear_closeFor h _

/-- What a tag needs around it is no element with raw text, and inside the document element. -/
theorem clear_imply (h : b.Clear) (tag : String) :
    (b.imply tag).Clear ∧ ((b.imply tag).stack = [] → tag = "html") := by
  unfold imply
  split
  · rename_i html
    exact ⟨h, fun _ => beq_iff_eq.mp html⟩
  · have base : (if b.stack.isEmpty then b.push "html" [] else b).Clear ∧
        (if b.stack.isEmpty then b.push "html" [] else b).stack ≠ [] := by
      split
      · exact ⟨clear_push h (by decide) (by decide) [], List.cons_ne_nil _ _⟩
      · rename_i filled
        exact ⟨h, fun empty => filled (by rw [empty]; rfl)⟩
    dsimp only
    generalize (if b.stack.isEmpty then b.push "html" [] else b) = b at base ⊢
    obtain ⟨clear, within⟩ := base
    have kept : b.Clear ∧ (b.stack = [] → tag = "html") := ⟨clear, fun empty => absurd empty within⟩
    have opened (name : String) (noBlank : ' ' ∉ name.toList) (usual : isRawText name = false) :
        (b.push name []).Clear ∧ ((b.push name []).stack = [] → tag = "html") :=
      ⟨clear_push clear noBlank usual [], fun empty => by cases empty⟩
    split
    · exact kept
    · split
      · split
        · exact kept
        · exact opened "head" (by decide) (by decide)
      · split
        · exact kept
        · split
          · exact kept
          · exact opened "body" (by decide) (by decide)

theorem mem_addToOutermost {stack : List OpenElement} {e : OpenElement}
    (h : e ∈ addToOutermost attributes stack) :
    ∃ e' ∈ stack, e.tag = e'.tag ∧ e.children = e'.children := by
  induction stack with
  | nil => cases h
  | cons first rest ih =>
    cases rest with
    | nil =>
      obtain rfl := List.mem_singleton.mp h
      exact ⟨first, List.mem_cons_self, rfl, rfl⟩
    | cons second rest =>
      obtain rfl | h := List.mem_cons.mp h
      · exact ⟨e, List.mem_cons_self, rfl, rfl⟩
      · obtain ⟨e', he, same⟩ := ih h
        exact ⟨e', List.mem_cons_of_mem _ he, same⟩

theorem clear_addToOutermost (h : b.Clear) (attributes : List Attribute) :
    ({ b with stack := addToOutermost attributes b.stack } : Building).Clear := by
  refine clear_of_usual h.top fun e he => ?_
  obtain ⟨e', he', tag, children⟩ := mem_addToOutermost he
  obtain ⟨name, raw, below⟩ := h.stack e' he'
  exact ⟨⟨tag ▸ name, by rwa [tag, children], by rwa [children]⟩, tag ▸ h.usual e' he'⟩

theorem clear_ignored (h : b.Clear) (n : Nat) : ({ b with ignored := n } : Building).Clear :=
  ⟨⟨h.top, h.stack, h.around, h.outermost⟩, h.noRaw⟩

/-- Whatever is passed over or has no content holds no raw text. -/
theorem tag_of_isMisplaced (h : b.isMisplaced tag = true) : isRawText tag = false := by
  refine Bool.eq_false_iff.mpr fun raw => ?_
  obtain rfl | rfl := isRawText_iff.mp raw <;> simp [isMisplaced] at h

/-- An opening tag leaves an element with raw text open exactly if it is one that does not close
itself. -/
theorem proper_opened (h : b.Clear) (name : ' ' ∉ tag.toList) (attributes : List Attribute)
    (closed : Bool) : (b.opened tag attributes closed).Proper ∧
      (b.opened tag attributes closed).rawText? =
        if !closed && isRawText tag then some tag else none := by
  obtain ⟨clear, within⟩ := clear_imply (clear_autoClose h tag) tag
  unfold opened
  dsimp only
  generalize (b.autoClose tag).imply tag = b at clear within ⊢
  split
  · rename_i misplaced
    have ignored := clear_ignored clear (b.ignored + 1)
    rw [tag_of_isMisplaced misplaced, Bool.and_false, if_neg Bool.false_ne_true]
    split
    · have added := clear_addToOutermost ignored (attributes.map kept)
      exact ⟨added.toProper, added.noRaw⟩
    · exact ⟨ignored.toProper, ignored.noRaw⟩
  · have under (empty : b.stack = []) : isRawText tag = false := by
      rw [within empty]
      decide
    have pushed := proper_push clear name under (attributes.map kept)
    split
    · rename_i shut
      have popped := clear_pop pushed
      refine ⟨popped.toProper, popped.noRaw.trans ?_⟩
      rw [if_neg]
      intro open_
      obtain ⟨notClosed, raw⟩ := Bool.and_eq_true_iff.mp open_
      rw [isVoid_of_isRawText raw, Bool.or_false] at shut
      simp [shut] at notClosed
    · rename_i stays
      obtain ⟨rfl, -⟩ : closed = false ∧ isVoid tag = false := by simpa using stays
      exact ⟨pushed, rawText?_push⟩

theorem clear_closeUpTo (h : b.Clear) (tag : String) (fuel : Nat) :
    (closeUpTo tag fuel b).Clear := by
  induction fuel generalizing b with
  | zero => exact h
  | succ fuel ih =>
    unfold closeUpTo
    split
    · split
      · exact clear_pop h.toProper
      · exact ih (clear_pop h.toProper)
    · exact h

theorem clear_ended (h : b.Clear) (tag : String) : (b.ended tag).Clear := by
  unfold ended
  split
  · exact ⟨⟨h.top, h.stack, h.around, h.outermost⟩, h.noRaw⟩
  · split
    · exact clear_closeUpTo h _ _
    · exact h

/-- The closing tag of an element with raw text closes it. -/
theorem clear_ended_raw (h : b.Proper) (inside : b.rawText? = some tag) : (b.ended tag).Clear := by
  obtain ⟨current, raw⟩ := Option.filter_eq_some_iff.mp inside
  cases open_ : b.stack with
  | nil => simp [current?, open_] at current
  | cons e rest =>
    have own : e.tag = tag := by simpa [current?, open_] using current
    have other : ["html", "body", "head"].contains tag = false := by
      obtain rfl | rfl := isRawText_iff.mp raw <;> decide
    have reached : reaches tag b.stack = true := by simp [open_, reaches, own]
    rw [ended, other, Bool.and_false, if_neg Bool.false_ne_true, if_pos reached, open_,
      List.length_cons, closeUpTo, current]
    dsimp only
    rw [if_pos (beq_self_eq_true tag)]
    exact clear_pop h

theorem clear_paragraph (h : b.Clear) : b.paragraph.Clear := by
  unfold paragraph
  split
  · split
    · exact clear_push (clear_imply (clear_autoClose h "p") "p").1 (by decide) (by decide) []
    · exact h
  · exact clear_push (clear_imply h "p").1 (by decide) (by decide) []

theorem clear_add (h : b.Clear) (proper : node.Proper) (usual : node.isUsual = true) :
    (b.add node).Clear := by
  obtain ⟨proper, same⟩ :=
    proper_add h.toProper proper (fun _ => usual) fun raw => absurd h.noRaw raw
  exact ⟨proper, same.trans h.noRaw⟩

theorem clear_takeText (h : b.Clear) (content : String) (raw : Bool) :
    (b.takeText content raw).Clear := by
  unfold takeText
  dsimp only
  generalize (if b.isFresh then _ else content) = content
  split
  · exact clear_add h (.text _) rfl
  · exact clear_add (clear_paragraph h) (.text _) rfl

/-- Raw text goes into its element. -/
theorem proper_takeText_raw (h : b.Proper) (inside : b.rawText? = some tag) (content : String) :
    (b.takeText content true).Proper ∧ (b.takeText content true).rawText? = some tag := by
  unfold takeText
  dsimp only
  rw [Bool.true_or, if_pos rfl, ← inside]
  exact proper_add h (.text _) (fun _ => rfl) fun _ => rfl

/-! ### Tokens -/

/-- Each token leaves the document proper, and the tokens behind it in order. -/
theorem proper_take {token : Token} {rest : List Token} (h : b.Proper)
    (order : Orderly b.rawText? (token :: rest)) :
    (b.take token).Proper ∧ Orderly (b.take token).rawText? rest := by
  cases inside : b.rawText? with
  | none =>
    have clear : b.Clear := ⟨h, inside⟩
    rw [inside] at order
    have after {b' : Building} (clear : b'.Clear) (order : Orderly none rest) :
        b'.Proper ∧ Orderly b'.rawText? rest := ⟨clear.toProper, clear.noRaw ▸ order⟩
    cases token with
    | opening tag attributes closed =>
      obtain ⟨name, order⟩ := order
      obtain ⟨proper, inside⟩ := proper_opened clear name attributes closed
      exact ⟨proper, inside ▸ order⟩
    | closing tag => exact after (clear_ended clear tag) order
    | comment content => exact after (clear_add clear (.comment content) rfl) order
    | documentType => exact after clear order
    | text content raw => exact after (clear_takeText clear content raw) order
  | some tag =>
    rw [inside] at order
    cases token with
    | opening | comment | documentType => cases order
    | closing =>
      obtain ⟨rfl, order⟩ := order
      have clear := clear_ended_raw h inside
      exact ⟨clear.toProper, clear.noRaw ▸ order⟩
    | text content =>
      obtain ⟨rfl, order⟩ := order
      obtain ⟨proper, same⟩ := proper_takeText_raw h inside content
      exact ⟨proper, same ▸ order⟩

theorem proper_foldl {tokens : List Token} (h : b.Proper) (order : Orderly b.rawText? tokens) :
    (tokens.foldl take b).Proper := by
  induction tokens generalizing b with
  | nil => exact h
  | cons token rest ih =>
    obtain ⟨proper, order⟩ := proper_take h order
    exact ih proper order

theorem proper_finish (h : b.Proper) (fuel : Nat) : (finish fuel b).Proper := by
  induction fuel generalizing b with
  | zero => exact h
  | succ fuel ih => exact ih (clear_pop h).toProper

end Building

/-! ### Documents -/

theorem proper_readNodes (text : String) :
    ∀ node ∈ readNodes text, node.Proper ∧ node.isUsual = true := by
  have empty : ({} : Building).Proper := by
    constructor <;> intro _ h <;> cases h
  intro node h
  rw [readNodes, Building.nodes, List.mem_reverse] at h
  exact (Building.proper_finish (Building.proper_foldl empty (orderly_tokens text)) _).top node h

theorem Node.Proper.of_children {node child : Node} (h : node.Proper) (hc : child ∈ node.children) :
    child.Proper := by
  cases h with
  | element name raw below => exact below child hc
  | text | comment | instruction => cases hc

theorem proper_nodeAt? {nodes : List Node} {place : Place} {node : Node}
    (each : ∀ node ∈ nodes, node.Proper) (here : nodeAt? nodes place = some node) :
    node.Proper := by
  induction place generalizing nodes with
  | nil => cases here
  | cons i rest ih =>
    cases rest with
    | nil => exact each node (List.mem_of_getElem? here)
    | cons j rest =>
      obtain ⟨outer, hi, here⟩ := Option.bind_eq_some_iff.mp here
      have proper := each outer (List.mem_of_getElem? hi)
      exact ih (fun child hc => proper.of_children hc) here

/-! ### Fragments -/

theorem Node.Proper.withChildren {node : Node} {children : List Node} (h : node.Proper)
    (usual : node.isUsual = true) (below : ∀ child ∈ children, child.Proper) :
    (node.withChildren children).Proper ∧ (node.withChildren children).isUsual = true := by
  cases h with
  | element name =>
    refine ⟨.element name (fun raw => ?_) below, usual⟩
    simp [Node.isUsual, Node.tag?, raw] at usual
  | text => exact ⟨.text _, usual⟩
  | comment => exact ⟨.comment _, usual⟩
  | instruction => exact ⟨.instruction _ _, usual⟩

theorem Node.Proper.renamed {node : Node} {tag : String} (h : node.Proper) (name : ' ' ∉ tag.toList)
    (usual : isRawText tag = false) : (node.renamed tag).Proper := by
  cases h with
  | element _ _ below =>
    refine .element name (fun raw => ?_) below
    rw [usual] at raw
    cases raw
  | text => exact .text _
  | comment => exact .comment _
  | instruction => exact .instruction _ _

theorem forall_changeChild {P : Node → Prop} {nodes : List Node} {f : Node → Node}
    (each : ∀ node ∈ nodes, P node) (changed : ∀ node, P node → P (f node)) (i : Nat) :
    ∀ node ∈ changeChild nodes i f, P node := by
  intro node h
  obtain ⟨j, hj⟩ := List.mem_iff_getElem?.mp h
  rw [changeChild, List.getElem?_modify] at hj
  obtain ⟨before, found, rfl⟩ := Option.map_eq_some_iff.mp hj
  have proper := each before (List.mem_of_getElem? found)
  split
  · exact changed before proper
  · exact proper

theorem isUsual_of_isNamed {node : Node} {tag : String} (named : node.isNamed tag = true)
    (usual : isRawText tag = false) : node.isUsual = true := by
  rw [Node.isUsual, beq_iff_eq.mp named, Option.all_some, usual]
  rfl

theorem proper_joinBodies {children : List Node} (each : ∀ child ∈ children, child.Proper) :
    ∀ child ∈ joinBodies children, child.Proper := by
  unfold joinBodies
  split
  · rename_i first more bodies
    have body : ∀ n ∈ first :: more, n.Proper ∧ n.isNamed "body" = true := fun n hn => by
      obtain ⟨hn, named⟩ := List.mem_filter.mp (bodies ▸ hn)
      exact ⟨each n hn, named⟩
    have whole : (first.withChildren ((first :: more).flatMap Node.children)).Proper := by
      obtain ⟨proper, named⟩ := body first List.mem_cons_self
      refine (proper.withChildren (isUsual_of_isNamed named (by decide)) fun child hc => ?_).1
      obtain ⟨outer, ho, hc⟩ := List.mem_flatMap.mp hc
      exact (body outer ho).1.of_children hc
    dsimp only
    split
    · exact each
    · split
      · exact each
      · intro child hc
        obtain hc | rfl | hc := List.mem_append.mp hc |>.imp_right List.mem_cons.mp
        · exact each child (List.mem_of_mem_take hc)
        · exact whole
        · exact each child (List.mem_of_mem_drop (List.mem_filter.mp hc).1)
  · exact each

theorem proper_fragmentIn {nodes : List Node} {root : Node} (proper : root.Proper)
    (each : ∀ node ∈ nodes, node.Proper ∧ node.isUsual = true) (i : Nat) :
    ∀ node ∈ (fragmentIn nodes i root).nodes, node.Proper := by
  have joined := proper_joinBodies fun _ hc => proper.of_children hc
  have replaced {children nodes : List Node} (below : ∀ child ∈ children, child.Proper)
      (each : ∀ node ∈ nodes, node.Proper ∧ node.isUsual = true) :=
    forall_changeChild each (fun node h => h.1.withChildren h.2 below) i
  have first := replaced joined each
  have plain := fun node h => (first node h).1
  unfold fragmentIn
  dsimp only
  split
  · exact plain
  · split
    · exact plain
    · rename_i j _
      split
      · exact plain
      · intro node hn
        have renamed {tag : String} (name : ' ' ∉ tag.toList) (usual : isRawText tag = false) :=
          forall_changeChild joined (fun child h => h.renamed name usual) j
        refine (replaced ?_ first node hn).1
        split
        · exact renamed (by decide) (by decide)
        · exact renamed (by decide) (by decide)

theorem proper_fragment {text : String} {fragment : Fragment} (h : fragment? text = some fragment) :
    ∀ node ∈ fragment.nodes, node.Proper := by
  have each := proper_readNodes text
  unfold fragment? at h
  dsimp only at h
  generalize readNodes text = nodes at each h
  split at h
  · cases h
  · split at h
    · obtain rfl := Option.some.inj h
      exact fun node hn => (each node hn).1
    · rename_i i _ _
      obtain rfl := Option.some.inj h
      refine proper_fragmentIn ?_ each i
      rw [List.getD_eq_getElem?_getD]
      cases here : nodes[i]? with
      | none => exact .text _
      | some root => exact (each root (List.mem_of_getElem? here)).1

end RaggedTables.Markup
