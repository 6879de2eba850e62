import RaggedTables.Proofs.Markup.Tree

/-! Comments and instructions, and a document with some of them taken out. The text on both sides of
one that goes becomes one text. Elements stay, in their order, each with the same text inside; only
their numbers among their siblings change, and with these their places. -/

namespace RaggedTables.Markup

namespace Node

/-- A comment or an instruction. -/
def isRemark : Node → Bool
  | .comment _ | .instruction .. => true
  | _ => false

/-- A node put in front of siblings; text joins text. -/
def before : Node → List Node → List Node
  | .text s, .text t :: rest => .text (s ++ t) :: rest
  | node, rest => node :: rest

mutual

/-- A node that stands at `place`, without the remarks below it whose places are in a set. -/
def without (gone : Place → Bool) (place : Place) : Node → Node
  | .element tag attributes children => .element tag attributes (withoutFrom gone place 0 children)
  | node => node

/-- The nodes from child `i` of a place on, without those remarks. -/
def withoutFrom (gone : Place → Bool) (place : Place) (i : Nat) : List Node → List Node
  | [] => []
  | node :: rest =>
    if node.isRemark && gone (place ++ [i]) then withoutFrom gone place (i + 1) rest
    else before (without gone (place ++ [i]) node) (withoutFrom gone place (i + 1) rest)

end

/-- Where a place below `nodes`, the children of `place`, is found without the remarks. -/
def movedFrom (gone : Place → Bool) (place : Place) (nodes : List Node) : Place → Place
  | [] => []
  | i :: rest =>
    (withoutFrom gone place 0 (nodes.take i)).length ::
      movedFrom gone (place ++ [i]) ((nodes[i]?.map children).getD []) rest

/-- What is left of a node when remarks below it go. -/
def Left (gone : Place → Bool) (node node' : Node) : Prop :=
  ∃ place, node' = node.without gone place

end Node

open Node (before without withoutFrom movedFrom Left)

/-- A document without the remarks whose places are in a set. -/
def withoutRemarks (gone : Place → Bool) (nodes : List Node) : List Node :=
  withoutFrom gone [] 0 nodes

/-- Where what stands at a place of a document stands without those remarks. -/
def movedPlace (gone : Place → Bool) (nodes : List Node) (p : Place) : Place :=
  movedFrom gone [] nodes p

section

variable {gone : Place → Bool}

/-! ### Names -/

@[simp] theorem isNamed_without (gone : Place → Bool) (place : Place) (tag : String) (node : Node) :
    (node.without gone place).isNamed tag = node.isNamed tag := by
  cases node <;> rfl

@[simp] theorem isElement_without (gone : Place → Bool) (place : Place) (node : Node) :
    (node.without gone place).isElement = node.isElement := by
  cases node <;> rfl

theorem any_before {test : Node → Bool} (texts : ∀ s, test (.text s) = false) (node : Node)
    (rest : List Node) : (before node rest).any test = (test node || rest.any test) := by
  fun_cases before node rest with
  | case1 s t rest => simp [texts]
  | case2 => rfl

theorem any_withoutFrom (gone : Place → Bool) (place : Place) (tag : String) (i : Nat)
    (nodes : List Node) :
    (withoutFrom gone place i nodes).any (Node.isNamed tag) = nodes.any (Node.isNamed tag) := by
  induction nodes generalizing i with
  | nil => rfl
  | cons node rest ih =>
    rw [withoutFrom, List.any_cons]
    by_cases leaves : (node.isRemark && gone (place ++ [i])) = true
    · have nameless : node.isNamed tag = false := by
        cases node with
        | element => cases leaves
        | text | comment | instruction => rfl
      rw [if_pos leaves, ih, nameless, Bool.false_or]
    · rw [if_neg leaves, any_before fun _ => rfl, isNamed_without, ih]

/-! ### Texts -/

theorem textContents_before (node : Node) (rest : List Node) :
    Node.textContents (before node rest) = node.textContent ++ Node.textContents rest := by
  fun_cases before node rest with
  | case1 s t rest => simp [Node.textContents, Node.textContent, String.append_assoc]
  | case2 => rfl

mutual

/-- The remarks play no part in the text inside a node. -/
theorem textContent_without (gone : Place → Bool) (place : Place) : ∀ node : Node,
    (node.without gone place).textContent = node.textContent
  | .element _ _ children => textContents_withoutFrom gone place 0 children
  | .text _ | .comment _ | .instruction _ _ => rfl

theorem textContents_withoutFrom (gone : Place → Bool) (place : Place) (i : Nat) :
    ∀ nodes : List Node,
      Node.textContents (withoutFrom gone place i nodes) = Node.textContents nodes
  | [] => rfl
  | node :: rest => by
    rw [withoutFrom, Node.textContents]
    by_cases leaves : (node.isRemark && gone (place ++ [i])) = true
    · have silent : node.textContent = "" := by
        cases node with
        | element | text => cases leaves
        | comment | instruction => rfl
      rw [if_pos leaves, textContents_withoutFrom gone place (i + 1) rest, silent,
        String.empty_append]
    · rw [if_neg leaves, textContents_before, textContent_without gone (place ++ [i]) node,
        textContents_withoutFrom gone place (i + 1) rest]

end

/-! ### Elements -/

theorem filter_before {test : Node → Bool} (texts : ∀ s, test (.text s) = false) (node : Node)
    (rest : List Node) : (before node rest).filter test = (node :: rest).filter test := by
  fun_cases before node rest with
  | case1 s t rest => simp [texts]
  | case2 => rfl

/-- The elements among siblings stay, in their order. -/
theorem elements_withoutFrom (gone : Place → Bool) (place : Place) (i : Nat) (nodes : List Node) :
    List.Forall₂ (Left gone) (nodes.filter Node.isElement)
      ((withoutFrom gone place i nodes).filter Node.isElement) := by
  induction nodes generalizing i with
  | nil => exact .nil
  | cons node rest ih =>
    rw [withoutFrom]
    by_cases leaves : (node.isRemark && gone (place ++ [i])) = true
    · have noElement : ¬ node.isElement = true := by
        cases node with
        | element => cases leaves
        | text | comment | instruction => nofun
      rw [if_pos leaves, List.filter_cons_of_neg noElement]
      exact ih (i + 1)
    · rw [if_neg leaves, filter_before fun _ => rfl, List.filter_cons, List.filter_cons,
        isElement_without]
      by_cases element : node.isElement = true
      · rw [if_pos element, if_pos element]
        exact .cons ⟨_, rfl⟩ (ih (i + 1))
      · rw [if_neg element, if_neg element]
        exact ih (i + 1)

/-! ### Places -/

theorem before_append_element (node : Node) (front rest : List Node) {c : Node}
    (element : c.isElement = true) :
    before node (front ++ c :: rest) = before node front ++ c :: rest := by
  cases front with
  | nil =>
    cases c with
    | element => cases node <;> rfl
    | text | comment | instruction => cases element
  | cons d front =>
    cases node with
    | text s => cases d <;> rfl
    | element | comment | instruction => rfl

/-- Text joins what follows it, so only at an element do the two sides go on separately. -/
theorem withoutFrom_append_element (gone : Place → Bool) (place : Place) (i : Nat)
    (front rest : List Node) {c : Node} (element : c.isElement = true) :
    withoutFrom gone place i (front ++ c :: rest) =
      withoutFrom gone place i front ++
        c.without gone (place ++ [i + front.length]) ::
          withoutFrom gone place (i + front.length + 1) rest := by
  induction front generalizing i with
  | nil =>
    have stays : ¬ (c.isRemark && gone (place ++ [i])) = true := by
      cases c with
      | element => nofun
      | text | comment | instruction => cases element
    simp only [List.nil_append, withoutFrom, if_neg stays, List.length_nil, Nat.add_zero]
    cases c with
    | element => rfl
    | text | comment | instruction => cases element
  | cons d front ih =>
    have next : i + 1 + front.length = i + (d :: front).length := by
      rw [List.length_cons]
      omega
    rw [List.cons_append, withoutFrom, ih (i + 1), withoutFrom, next]
    by_cases leaves : (d.isRemark && gone (place ++ [i])) = true
    · rw [if_pos leaves, if_pos leaves]
    · rw [if_neg leaves, if_neg leaves]
      exact before_append_element _ _ _ (by rw [isElement_without, element])

theorem getElem?_withoutFrom {place : Place} {nodes : List Node} {i : Nat} {c : Node}
    (h : nodes[i]? = some c) (element : c.isElement = true) :
    (withoutFrom gone place 0 nodes)[(withoutFrom gone place 0 (nodes.take i)).length]? =
      some (c.without gone (place ++ [i])) := by
  obtain ⟨hi, rfl⟩ := List.getElem?_eq_some_iff.mp h
  have split : nodes = nodes.take i ++ nodes[i] :: nodes.drop (i + 1) := by simp
  have number : 0 + (nodes.take i).length = i := by
    rw [List.length_take]
    omega
  have whole := withoutFrom_append_element gone place 0 (nodes.take i) (nodes.drop (i + 1)) element
  rw [← split, number] at whole
  rw [whole, List.getElem?_append_right (Nat.le_refl _), Nat.sub_self, List.getElem?_cons_zero]

/-- An element of a document is found where it moved to, without the remarks below it. -/
theorem nodeAt?_movedFrom {place p : Place} {nodes : List Node} {c : Node}
    (h : nodeAt? nodes p = some c) (element : c.isElement = true) :
    nodeAt? (withoutFrom gone place 0 nodes) (movedFrom gone place nodes p) =
      some (c.without gone (place ++ p)) := by
  induction p generalizing nodes place with
  | nil => cases h
  | cons i rest ih =>
    cases rest with
    | nil => exact getElem?_withoutFrom h element
    | cons k rest =>
      rw [nodeAt?_cons_cons] at h
      obtain ⟨node, hnode, below⟩ := Option.bind_eq_some_iff.mp h
      cases node with
      | element tag attributes children =>
        have here := @getElem?_withoutFrom gone place _ _ _ hnode rfl
        have found := @ih (place ++ [i]) children below
        rw [List.append_assoc, List.singleton_append] at found
        rw [movedFrom, hnode, Option.map_some, Option.getD_some, Node.children]
        simp only [movedFrom, nodeAt?_cons_cons, here, Option.bind_some] at found ⊢
        exact found
      | text | comment | instruction => exact absurd below (by simp [Node.children, nodeAt?_nil])

end

end RaggedTables.Markup
