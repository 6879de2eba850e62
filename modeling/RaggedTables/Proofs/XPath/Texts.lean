import RaggedTables.Page.Lookup
import RaggedTables.Proofs.XPath.Answers

/-! The texts that path expressions find. Of a set the text nodes and the attributes count, each
with its whole text, and their number is what the bounds are held against. A text that an expression
computes is taken apart instead, and its characters are counted. -/

namespace RaggedTables

open Markup XPath

namespace XPath

/-- A spot is a text node with the given content, or an attribute with the given value. -/
inductive Spot.IsText (doc : List Node) : Spot → String → Prop
  | node {place content} (found : nodeAt? doc place = some (.text content)) :
      IsText doc ⟨place, none⟩ content
  | value {place n i a} (found : nodeAt? doc place = some n) (at_ : n.attributes[i]? = some a) :
      IsText doc ⟨place, some i⟩ (a.value.getD "")

variable {doc : List Node} {spot : Spot}

theorem isTextSpot_iff (inside : spot.IsIn doc) :
    isTextSpot doc spot = true ↔ ∃ s, spot.IsText doc s := by
  cases inside with
  | top =>
    refine iff_of_false nofun ?_
    rintro ⟨s, isText⟩
    cases isText with
    | node found => cases found
  | held found at_ => exact iff_of_true rfl ⟨_, .value found at_⟩
  | @node place n found =>
    cases n with
    | text content =>
      exact iff_of_true (by simp [isTextSpot, Spot.node?, found]) ⟨content, .node found⟩
    | element | comment | instruction =>
      refine iff_of_false (by simp [isTextSpot, Spot.node?, found]) ?_
      rintro ⟨s, isText⟩
      cases isText with
      | node found' => cases found.symm.trans found'

theorem Spot.IsText.value_eq {s : String} (h : spot.IsText doc s) : spot.value doc = s := by
  cases h with
  | @node place content found =>
    have below : place.isEmpty = false := by
      cases place with
      | nil => cases found
      | cons => rfl
    simp [Spot.value, Spot.attribute?, Spot.node?, below, found, Node.textContent]
  | value found at_ => simp [Spot.value, Spot.attribute?, found, at_]

end XPath

namespace PageElement

/-- What a path expression comes to from an element. -/
def answer? (e : PageElement) (path : String) : Option Answer :=
  (Expr.read? path).bind fun expr => expr.evaluate? e.document { spot := ⟨e.place, none⟩ }

variable {e : PageElement} {path : String}

theorem findText?_spots {found : List Spot} (h : e.answer? path = some (.spots found)) :
    e.findText? path =
      some ((found.filter (isTextSpot e.document)).map (Spot.value e.document)) := by
  obtain ⟨expr, read, value⟩ := Option.bind_eq_some_iff.mp h
  rw [findText?, read, Option.bind_some, Expr.texts?, value]

theorem findText?_text {s : String} (h : e.answer? path = some (.text s)) :
    e.findText? path = some (s.toList.map fun c => String.ofList [c]) := by
  obtain ⟨expr, read, value⟩ := Option.bind_eq_some_iff.mp h
  rw [findText?, read, Option.bind_some, Expr.texts?, value]

theorem findText?_none (noSet : ∀ found, e.answer? path ≠ some (.spots found))
    (noText : ∀ s, e.answer? path ≠ some (.text s)) : e.findText? path = none := by
  rw [answer?] at noSet noText
  rw [findText?]
  cases read : Expr.read? path with
  | none => rfl
  | some expr =>
    simp only [read, Option.bind_some] at noSet noText
    rw [Option.bind_some, Expr.texts?]
    split
    · rename_i found value
      exact absurd value (noSet found)
    · rename_i s value
      exact absurd value (noText s)
    · rfl

theorem isSet_answer {node : Node} (here : nodeAt? e.document e.place = some node)
    {found : List Spot} (h : e.answer? path = some (.spots found)) : IsSet e.document found := by
  obtain ⟨expr, -, value⟩ := Option.bind_eq_some_iff.mp h
  exact isSet_evaluate (.node here) expr found value

/-- The texts of a set: each text node and each attribute in it once, in document order. -/
theorem exists_texts {doc : List Node} {found : List Spot} (set : IsSet doc found) :
    ∃ texts : List (Spot × String), (texts.map Prod.fst).Pairwise Spot.Earlier ∧
      (∀ spot s, (spot, s) ∈ texts ↔ spot ∈ found ∧ spot.IsText doc s) ∧
      texts.map Prod.snd = (found.filter (isTextSpot doc)).map (Spot.value doc) := by
  refine ⟨(found.filter (isTextSpot doc)).map fun spot => (spot, spot.value doc), ?_, ?_, ?_⟩
  · rw [List.map_map]
    exact (List.map_id _).symm ▸ set.order.filter _
  · intro spot s
    rw [List.mem_map]
    constructor
    · rintro ⟨spot', h, same⟩
      obtain ⟨rfl, rfl⟩ := Prod.mk.inj same
      obtain ⟨hfound, isText⟩ := List.mem_filter.mp h
      obtain ⟨s, hs⟩ := (isTextSpot_iff (set.inside _ hfound)).mp isText
      exact ⟨hfound, hs.value_eq.symm ▸ hs⟩
    · rintro ⟨hfound, hs⟩
      refine ⟨spot, List.mem_filter.mpr ⟨hfound, ?_⟩, by rw [hs.value_eq]⟩
      exact (isTextSpot_iff (set.inside _ hfound)).mpr ⟨s, hs⟩
  · rw [List.map_map]
    rfl

/-- What a lookup of texts comes to. Of a set every text node and every attribute counts, once and
in document order, with its whole text. A text that the expression computes counts character by
character, so it is found whole only if it is one character long. Numbers, truth values and what has
no value are refused as no match at all. -/
theorem findText_results {node : Node} (here : nodeAt? e.document e.place = some node)
    (path description : String) (bounds : Bounds) :
    let refused (count : Nat) : Except Fault (List String) :=
      .error (Wanted.missed ⟨path, "xpath", description, bounds⟩ count e.url)
    let counted (texts : List String) : Except Fault (List String) :=
      if bounds.allows texts.length then .ok texts else refused texts.length
    (∀ found, e.answer? path = some (.spots found) →
      ∃ texts : List (Spot × String), (texts.map Prod.fst).Pairwise Spot.Earlier ∧
        (∀ spot s, (spot, s) ∈ texts ↔ spot ∈ found ∧ spot.IsText e.document s) ∧
        e.findText path description bounds = counted (texts.map Prod.snd)) ∧
      (∀ s, e.answer? path = some (.text s) →
        e.findText path description bounds = counted (s.toList.map fun c => String.ofList [c]) ∧
          (e.findText? path = some [s] ↔ s.length = 1)) ∧
      ((∀ found, e.answer? path ≠ some (.spots found)) → (∀ s, e.answer? path ≠ some (.text s)) →
        e.findText path description bounds = refused 0) := by
  refine ⟨fun found h => ?_, fun s h => ⟨?_, ?_⟩, fun noSet noText => ?_⟩
  · obtain ⟨texts, order, mem, values⟩ := exists_texts (isSet_answer here h)
    refine ⟨texts, order, mem, ?_⟩
    rw [findText, findText?_spots h, ← values, Wanted.check]
  · rw [findText, findText?_text h, Wanted.check]
  · rw [findText?_text h, Option.some.injEq]
    constructor
    · intro whole
      have length := congrArg List.length whole
      rwa [List.length_map, String.length_toList, List.length_singleton] at length
    · intro one
      obtain ⟨c, single⟩ := List.length_eq_one_iff.mp (s.length_toList.trans one)
      rw [single, List.map_singleton, ← single, String.ofList_toList]
  · rw [findText, findText?_none noSet noText, Wanted.check]

/-- A paragraph with a title, a text and a name in it. -/
def titled : List Node :=
  [.element "p" [⟨"title", some "t"⟩] [.text "abc", .element "b" [] [.text "d"]]]

/-- The attribute and the text of the paragraph are found whole, and the text in its name is not of
the set. -/
theorem findText_results_titled :
    nodeAt? titled [0] = some titled[0] ∧
      (PageElement.mk titled [0] "").answer? "@title|text()" =
        some (.spots [⟨[0], some 0⟩, ⟨[0, 0], none⟩]) ∧
      (PageElement.mk titled [0] "").findText "@title|text()" "things" {} = .ok ["t", "abc"] ∧
      ∃ texts : List (Spot × String), texts.map Prod.snd = ["t", "abc"] ∧
        (texts.map Prod.fst).Pairwise Spot.Earlier := by
  have here : nodeAt? (PageElement.mk titled [0] "").document [0] = some titled[0] := rfl
  have answer : (PageElement.mk titled [0] "").answer? "@title|text()" =
      some (.spots [⟨[0], some 0⟩, ⟨[0, 0], none⟩]) := by
    let title : Expr := .step .here .attribute (.named "title") []
    let texts : Expr := .step .here .child .text []
    have read : Expr.read? "@title|text()" = some (.operation .union title texts) := by
      decide +kernel
    have first : title.evaluate? titled { spot := ⟨[0], none⟩ } =
        some (.spots [⟨[0], some 0⟩]) := by decide +kernel
    have second : texts.evaluate? titled { spot := ⟨[0], none⟩ } =
        some (.spots [⟨[0, 0], none⟩]) := by decide +kernel
    have order : [Spot.mk [0] (some 0), Spot.mk [0, 0] none].Pairwise fun a b =>
        a.noLater b = true ∧ a ≠ b := by decide
    rw [answer?, read]
    simp only [Option.bind_some, Expr.evaluate?, first, second]
    exact congrArg (some ∘ Answer.spots) (arrange_of_pairwise order)
  have whole : (PageElement.mk titled [0] "").findText "@title|text()" "things" {} =
      .ok ["t", "abc"] := by
    rw [findText, findText?_spots answer]
    rfl
  obtain ⟨sets, -, -⟩ := findText_results here "@title|text()" "things" {}
  obtain ⟨texts, order, -, found⟩ := sets _ answer
  rw [whole] at found
  dsimp only at found
  split at found
  · exact ⟨here, answer, whole, texts, (Except.ok.inj found).symm, order⟩
  · cases found

/-- A text that an expression computes is not found whole, and as the one result it is refused,
since its characters are counted. -/
theorem not_found_whole :
    (PageElement.mk titled [0] "").answer? "string(.)" = some (.text "abcd") ∧
      (PageElement.mk titled [0] "").findText "string(.)" "things" {} = .ok ["a", "b", "c", "d"] ∧
      (PageElement.mk titled [0] "").findText "string(.)" "things" {} ≠ .ok ["abcd"] ∧
      (PageElement.mk titled [0] "").findText "string(.)" "things" ⟨1, some 1⟩ =
        .error (Wanted.missed ⟨"string(.)", "xpath", "things", ⟨1, some 1⟩⟩ 4 "") := by
  have answer : (PageElement.mk titled [0] "").answer? "string(.)" = some (.text "abcd") := by
    have read : Expr.read? "string(.)" = some (.call "string" [.here]) := by decide +kernel
    rw [answer?, read]
    rfl
  have parts : (PageElement.mk titled [0] "").findText "string(.)" "things" {} =
      .ok ["a", "b", "c", "d"] := by
    rw [findText, findText?_text answer]
    rfl
  refine ⟨answer, parts, ?_, ?_⟩
  · rw [parts]
    simp
  · rw [findText, findText?_text answer]
    rfl

end PageElement

end RaggedTables
