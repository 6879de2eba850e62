import RaggedTables.Proofs.Markup.Building
import RaggedTables.Proofs.Markup.Writing
import RaggedTables.Proofs.Page.Parsing

/-! What stands between the tags of an element, against the element as it is written from tag to
tag. The two differ in the text at the front of raw text only, which is escaped between its tags. -/

namespace RaggedTables

open Markup

variable {text url : String} {page : PageElement} {place : Place} {tag : String}
  {attributes : List Attribute} {children : List Node}

/-- Every element of a page is as it has been read. -/
theorem PageElement.proper_nodeAt? {node : Node} (parsed : PageElement.parse text url = .ok page)
    (here : nodeAt? page.document place = some node) : node.Proper := by
  obtain ⟨-, fragment, read, rfl⟩ := parse_ok.mp parsed
  exact Markup.proper_nodeAt? (proper_fragment read) here

namespace Markup

theorem innerMarkup_element (tag : String) (attributes : List Attribute) (children : List Node) :
    (Node.element tag attributes children).innerMarkup =
      escapeText (leadingText children).1 ++ writeTailed tag (leadingText children).2 := rfl

theorem length_leadingText (children : List Node) :
    (leadingText children).2.length ≤ children.length ∧
      ((leadingText children).2.length = children.length → (leadingText children).1 = "") := by
  induction children with
  | nil => exact ⟨Nat.le_refl _, fun _ => rfl⟩
  | cons node rest ih =>
    cases node with
    | text content =>
      have shorter := Nat.lt_succ_of_le ih.1
      exact ⟨Nat.le_of_lt shorter, fun same => absurd same (Nat.ne_of_lt shorter)⟩
    | element | comment | instruction => exact ⟨Nat.le_refl _, fun _ => rfl⟩

theorem textRun?_getD (children : List Node) :
    (PageElement.textRun? children).getD "" = (leadingText children).1 := by
  unfold PageElement.textRun?
  dsimp only
  split
  · rename_i same
    exact ((length_leadingText children).2 same).symm
  · rfl

/-- Raw text is written as it is, and escaped between the tags of its element. -/
theorem markup_raw (attributes : List Attribute) (raw : isRawText tag = true)
    (texts : ∀ child ∈ children, child.isText = true) :
    (Node.element tag attributes children).outerMarkup =
        cleaned (openingTag tag attributes) ++
          cleaned ((leadingText children).1 ++ closingTag tag) ∧
      (Node.element tag attributes children).innerMarkup = escapeText (leadingText children).1 := by
  rw [outerMarkup_element attributes (isVoid_of_isRawText raw), innerMarkup_element,
    writeNodes_raw raw texts]
  exact ⟨rfl, String.append_empty⟩

theorem cleaned_raw_eq_iff (name : ' ' ∉ tag.toList) (lead : String) :
    cleaned (lead ++ closingTag tag) = escapeText lead ++ closingTag tag ↔
      ∀ c ∈ lead.toList, c ∉ ['&', '<', '>'] := by
  constructor
  · intro same
    have cut := length_cleaned_le (lead ++ closingTag tag)
    rw [same, String.length_append, String.length_append] at cut
    exact (length_escapeText_le_iff lead).mp (Nat.le_of_add_le_add_right cut)
  · intro plain
    rw [escapeText_eq_self plain, cleaned_plain_append fun h => plain '<' h (by decide),
      cleaned_closingTag name]

end Markup

/-- An element of a page is written as its opening tag, what stands between its tags, and its
closing tag, unless its text is raw and holds a character that has an escape: between the tags that
text is escaped as any other is. All that follows the text at the front is the same. -/
theorem PageElement.outerMarkup_eq_iff (parsed : PageElement.parse text url = .ok page)
    (here : nodeAt? page.document place = some (.element tag attributes children))
    (holds : isVoid tag = false) :
    let e : PageElement := { page with place }
    let start := cleaned (openingTag tag attributes)
    let lead := e.lead?.getD ""
    (e.outerMarkup = start ++ e.innerMarkup ++ closingTag tag ↔
      (isRawText tag = true → ∀ c ∈ lead.toList, c ∉ ['&', '<', '>'])) ∧
      (isRawText tag = true →
        e.outerMarkup = start ++ cleaned (lead ++ closingTag tag) ∧
          e.innerMarkup = escapeText lead) ∧
      (isRawText tag = false → ∃ rest,
        e.outerMarkup = start ++ (escapeText lead ++ rest ++ closingTag tag) ∧
          e.innerMarkup = escapeText lead ++ rest) := by
  intro e start lead
  obtain ⟨name, texts, -⟩ := PageElement.proper_nodeAt? parsed here
  have node : e.node = .element tag attributes children := by
    rw [PageElement.node, show nodeAt? e.document e.place = _ from here, Option.getD_some]
  have front : lead = (leadingText children).1 := by
    rw [← textRun?_getD, ← show e.node.children = children by rw [node]; rfl]
    rfl
  have outer : e.outerMarkup = (Node.element tag attributes children).outerMarkup := by
    rw [PageElement.outerMarkup, node]
  have inner : e.innerMarkup = (Node.element tag attributes children).innerMarkup := by
    rw [PageElement.innerMarkup, node]
  rw [outer, inner, front, String.append_assoc]
  cases raw : isRawText tag with
  | true =>
    obtain ⟨outer, inner⟩ := markup_raw attributes raw (texts raw)
    refine ⟨?_, fun _ => ⟨outer, inner⟩, fun usual => nomatch usual⟩
    rw [outer, inner, String.append_right_inj, cleaned_raw_eq_iff name]
    exact ⟨fun plain _ => plain, fun plain => plain rfl⟩
  | false =>
    have outer := outerMarkup_usual attributes holds raw name children
    refine ⟨?_, fun isRaw => absurd isRaw Bool.false_ne_true, fun _ => ⟨_, outer, rfl⟩⟩
    rw [outer, innerMarkup_element]
    exact ⟨fun _ isRaw => absurd isRaw Bool.false_ne_true, fun _ => rfl⟩

/-- A page with a paragraph in which a text and a script stand. -/
def scripted : PageElement :=
  ⟨[.element "html" [] [.element "body" []
    [.element "p" [] [.text "a>b", .element "script" [] [.text "a>b"]]]]], [0, 0, 0], ""⟩

theorem parse_scripted : PageElement.parse "<p>a>b<script>a>b</script></p>" = .ok scripted := rfl

/-- The paragraph is written as its tags with what stands between them. -/
theorem PageElement.outerMarkup_eq_paragraph :
    PageElement.parse "<p>a>b<script>a>b</script></p>" = .ok scripted ∧
      nodeAt? scripted.document [0, 0, 0] = some scripted.node ∧ isVoid "p" = false ∧
      scripted.lead? = some "a>b" ∧
      scripted.outerMarkup =
        cleaned (openingTag "p" []) ++ scripted.innerMarkup ++ closingTag "p" := by
  have holds : isVoid "p" = false := by decide
  have lead : scripted.lead? = some "a>b" := rfl
  have here : nodeAt? scripted.document [0, 0, 0] = some scripted.node := rfl
  obtain ⟨written, -, -⟩ := outerMarkup_eq_iff parse_scripted here holds
  exact ⟨parse_scripted, here, holds, lead, written.mpr fun isRaw => absurd isRaw (by decide)⟩

/-- What stands between the tags of the script is no part of the script: it is escaped there, and
the script is not. -/
theorem PageElement.not_between_script :
    let script : PageElement := { scripted with place := [0, 0, 0, 1] }
    PageElement.parse "<p>a>b<script>a>b</script></p>" = .ok scripted ∧
      script.outerMarkup = "<script>a>b</script>" ∧ script.innerMarkup = "a&gt;b" ∧
      ¬ ∃ start stop, script.outerMarkup = start ++ script.innerMarkup ++ stop := by
  intro script
  have outer : script.outerMarkup = "<script>a>b</script>" := by decide
  have inner : script.innerMarkup = "a&gt;b" := by decide
  refine ⟨parse_scripted, outer, inner, ?_⟩
  rintro ⟨start, stop, same⟩
  have escape : '&' ∈ script.outerMarkup.toList := by
    rw [same, inner]
    simp
  rw [outer] at escape
  exact absurd escape (by decide)

end RaggedTables
