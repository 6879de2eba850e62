import Mathlib.Data.List.Basic
import RaggedTables.Markup.Fragment
import RaggedTables.Markup.Writer

/-! Markup as it is written. Every node but a text ends in a sign, and a declaration of the content
type ends at the first sign behind it, so written markup is cleaned node by node; text has no sign
that opens one and is left as it is. What stands between the tags of an element is therefore its
leading text and then each child as it is written on its own. -/

namespace RaggedTables.Markup

variable {tag : String} {c : Char} {cs ds rest : List Char} {children : List Node}

/-! ### The text behind a tag -/

/-- The text behind the first sign that ends a tag. -/
def behindSign (cs : List Char) : List Char := (cs.dropWhile (· != '>')).drop 1

theorem behindSign_suffix (cs : List Char) : behindSign cs <:+ cs :=
  (List.drop_suffix _ _).trans (List.dropWhile_suffix _)

theorem length_behindSign_le (cs : List Char) : (behindSign cs).length ≤ cs.length :=
  (behindSign_suffix cs).length_le

theorem behindSign_append (sign : '>' ∈ cs) (ds : List Char) :
    behindSign (cs ++ ds) = behindSign cs ++ ds := by
  induction cs with
  | nil => cases sign
  | cons c cs ih =>
    obtain rfl | other := eq_or_ne c '>'
    · rfl
    · have step (es) : behindSign (c :: es) = behindSign es := by
        rw [behindSign, List.dropWhile_cons_of_pos (by simpa using other), behindSign]
      rw [List.cons_append, step, step, ih (List.mem_of_ne_of_mem other.symm sign)]

/-- A text that ends in such a sign, so that no declaration reaches beyond it. -/
def EndsInSign (cs : List Char) : Prop := ∀ c ∈ cs.getLast?, c = '>'

theorem EndsInSign.of_suffix (h : EndsInSign cs) (back : ds <:+ cs) : EndsInSign ds := by
  obtain ⟨front, rfl⟩ := back
  intro c hc
  exact h c (by rw [List.getLast?_append, Option.mem_def.mp hc]; rfl)

theorem endsInSign_append (last : ds.getLast? = some '>') (cs : List Char) :
    EndsInSign (cs ++ ds) := by
  intro c hc
  rw [List.getLast?_append, last] at hc
  exact (Option.some.inj hc).symm

theorem EndsInSign.mem (h : EndsInSign (c :: rest)) : '>' ∈ c :: rest := by
  obtain ⟨last, hlast⟩ :=
    Option.isSome_iff_exists.mp (List.getLast?_isSome.mpr (List.cons_ne_nil c rest))
  exact h last hlast ▸ List.mem_of_getLast? hlast

/-! ### Text without declarations of the content type -/

/-- A text without declarations of the content type. -/
def stripped (cs : List Char) : List Char := withoutContentTypes cs.length cs

theorem withoutContentTypes_enough {a b : Nat} (ha : cs.length ≤ a) (hb : cs.length ≤ b) :
    withoutContentTypes a cs = withoutContentTypes b cs := by
  induction a generalizing b cs with
  | zero =>
    obtain rfl := List.eq_nil_of_length_eq_zero (Nat.le_zero.mp ha)
    cases b <;> rfl
  | succ a ih =>
    cases cs with
    | nil => cases b <;> rfl
    | cons c rest =>
      obtain _ | b := b
      · cases hb
      have behind := length_behindSign_le rest
      have fits : rest.length ≤ a ∧ rest.length ≤ b := by simpa using And.intro ha hb
      rw [withoutContentTypes, withoutContentTypes, ← behindSign, ih fits.1 fits.2,
        ih (Nat.le_trans behind fits.1) (Nat.le_trans behind fits.2)]

/-- Whether a declaration starts at the front of a text and ends in it. -/
def declares (cs : List Char) : Bool :=
  contentTypeStart.toList.isPrefixOf cs && cs.tail.contains '>'

theorem stripped_cons (c : Char) (rest : List Char) : stripped (c :: rest) =
    if declares (c :: rest) then stripped (behindSign rest) else c :: stripped rest := by
  rw [stripped, List.length_cons, withoutContentTypes, ← behindSign,
    withoutContentTypes_enough (length_behindSign_le rest) (Nat.le_refl _)]
  rfl

/-- Induction along the text that is read: behind a declaration, or character by character. -/
@[elab_as_elim]
theorem stripped_induct {P : List Char → Prop} (nil : P [])
    (declared : ∀ c rest, declares (c :: rest) = true → P (behindSign rest) → P (c :: rest))
    (other : ∀ c rest, declares (c :: rest) = false → P rest → P (c :: rest)) (cs : List Char) :
    P cs := by
  induction hn : cs.length using Nat.strongRecOn generalizing cs with
  | _ n ih =>
    subst hn
    cases cs with
    | nil => exact nil
    | cons c rest =>
      cases h : declares (c :: rest) with
      | true => exact declared c rest h (ih _ (Nat.lt_succ_of_le (length_behindSign_le rest)) _ rfl)
      | false => exact other c rest h (ih _ (Nat.lt_succ_self _) _ rfl)

theorem prefix_of_declares (h : declares cs = true) : contentTypeStart.toList <+: cs :=
  List.isPrefixOf_iff_prefix.mp (Bool.and_eq_true_iff.mp h).1

theorem head_of_declares (h : declares (c :: rest) = true) : c = '<' :=
  (List.cons_prefix_cons.mp (prefix_of_declares h)).1.symm

theorem length_stripped_le (cs : List Char) : (stripped cs).length ≤ cs.length := by
  induction cs using stripped_induct with
  | nil => exact Nat.le_refl _
  | declared c rest h ih =>
    rw [stripped_cons, if_pos h]
    exact Nat.le_trans ih (Nat.le_succ_of_le (length_behindSign_le rest))
  | other c rest h ih =>
    rw [stripped_cons, h]
    exact Nat.succ_le_succ ih

theorem stripped_eq_self (none : ¬ contentTypeStart.toList <:+: cs) : stripped cs = cs := by
  induction cs with
  | nil => rfl
  | cons c rest ih =>
    rw [stripped_cons, if_neg fun h => none (prefix_of_declares h).isInfix,
      ih fun h => none (h.trans (List.suffix_cons c rest).isInfix)]

theorem stripped_plain_append (free : '<' ∉ cs) (ds : List Char) :
    stripped (cs ++ ds) = cs ++ stripped ds := by
  induction cs with
  | nil => rfl
  | cons c rest ih =>
    rw [List.cons_append, stripped_cons,
      if_neg fun h => free (head_of_declares h ▸ List.mem_cons_self),
      ih fun h => free (List.mem_cons_of_mem _ h), List.cons_append]

theorem declares_append (ends : EndsInSign (c :: rest)) (ds : List Char) :
    declares (c :: (rest ++ ds)) = declares (c :: rest) := by
  rw [Bool.eq_iff_iff]
  constructor
  · intro h
    have within : contentTypeStart.toList <+: c :: rest := by
      obtain within | beyond :=
        List.prefix_or_prefix_of_prefix (prefix_of_declares h) (List.prefix_append (c :: rest) ds)
      · exact within
      · exact absurd (beyond.subset ends.mem) (by decide)
    have sign : '>' ∈ rest := List.mem_of_ne_of_mem (by rw [head_of_declares h]; decide) ends.mem
    rw [declares, Bool.and_eq_true_iff]
    exact ⟨List.isPrefixOf_iff_prefix.mpr within, List.contains_iff_mem.mpr sign⟩
  · intro h
    obtain ⟨-, sign⟩ := Bool.and_eq_true_iff.mp h
    rw [declares, Bool.and_eq_true_iff]
    exact ⟨List.isPrefixOf_iff_prefix.mpr
        ((prefix_of_declares h).trans (List.prefix_append (c :: rest) ds)),
      List.contains_iff_mem.mpr (List.mem_append_left ds (List.contains_iff_mem.mp sign))⟩

/-- A declaration that starts in `cs` ends in it, and what is left of `cs` still ends in a sign. -/
theorem stripped_append (ends : EndsInSign cs) (ds : List Char) :
    stripped (cs ++ ds) = stripped cs ++ stripped ds := by
  induction cs using stripped_induct with
  | nil => rfl
  | declared c rest h ih =>
    have sign : '>' ∈ rest := List.contains_iff_mem.mp (Bool.and_eq_true_iff.mp h).2
    have back := (behindSign_suffix rest).trans (List.suffix_cons c rest)
    rw [List.cons_append, stripped_cons, declares_append ends, if_pos h, behindSign_append sign,
      ih (ends.of_suffix back), stripped_cons, if_pos h]
  | other c rest h ih =>
    rw [List.cons_append, stripped_cons, declares_append ends, h,
      ih (ends.of_suffix (List.suffix_cons c rest)), stripped_cons, h]
    rfl

/-! ### Cleaned markup -/

theorem cleaned_eq (s : String) : cleaned s = String.ofList (stripped s.toList) := by
  rw [cleaned]
  split
  · rename_i short
    rw [stripped_eq_self, String.ofList_toList]
    exact fun h => Nat.not_le_of_lt short (by simpa only [String.length_toList] using h.length_le)
  · rw [stripped, String.length_toList]

theorem length_cleaned_le (s : String) : (cleaned s).length ≤ s.length := by
  rw [cleaned_eq, String.length_ofList, ← String.length_toList]
  exact length_stripped_le _

theorem cleaned_append {s : String} (ends : EndsInSign s.toList) (t : String) :
    cleaned (s ++ t) = cleaned s ++ cleaned t := by
  rw [cleaned_eq, String.toList_append, stripped_append ends, String.ofList_append, ← cleaned_eq,
    ← cleaned_eq]

theorem cleaned_plain_append {s : String} (free : '<' ∉ s.toList) (t : String) :
    cleaned (s ++ t) = s ++ cleaned t := by
  rw [cleaned_eq, String.toList_append, stripped_plain_append free, String.ofList_append,
    String.ofList_toList, ← cleaned_eq]

theorem cleaned_closingTag (name : ' ' ∉ tag.toList) :
    cleaned (closingTag tag) = closingTag tag := by
  have free : ' ' ∉ (closingTag tag).toList := by simpa [closingTag] using name
  rw [cleaned_eq, stripped_eq_self fun h => free (h.subset (by decide)), String.ofList_toList]

/-! ### Escaped text -/

theorem escapeText_append (s t : String) : escapeText (s ++ t) = escapeText s ++ escapeText t := by
  rw [escapeText, String.toList_append, List.flatMap_append, String.ofList_append, ← escapeText,
    ← escapeText]

theorem escapedChar_of_not_mem (plain : c ∉ ['&', '<', '>']) : escapedChar c = [c] := by
  unfold escapedChar
  split
  · exact absurd (by decide) plain
  · exact absurd (by decide) plain
  · exact absurd (by decide) plain
  · rfl

theorem length_escapedChar_gt (special : c ∈ ['&', '<', '>']) : 1 < (escapedChar c).length := by
  simp only [List.mem_cons, List.not_mem_nil, or_false] at special
  obtain rfl | rfl | rfl := special <;> decide

theorem length_escapedChar_pos (c : Char) : 1 ≤ (escapedChar c).length := by
  by_cases plain : c ∈ ['&', '<', '>']
  · exact Nat.le_of_lt (length_escapedChar_gt plain)
  · rw [escapedChar_of_not_mem plain]
    exact Nat.le_refl 1

theorem not_mem_escapedChar (c : Char) : '<' ∉ escapedChar c := by
  unfold escapedChar
  split
  · decide
  · decide
  · decide
  · rename_i other _ _
    exact fun h => other (List.mem_singleton.mp h).symm

theorem not_mem_escapeText (s : String) : '<' ∉ (escapeText s).toList := by
  rw [escapeText, String.toList_ofList, List.mem_flatMap]
  rintro ⟨c, -, h⟩
  exact not_mem_escapedChar c h

theorem length_flatMap_le {f g : Char → List Char} (each : ∀ c, (f c).length ≤ (g c).length)
    (cs : List Char) : (cs.flatMap f).length ≤ (cs.flatMap g).length := by
  induction cs with
  | nil => exact Nat.le_refl 0
  | cons c cs ih =>
    rw [List.flatMap_cons, List.flatMap_cons, List.length_append, List.length_append]
    exact Nat.add_le_add (each c) ih

/-- Where each piece is at least as long as another, and all of them are not longer together, each
is just as long. -/
theorem length_eq_of_flatMap {f g : Char → List Char} (each : ∀ c, (f c).length ≤ (g c).length)
    (all : (cs.flatMap g).length ≤ (cs.flatMap f).length) :
    ∀ c ∈ cs, (f c).length = (g c).length := by
  induction cs with
  | nil => exact fun c h => absurd h List.not_mem_nil
  | cons c cs ih =>
    rw [List.flatMap_cons, List.flatMap_cons, List.length_append, List.length_append] at all
    have first := each c
    have others := length_flatMap_le each cs
    intro d h
    obtain rfl | h := List.mem_cons.mp h
    · omega
    · exact ih (by omega) d h

theorem escapeText_eq_self {s : String} (plain : ∀ c ∈ s.toList, c ∉ ['&', '<', '>']) :
    escapeText s = s := by
  rw [escapeText, List.flatMap_congr fun c hc => escapedChar_of_not_mem (plain c hc),
    List.flatMap_singleton', String.ofList_toList]

/-- What is escaped is longer than the text it stands for, unless no sign of the text has a name. -/
theorem length_escapeText_le_iff (s : String) :
    (escapeText s).length ≤ s.length ↔ ∀ c ∈ s.toList, c ∉ ['&', '<', '>'] := by
  constructor
  · intro le c hc special
    have all : (s.toList.flatMap escapedChar).length ≤ (s.toList.flatMap fun d => [d]).length := by
      rwa [List.flatMap_singleton', String.length_toList, ← String.length_ofList]
    have equal := length_eq_of_flatMap (f := fun d => [d]) length_escapedChar_pos all c hc
    exact Nat.ne_of_gt (length_escapedChar_gt special) equal.symm
  · intro plain
    exact Nat.le_of_eq (by rw [escapeText_eq_self plain])

/-! ### Nodes -/

theorem endsInSign_openingTag (tag : String) (attributes : List Attribute) :
    EndsInSign (openingTag tag attributes).toList := by
  rw [openingTag, String.toList_append]
  exact endsInSign_append rfl _

/-- Every node but a text ends in a sign. -/
theorem endsInSign_writeNode {node : Node} (parent : String) (h : node.isText = false) :
    EndsInSign (writeNode parent node).toList := by
  cases node with
  | text => cases h
  | comment content =>
    rw [writeNode, String.toList_append]
    exact endsInSign_append rfl _
  | instruction target content =>
    rw [writeNode, String.toList_append]
    exact endsInSign_append rfl _
  | element tag attributes children =>
    rw [writeNode]
    split
    · rw [String.append_empty]
      exact endsInSign_openingTag tag attributes
    · rw [closingTag, ← String.append_assoc, ← String.append_assoc, String.toList_append]
      exact endsInSign_append rfl _

theorem writeTailed_cons {node : Node} (h : node.isText = false) (parent : String)
    (rest : List Node) : writeTailed parent (node :: rest) =
      cleaned (writeNode parent node) ++ writeTailed parent rest := by
  cases node with
  | text => cases h
  | comment | instruction | element => rfl

/-- Children are cleaned one by one, each with the text that follows it. -/
theorem cleaned_writeNodes (usual : isRawText tag = false) (children : List Node) (t : String) :
    cleaned (writeNodes tag children ++ t) = writeTailed tag children ++ cleaned t := by
  induction children with
  | nil => rw [writeNodes, writeTailed, String.empty_append, String.empty_append]
  | cons node rest ih =>
    rw [writeNodes, String.append_assoc]
    cases h : node.isText with
    | false =>
      rw [cleaned_append (endsInSign_writeNode tag h), ih, writeTailed_cons h, String.append_assoc]
    | true =>
      cases node with
      | text content =>
        rw [writeNode, writeTailed, usual, if_neg Bool.false_ne_true,
          cleaned_plain_append (not_mem_escapeText content), ih, String.append_assoc]
      | comment | instruction | element => cases h

theorem writeTailed_leading (usual : isRawText tag = false) (children : List Node) :
    writeTailed tag children =
      escapeText (leadingText children).1 ++ writeTailed tag (leadingText children).2 := by
  induction children with
  | nil => rfl
  | cons node rest ih =>
    cases node with
    | text content =>
      rw [writeTailed, usual, if_neg Bool.false_ne_true, ih, leadingText, escapeText_append,
        String.append_assoc]
    | comment | instruction | element => exact String.empty_append.symm

/-- An element that holds only text, where that is written as it is. -/
theorem writeNodes_raw (raw : isRawText tag = true)
    (texts : ∀ child ∈ children, child.isText = true) :
    leadingText children = (writeNodes tag children, []) := by
  induction children with
  | nil => rfl
  | cons node rest ih =>
    cases node with
    | text content =>
      have others := ih fun child h => texts child (List.mem_cons_of_mem _ h)
      rw [leadingText, others, writeNodes, writeNode, if_pos raw]
    | comment | instruction | element => cases texts _ List.mem_cons_self

theorem outerMarkup_element (attributes : List Attribute) (holds : isVoid tag = false)
    (children : List Node) : (Node.element tag attributes children).outerMarkup =
      cleaned (openingTag tag attributes) ++
        cleaned (writeNodes tag children ++ closingTag tag) := by
  rw [Node.outerMarkup, writeNode, holds, if_neg Bool.false_ne_true,
    cleaned_append (endsInSign_openingTag tag attributes)]

/-- What stands between the tags of an element of usual text: its leading text, and the children
behind it one by one. -/
theorem outerMarkup_usual (attributes : List Attribute) (holds : isVoid tag = false)
    (usual : isRawText tag = false) (name : ' ' ∉ tag.toList) (children : List Node) :
    (Node.element tag attributes children).outerMarkup =
      cleaned (openingTag tag attributes) ++ (escapeText (leadingText children).1 ++
        writeTailed tag (leadingText children).2 ++ closingTag tag) := by
  rw [outerMarkup_element attributes holds, cleaned_writeNodes usual, cleaned_closingTag name,
    writeTailed_leading usual]

end RaggedTables.Markup
