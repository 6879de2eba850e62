import Mathlib.Data.List.TakeWhile
import RaggedTables.Markup.Token
import RaggedTables.Markup.Writer

/-! The order of tokens. The text of an element that is written as it is is read as it is too: up to
the closing tag of that element, so nothing but this text and that tag follows the opening one. -/

namespace RaggedTables.Markup

/-- Tokens in the order in which they are read, from where the named element with raw text is open,
or none is: such an element goes on with its text and its closing tag. The names of elements hold no
blank. -/
def Orderly : Option String → List Token → Prop
  | _, [] => True
  | none, .opening name _ closed :: rest =>
    ' ' ∉ name.toList ∧ Orderly (if !closed && isRawText name then some name else none) rest
  | none, _ :: rest => Orderly none rest
  | some name, .text _ raw :: rest => raw = true ∧ Orderly (some name) rest
  | some name, .closing other :: rest => other = name ∧ Orderly none rest
  | some _, _ :: _ => False

variable {c : Char} {cs : List Char} {name : String} {after : List Token}

/-! ### Names -/

/-- The characters of a tag's name. -/
def isTagPart (c : Char) : Bool := !isSpace c && c != '/' && c != '>'

theorem tagName_eq (cs : List Char) : tagName cs =
    (String.ofList ((cs.takeWhile isTagPart).map lowerAscii),
      cs.drop (cs.takeWhile isTagPart).length) := rfl

theorem eq_blank_of_lowerAscii (h : lowerAscii c = ' ') : c = ' ' := by
  unfold lowerAscii at h
  split at h
  · rename_i upper
    have range : 'A' ≤ c ∧ c ≤ 'Z' := by simpa using upper
    have letters : ∀ n < 91, 65 ≤ n → Char.ofNat (n + 32) ≠ ' ' := by decide
    exact absurd h (letters c.toNat (Nat.lt_succ_of_le range.2) range.1)
  · exact h

theorem blank_not_mem_tagName (cs : List Char) : ' ' ∉ (tagName cs).1.toList := by
  rw [tagName_eq, String.toList_ofList, List.mem_map]
  rintro ⟨c, hc, lower⟩
  obtain rfl := eq_blank_of_lowerAscii lower
  exact absurd (List.mem_takeWhile_imp hc) (by decide)

/-! ### Raw text -/

theorem isRawText_iff : isRawText name = true ↔ name = "script" ∨ name = "style" := by
  rw [isRawText, Bool.or_eq_true, beq_iff_eq, beq_iff_eq]

theorem isVoid_of_isRawText (raw : isRawText name = true) : isVoid name = false := by
  obtain rfl | rfl := isRawText_iff.mp raw <;> decide

theorem textMode_of_isRawText (raw : isRawText name = true) : textMode name = .raw := by
  obtain rfl | rfl := isRawText_iff.mp raw <;> decide

/-- A letter of the name of an element with raw text, in whichever case it is written. -/
theorem isAsciiLetter_of_lowerAscii (raw : isRawText name = true) (h : lowerAscii c ∈ name.toList) :
    Text.isAsciiLetter c = true := by
  unfold lowerAscii at h
  split at h
  · rename_i upper
    rw [Text.isAsciiLetter, upper, Bool.or_true]
  · have letters : name.toList.all Text.isAsciiLetter = true := by
      obtain rfl | rfl := isRawText_iff.mp raw <;> decide
    exact List.all_eq_true.mp letters c h

theorem isTagPart_of_isAsciiLetter (letter : Text.isAsciiLetter c = true) : isTagPart c = true := by
  by_contra stop
  have stops : c ∈ [' ', '\t', '\n', '\x0c', '\r', '/', '>'] := by
    simpa [isTagPart, isSpace, or_assoc, imp_iff_not_or] using stop
  have noLetter :
      [' ', '\t', '\n', '\x0c', '\r', '/', '>'].all (fun d => !Text.isAsciiLetter d) := by decide
  have other := List.all_eq_true.mp noLetter c stops
  rw [letter] at other
  cases other

theorem upToClosing_ends (tag cs : List Char) :
    (upToClosing tag cs).2 = [] ∨ closes tag (upToClosing tag cs).2 = true := by
  induction cs with
  | nil => exact .inl rfl
  | cons c rest ih =>
    rw [upToClosing]
    split
    · rename_i h
      exact .inr h
    · exact ih

/-- What stands at a closing tag: two signs, the name in some case, and a character that ends it. -/
theorem exists_of_closes (h : closes name.toList cs = true) :
    ∃ front c back, cs = '<' :: '/' :: (front ++ c :: back) ∧ front.map lowerAscii = name.toList ∧
      isTagPart c = false := by
  unfold closes at h
  split at h
  · rename_i rest
    obtain ⟨same, stop⟩ := Bool.and_eq_true_iff.mp h
    split at stop
    · rename_i c back behind
      refine ⟨rest.take name.toList.length, c, back, ?_, beq_iff_eq.mp same, ?_⟩
      · rw [← behind, List.take_append_drop]
      · simpa [isTagPart, or_assoc, imp_iff_not_or] using stop
    · cases stop
  · cases h

theorem tagName_of_closes (raw : isRawText name = true) {front back : List Char}
    (same : front.map lowerAscii = name.toList) (stop : isTagPart c = false) :
    tagName (front ++ c :: back) = (name, c :: back) := by
  have letters : ∀ d ∈ front, isTagPart d = true := fun d hd =>
    isTagPart_of_isAsciiLetter (isAsciiLetter_of_lowerAscii raw (same ▸ List.mem_map_of_mem hd))
  have taken : (front ++ c :: back).takeWhile isTagPart = front := by
    rw [List.takeWhile_append_of_pos letters, List.takeWhile_cons_of_neg (by simp [stop]),
      List.append_nil]
  rw [tagName_eq, taken, same, String.ofList_toList, List.drop_left]

/-! ### Reading -/

/-- Tokens of a text in which no such element is open, or which stands at the end of one. -/
structure Continues (cs : List Char) (tokens : List Token) : Prop where
  usual : Orderly none tokens
  raw : ∀ name, isRawText name = true → cs = [] ∨ closes name.toList cs = true →
    Orderly (some name) tokens

theorem orderly_textToken (raw : Bool) (content : String) (h : Orderly none after) :
    Orderly none (textToken raw content ++ after) := by
  unfold textToken
  split <;> exact h

theorem orderly_rawText (content : String) (h : Orderly (some name) after) :
    Orderly (some name) (textToken true content ++ after) := by
  unfold textToken
  split
  · exact h
  · exact ⟨rfl, h⟩

theorem orderly_openingTokens {attributes : List Attribute} {closed : Bool} {rest : List Char}
    (noBlank : ' ' ∉ name.toList)
    (goesOn : Continues (openingTokens name attributes closed rest).2 after) :
    Orderly none ((openingTokens name attributes closed rest).1 ++ after) := by
  cases raw : !closed && isRawText name with
  | true =>
    simp only [Bool.and_eq_true, Bool.not_eq_true'] at raw
    obtain ⟨rfl, raw⟩ := raw
    rw [openingTokens, if_neg Bool.false_ne_true, textMode_of_isRawText raw] at goesOn ⊢
    refine ⟨noBlank, ?_⟩
    rw [raw]
    exact orderly_rawText _ (goesOn.raw name raw (upToClosing_ends _ _))
  | false =>
    suffices ∃ text, (text = [] ∨ ∃ isRaw content, text = textToken isRaw content) ∧
        (openingTokens name attributes closed rest).1 = .opening name attributes closed :: text by
      obtain ⟨text, shape, tokens⟩ := this
      rw [tokens, List.cons_append, Orderly, raw]
      refine ⟨noBlank, ?_⟩
      obtain rfl | ⟨isRaw, content, rfl⟩ := shape
      · exact goesOn.usual
      · exact orderly_textToken isRaw content goesOn.usual
    unfold openingTokens
    split
    · exact ⟨[], .inl rfl, rfl⟩
    · exact ⟨_, .inr ⟨_, _, rfl⟩, rfl⟩

theorem orderly_markup (goesOn : Continues (markup cs).2 after) :
    Orderly none ((markup cs).1 ++ after) := by
  revert goesOn
  fun_cases markup cs
  case case9 name rest attributes closed _ _ _ _ _ _ _ read =>
    intro goesOn
    have noBlank := blank_not_mem_tagName cs
    rw [read] at noBlank
    exact orderly_openingTokens noBlank goesOn
  all_goals exact fun goesOn => goesOn.usual

/-- Where an element with raw text ends, its closing tag is read, or the text ends inside it. -/
theorem markup_of_closes (raw : isRawText name = true) (h : closes name.toList cs = true) :
    startsMarkup cs = true ∧
      ((∃ rest, markup (cs.drop 1) = ([.closing name], rest)) ∨ markup (cs.drop 1) = ([], [])) := by
  obtain ⟨front, c, back, rfl, same, stop⟩ := exists_of_closes h
  have letters : ∀ d ∈ front, Text.isAsciiLetter d = true := fun d hd =>
    isAsciiLetter_of_lowerAscii raw (same ▸ List.mem_map_of_mem hd)
  have read : tagName (front ++ c :: back) = (name, c :: back) := tagName_of_closes raw same stop
  cases front with
  | nil => obtain rfl | rfl := isRawText_iff.mp raw <;> cases same
  | cons d front =>
    have letter := letters d List.mem_cons_self
    have other : d ≠ '>' := by
      rintro rfl
      cases letter
    refine ⟨rfl, ?_⟩
    rw [List.drop_one, List.tail_cons, List.cons_append, markup]
    · rw [List.head?_cons, Option.map_some, Option.getD_some, if_pos letter, ← List.cons_append,
        read]
      dsimp only
      split
      · exact .inl ⟨_, rfl⟩
      · exact .inr rfl
    · rintro rest ⟨⟩
      exact other rfl

theorem continues_tokensFrom (fuel : Nat) (cs : List Char) : Continues cs (tokensFrom fuel cs) := by
  induction fuel generalizing cs with
  | zero =>
    have empty : tokensFrom 0 cs = [] := by cases cs <;> rfl
    rw [empty]
    exact ⟨trivial, fun _ _ _ => trivial⟩
  | succ fuel ih =>
    cases cs with
    | nil => exact ⟨trivial, fun _ _ _ => trivial⟩
    | cons c rest =>
      constructor
      · unfold tokensFrom
        split
        · exact orderly_markup (ih _)
        · exact orderly_textToken _ _ (ih _).usual
      · intro name raw ends
        obtain ⟨starts, read⟩ := markup_of_closes raw (ends.resolve_left (List.cons_ne_nil c rest))
        unfold tokensFrom
        rw [if_pos starts]
        obtain ⟨rest, read⟩ | read := read
        · rw [read]
          exact ⟨rfl, (ih rest).usual⟩
        · rw [read]
          exact (ih []).raw name raw (.inl rfl)

theorem orderly_tokens (text : String) : Orderly none (tokens text) :=
  (continues_tokensFrom _ _).usual

end RaggedTables.Markup
