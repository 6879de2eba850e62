import Mathlib.Data.List.Basic
import Mathlib.Data.List.TakeWhile
import RaggedTables.Page.Element

/-! What can go wrong when a text is parsed. A text that starts with an XML declaration naming an
encoding is refused, whatever stands behind it, and any other is refused if it holds no element. -/

namespace RaggedTables

namespace Markup

variable {cs rest : List Char}

theorem exists_of_trimLeft (h : Text.trimLeft cs = rest) :
    ∃ blanks, (∀ c ∈ blanks, Text.isBlank c = true) ∧ cs = blanks ++ rest :=
  ⟨cs.takeWhile Text.isBlank, fun _ => List.mem_takeWhile_imp,
    by rw [← h, Text.trimLeft, List.takeWhile_append_dropWhile]⟩

theorem trimLeft_blanks {blanks : List Char} {c : Char} (each : ∀ c ∈ blanks, Text.isBlank c = true)
    (ends : Text.isBlank c = false) (rest : List Char) :
    Text.trimLeft (blanks ++ c :: rest) = c :: rest := by
  rw [Text.trimLeft, List.dropWhile_append_of_pos each,
    List.dropWhile_cons_of_neg (Bool.not_eq_true _ ▸ ends)]

theorem isBlank_of_isQuote {c : Char} (h : isQuote c = true) : Text.isBlank c = false := by
  simp only [isQuote, Bool.or_eq_true, beq_iff_eq] at h
  obtain rfl | rfl := h <;> rfl

/-- The name of an encoding: the word, an equals sign with blanks around it, and a text that a quote
opens and a quote ends. -/
theorem givesEncoding_iff : givesEncoding cs = true ↔
    ∃ before after name rest : List Char, ∃ opens ends : Char,
      cs = "encoding".toList ++ before ++ '=' :: (after ++ opens :: (name ++ ends :: rest)) ∧
        (∀ c ∈ before, Text.isBlank c = true) ∧ (∀ c ∈ after, Text.isBlank c = true) ∧
        isQuote opens = true ∧ isQuote ends = true := by
  constructor
  · intro h
    obtain ⟨word, h⟩ := Bool.and_eq_true_iff.mp h
    obtain ⟨cs, rfl⟩ := List.isPrefixOf_iff_prefix.mp word
    rw [show "encoding".length = "encoding".toList.length from rfl, List.drop_left] at h
    split at h
    · rename_i behind sign
      split at h
      · rename_i opens named open_
        obtain ⟨quote, closed⟩ := Bool.and_eq_true_iff.mp h
        obtain ⟨before, blank, rfl⟩ := exists_of_trimLeft sign
        obtain ⟨after, blank', rfl⟩ := exists_of_trimLeft open_
        obtain ⟨ends, there, quote'⟩ := List.any_eq_true.mp closed
        obtain ⟨name, rest, rfl⟩ := List.append_of_mem there
        exact ⟨before, after, name, rest, opens, ends, by rw [List.append_assoc], blank, blank',
          quote, quote'⟩
      · cases h
    · cases h
  · rintro ⟨before, after, name, rest, opens, ends, rfl, blank, blank', quote, quote'⟩
    have closed : (name ++ ends :: rest).any isQuote = true :=
      List.any_eq_true.mpr ⟨ends, List.mem_append_right _ List.mem_cons_self, quote'⟩
    rw [givesEncoding, List.append_assoc,
      show "encoding".length = "encoding".toList.length from rfl, List.drop_left,
      trimLeft_blanks blank rfl, Bool.and_eq_true_iff]
    refine ⟨List.isPrefixOf_iff_prefix.mpr (List.prefix_append _ _), ?_⟩
    simp only [trimLeft_blanks blank' (isBlank_of_isQuote quote), quote, closed, Bool.and_self]

theorem namesEncoding_iff : namesEncoding cs = true ↔
    ∃ front blank rest, cs = front ++ blank :: rest ∧ '>' ∉ front ∧ Text.isBlank blank = true ∧
      givesEncoding rest = true := by
  induction cs with
  | nil => simp [namesEncoding]
  | cons c cs ih =>
    rw [namesEncoding, Bool.or_eq_true_iff, Bool.and_eq_true_iff, Bool.and_eq_true_iff, ih]
    constructor
    · rintro (⟨blank, given⟩ | ⟨other, front, b, rest, rfl, closed, blank, given⟩)
      · exact ⟨[], c, cs, rfl, List.not_mem_nil, blank, given⟩
      · refine ⟨c :: front, b, rest, rfl, ?_, blank, given⟩
        rw [List.mem_cons, not_or]
        exact ⟨Ne.symm (by simpa using other), closed⟩
    · rintro ⟨front, b, rest, same, closed, blank, given⟩
      cases front with
      | nil =>
        obtain ⟨rfl, rfl⟩ := List.cons.inj same
        exact .inl ⟨blank, given⟩
      | cons d front =>
        obtain ⟨rfl, rfl⟩ := List.cons.inj same
        rw [List.mem_cons, not_or] at closed
        exact .inr ⟨by simpa using Ne.symm closed.1, front, b, rest, rfl, closed.2, blank, given⟩

/-- A text declares an encoding if it starts with an XML declaration in which, before any sign that
closes it, a blank and the name of an encoding stand. -/
theorem declaresEncoding_iff {text : String} : declaresEncoding text = true ↔
    ∃ front blank rest, text.toList = "<?xml".toList ++ front ++ blank :: rest ∧ front ≠ [] ∧
      '>' ∉ front ∧ Text.isBlank blank = true ∧ givesEncoding rest = true := by
  unfold declaresEncoding
  constructor
  · intro h
    split at h
    · rename_i c cs opened
      obtain ⟨other, named⟩ := Bool.and_eq_true_iff.mp h
      obtain ⟨front, blank, rest, rfl, closed, isBlank, given⟩ := namesEncoding_iff.mp named
      refine ⟨c :: front, blank, rest, opened, List.cons_ne_nil _ _, ?_, isBlank, given⟩
      rw [List.mem_cons, not_or]
      exact ⟨Ne.symm (by simpa using other), closed⟩
    · cases h
  · rintro ⟨front, blank, rest, opened, filled, closed, isBlank, given⟩
    obtain ⟨c, front, rfl⟩ := List.exists_cons_of_ne_nil filled
    rw [List.mem_cons, not_or] at closed
    rw [opened]
    exact Bool.and_eq_true_iff.mpr ⟨by simpa using Ne.symm closed.1,
      namesEncoding_iff.mpr ⟨front, blank, rest, rfl, closed.2, isBlank, given⟩⟩

end Markup

variable {text url : String} {page : PageElement} {fault : Fault}

theorem PageElement.parse_ok : parse text url = .ok page ↔
    Markup.declaresEncoding text = false ∧
      ∃ fragment, Markup.fragment? text = some fragment ∧
        page = ⟨fragment.nodes, fragment.place, url⟩ := by
  unfold parse
  cases Markup.declaresEncoding text with
  | true => exact iff_of_false nofun fun h => nomatch h.1
  | false =>
    cases Markup.fragment? text with
    | none => exact iff_of_false nofun fun ⟨_, _, h, _⟩ => nomatch h
    | some fragment =>
      constructor
      · intro h
        exact ⟨rfl, fragment, rfl, (Except.ok.inj h).symm⟩
      · rintro ⟨-, _, same, rfl⟩
        rw [← Option.some.inj same]
        rfl

theorem PageElement.parse_error : parse text url = .error fault ↔
    (Markup.declaresEncoding text = true ∧ fault = .value .encodingDeclared) ∨
      (Markup.declaresEncoding text = false ∧ Markup.fragment? text = none ∧
        fault = .emptyDocument) := by
  unfold parse
  cases Markup.declaresEncoding text with
  | true =>
    constructor
    · intro h
      exact .inl ⟨rfl, (Except.error.inj h).symm⟩
    · rintro (⟨-, rfl⟩ | ⟨declared, -⟩)
      · rfl
      · cases declared
  | false =>
    cases Markup.fragment? text with
    | none =>
      constructor
      · intro h
        exact .inr ⟨rfl, rfl, (Except.error.inj h).symm⟩
      · rintro (⟨declared, -⟩ | ⟨-, -, rfl⟩)
        · cases declared
        · rfl
    | some fragment =>
      refine iff_of_false nofun ?_
      rintro (⟨declared, -⟩ | ⟨-, none, -⟩)
      · cases declared
      · cases none

end RaggedTables
