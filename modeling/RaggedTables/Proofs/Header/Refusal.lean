import RaggedTables.Proofs.Header.Grammar
import RaggedTables.Proofs.Pattern.Reading

/-! How templates are refused. A pattern that is malformed is reported with the template and with
its text. Three faults of a pattern are passed on as they are, from any of the brackets: a bound of
a repetition that is too large, one that is too long to be read, and both alphabets set at once. The
text of the pattern shows each of them. -/

namespace RaggedTables.Header

open Pattern (WritesBound SetsFlag repeatLimit)
open Pattern.Reader (decimalValue)

variable {template : String}

/-- How a template is refused for the first text in it that spells no pattern. -/
inductive Refused (template : String) : Fault → Prop
  | reported {text problem position}
      (first : FirstBad template ⟨text, .malformed problem position⟩) :
      Refused template
        (.report (.pattern template text
          (Pattern.Fault.message text (.malformed problem position))))
  | hugeRepeat {text} (first : FirstBad template ⟨text, .hugeRepeat⟩)
      (large : WritesBound (fun digits => repeatLimit ≤ decimalValue digits) text.toList) :
      Refused template .hugeRepeat
  | longCount {text n} (first : FirstBad template ⟨text, .longCount n⟩)
      (limit : Text.digitLimit < n)
      (long : WritesBound (fun digits => digits.length = n) text.toList) :
      Refused template (.value (.longInteger n))
  | twoAlphabets {text} (first : FirstBad template ⟨text, .twoAlphabets⟩)
      (ascii : SetsFlag 'a' text.toList) (unicode : SetsFlag 'u' text.toList) :
      Refused template (.value .twoAlphabets)

/-- A template gives a header, or its refusal is a report with the template and a text in it. -/
def Answered (template : String) : Prop :=
  (∃ header, compile template = .ok header) ∨
    ∃ text reason, compile template = .error (.report (.pattern template text reason))

theorem FirstBad.fails {bad : BadPattern} (h : FirstBad template bad) :
    Pattern.compile bad.pattern = .error bad.fault := by
  cases h <;> assumption

theorem FirstBad.refused {bad : BadPattern} (h : FirstBad template bad) :
    Refused template (bad.toFault template) := by
  obtain ⟨text, fault⟩ := bad
  cases Pattern.explained_of_compile h.fails with
  | malformed => exact .reported h
  | hugeRepeat large => exact .hugeRepeat h large
  | longCount limit long => exact .longCount h limit long
  | twoAlphabets ascii unicode => exact .twoAlphabets h ascii unicode

/-- A template gives the header that it describes, or it is refused in one of four ways. All but the
first of them leave out the template and the text. -/
theorem compile_refused (template : String) :
    (∃ header, compile template = .ok header ∧ Describes template header) ∨
      ∃ fault, compile template = .error fault ∧ Refused template fault := by
  cases h : compile template with
  | ok header => exact .inl ⟨header, rfl, compile_ok.mp h⟩
  | error fault =>
    obtain ⟨bad, hfirst, rfl⟩ := compile_error.mp h
    exact .inr ⟨_, rfl, hfirst.refused⟩

theorem not_answered {text : String} {fault : Pattern.Fault}
    (h : ofTemplate template = .error ⟨text, fault⟩)
    (unreported : ∀ problem position, fault ≠ .malformed problem position) :
    ¬ Answered template := by
  have refused : compile template = .error (BadPattern.toFault template ⟨text, fault⟩) := by
    rw [compile, h]
    rfl
  rw [Answered, refused]
  rintro (⟨header, found⟩ | ⟨named, reason, reported⟩)
  · cases found
  · cases fault with
    | malformed problem position => exact unreported problem position rfl
    | hugeRepeat | longCount | twoAlphabets => cases reported

/-- None of the four brackets reports a bound that is too large, or two alphabets. -/
theorem not_answered_brackets :
    ¬ Answered "a//x\x7b99999999999\x7d\\\\" ∧
      ¬ Answered "a[[(?a)(?u)x]]" ∧
      ¬ Answered "a\x7b\x7bx\x7b99999999999\x7dy\x7d\x7d" ∧
      ¬ Answered "a<<(?a)(?u)x>>" := by
  have transform : ofTemplate "a//x\x7b99999999999\x7d\\\\" =
      .error ⟨"x\x7b99999999999\x7d", .hugeRepeat⟩ := by decide +kernel
  have multi : ofTemplate "a[[(?a)(?u)x]]" = .error ⟨"(?a)(?u)x", .twoAlphabets⟩ := by
    decide +kernel
  have split : ofTemplate "a\x7b\x7bx\x7b99999999999\x7dy\x7d\x7d" =
      .error ⟨"x\x7b99999999999\x7dy", .hugeRepeat⟩ := by decide +kernel
  have mapping : ofTemplate "a<<(?a)(?u)x>>" = .error ⟨"(?a)(?u)x", .twoAlphabets⟩ := by
    decide +kernel
  exact ⟨not_answered transform nofun, not_answered multi nofun, not_answered split nofun,
    not_answered mapping nofun⟩

end RaggedTables.Header
