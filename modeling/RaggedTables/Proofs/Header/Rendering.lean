import Mathlib.Data.List.Induction
import RaggedTables.Proofs.Header.Written
import RaggedTables.Proofs.Pattern.Reading

/-! Templates that are written around a name and the text of a pattern. Of the texts that spell a
pattern the brackets of a transform leave every one whole, since no such text ends in a lone
backslash. The brackets of a spread, a cut and a mapping take the last character of a text that ends
in theirs. -/

namespace RaggedTables.Header

/-! ### Names and texts -/

/-- All kinds of brackets. -/
def Brackets.all : List Brackets := [transform, multi, split, mapping]

/-- A name of word characters and spaces. -/
structure IsFieldName (name : String) : Prop where
  filled : name ≠ ""
  plain : ∀ c ∈ name.toList, Text.isWord c = true ∨ c = ' '

/-- The text of a pattern, on one line and without any brackets. -/
structure Unmarked (text : String) : Prop where
  filled : text ≠ ""
  flat : '\n' ∉ text.toList
  unopened : ∀ b ∈ Brackets.all, ¬ b.opener <:+: text.toList
  unclosed : ∀ b ∈ Brackets.all, ¬ b.closer <:+: text.toList

/-- A text that is not a single character ends in the character of the closing brackets. -/
def Overhangs (right : Char) (text : String) : Prop := ∃ rest, rest ≠ "" ∧ text = rest.push right

theorem Overhangs.getLast? {right : Char} {text : String} (h : Overhangs right text) :
    text.toList.getLast? = some right := by
  obtain ⟨rest, -, rfl⟩ := h
  simp

section Written

variable {b : Brackets} {left right : Char} {name text : String}

theorem IsFieldName.not_mem {x : Char} (named : IsFieldName name)
    (strange : Text.isWord x = false ∧ x ≠ ' ') : x ∉ name.toList := by
  intro h
  rcases named.plain x h with word | space
  · simp [strange.1] at word
  · exact strange.2 space

theorem IsFieldName.not_pair {x : Char} (named : IsFieldName name)
    (strange : Text.isWord x = false ∧ x ≠ ' ') : ¬ [x, x] <:+: name.toList := fun h =>
  named.not_mem strange (h.subset List.mem_cons_self)

theorem IsFieldName.leads (named : IsFieldName name)
    (strange : Text.isWord left = false ∧ left ≠ ' ') : Leads left [] name.toList where
  start := .inl rfl
  filled := by simpa using named.filled
  flat := named.not_mem (by decide)
  unopened := named.not_pair strange
  last h := named.not_mem strange (List.mem_of_getLast? h)

theorem Unmarked.closes (unmarked : Unmarked text) (hb : b ∈ Brackets.all)
    (double : b.Double left right) (within : ¬ Overhangs right text) :
    Closes right text.toList := by
  refine ⟨by simpa using unmarked.filled, unmarked.flat, double.closer ▸ unmarked.unclosed b hb, ?_⟩
  by_contra h
  obtain ⟨long, last⟩ := not_or.mp h
  obtain ⟨init, hinit⟩ := List.getLast?_eq_some_iff.mp (not_not.mp last)
  have split : text = (String.ofList init).push right := by
    rw [← String.toList_inj, String.toList_push, String.toList_ofList, hinit]
  exact within ⟨String.ofList init, fun empty => long (by simp [split, empty]), split⟩

theorem Unmarked.closes_rest (unmarked : Unmarked text) (hb : b ∈ Brackets.all)
    (double : b.Double left right) {rest : String} (filled : rest ≠ "")
    (split : text = rest.push right) : Closes right rest.toList := by
  have letters : text.toList = rest.toList ++ [right] := by simp [split]
  have unclosed : ¬ [right, right] <:+: rest.toList ++ [right] :=
    letters ▸ double.closer ▸ unmarked.unclosed b hb
  refine ⟨by simpa using filled, fun h => unmarked.flat ?_, fun h => unclosed ?_,
    .inr fun h => unclosed ?_⟩
  · rw [letters]
    exact List.mem_append_left _ h
  · exact pair_infix_append.mpr (.inl h)
  · exact pair_infix_append.mpr (.inr (.inr ⟨h, rfl⟩))

/-- Between brackets a text stays whole unless it overhangs; then it loses its last character. -/
theorem Unmarked.holds (unmarked : Unmarked text) (hb : b ∈ Brackets.all)
    (double : b.Double left right) {above line : List Char} (leads : Leads left above line)
    {template : String}
    (written : template.toList = above ++ (line ++ (b.opener ++ (text.toList ++ b.closer)))) :
    (¬ Overhangs right text → Holds b template (String.ofList line) text) ∧
      ∀ rest, rest ≠ "" → text = rest.push right → Holds b template (String.ofList line) rest := by
  constructor
  · intro within
    have whole : template.toList =
        above ++ (line ++ (b.opener ++ (text.toList ++ (b.closer ++ [])))) := by simpa using written
    simpa using holds_written double leads (unmarked.closes hb double within) whole
  · intro rest filled split
    have cut : template.toList =
        above ++ (line ++ (b.opener ++ (rest.toList ++ (b.closer ++ [right])))) := by
      simp [written, split, double.closer]
    simpa using holds_written double leads (unmarked.closes_rest hb double filled split) cut

/-- No other brackets are found around the name and the text. -/
theorem lacks_other {b' : Brackets} {left' right' : Char} (double : b.Double left right)
    (double' : b'.Double left' right') (apart : left' ≠ left ∧ left' ≠ right)
    {lead text : List Char}
    (inLead : ¬ [left', left'] <:+: lead) (inText : ¬ [left', left'] <:+: text) {template : String}
    (written : template.toList = lead ++ (b.opener ++ (text ++ b.closer))) : Lacks b' template := by
  apply lacks_of_opener
  rw [written, double.opener, double.closer, double'.opener, pair_infix_append,
    pair_infix_between apart]
  simp [inLead, inText, apart.1.symm]

end Written

theorem transform_double : Brackets.transform.Double '/' '\\' := ⟨rfl, rfl, by decide⟩

theorem multi_double : Brackets.multi.Double '[' ']' := ⟨rfl, rfl, by decide⟩

theorem split_double : Brackets.split.Double '\x7b' '\x7d' := ⟨rfl, rfl, by decide⟩

theorem mapping_double : Brackets.mapping.Double '<' '>' := ⟨rfl, rfl, by decide⟩

/-! ### What the templates compile to -/

/-- A template is compiled by the pattern that a text spells, and refused as that text is. -/
def CompilesAs (template text : String) (make : Pattern → Header) : Prop :=
  compile template =
    match Pattern.compile text with
    | .ok pattern => .ok (make pattern)
    | .error fault => .error (BadPattern.toFault template ⟨text, fault⟩)

theorem compilesAs_of_ofTemplate {template text : String} {make : Pattern → Header}
    (h : ofTemplate template = (do return make (← compilePattern text))) :
    CompilesAs template text make := by
  rw [CompilesAs, compile, h, compilePattern]
  cases Pattern.compile text <;> rfl

theorem CompilesAs.ok {template text : String} {make : Pattern → Header}
    (h : CompilesAs template text make) {pattern : Pattern}
    (compiles : Pattern.compile text = .ok pattern) : compile template = .ok (make pattern) := by
  rw [h, compiles]

/-- A template is written around a text. It gives back the pattern of the text unless the text
overhangs; then it is compiled as if the last character were not there. -/
structure Renders (right : Char) (text : String) (pattern : Pattern) (template : String)
    (make : Pattern → Header) : Prop where
  whole : compile template = .ok (make pattern) ↔ ¬ Overhangs right text
  cut : ∀ rest, rest ≠ "" → text = rest.push right → CompilesAs template rest make

section Renders

variable {name text : String} {pattern : Pattern}

/-- The pattern that comes out tells what text went in. -/
theorem renders_of_cases {right : Char} {template : String} {make : Pattern → Header}
    (injective : ∀ p q, make p = make q → p = q) (compiles : Pattern.compile text = .ok pattern)
    (whole : ¬ Overhangs right text → CompilesAs template text make)
    (cut : ∀ rest, rest ≠ "" → text = rest.push right → CompilesAs template rest make) :
    Renders right text pattern template make := by
  refine ⟨⟨?_, fun within => (whole within).ok compiles⟩, cut⟩
  rintro found ⟨rest, filled, split⟩
  have cutAs := cut rest filled split
  rw [CompilesAs, found] at cutAs
  cases hrest : Pattern.compile rest with
  | error fault => simp [hrest] at cutAs
  | ok own =>
    simp only [hrest, Except.ok.injEq] at cutAs
    obtain rfl := injective _ _ cutAs
    have same : text = rest := (text_of_compile compiles).symm.trans (text_of_compile hrest)
    have longer := congrArg (fun s => s.toList.length) (same.symm.trans split)
    simp at longer

theorem mappingOf_none {template : String} (lacks : Lacks .mapping template) :
    mappingOf template = .ok none := mappingOf_ok.mpr (.none lacks)

theorem compilesAs_transform {template : String} (unmapped : Lacks .mapping template)
    (holds : Holds .transform template name text) :
    CompilesAs template text fun pattern => .transform name pattern none := by
  refine compilesAs_of_ofTemplate ?_
  rw [ofTemplate, mappingOf_none unmapped, ok_bind, ruleOf_transform (.transform holds)]

theorem compilesAs_multi {template : String} (unmapped : Lacks .mapping template)
    (transform : Lacks .transform template) (holds : Holds .multi template name text)
    (single : Text.splitAt nameSeparator name = [name]) :
    CompilesAs template text fun pattern => .multi [name] pattern none := by
  refine compilesAs_of_ofTemplate ?_
  rw [ofTemplate, mappingOf_none unmapped, ok_bind, ruleOf_multi (.multi transform holds), single]

theorem compilesAs_split {template : String} (unmapped : Lacks .mapping template)
    (transform : Lacks .transform template) (multi : Lacks .multi template)
    (holds : Holds .split template name text) :
    CompilesAs template text fun pattern => .split name pattern none := by
  refine compilesAs_of_ofTemplate ?_
  rw [ofTemplate, mappingOf_none unmapped, ok_bind, ruleOf_split (.split transform multi holds)]

/-- A mapping pattern is added to the header of a template. -/
theorem compilesAs_mapping {template field anything : String} {delimiter : Pattern}
    (holds : Holds .mapping template anything text)
    (rule : ∀ mapping, ruleOf template mapping = .ok (.split field delimiter mapping)) :
    CompilesAs template text fun pattern => .split field delimiter (some pattern) := by
  refine compilesAs_of_ofTemplate ?_
  rw [ofTemplate, mappingOf, (find?_eq_some (by decide)).mpr holds]
  dsimp only
  cases hpattern : compilePattern text <;> simp [rule]

end Renders

/-! ### Templates around a name and a text -/

/-- A mapping pattern can be appended to a template: no brackets of one open in it, nor with its
last character, and its last line is not empty. -/
structure TakesMapping (template : String) : Prop where
  unopened : ¬ Brackets.mapping.opener <:+: template.toList
  last : ∃ c, template.toList.getLast? = some c ∧ c ≠ '<' ∧ c ≠ '\n'

section Templates

variable {name text : String} {pattern : Pattern}

theorem IsFieldName.splitAt (named : IsFieldName name) :
    Text.splitAt nameSeparator name = [name] := by
  have apart : ¬ nameSeparator.toList <:+: name.toList := named.not_pair (x := ',') (by decide)
  simp [Text.splitAt, Text.pieces_of_not_infix apart]

/-- A text that spells a pattern does not end in a lone backslash, and a double one is a mark. -/
theorem Unmarked.within_transform (unmarked : Unmarked text)
    (compiles : Pattern.compile text = .ok pattern) : ¬ Overhangs '\\' text := by
  rintro ⟨rest, filled, rfl⟩
  have whole := Pattern.whole_of_compile compiles
  have unclosed := unmarked.unclosed .transform (by decide)
  rw [String.toList_push] at whole unclosed
  generalize hcs : rest.toList ++ ['\\'] = cs at whole unclosed
  cases whole with
  | nil => simp at hcs
  | char tokens plain =>
    obtain ⟨-, last⟩ := List.append_inj' hcs rfl
    exact plain (List.singleton_inj.mp last).symm
  | @escape cs c tokens =>
    have split : rest.toList ++ ['\\'] = (cs ++ ['\\']) ++ [c] := by simpa using hcs
    obtain ⟨-, last⟩ := List.append_inj' split rfl
    obtain rfl := List.singleton_inj.mp last
    exact unclosed (List.suffix_append ..).isInfix

/-- Around a name and a text no brackets are found but those that are written. -/
theorem Unmarked.lacks (unmarked : Unmarked text) (named : IsFieldName name) {b b' : Brackets}
    {left right left' right' : Char} (hb : b' ∈ Brackets.all) (double : b.Double left right)
    (double' : b'.Double left' right') (apart : left' ≠ left ∧ left' ≠ right)
    (strange : Text.isWord left' = false ∧ left' ≠ ' ') {template : String}
    (written : template.toList = name.toList ++ (b.opener ++ (text.toList ++ b.closer))) :
    Lacks b' template :=
  lacks_other double double' apart (named.not_pair strange)
    (double'.opener ▸ unmarked.unopened b' hb) written

theorem transform_written (named : IsFieldName name) (unmarked : Unmarked text)
    (compiles : Pattern.compile text = .ok pattern) :
    compile (name ++ "//" ++ text ++ "\\\\") = .ok (.transform name pattern none) := by
  have written : (name ++ "//" ++ text ++ "\\\\").toList =
      name.toList ++ (Brackets.transform.opener ++ (text.toList ++ Brackets.transform.closer)) := by
    simp [Brackets.transform]
  have unmapped := unmarked.lacks named (by decide) transform_double mapping_double (by decide)
    (by decide) written
  have holds := unmarked.holds (by decide) transform_double (named.leads (by decide)) written
  have here := holds.1 (unmarked.within_transform compiles)
  rw [String.ofList_toList] at here
  exact (compilesAs_transform unmapped here).ok compiles

theorem multi_written (named : IsFieldName name) (unmarked : Unmarked text)
    (compiles : Pattern.compile text = .ok pattern) :
    Renders ']' text pattern (name ++ "[[" ++ text ++ "]]") fun own => .multi [name] own none := by
  have written : (name ++ "[[" ++ text ++ "]]").toList =
      name.toList ++ (Brackets.multi.opener ++ (text.toList ++ Brackets.multi.closer)) := by
    simp [Brackets.multi]
  have unmapped := unmarked.lacks named (by decide) multi_double mapping_double (by decide)
    (by decide) written
  have transform := unmarked.lacks named (by decide) multi_double transform_double (by decide)
    (by decide) written
  have holds := unmarked.holds (by decide) multi_double (named.leads (by decide)) written
  rw [String.ofList_toList] at holds
  exact renders_of_cases (by simp) compiles
    (fun within => compilesAs_multi unmapped transform (holds.1 within) named.splitAt)
    fun rest filled split =>
      compilesAs_multi unmapped transform (holds.2 rest filled split) named.splitAt

theorem split_written (named : IsFieldName name) (unmarked : Unmarked text)
    (compiles : Pattern.compile text = .ok pattern) :
    Renders '\x7d' text pattern (name ++ "\x7b\x7b" ++ text ++ "\x7d\x7d") fun own =>
      .split name own none := by
  have written : (name ++ "\x7b\x7b" ++ text ++ "\x7d\x7d").toList =
      name.toList ++ (Brackets.split.opener ++ (text.toList ++ Brackets.split.closer)) := by
    simp [Brackets.split]
  have unmapped := unmarked.lacks named (by decide) split_double mapping_double (by decide)
    (by decide) written
  have transform := unmarked.lacks named (by decide) split_double transform_double (by decide)
    (by decide) written
  have multi := unmarked.lacks named (by decide) split_double multi_double (by decide)
    (by decide) written
  have holds := unmarked.holds (by decide) split_double (named.leads (by decide)) written
  rw [String.ofList_toList] at holds
  exact renders_of_cases (by simp) compiles
    (fun within => compilesAs_split unmapped transform multi (holds.1 within))
    fun rest filled split => compilesAs_split unmapped transform multi (holds.2 rest filled split)

theorem takesMapping_split (named : IsFieldName name) (unmarked : Unmarked text) :
    TakesMapping (name ++ "\x7b\x7b" ++ text ++ "\x7d\x7d") := by
  have apart : ¬ ['<', '<'] <:+: name.toList := named.not_pair (by decide)
  have apart' : ¬ ['<', '<'] <:+: text.toList := unmarked.unopened .mapping (by decide)
  have written : (name ++ "\x7b\x7b" ++ text ++ "\x7d\x7d").toList =
      name.toList ++ (['\x7b', '\x7b'] ++ (text.toList ++ ['\x7d', '\x7d'])) := by simp
  refine ⟨?_, '\x7d', ?_, by decide, by decide⟩
  · rw [written, mapping_double.opener, pair_infix_append, pair_infix_between (by decide)]
    simp [apart, apart']
  · rw [written, ← List.append_assoc, ← List.append_assoc]
    exact List.getLast?_append_of_ne_nil _ (by simp)

/-- The last line of a text that does not end in a line break. -/
theorem exists_last_line {cs : List Char} {c : Char} (last : cs.getLast? = some c) (hc : c ≠ '\n') :
    ∃ above line, cs = above ++ line ∧ (above = [] ∨ above.getLast? = some '\n') ∧
      line ≠ [] ∧ '\n' ∉ line := by
  induction cs using List.reverseRecOn generalizing c with
  | nil => simp at last
  | append_singleton cs d ih =>
    obtain rfl : d = c := by simpa using last
    cases before : cs.getLast? with
    | none =>
      obtain rfl := List.getLast?_eq_none_iff.mp before
      exact ⟨[], [d], rfl, .inl rfl, by simp, by simpa using hc.symm⟩
    | some e =>
      by_cases he : e = '\n'
      · exact ⟨cs, [d], rfl, .inr (he ▸ before), by simp, by simpa using hc.symm⟩
      · obtain ⟨above, line, rfl, start, filled, flat⟩ := ih before he
        exact ⟨above, line ++ [d], by simp, start, by simp, by simpa [flat] using hc.symm⟩

theorem TakesMapping.leads {template : String} (takes : TakesMapping template) :
    ∃ above line, template.toList = above ++ line ∧ Leads '<' above line := by
  obtain ⟨unopened, c, last, plain, flat⟩ := takes
  obtain ⟨above, line, split, start, filled, flat⟩ := exists_last_line last flat
  rw [split] at unopened last
  refine ⟨above, line, split, start, filled, flat, unopened, fun h => plain ?_⟩
  rw [List.getLast?_append_of_ne_nil _ filled, h] at last
  exact (Option.some.inj last).symm

/-- A mapping pattern behind a template leaves its other brackets where they are. -/
theorem Unmarked.chooses_append (unmarked : Unmarked text) {template other field own : String}
    (written : other.toList =
      template.toList ++ (Brackets.mapping.opener ++ (text.toList ++ Brackets.mapping.closer)))
    (chooses : Chooses template .split field own) : Chooses other .split field own := by
  have apart {b : Brackets} {left right : Char} (hb : b ∈ Brackets.all)
    (double : b.Double left right)
      (ne : right ≠ '<' ∧ right ≠ '>') : ¬ [right, right] <:+:
        Brackets.mapping.opener ++ (text.toList ++ Brackets.mapping.closer) := by
    rw [mapping_double.opener, mapping_double.closer, pair_infix_between ne]
    exact double.closer ▸ unmarked.unclosed b hb
  cases chooses with
  | split transform multi holds =>
    exact .split
      (lacks_append transform_double written (apart (by decide) transform_double (by decide))
        (by simp [Brackets.mapping]) transform)
      (lacks_append multi_double written (apart (by decide) multi_double (by decide))
        (by simp [Brackets.mapping]) multi)
      (holds_append split_double written (apart (by decide) split_double (by decide))
        (by simp [Brackets.mapping]) holds)

theorem mapping_written (unmarked : Unmarked text) (compiles : Pattern.compile text = .ok pattern)
    {template field : String} {delimiter : Pattern}
    (split : compile template = .ok (.split field delimiter none)) (takes : TakesMapping template) :
    Renders '>' text pattern (template ++ "<<" ++ text ++ ">>") fun own =>
      .split field delimiter (some own) := by
  have written : (template ++ "<<" ++ text ++ ">>").toList =
      template.toList ++ (Brackets.mapping.opener ++ (text.toList ++ Brackets.mapping.closer)) := by
    simp [Brackets.mapping]
  have rule (mapping : Option Pattern) :
      ruleOf (template ++ "<<" ++ text ++ ">>") mapping = .ok (.split field delimiter mapping) := by
    cases (compile_ok.mp split).ruled with
    | split chooses compiles =>
      rw [ruleOf_split (unmarked.chooses_append written chooses), compilePattern_ok.mpr compiles]
      rfl
  obtain ⟨above, line, lines, leads⟩ := takes.leads
  rw [lines, List.append_assoc] at written
  have holds := unmarked.holds (by decide) mapping_double leads written
  exact renders_of_cases (by simp) compiles
    (fun within => compilesAs_mapping (holds.1 within) rule)
    fun rest filled split => compilesAs_mapping (holds.2 rest filled split) rule

end Templates

/-- A name with a pattern between the brackets of a transform compiles to that name and that
pattern. Between the brackets of a spread or a cut, and as a mapping pattern behind a cut, the
pattern comes back exactly if its text does not end in the character of the closing brackets, or is
that character. -/
theorem compile_written {name text : String} {pattern : Pattern} (named : IsFieldName name)
    (unmarked : Unmarked text) (compiles : Pattern.compile text = .ok pattern) :
    pattern.text = text ∧
      compile (name ++ "//" ++ text ++ "\\\\") = .ok (.transform name pattern none) ∧
      Renders ']' text pattern (name ++ "[[" ++ text ++ "]]") (fun own => .multi [name] own none) ∧
      Renders '\x7d' text pattern (name ++ "\x7b\x7b" ++ text ++ "\x7d\x7d")
        (fun own => .split name own none) ∧
      TakesMapping (name ++ "\x7b\x7b" ++ text ++ "\x7d\x7d") ∧
      ∀ template field delimiter, compile template = .ok (.split field delimiter none) →
        TakesMapping template →
        Renders '>' text pattern (template ++ "<<" ++ text ++ ">>") fun own =>
          .split field delimiter (some own) :=
  ⟨text_of_compile compiles, transform_written named unmarked compiles,
    multi_written named unmarked compiles, split_written named unmarked compiles,
    takesMapping_split named unmarked, fun _ _ _ split takes =>
      mapping_written unmarked compiles split takes⟩

theorem exists_compile {text : String} (h : (Pattern.compile text).toOption.isSome = true) :
    ∃ pattern, Pattern.compile text = .ok pattern := by
  obtain ⟨pattern, found⟩ := Option.isSome_iff_exists.mp h
  exact ⟨pattern, eq_ok_of_toOption found⟩

theorem isFieldName_a : IsFieldName "a" where
  filled := by decide
  plain c hc := by
    obtain rfl : c = 'a' := by simpa using hc
    exact .inl (by decide)

/-- A cut at every comma, which a mapping can be appended to. -/
theorem exists_comma_split :
    ∃ comma, compile ("a" ++ "\x7b\x7b" ++ "," ++ "\x7d\x7d") = .ok (.split "a" comma none) ∧
      TakesMapping ("a" ++ "\x7b\x7b" ++ "," ++ "\x7d\x7d") := by
  have unmarked : Unmarked "," := ⟨by decide, by decide, by decide, by decide⟩
  obtain ⟨comma, compiles⟩ : ∃ pattern, Pattern.compile "," = .ok pattern :=
    exists_compile (by decide +kernel)
  exact ⟨comma, (split_written isFieldName_a unmarked compiles).whole.mpr fun h =>
    absurd (Option.some.inj h.getLast?) (by decide), takesMapping_split isFieldName_a unmarked⟩

/-- A counted repetition is whole in every place but between the brackets of a cut. -/
theorem compile_written_counted :
    IsFieldName "a" ∧ Unmarked "x\x7b2\x7d" ∧
    ∃ pattern, Pattern.compile "x\x7b2\x7d" = .ok pattern ∧
      compile "a//x\x7b2\x7d\\\\" = .ok (.transform "a" pattern none) ∧
      compile "a[[x\x7b2\x7d]]" = .ok (.multi ["a"] pattern none) ∧
      (∃ cut, Pattern.compile "x\x7b2" = .ok cut ∧
        compile "a\x7b\x7bx\x7b2\x7d\x7d\x7d" = .ok (.split "a" cut none)) ∧
      ∃ comma, compile "a\x7b\x7b,\x7d\x7d" = .ok (.split "a" comma none) ∧
        TakesMapping "a\x7b\x7b,\x7d\x7d" ∧
        compile "a\x7b\x7b,\x7d\x7d<<x\x7b2\x7d>>" = .ok (.split "a" comma (some pattern)) := by
  have unmarked : Unmarked "x\x7b2\x7d" := ⟨by decide, by decide, by decide, by decide⟩
  obtain ⟨pattern, compiles⟩ : ∃ pattern, Pattern.compile "x\x7b2\x7d" = .ok pattern :=
    exists_compile (by decide +kernel)
  obtain ⟨-, transform, multi, split, -, mapping⟩ := compile_written isFieldName_a unmarked compiles
  have ends {right : Char} (ne : right ≠ '\x7d') : ¬ Overhangs right "x\x7b2\x7d" := fun h =>
    ne (Option.some.inj h.getLast?).symm
  obtain ⟨cut, cutCompiles⟩ : ∃ pattern, Pattern.compile "x\x7b2" = .ok pattern :=
    exists_compile (by decide +kernel)
  have cutAs := (split.cut "x\x7b2" (by decide) (by decide)).ok cutCompiles
  obtain ⟨comma, commaSplit, takes⟩ := exists_comma_split
  exact ⟨isFieldName_a, unmarked, pattern, compiles, transform, multi.whole.mpr (ends (by decide)),
    ⟨cut, cutCompiles, cutAs⟩, comma, commaSplit, takes,
    (mapping _ "a" comma commaSplit takes).whole.mpr (ends (by decide))⟩

/-- Not every pattern comes back whole from a spread, a cut or a mapping: each loses the character
that its closing brackets double. -/
theorem not_written_whole :
    (¬ ∀ name text pattern, IsFieldName name → Unmarked text → Pattern.compile text = .ok pattern →
      compile (name ++ "[[" ++ text ++ "]]") = .ok (.multi [name] pattern none)) ∧
    (¬ ∀ name text pattern, IsFieldName name → Unmarked text → Pattern.compile text = .ok pattern →
      compile (name ++ "\x7b\x7b" ++ text ++ "\x7d\x7d") = .ok (.split name pattern none)) ∧
    ¬ ∀ template field delimiter text pattern,
      compile template = .ok (.split field delimiter none) →
      TakesMapping template → Unmarked text → Pattern.compile text = .ok pattern →
      compile (template ++ "<<" ++ text ++ ">>") = .ok (.split field delimiter (some pattern)) := by
  refine ⟨fun h => ?_, fun h => ?_, fun h => ?_⟩
  · have unmarked : Unmarked "[a-z]" := ⟨by decide, by decide, by decide, by decide⟩
    have overhangs : Overhangs ']' "[a-z]" := ⟨"[a-z", by decide, by decide⟩
    obtain ⟨pattern, compiles⟩ : ∃ pattern, Pattern.compile "[a-z]" = .ok pattern :=
      exists_compile (by decide +kernel)
    have whole := h "a" "[a-z]" pattern isFieldName_a unmarked compiles
    exact (multi_written isFieldName_a unmarked compiles).whole.mp whole overhangs
  · have unmarked : Unmarked "x\x7b2\x7d" := ⟨by decide, by decide, by decide, by decide⟩
    have overhangs : Overhangs '\x7d' "x\x7b2\x7d" := ⟨"x\x7b2", by decide, by decide⟩
    obtain ⟨pattern, compiles⟩ : ∃ pattern, Pattern.compile "x\x7b2\x7d" = .ok pattern :=
      exists_compile (by decide +kernel)
    have whole := h "a" "x\x7b2\x7d" pattern isFieldName_a unmarked compiles
    exact (split_written isFieldName_a unmarked compiles).whole.mp whole overhangs
  · have unmarked : Unmarked "x>" := ⟨by decide, by decide, by decide, by decide⟩
    have overhangs : Overhangs '>' "x>" := ⟨"x", by decide, by decide⟩
    obtain ⟨pattern, compiles⟩ : ∃ pattern, Pattern.compile "x>" = .ok pattern :=
      exists_compile (by decide +kernel)
    obtain ⟨comma, split, takes⟩ := exists_comma_split
    have whole := h _ "a" comma "x>" pattern split takes unmarked compiles
    exact (mapping_written unmarked compiles split takes).whole.mp whole overhangs

end RaggedTables.Header
