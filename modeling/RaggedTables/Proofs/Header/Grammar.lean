import Mathlib.Data.List.Forall2
import RaggedTables.Header.Compile
import RaggedTables.Proofs.Header.Search
import RaggedTables.Proofs.Text.Pieces

/-! The grammar of templates. What a template says is read off the first places of its brackets; the
compiler gives the header of the grammar, and refuses a template by the first pattern in it that
spells nothing. -/

namespace RaggedTables.Header

/-- The pattern that a template carries for the pieces of a cut. -/
inductive MapsBy (template : String) : Option Pattern → Prop
  | none (lacks : Lacks .mapping template) : MapsBy template none
  | some {name text pattern} (holds : Holds .mapping template name text)
      (compiles : Pattern.compile text = .ok pattern) : MapsBy template (some pattern)

/-- The brackets that decide what a template describes, with the name and the pattern that they
give. -/
inductive Chooses (template : String) : Brackets → String → String → Prop
  | transform {name text} (holds : Holds .transform template name text) :
      Chooses template .transform name text
  | multi {name text} (transform : Lacks .transform template)
      (holds : Holds .multi template name text) : Chooses template .multi name text
  | split {name text} (transform : Lacks .transform template) (multi : Lacks .multi template)
      (holds : Holds .split template name text) : Chooses template .split name text

/-- The rule of a header is the one that the template spells. The names of a spread are cut out of
one name, and a template without brackets is a name as a whole. -/
inductive RuledBy (template : String) : Header → Prop
  | transform {name text pattern mapping} (chooses : Chooses template .transform name text)
      (compiles : Pattern.compile text = .ok pattern) :
      RuledBy template (.transform name pattern mapping)
  | multi {name text names pattern mapping} (chooses : Chooses template .multi name text)
      (cut : Text.CutAt nameSeparator.toList name.toList (names.map String.toList))
      (compiles : Pattern.compile text = .ok pattern) :
      RuledBy template (.multi names pattern mapping)
  | split {name text pattern mapping} (chooses : Chooses template .split name text)
      (compiles : Pattern.compile text = .ok pattern) :
      RuledBy template (.split name pattern mapping)
  | norm {mapping} (transform : Lacks .transform template) (multi : Lacks .multi template)
      (split : Lacks .split template) : RuledBy template (.norm template mapping)

/-- A template spells a header. -/
structure Describes (template : String) (header : Header) : Prop where
  maps : MapsBy template header.mapping?
  ruled : RuledBy template header

/-- The first text in a template that spells no pattern: the mapping pattern is read before the
pattern of the rule. -/
inductive FirstBad (template : String) (bad : BadPattern) : Prop
  | mapping {name} (holds : Holds .mapping template name bad.pattern)
      (fails : Pattern.compile bad.pattern = .error bad.fault)
  | rule {mapping b name} (maps : MapsBy template mapping)
      (chooses : Chooses template b name bad.pattern)
      (fails : Pattern.compile bad.pattern = .error bad.fault)

/-! ### Patterns in a template -/

theorem text_of_compile {text : String} {pattern : Pattern}
    (h : Pattern.compile text = .ok pattern) : pattern.text = text := by
  obtain ⟨⟨expr, state⟩, -, h⟩ := bind_eq_ok.mp h
  simp only at h
  split at h
  · cases h
    rfl
  · cases h

theorem compilePattern_ok {text : String} {pattern : Pattern} :
    compilePattern text = .ok pattern ↔ Pattern.compile text = .ok pattern := by
  unfold compilePattern
  cases Pattern.compile text <;> simp

theorem compilePattern_error {text : String} {bad : BadPattern} :
    compilePattern text = .error bad ↔
      text = bad.pattern ∧ Pattern.compile text = .error bad.fault := by
  obtain ⟨pattern, fault⟩ := bad
  unfold compilePattern
  cases Pattern.compile text <;> simp

/-- A template holds its brackets, or it lacks them, and the scanner says which. -/
theorem find?_cases {b : Brackets} (closes : b.closer ≠ []) (template : String) :
    (find? b template = none ∧ Lacks b template) ∨
      ∃ name text, find? b template = some (name, text) ∧ Holds b template name text := by
  cases hfind : find? b template with
  | none => exact .inl ⟨rfl, (find?_eq_none closes).mp hfind⟩
  | some found => exact .inr ⟨found.1, found.2, rfl, (find?_eq_some closes).mp hfind⟩

theorem mappingOf_ok {template : String} {mapping : Option Pattern} :
    mappingOf template = .ok mapping ↔ MapsBy template mapping := by
  unfold mappingOf
  rcases find?_cases (b := .mapping) (by decide) template with
    ⟨hfind, hlacks⟩ | ⟨name, text, hfind, hholds⟩
  · rw [hfind]
    constructor
    · rintro ⟨⟩
      exact .none hlacks
    · rintro (_ | ⟨hholds, -⟩)
      · rfl
      · exact absurd hlacks hholds.not_lacks
  · simp only [hfind, bind_eq_ok, compilePattern_ok]
    constructor
    · rintro ⟨pattern, hcompiles, ⟨⟩⟩
      exact .some hholds hcompiles
    · rintro (hlacks | ⟨hholds', hcompiles⟩)
      · exact absurd hlacks hholds.not_lacks
      · obtain ⟨-, rfl⟩ := hholds.unique hholds'
        exact ⟨_, hcompiles, rfl⟩

theorem mappingOf_error {template : String} {bad : BadPattern} :
    mappingOf template = .error bad ↔ ∃ name, Holds .mapping template name bad.pattern ∧
      Pattern.compile bad.pattern = .error bad.fault := by
  unfold mappingOf
  rcases find?_cases (b := .mapping) (by decide) template with
    ⟨hfind, hlacks⟩ | ⟨name, text, hfind, hholds⟩
  · rw [hfind]
    constructor
    · rintro ⟨⟩
    · rintro ⟨name, hholds, -⟩
      exact absurd hlacks hholds.not_lacks
  · simp only [hfind, bind_eq_error, compilePattern_error]
    constructor
    · rintro (⟨rfl, hfails⟩ | ⟨_, _, ⟨⟩⟩)
      exact ⟨name, hholds, hfails⟩
    · rintro ⟨name', hholds', hfails⟩
      obtain ⟨-, rfl⟩ := hholds.unique hholds'
      exact .inl ⟨rfl, hfails⟩

/-! ### The rule of a template -/

section Rule

variable {template name text : String} {mapping : Option Pattern}

theorem ruleOf_transform (chooses : Chooses template .transform name text) :
    ruleOf template mapping =
      (do return .transform name (← compilePattern text) mapping) := by
  cases chooses with
  | transform holds => rw [ruleOf, (find?_eq_some (by decide)).mpr holds]

theorem ruleOf_multi (chooses : Chooses template .multi name text) :
    ruleOf template mapping =
      (do return .multi (Text.splitAt nameSeparator name) (← compilePattern text) mapping) := by
  cases chooses with
  | multi transform holds =>
    rw [ruleOf, (find?_eq_none (by decide)).mpr transform, (find?_eq_some (by decide)).mpr holds]

theorem ruleOf_split (chooses : Chooses template .split name text) :
    ruleOf template mapping = (do return .split name (← compilePattern text) mapping) := by
  cases chooses with
  | split transform multi holds =>
    rw [ruleOf, (find?_eq_none (by decide)).mpr transform, (find?_eq_none (by decide)).mpr multi,
      (find?_eq_some (by decide)).mpr holds]

theorem ruleOf_norm (transform : Lacks .transform template) (multi : Lacks .multi template)
    (split : Lacks .split template) : ruleOf template mapping = .ok (.norm template mapping) := by
  rw [ruleOf, (find?_eq_none (by decide)).mpr transform, (find?_eq_none (by decide)).mpr multi,
    (find?_eq_none (by decide)).mpr split]
  rfl

/-- The brackets that are chosen decide what header is made of their pattern. -/
theorem ruleOf_chooses (mapping : Option Pattern) {b : Brackets}
    (chooses : Chooses template b name text) :
    ∃ make : Pattern → Header,
      ruleOf template mapping = (do return make (← compilePattern text)) := by
  cases chooses with
  | transform holds => exact ⟨_, ruleOf_transform (.transform holds)⟩
  | multi transform holds => exact ⟨_, ruleOf_multi (.multi transform holds)⟩
  | split transform multi holds => exact ⟨_, ruleOf_split (.split transform multi holds)⟩

/-- Brackets are chosen unless all are lacking. -/
theorem chooses_or_lacks (template : String) :
    (∃ b name text, Chooses template b name text) ∨
      (Lacks .transform template ∧ Lacks .multi template ∧ Lacks .split template) := by
  rcases find?_cases (b := .transform) (by decide) template with
    ⟨-, htransform⟩ | ⟨name, text, -, hholds⟩
  · rcases find?_cases (b := .multi) (by decide) template with
      ⟨-, hmulti⟩ | ⟨names, text, -, hholds⟩
    · rcases find?_cases (b := .split) (by decide) template with
        ⟨-, hsplit⟩ | ⟨name, text, -, hholds⟩
      · exact .inr ⟨htransform, hmulti, hsplit⟩
      · exact .inl ⟨_, name, text, .split htransform hmulti hholds⟩
    · exact .inl ⟨_, names, text, .multi htransform hholds⟩
  · exact .inl ⟨_, name, text, .transform hholds⟩

theorem ruleOf_ok {header : Header} :
    ruleOf template mapping = .ok header ↔ header.mapping? = mapping ∧ RuledBy template header := by
  constructor
  · intro h
    rcases chooses_or_lacks template with ⟨b, name, text, hchooses⟩ | ⟨htransform, hmulti, hsplit⟩
    · cases hchooses with
      | transform holds =>
        simp only [ruleOf_transform (.transform holds), bind_eq_ok, compilePattern_ok] at h
        obtain ⟨pattern, hcompiles, ⟨⟩⟩ := h
        exact ⟨rfl, .transform (.transform holds) hcompiles⟩
      | multi transform holds =>
        simp only [ruleOf_multi (.multi transform holds), bind_eq_ok, compilePattern_ok] at h
        obtain ⟨pattern, hcompiles, ⟨⟩⟩ := h
        exact ⟨rfl, .multi (.multi transform holds)
          ((Text.cutAt_iff_splitAt (by decide)).mpr rfl) hcompiles⟩
      | split transform multi holds =>
        simp only [ruleOf_split (.split transform multi holds), bind_eq_ok, compilePattern_ok] at h
        obtain ⟨pattern, hcompiles, ⟨⟩⟩ := h
        exact ⟨rfl, .split (.split transform multi holds) hcompiles⟩
    · rw [ruleOf_norm htransform hmulti hsplit] at h
      cases h
      exact ⟨rfl, .norm htransform hmulti hsplit⟩
  · rintro ⟨rfl, hruled⟩
    cases hruled with
    | transform chooses compiles =>
      rw [ruleOf_transform chooses, compilePattern_ok.mpr compiles]
      rfl
    | multi chooses cut compiles =>
      obtain rfl := (Text.cutAt_iff_splitAt (by decide)).mp cut
      rw [ruleOf_multi chooses, compilePattern_ok.mpr compiles]
      rfl
    | split chooses compiles =>
      rw [ruleOf_split chooses, compilePattern_ok.mpr compiles]
      rfl
    | norm transform multi split => exact ruleOf_norm transform multi split

theorem ruleOf_error {bad : BadPattern} :
    ruleOf template mapping = .error bad ↔ ∃ b name, Chooses template b name bad.pattern ∧
      Pattern.compile bad.pattern = .error bad.fault := by
  constructor
  · intro h
    rcases chooses_or_lacks template with ⟨b, name, text, hchooses⟩ | ⟨htransform, hmulti, hsplit⟩
    · obtain ⟨make, hmake⟩ := ruleOf_chooses mapping hchooses
      simp only [hmake, bind_eq_error, compilePattern_error] at h
      obtain ⟨rfl, hfails⟩ | ⟨_, _, ⟨⟩⟩ := h
      exact ⟨b, name, hchooses, hfails⟩
    · rw [ruleOf_norm htransform hmulti hsplit] at h
      cases h
  · rintro ⟨b, name, hchooses, hfails⟩
    obtain ⟨make, hmake⟩ := ruleOf_chooses mapping hchooses
    rw [hmake, compilePattern_error.mpr ⟨rfl, hfails⟩]
    rfl

end Rule

/-! ### Templates -/

theorem ofTemplate_ok {template : String} {header : Header} :
    ofTemplate template = .ok header ↔ Describes template header := by
  simp only [ofTemplate, bind_eq_ok, mappingOf_ok, ruleOf_ok]
  constructor
  · rintro ⟨_, hmaps, rfl, hruled⟩
    exact ⟨hmaps, hruled⟩
  · rintro ⟨hmaps, hruled⟩
    exact ⟨_, hmaps, rfl, hruled⟩

theorem ofTemplate_error {template : String} {bad : BadPattern} :
    ofTemplate template = .error bad ↔ FirstBad template bad := by
  simp only [ofTemplate, bind_eq_error, mappingOf_ok, mappingOf_error, ruleOf_error]
  constructor
  · rintro (⟨name, hholds, hfails⟩ | ⟨mapping, hmaps, b, name, hchooses, hfails⟩)
    · exact .mapping hholds hfails
    · exact .rule hmaps hchooses hfails
  · rintro (⟨hholds, hfails⟩ | ⟨hmaps, hchooses, hfails⟩)
    · exact .inl ⟨_, hholds, hfails⟩
    · exact .inr ⟨_, hmaps, _, _, hchooses, hfails⟩

theorem compile_ok {template : String} {header : Header} :
    compile template = .ok header ↔ Describes template header := by
  rw [← ofTemplate_ok, compile]
  cases ofTemplate template <;> simp [Except.mapError]

theorem compile_error {template : String} {fault : Fault} :
    compile template = .error fault ↔
      ∃ bad, FirstBad template bad ∧ bad.toFault template = fault := by
  simp only [← ofTemplate_error, compile]
  cases ofTemplate template <;> simp [Except.mapError]

/-! ### Lists of templates -/

/-- What becomes of one entry of a list of templates. -/
inductive CompilesTo : Option String → Option Header → Prop
  | skipped : CompilesTo none none
  | compiled {template header} (compiles : compile template = .ok header) :
      CompilesTo (some template) (some header)

/-- The fault of the first entry that is refused; the entries before it compile. -/
inductive FirstRefused : List (Option String) → Fault → Prop
  | here {template rest fault} (refuses : compile template = .error fault) :
      FirstRefused (some template :: rest) fault
  | later {entry header rest fault} (compiles : CompilesTo entry header)
      (tail : FirstRefused rest fault) : FirstRefused (entry :: rest) fault

theorem compileAll_ok {templates : List (Option String)} {headers : List (Option Header)} :
    compileAll templates = .ok headers ↔ List.Forall₂ CompilesTo templates headers := by
  induction templates generalizing headers with
  | nil =>
    cases headers <;> simp [compileAll]
  | cons entry rest ih =>
    cases entry with
    | none =>
      simp only [compileAll, bind_eq_ok, ih]
      constructor
      · rintro ⟨headers, hrest, ⟨⟩⟩
        exact .cons .skipped hrest
      · rintro (_ | ⟨⟨⟩, hrest⟩)
        exact ⟨_, hrest, rfl⟩
    | some template =>
      simp only [compileAll, bind_eq_ok, ih]
      constructor
      · rintro ⟨header, hheader, headers, hrest, ⟨⟩⟩
        exact .cons (.compiled hheader) hrest
      · rintro (_ | ⟨_ | hheader, hrest⟩)
        exact ⟨_, hheader, _, hrest, rfl⟩

theorem compileAll_error {templates : List (Option String)} {fault : Fault} :
    compileAll templates = .error fault ↔ FirstRefused templates fault := by
  induction templates with
  | nil => constructor <;> rintro ⟨⟩
  | cons entry rest ih =>
    cases entry with
    | none =>
      simp only [compileAll, bind_eq_error, ih]
      constructor
      · rintro (hrest | ⟨_, _, ⟨⟩⟩)
        exact .later .skipped hrest
      · rintro (_ | ⟨-, hrest⟩)
        exact .inl hrest
    | some template =>
      simp only [compileAll, bind_eq_error, ih]
      constructor
      · rintro (hrefuses | ⟨header, hheader, hrest | ⟨_, _, ⟨⟩⟩⟩)
        · exact .here hrefuses
        · exact .later (.compiled hheader) hrest
      · rintro (hrefuses | ⟨_ | hheader, hrest⟩)
        · exact .inl hrefuses
        · exact .inr ⟨_, hheader, .inl hrest⟩

/-! ### What a template compiles to -/

/-- The names of a spread, joined again, are the name before its brackets. -/
theorem RuledBy.joined {template : String} {names : List String} {pattern : Pattern}
    {mapping : Option Pattern} (h : RuledBy template (.multi names pattern mapping)) :
    ∃ text, Chooses template .multi (nameSeparator.intercalate names) text ∧
      Pattern.compile text = .ok pattern := by
  cases h with
  | @multi name text _ _ _ chooses cut compiles =>
    obtain rfl := (Text.cutAt_iff_splitAt (by decide)).mp cut
    rw [Text.intercalate_splitAt (by decide)]
    exact ⟨text, chooses, compiles⟩

theorem RuledBy.rule_text {template : String} {header : Header} (h : RuledBy template header)
    {pattern : Pattern} (hrule : header.rule? = some pattern) :
    ∃ b name, Chooses template b name pattern.text := by
  cases h with
  | transform chooses compiles | multi chooses _ compiles | split chooses compiles =>
    cases hrule
    exact ⟨_, _, text_of_compile compiles ▸ chooses⟩
  | norm => cases hrule

theorem MapsBy.mapping_text {template : String} {pattern : Pattern}
    (h : MapsBy template (.some pattern)) : ∃ name, Holds .mapping template name pattern.text := by
  cases h with
  | some holds compiles => exact ⟨_, text_of_compile compiles ▸ holds⟩

/-- A report on a pattern names the template and the first text that spells no pattern. -/
theorem report_of_compile {template named text reason : String}
    (h : compile template = .error (.report (.pattern named text reason))) :
    named = template ∧ ∃ fault, FirstBad template ⟨text, fault⟩ ∧ fault.message text = reason := by
  obtain ⟨⟨pattern, fault⟩, hbad, hfault⟩ := compile_error.mp h
  cases fault with
  | malformed problem position =>
    obtain ⟨rfl, rfl, rfl⟩ : template = named ∧ pattern = text ∧ _ = reason := by
      simpa [BadPattern.toFault] using hfault
    exact ⟨rfl, _, hbad, rfl⟩
  | hugeRepeat => simp [BadPattern.toFault] at hfault
  | longCount digits => simp [BadPattern.toFault] at hfault
  | twoAlphabets => simp [BadPattern.toFault] at hfault

/-- A template compiles to the header that it spells and to no other, and what it spells is what the
four patterns for the brackets find. It is refused exactly for the first text in it that spells no
pattern. A list of templates compiles entry by entry, up to the first that is refused. -/
theorem compile_grammar :
    (Searches "(.+?)//(.+?)\\\\\\\\" .transform ∧ Searches "(.+?)\\[\\[(.+?)\\]\\]" .multi ∧
      Searches "(.+?)\\\x7b\\\x7b(.+?)\\\x7d\\\x7d" .split ∧ Searches "(.+?)<<(.+?)>>" .mapping) ∧
    (∀ template header, compile template = .ok header ↔ Describes template header) ∧
    (∀ template header, compile template = .ok header →
      (∀ pattern, header.rule? = some pattern →
        ∃ b name, Chooses template b name pattern.text) ∧
      ∀ pattern, header.mapping? = some pattern →
        ∃ name, Holds .mapping template name pattern.text) ∧
    (∀ template names pattern mapping,
      compile template = .ok (.multi names pattern mapping) →
        ∃ text, Chooses template .multi (nameSeparator.intercalate names) text ∧
          Pattern.compile text = .ok pattern) ∧
    (∀ template fault, compile template = .error fault ↔
      ∃ bad, FirstBad template bad ∧ bad.toFault template = fault) ∧
    (∀ template named text reason,
      compile template = .error (.report (.pattern named text reason)) →
        named = template ∧
          ∃ fault, FirstBad template ⟨text, fault⟩ ∧ fault.message text = reason) ∧
    (∀ templates headers, (compileHeaders templates).outcome = .ok headers ↔
      List.Forall₂ CompilesTo templates headers) ∧
    ∀ templates fault, (compileHeaders templates).outcome = .error fault ↔
      FirstRefused templates fault := by
  refine ⟨searches_brackets, fun _ _ => compile_ok, fun template header h => ?_,
    fun _ _ _ _ h => (compile_ok.mp h).ruled.joined, fun _ _ => compile_error,
    fun _ _ _ _ => report_of_compile, fun _ _ => compileAll_ok, fun _ _ => compileAll_error⟩
  obtain ⟨hmaps, hruled⟩ := compile_ok.mp h
  refine ⟨fun pattern hrule => hruled.rule_text hrule, fun pattern hmapping => ?_⟩
  rw [hmapping] at hmaps
  exact hmaps.mapping_text

end RaggedTables.Header
