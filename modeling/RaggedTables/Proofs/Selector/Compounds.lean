import Mathlib.Data.List.Basic
import RaggedTables.Selector.Reader

/-! Reading compounds in front of more tokens. What has been read with some fuel does not change
with more fuel, or when a blank or a `>` follows. -/

namespace RaggedTables.Selector

variable {inside bare front : Bool} {fuel fuel' : Nat} {c c' : Compound} {rest after more ts : Rest}

/-- Tokens behind which a compound ends: none at all, or a blank or a `>` in front. -/
inductive Breaks : Rest → Prop
  | nil : Breaks []
  | space (rest : Rest) : Breaks (.space :: rest)
  | mark (rest : Rest) : Breaks (.mark '>' :: rest)

/-! ### Parts of a compound -/

/-- Whether something was read is seen by the lengths, whatever follows. -/
theorem length_append_beq (a b more : Rest) :
    ((a ++ more).length == (b ++ more).length) = (a.length == b.length) := by
  simp

@[simp] theorem skipSpace_nil : skipSpace [] = [] := rfl

theorem skipSpace_eq_nil (h : skipSpace rest = []) : rest = [] ∨ rest = [Token.space] := by
  cases rest with
  | nil => exact .inl rfl
  | cons token rest => cases token <;> simp_all [skipSpace]

theorem skipSpace_append (nonempty : rest ≠ []) (more : Rest) :
    skipSpace (rest ++ more) = skipSpace rest ++ more := by
  cases rest with
  | nil => exact absurd rfl nonempty
  | cons token rest => cases token <;> rfl

theorem arguments?_append (h : arguments? rest = some (ts, after)) (more : Rest) :
    arguments? (rest ++ more) = some (ts, after ++ more) := by
  fun_induction arguments? rest generalizing ts with
  | case1 => simp at h
  | case2 rest =>
    cases h
    rfl
  | case3 rest ih => exact ih h
  | case4 token rest closing space text ih =>
    obtain ⟨⟨ts', after'⟩, later, same⟩ := Option.map_eq_some_iff.mp h
    cases same
    simp [arguments?, text, ih later]
  | case5 => simp at h

theorem relationText?_append (h : relationText? rest = some (ts, after)) (more : Rest) :
    relationText? (rest ++ more) = some (ts, after ++ more) := by
  fun_induction relationText? rest generalizing ts with
  | case1 rest =>
    cases h
    rfl
  | case2 rest ih | case3 rest ih | case4 s rest ih =>
    obtain ⟨⟨ts', after'⟩, later, same⟩ := Option.map_eq_some_iff.mp h
    cases same
    simp [relationText?, ih later]
  | case5 => simp at h

theorem attributeEnd?_append {name : String} {test : ValueTest} {condition : Condition}
    (h : attributeEnd? name test rest = some (condition, after)) (more : Rest) :
    attributeEnd? name test (rest ++ more) = some (condition, after ++ more) := by
  have nonempty : rest ≠ [] := by
    rintro rfl
    cases h
  unfold attributeEnd? at h ⊢
  rw [skipSpace_append nonempty]
  split at h
  all_goals
    first
    | cases h
    | rename_i v behind value
      split at h
      · rename_i closing
        cases h
        have some_behind : behind ≠ [] := by
          rintro rfl
          cases closing
        simp [value, skipSpace_append some_behind, closing]
      · cases h

/-- The test and the value of an attribute behind its name. -/
def attributeTest? (name : String) (rest : Rest) : Option (Condition × Rest) :=
  match skipSpace rest with
  | .mark ']' :: rest => some (.attribute (small name) .present "", rest)
  | .mark '=' :: rest => attributeEnd? name .equal rest
  | .mark c :: .mark '=' :: rest =>
    match testOf? c with
    | some test => attributeEnd? name test rest
    | none => none
  | _ => none

theorem attribute?_eq (rest : Rest) :
    attribute? rest =
      match skipSpace rest with
      | .ident name :: .mark '|' :: .mark '=' :: rest => attributeEnd? name .dashed rest
      | .mark '*' :: .mark '|' :: .ident name :: rest | .ident name :: rest =>
        attributeTest? name rest
      | _ => none := rfl

theorem attributeTest?_append {name : String} {condition : Condition}
    (h : attributeTest? name rest = some (condition, after)) (more : Rest) :
    attributeTest? name (rest ++ more) = some (condition, after ++ more) := by
  have nonempty : rest ≠ [] := by
    rintro rfl
    cases h
  unfold attributeTest? at h ⊢
  rw [skipSpace_append nonempty]
  split at h
  · rename_i start
    cases h
    rw [start]
    rfl
  · rename_i start
    rw [start]
    exact attributeEnd?_append h more
  · rename_i c behind closing equal start
    rw [start]
    split at h
    · rename_i test same
      have read := attributeEnd?_append h more
      simp [same, read]
    · cases h
  · cases h

theorem attribute?_append {condition : Condition}
    (h : attribute? rest = some (condition, after)) (more : Rest) :
    attribute? (rest ++ more) = some (condition, after ++ more) := by
  have nonempty : rest ≠ [] := by
    rintro rfl
    cases h
  rw [attribute?_eq] at h ⊢
  rw [skipSpace_append nonempty]
  split at h
  · rename_i start
    rw [start]
    exact attributeEnd?_append h more
  · rename_i start
    rw [start]
    exact attributeTest?_append h more
  · rename_i name behind dashed start
    have apart (r : Rest) : behind ++ more ≠ .mark '|' :: .mark '=' :: r := by
      match behind with
      | [] => cases h
      | [token] =>
        intro same
        obtain rfl : token = .mark '|' := (List.cons.inj same).1
        cases h
      | token :: next :: rest =>
        intro same
        obtain ⟨dash, same⟩ := List.cons.inj same
        obtain ⟨equal, -⟩ := List.cons.inj same
        exact dashed rest (by rw [dash, equal])
    rw [start]
    split
    · rename_i same
      exact absurd (List.cons.inj same).2 (apart _)
    · rename_i same
      cases (List.cons.inj same).1
    · rename_i same
      obtain ⟨same, rfl⟩ := List.cons.inj same
      cases same
      exact attributeTest?_append h more
    · rename_i other
      exact absurd rfl (other _ _)
  · cases h

/-- A mark that does not break a compound is not brought in by what follows the compound. -/
theorem Breaks.keeps {d : Char} (breaks : Breaks more) (other : d ≠ '>')
    (none : ∀ behind, rest ≠ .mark d :: behind) (behind : Rest) :
    rest ++ more ≠ .mark d :: behind := by
  cases rest with
  | nil => cases breaks <;> simp [other.symm]
  | cons token rest =>
    intro same
    exact none rest (by rw [(List.cons.inj same).1])

theorem elementName?_star (none : ∀ behind, rest ≠ .mark '|' :: behind) :
    elementName? (.mark '*' :: rest) = some (.none, rest) := by
  unfold elementName?
  split <;> simp_all

theorem elementName?_ident {tag : String} (none : ∀ behind, rest ≠ .mark '|' :: behind) :
    elementName? (.ident tag :: rest) = some (some (small tag), rest) := by
  unfold elementName?
  split <;> simp_all

theorem elementName?_append {tag : Option String} (h : elementName? rest = some (tag, after))
    (breaks : Breaks more) : elementName? (rest ++ more) = some (tag, after ++ more) := by
  unfold elementName? at h
  split at h
  · cases h
    rfl
  · cases h
    rfl
  · cases h
  · cases h
  · rename_i none
    cases h
    exact elementName?_star (breaks.keeps (by decide) none)
  · rename_i none
    cases h
    exact elementName?_ident (breaks.keeps (by decide) none)
  · rename_i star ident
    cases h
    cases rest with
    | nil => cases breaks <;> rfl
    | cons token rest =>
      rw [List.cons_append]
      unfold elementName?
      split <;> simp_all

theorem endsCompound_append (breaks : Breaks more) (inside : Bool) (rest : Rest) :
    endsCompound inside (rest ++ more) = endsCompound inside rest := by
  cases rest with
  | nil =>
    cases breaks <;> rfl
  | cons token rest => cases token <;> rfl

theorem relationCombinator?_append {combinator : Combinator}
    (h : relationCombinator? rest = some (combinator, after)) (nonempty : after ≠ [])
    (more : Rest) :
    relationCombinator? (rest ++ more) = some (combinator, after ++ more) := by
  unfold relationCombinator? at h
  split at h
  · cases h
    rename_i behind
    have some_behind : behind ≠ [] := by
      rintro rfl
      exact nonempty rfl
    simp [relationCombinator?, skipSpace_append some_behind]
  · cases h
    rename_i behind
    have some_behind : behind ≠ [] := by
      rintro rfl
      exact nonempty rfl
    simp [relationCombinator?, skipSpace_append some_behind]
  · cases h
  · cases h
  · cases h
    cases rest with
    | nil => exact absurd rfl nonempty
    | cons token rest =>
      rw [List.cons_append]
      unfold relationCombinator?
      split <;> simp_all

/-! ### Compounds -/

/-- What reading with some fuel has read stays so with more fuel and more tokens behind. -/
structure Stable (fuel : Nat) : Prop where
  conditions {inside bare : Bool} {c c' : Compound} {rest after : Rest}
    (h : conditions? inside bare fuel c rest = some (c', after)) {fuel' : Nat} {more : Rest}
    (enough : fuel ≤ fuel') (breaks : Breaks more) :
    conditions? inside bare fuel' c (rest ++ more) = some (c', after ++ more)
  call {inside : Bool} {name : String} {c c' : Compound} {rest after : Rest}
    (h : call? inside fuel name c rest = some (c', after)) {fuel' : Nat} {more : Rest}
    (enough : fuel ≤ fuel') (breaks : Breaks more) :
    call? inside fuel' name c (rest ++ more) = some (c', after ++ more)
  choices {front : Bool} {cs : List Compound} {rest after : Rest}
    (h : choices? front fuel rest = some (cs, after)) {fuel' : Nat} {more : Rest}
    (enough : fuel ≤ fuel') (breaks : Breaks more) :
    choices? front fuel' (rest ++ more) = some (cs, after ++ more)
  compound {inside front : Bool} {c : Compound} {rest after : Rest}
    (h : compound? inside front fuel rest = some (c, after)) {fuel' : Nat} {more : Rest}
    (enough : fuel ≤ fuel') (breaks : Breaks more) :
    compound? inside front fuel' (rest ++ more) = some (c, after ++ more)

theorem stable_zero : Stable 0 where
  conditions h := by simp [conditions?] at h
  call h := by simp [call?] at h
  choices h := by simp [choices?] at h
  compound h := by simp [compound?] at h

/-- No compound stands where one would end. -/
theorem compound?_none (breaks : Breaks (skipSpace rest)) (inside front : Bool) (fuel : Nat) :
    compound? inside front fuel rest = none := by
  cases fuel with
  | zero => simp [compound?]
  | succ fuel =>
    generalize hstart : skipSpace rest = start at breaks
    have unnamed : elementName? start = some (none, start) := by cases breaks <;> rfl
    have ends : endsCompound inside start = true := by cases breaks <;> rfl
    cases fuel <;> simp [compound?, hstart, unnamed, conditions?, ends]

theorem compound?_nil (inside front : Bool) (fuel : Nat) : compound? inside front fuel [] = none :=
  compound?_none (show Breaks (skipSpace []) from .nil) inside front fuel

theorem choices?_nil (front : Bool) (fuel : Nat) : choices? front fuel [] = none := by
  cases fuel with
  | zero => simp [choices?]
  | succ fuel => simp [choices?, compound?_nil]

theorem call?_nil (inside : Bool) (fuel : Nat) (name : String) (c : Compound) :
    call? inside fuel name c [] = none := by
  cases fuel with
  | zero => simp [call?]
  | succ fuel =>
    rw [call?]
    split
    · rfl
    split
    · cases inside <;> simp [compound?_nil]
    split
    · simp [choices?_nil]
    split
    · simp [relationCombinator?, relationText?]
    · rfl

/-- The next condition of a compound. -/
def nextCondition? (inside bare : Bool) (fuel : Nat) (c : Compound) :
    Rest → Option (Compound × Rest)
  | .hash name :: rest => some (c.require (.attribute "id" .equal name), rest)
  | .mark '.' :: .ident name :: rest => some (c.require (.attribute "class" .word name), rest)
  | .mark '[' :: rest => (attribute? rest).map fun (condition, rest) => (c.require condition, rest)
  | .mark ':' :: .ident name :: .mark '(' :: rest =>
    call? inside fuel (small name) c (skipSpace rest)
  | .mark ':' :: .ident name :: rest =>
    if isPart (small name) || (bare && small name == "scope") then none
    else (pseudo? c.tag (small name)).map fun condition => (c.require condition, rest)
  | _ => none

theorem conditions?_succ (inside bare : Bool) (fuel : Nat) (c : Compound) (rest : Rest) :
    conditions? inside bare (fuel + 1) c rest =
      if endsCompound inside rest then some (c, rest)
      else (nextCondition? inside bare fuel c rest).bind fun (c, rest) =>
        conditions? inside false fuel c rest := by
  rw [conditions?.eq_def]
  dsimp only
  split
  · rfl
  split
  · rfl
  · rfl
  · rename_i rest _
    rw [nextCondition?]
    cases attribute? rest <;> rfl
  · rename_i name rest _
    rw [nextCondition?]
    cases call? inside fuel (small name) c (skipSpace rest) <;> rfl
  · rename_i name rest none _
    rw [nextCondition?]
    · split
      · rfl
      · cases pseudo? c.tag (small name) <;> rfl
    · exact none
  · rw [nextCondition?] <;> simp_all

theorem Stable.nextCondition (stable : Stable fuel)
    (h : nextCondition? inside bare fuel c rest = some (c', after)) (enough : fuel ≤ fuel')
    (breaks : Breaks more) :
    nextCondition? inside bare fuel' c (rest ++ more) = some (c', after ++ more) := by
  unfold nextCondition? at h
  split at h
  · cases h
    rfl
  · cases h
    rfl
  · obtain ⟨⟨condition, behind⟩, read, same⟩ := Option.map_eq_some_iff.mp h
    cases same
    simp [nextCondition?, attribute?_append read more]
  · rename_i name behind
    have nonempty : behind ≠ [] := by
      rintro rfl
      rw [skipSpace_nil, call?_nil] at h
      cases h
    have read := stable.call h enough breaks
    rwa [← skipSpace_append nonempty] at read
  · rename_i name behind none
    split at h
    · cases h
    · rename_i plain
      obtain ⟨condition, known, same⟩ := Option.map_eq_some_iff.mp h
      cases same
      rw [List.cons_append, List.cons_append, nextCondition?]
      · simp [plain, known]
      · exact breaks.keeps (by decide) none
  · cases h

theorem Stable.conditions_succ (stable : Stable fuel)
    (h : conditions? inside bare (fuel + 1) c rest = some (c', after)) (breaks : Breaks more)
    (enough : fuel ≤ fuel') :
    conditions? inside bare (fuel' + 1) c (rest ++ more) = some (c', after ++ more) := by
  rw [conditions?_succ] at h ⊢
  rw [endsCompound_append breaks]
  split at h
  · rename_i ends
    rw [if_pos ends]
    cases h
    rfl
  · rename_i ends
    rw [if_neg ends]
    obtain ⟨⟨c'', behind⟩, next, h⟩ := Option.bind_eq_some_iff.mp h
    rw [stable.nextCondition next enough breaks]
    exact stable.conditions h enough breaks

theorem Stable.call_succ {name : String} (stable : Stable fuel)
    (h : call? inside (fuel + 1) name c rest = some (c', after)) (enough : fuel ≤ fuel')
    (breaks : Breaks more) :
    call? inside (fuel' + 1) name c (rest ++ more) = some (c', after ++ more) := by
  rw [call?] at h ⊢
  split at h
  · cases h
  rename_i part
  rw [if_neg part]
  split at h
  · rename_i negation
    rw [if_pos negation]
    split at h
    · rename_i argument behind read
      cases h
      split at read
      · cases read
      · rename_i outside
        rw [if_neg outside, stable.compound read enough breaks]
        rfl
    · cases h
  rename_i negation
  rw [if_neg negation]
  split at h
  · rename_i choice
    rw [if_pos choice]
    split at h
    · rename_i choices behind read
      cases h
      rw [stable.choices read enough breaks]
    · cases h
  rename_i choice
  rw [if_neg choice]
  split at h
  · rename_i relation
    rw [if_pos relation]
    split at h
    · cases h
    rename_i combinator behind joined
    split at h
    · cases h
    rename_i ts behind' text
    split at h
    · rename_i related read
      cases h
      have nonempty : behind ≠ [] := by
        rintro rfl
        cases text
      have read' := stable.compound read enough .nil
      rw [List.append_nil] at read'
      simp [relationCombinator?_append joined nonempty more, relationText?_append text more, read']
    · cases h
  · rename_i relation
    rw [if_neg relation]
    split at h
    · rename_i ts behind read
      rw [arguments?_append read]
      obtain ⟨condition, known, same⟩ := Option.map_eq_some_iff.mp h
      cases same
      simp [known]
    · cases h

theorem Stable.choices_succ {cs : List Compound} (stable : Stable fuel)
    (h : choices? front (fuel + 1) rest = some (cs, after)) (enough : fuel ≤ fuel')
    (breaks : Breaks more) :
    choices? front (fuel' + 1) (rest ++ more) = some (cs, after ++ more) := by
  rw [choices?] at h ⊢
  split at h
  · cases h
  rename_i c behind read
  rw [stable.compound read enough breaks]
  dsimp only
  have nonempty : behind ≠ [] := by
    rintro rfl
    cases h
  rw [skipSpace_append nonempty]
  split at h
  · rename_i closing
    cases h
    rw [closing]
    rfl
  · rename_i behind' comma
    obtain ⟨⟨cs', after'⟩, later, same⟩ := Option.map_eq_some_iff.mp h
    cases same
    obtain _ | ⟨token, rest'⟩ := behind'
    · rw [List.drop_nil, skipSpace_nil, choices?_nil] at later
      cases later
    have nonempty' : rest' ≠ [] := by
      rintro rfl
      rw [List.drop_one, List.tail_cons, skipSpace_nil, choices?_nil] at later
      cases later
    have later' := stable.choices later enough breaks
    rw [comma]
    simp only [List.cons_append, List.head?_cons, List.drop_one, List.tail_cons,
      skipSpace_append nonempty']
    rw [length_append_beq]
    simp only [List.head?_cons, List.drop_one, List.tail_cons] at later'
    rw [later']
    rfl
  · cases h

theorem Stable.compound_succ (stable : Stable fuel)
    (h : compound? inside front (fuel + 1) rest = some (c, after)) (enough : fuel ≤ fuel')
    (breaks : Breaks more) :
    compound? inside front (fuel' + 1) (rest ++ more) = some (c, after ++ more) := by
  have nonempty : rest ≠ [] := by
    rintro rfl
    rw [compound?_nil] at h
    cases h
  rw [compound?] at h ⊢
  dsimp only at h ⊢
  rw [skipSpace_append nonempty]
  split at h
  · cases h
  · rename_i tag behind named
    rw [elementName?_append named breaks]
    dsimp only
    rw [length_append_beq]
    split at h
    · cases h
    · rename_i c' behind' read
      rw [stable.conditions read enough breaks]
      split at h
      · cases h
      · rename_i some_condition
        cases h
        simpa using some_condition

theorem stable (fuel : Nat) : Stable fuel := by
  induction fuel with
  | zero => exact stable_zero
  | succ fuel ih =>
    have pred {fuel' : Nat} (enough : fuel + 1 ≤ fuel') : ∃ n, fuel' = n + 1 ∧ fuel ≤ n :=
      ⟨fuel' - 1, by omega, by omega⟩
    constructor
    · intro inside bare c c' rest after h fuel' more enough breaks
      obtain ⟨n, rfl, enough'⟩ := pred enough
      exact ih.conditions_succ h breaks enough'
    · intro inside name c c' rest after h fuel' more enough breaks
      obtain ⟨n, rfl, enough'⟩ := pred enough
      exact ih.call_succ h enough' breaks
    · intro front cs rest after h fuel' more enough breaks
      obtain ⟨n, rfl, enough'⟩ := pred enough
      exact ih.choices_succ h enough' breaks
    · intro inside front c rest after h fuel' more enough breaks
      obtain ⟨n, rfl, enough'⟩ := pred enough
      exact ih.compound_succ h enough' breaks

end RaggedTables.Selector
