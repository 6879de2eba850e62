import RaggedTables.Header.Template

/-! Where the brackets of a template stand. A place is three positions: where the name starts, where
the brackets open behind it and where they close behind the pattern. The scanner of templates finds
the place that starts first, among those the one that opens first, and among those the one that
closes first, and it finds one whenever there is one. -/

namespace RaggedTables.Header

/-- Three positions in a text: the start of a name, the opening and the closing brackets. -/
structure Place where
  start : Nat
  opens : Nat
  closes : Nat
deriving DecidableEq

/-- The lexicographic order of places. -/
def Place.NoLater (p q : Place) : Prop :=
  p.start < q.start ∨ p.start = q.start ∧
    (p.opens < q.opens ∨ p.opens = q.opens ∧ p.closes ≤ q.closes)

/-- A name and a pattern stand at a place, neither of them empty and each on one line. -/
structure IsPlace (b : Brackets) (cs : List Char) (p : Place) : Prop where
  name : p.start < p.opens
  opener : cs.extract p.opens (p.opens + b.opener.length) = b.opener
  pattern : p.opens + b.opener.length < p.closes
  closer : cs.extract p.closes (p.closes + b.closer.length) = b.closer
  nameLine : '\n' ∉ cs.extract p.start p.opens
  patternLine : '\n' ∉ cs.extract (p.opens + b.opener.length) p.closes

/-- The first of the places in a text. -/
structure IsFirst (b : Brackets) (cs : List Char) (p : Place) : Prop where
  place : IsPlace b cs p
  first : ∀ q, IsPlace b cs q → p.NoLater q

theorem Place.eq_of_noLater {p q : Place} (hpq : p.NoLater q) (hqp : q.NoLater p) : p = q := by
  obtain ⟨i, j, k⟩ := p
  obtain ⟨i', j', k'⟩ := q
  simp only [Place.NoLater] at hpq hqp
  simp only [Place.mk.injEq]
  omega

theorem IsFirst.unique {b : Brackets} {cs : List Char} {p q : Place} (hp : IsFirst b cs p)
    (hq : IsFirst b cs q) : p = q :=
  Place.eq_of_noLater (hp.first q hq.place) (hq.first p hp.place)

/-! ### A mark behind a text -/

/-- Behind the first `n` characters stands a mark; there is at least one, and no line break. -/
structure Ends (mark cs : List Char) (n : Nat) : Prop where
  pos : 0 < n
  mark : mark <+: cs.drop n
  line : '\n' ∉ cs.take n

theorem not_ends_nil {mark : List Char} (some : mark ≠ []) (n : Nat) : ¬ Ends mark [] n := by
  intro h
  simpa [some] using h.mark

/-- A mark behind a longer text stands behind its first character or behind the rest of it. -/
theorem ends_cons {mark cs : List Char} {c : Char} {n : Nat} :
    Ends mark (c :: cs) (n + 1) ↔ c ≠ '\n' ∧ (n = 0 ∧ mark <+: cs ∨ Ends mark cs n) := by
  cases n with
  | zero =>
    constructor
    · intro h
      exact ⟨by simpa [eq_comm] using h.line, .inl ⟨rfl, by simpa using h.mark⟩⟩
    · rintro ⟨hc, ⟨-, hmark⟩ | h⟩
      · exact ⟨by simp, by simpa using hmark, by simpa [eq_comm] using hc⟩
      · exact absurd h.pos (by simp)
  | succ n =>
    constructor
    · intro h
      obtain ⟨hc, hline⟩ : ¬ '\n' = c ∧ '\n' ∉ cs.take (n + 1) := by simpa using h.line
      exact ⟨fun e => hc e.symm, .inr ⟨by simp, by simpa using h.mark, hline⟩⟩
    · rintro ⟨hc, ⟨h, -⟩ | h⟩
      · exact absurd h (by simp)
      · exact ⟨by simp, by simpa using h.mark, by simpa [eq_comm] using ⟨hc, h.line⟩⟩

theorem until?_some {mark cs text : List Char} (h : until? mark cs = some text) :
    ∃ n, Ends mark cs n ∧ (∀ m, Ends mark cs m → n ≤ m) ∧ text = cs.take n := by
  induction cs generalizing text with
  | nil => simp [until?] at h
  | cons c cs ih =>
    rw [until?] at h
    split at h
    · simp at h
    · next hc =>
      split at h
      · next hmark =>
        have hends := ends_cons.mpr ⟨hc, .inl ⟨rfl, List.isPrefixOf_iff_prefix.mp hmark⟩⟩
        exact ⟨1, hends, fun m hm => hm.pos, by simpa [eq_comm] using h⟩
      · next hmark =>
        obtain ⟨text, hrest, rfl⟩ := Option.map_eq_some_iff.mp h
        obtain ⟨n, hends, hleast, rfl⟩ := ih hrest
        refine ⟨n + 1, ends_cons.mpr ⟨hc, .inr hends⟩, fun m hm => ?_, rfl⟩
        cases m with
        | zero => exact absurd hm.pos (by simp)
        | succ m =>
          rcases (ends_cons.mp hm).2 with ⟨-, hm⟩ | hm
          · exact absurd (List.isPrefixOf_iff_prefix.mpr hm) hmark
          · exact Nat.succ_le_succ (hleast m hm)

theorem until?_none {mark cs : List Char} (some : mark ≠ []) (h : until? mark cs = none) (n : Nat) :
    ¬ Ends mark cs n := by
  induction cs generalizing n with
  | nil => exact not_ends_nil some n
  | cons c cs ih =>
    intro hn
    obtain ⟨n, rfl⟩ : ∃ k, n = k + 1 := ⟨n - 1, by have := hn.pos; omega⟩
    obtain ⟨hc, hn⟩ := ends_cons.mp hn
    rw [until?, if_neg hc] at h
    split at h
    · simp at h
    · next hmark =>
      rcases hn with ⟨-, hn⟩ | hn
      · exact hmark (List.isPrefixOf_iff_prefix.mpr hn)
      · exact ih (by simpa using h) n hn

/-! ### Places that start with the text -/

theorem extract_eq_mark {mark cs : List Char} {n : Nat} :
    cs.extract n (n + mark.length) = mark ↔ mark <+: cs.drop n := by
  rw [List.extract_eq_take_drop, Nat.add_sub_cancel_left, List.prefix_iff_eq_take, eq_comm]

theorem extract_cons {c : Char} {cs : List Char} {i j : Nat} :
    (c :: cs).extract (i + 1) (j + 1) = cs.extract i j := by
  simp

/-- A place at the start of the text is an opener behind a name and a closer behind a pattern. -/
theorem isPlace_zero {b : Brackets} {cs : List Char} {j k : Nat} :
    IsPlace b cs ⟨0, j, k⟩ ↔ Ends b.opener cs j ∧
      ∃ m, k = j + b.opener.length + m ∧ Ends b.closer (cs.drop (j + b.opener.length)) m := by
  constructor
  · rintro ⟨hname, hopener, hpattern, hcloser, hnameLine, hpatternLine⟩
    simp only at hname hopener hpattern hcloser hnameLine hpatternLine
    obtain ⟨m, rfl⟩ := Nat.exists_eq_add_of_le (Nat.le_of_lt hpattern)
    refine ⟨⟨hname, extract_eq_mark.mp hopener, by simpa using hnameLine⟩, m, rfl, by omega, ?_, ?_⟩
    · rw [List.drop_drop]
      exact extract_eq_mark.mp hcloser
    · simpa using hpatternLine
  · rintro ⟨hopener, m, rfl, hcloser⟩
    have hpos := hcloser.pos
    refine ⟨hopener.pos, extract_eq_mark.mpr hopener.mark, by simp only; omega, ?_, ?_, ?_⟩
    · rw [extract_eq_mark, ← List.drop_drop]
      exact hcloser.mark
    · simpa using hopener.line
    · simpa using hcloser.line

/-- A place at the start of a longer text opens behind the first character or is one of the rest. -/
theorem isPlace_cons_zero {b : Brackets} {cs : List Char} {c : Char} {j k : Nat} :
    IsPlace b (c :: cs) ⟨0, j + 1, k + 1⟩ ↔ c ≠ '\n' ∧
      (j = 0 ∧ b.opener <+: cs ∧
          (∃ m, k = b.opener.length + m ∧ Ends b.closer (cs.drop b.opener.length) m) ∨
        IsPlace b cs ⟨0, j, k⟩) := by
  have hdrop : (c :: cs).drop (j + 1 + b.opener.length) = cs.drop (j + b.opener.length) := by
    rw [Nat.add_right_comm, List.drop_succ_cons]
  have hk (m : Nat) : k + 1 = j + 1 + b.opener.length + m ↔ k = j + b.opener.length + m := by omega
  simp only [isPlace_zero, hdrop, hk, ends_cons]
  constructor
  · rintro ⟨⟨hc, ⟨rfl, hopener⟩ | hopener⟩, hcloser⟩
    · exact ⟨hc, .inl ⟨rfl, hopener, by simpa using hcloser⟩⟩
    · exact ⟨hc, .inr ⟨hopener, hcloser⟩⟩
  · rintro ⟨hc, ⟨rfl, hopener, hcloser⟩ | ⟨hopener, hcloser⟩⟩
    · exact ⟨⟨hc, .inl ⟨rfl, hopener⟩⟩, by simpa using hcloser⟩
    · exact ⟨⟨hc, .inr hopener⟩, hcloser⟩

theorem IsPlace.succ {b : Brackets} {cs : List Char} {i j k : Nat} (h : IsPlace b cs ⟨i, j, k⟩) :
    ∃ j' k', j = j' + 1 ∧ k = k' + 1 := by
  have hname := h.name
  have hpattern := h.pattern
  simp only at hname hpattern
  exact ⟨j - 1, k - 1, by omega, by omega⟩

theorem bracketed?_cons {b : Brackets} {c : Char} {cs name pattern : List Char} :
    bracketed? b (c :: cs) = some (name, pattern) ↔ c ≠ '\n' ∧
      ([c] = name ∧ b.opener <+: cs ∧ until? b.closer (cs.drop b.opener.length) = some pattern ∨
        (b.opener <+: cs → until? b.closer (cs.drop b.opener.length) = none) ∧
          ∃ rest, bracketed? b cs = some (rest, pattern) ∧ c :: rest = name) := by
  rw [bracketed?]
  by_cases hc : c = '\n'
  · simp [hc]
  by_cases hopener : b.opener <+: cs
  · cases hhere : until? b.closer (cs.drop b.opener.length) with
    | none => simp [hc, hopener]
    | some text => simp [hc, hopener]
  · simp [hc, hopener]

theorem bracketed?_cons_none {b : Brackets} {c : Char} {cs : List Char} (hc : c ≠ '\n') :
    bracketed? b (c :: cs) = none ↔
      (b.opener <+: cs → until? b.closer (cs.drop b.opener.length) = none) ∧
        bracketed? b cs = none := by
  rw [bracketed?, if_neg hc]
  by_cases hopener : b.opener <+: cs
  · cases hhere : until? b.closer (cs.drop b.opener.length) with
    | none => simp [hopener]
    | some text => simp [hopener]
  · simp [hopener]

theorem bracketed?_some {b : Brackets} (closes : b.closer ≠ []) {cs name pattern : List Char}
    (h : bracketed? b cs = some (name, pattern)) :
    ∃ j k, IsPlace b cs ⟨0, j, k⟩ ∧
      (∀ j' k', IsPlace b cs ⟨0, j', k'⟩ → j < j' ∨ j = j' ∧ k ≤ k') ∧
      name = cs.take j ∧ pattern = cs.extract (j + b.opener.length) k := by
  induction cs generalizing name with
  | nil => simp [bracketed?] at h
  | cons c cs ih =>
    obtain ⟨hc, ⟨rfl, hopener, hhere⟩ | ⟨hnone, rest, hrest, rfl⟩⟩ := bracketed?_cons.mp h
    · obtain ⟨m, hcloser, hleast, rfl⟩ := until?_some hhere
      refine ⟨1, b.opener.length + m + 1,
        isPlace_cons_zero.mpr ⟨hc, .inl ⟨rfl, hopener, m, rfl, hcloser⟩⟩, ?_, by simp, ?_⟩
      · intro j' k' hplace
        obtain ⟨j', k', rfl, rfl⟩ := hplace.succ
        obtain ⟨-, ⟨rfl, -, m', rfl, hm'⟩ | hplace⟩ := isPlace_cons_zero.mp hplace
        · have := hleast m' hm'
          omega
        · have := hplace.name
          simp only at this
          omega
      · rw [Nat.add_comm 1, extract_cons]
        simp
    · obtain ⟨j, k, hplace, hleast, rfl, rfl⟩ := ih hrest
      refine ⟨j + 1, k + 1, isPlace_cons_zero.mpr ⟨hc, .inr hplace⟩, ?_, by simp, ?_⟩
      · intro j' k' hplace'
        obtain ⟨j', k', rfl, rfl⟩ := hplace'.succ
        obtain ⟨-, ⟨rfl, hopener, m', rfl, hm'⟩ | hplace'⟩ := isPlace_cons_zero.mp hplace'
        · exact absurd hm' (until?_none closes (hnone hopener) m')
        · have := hleast j' k' hplace'
          omega
      · rw [Nat.add_right_comm, extract_cons]

theorem bracketed?_none {b : Brackets} (closes : b.closer ≠ []) {cs : List Char}
    (h : bracketed? b cs = none) (j k : Nat) : ¬ IsPlace b cs ⟨0, j, k⟩ := by
  induction cs generalizing j k with
  | nil =>
    intro hplace
    obtain ⟨-, m, -, hcloser⟩ := isPlace_zero.mp hplace
    exact not_ends_nil closes m (by simpa using hcloser)
  | cons c cs ih =>
    intro hplace
    obtain ⟨j, k, rfl, rfl⟩ := hplace.succ
    obtain ⟨hc, hplace⟩ := isPlace_cons_zero.mp hplace
    obtain ⟨hhere, hrest⟩ := (bracketed?_cons_none hc).mp h
    rcases hplace with ⟨-, hopener, m, -, hcloser⟩ | hplace
    · exact until?_none closes (hhere hopener) m hcloser
    · exact ih hrest j k hplace

/-! ### Places anywhere -/

theorem isPlace_cons_succ {b : Brackets} {cs : List Char} {c : Char} {i j k : Nat} :
    IsPlace b (c :: cs) ⟨i + 1, j + 1, k + 1⟩ ↔ IsPlace b cs ⟨i, j, k⟩ := by
  have hopens : j + 1 + b.opener.length = j + b.opener.length + 1 := Nat.add_right_comm ..
  have hcloses : k + 1 + b.closer.length = k + b.closer.length + 1 := Nat.add_right_comm ..
  constructor
  · rintro ⟨hname, hopener, hpattern, hcloser, hnameLine, hpatternLine⟩
    simp only [hopens, hcloses, extract_cons] at hopener hpattern hcloser hnameLine hpatternLine
    exact ⟨Nat.lt_of_succ_lt_succ hname, hopener, Nat.lt_of_succ_lt_succ hpattern, hcloser,
      hnameLine, hpatternLine⟩
  · rintro ⟨hname, hopener, hpattern, hcloser, hnameLine, hpatternLine⟩
    constructor <;> simp only [hopens, hcloses, extract_cons]
    · exact Nat.succ_lt_succ hname
    · exact hopener
    · exact Nat.succ_lt_succ hpattern
    · exact hcloser
    · exact hnameLine
    · exact hpatternLine

theorem locate?_some {b : Brackets} (closes : b.closer ≠ []) {cs name pattern : List Char}
    (h : locate? b cs = some (name, pattern)) :
    ∃ p, IsFirst b cs p ∧ name = cs.extract p.start p.opens ∧
      pattern = cs.extract (p.opens + b.opener.length) p.closes := by
  induction cs with
  | nil => simp [locate?] at h
  | cons c cs ih =>
    rw [locate?] at h
    split at h
    · next found hhere =>
      cases h
      obtain ⟨j, k, hplace, hleast, rfl, rfl⟩ := bracketed?_some closes hhere
      refine ⟨⟨0, j, k⟩, ⟨hplace, fun q hq => ?_⟩, by simp, rfl⟩
      obtain ⟨_ | i', j', k'⟩ := q
      · exact .inr ⟨rfl, hleast j' k' hq⟩
      · exact .inl (Nat.succ_pos i')
    · next hhere =>
      obtain ⟨⟨i, j, k⟩, ⟨hplace, hfirst⟩, rfl, rfl⟩ := ih h
      refine ⟨⟨i + 1, j + 1, k + 1⟩, ⟨isPlace_cons_succ.mpr hplace, fun q hq => ?_⟩,
        extract_cons.symm, ?_⟩
      · obtain ⟨_ | i', j', k'⟩ := q
        · exact absurd hq (bracketed?_none closes hhere j' k')
        · obtain ⟨j', k', rfl, rfl⟩ := hq.succ
          have hle := hfirst _ (isPlace_cons_succ.mp hq)
          simp only [Place.NoLater] at hle ⊢
          omega
      · simp only [Nat.add_right_comm j 1, extract_cons]

theorem locate?_none {b : Brackets} (closes : b.closer ≠ []) {cs : List Char}
    (h : locate? b cs = none) (p : Place) : ¬ IsPlace b cs p := by
  obtain ⟨i, j, k⟩ := p
  induction cs generalizing i j k with
  | nil =>
    intro hplace
    have hcloser := hplace.closer
    simp [closes.symm] at hcloser
  | cons c cs ih =>
    rw [locate?] at h
    split at h
    · simp at h
    · next hhere =>
      intro hplace
      cases i with
      | zero => exact bracketed?_none closes hhere j k hplace
      | succ i =>
        obtain ⟨j, k, rfl, rfl⟩ := hplace.succ
        exact ih h i j k (isPlace_cons_succ.mp hplace)

/-! ### Templates -/

/-- The first place in a template holds this name and this pattern. -/
def Holds (b : Brackets) (template name pattern : String) : Prop :=
  ∃ p, IsFirst b template.toList p ∧
    name.toList = template.toList.extract p.start p.opens ∧
    pattern.toList = template.toList.extract (p.opens + b.opener.length) p.closes

/-- A template without a place for the brackets. -/
def Lacks (b : Brackets) (template : String) : Prop := ∀ p, ¬ IsPlace b template.toList p

theorem Holds.unique {b : Brackets} {template name pattern name' pattern' : String}
    (h : Holds b template name pattern) (h' : Holds b template name' pattern') :
    name = name' ∧ pattern = pattern' := by
  obtain ⟨p, hp, hname, hpattern⟩ := h
  obtain ⟨q, hq, hname', hpattern'⟩ := h'
  obtain rfl := hp.unique hq
  exact ⟨String.toList_inj.mp (hname.trans hname'.symm),
    String.toList_inj.mp (hpattern.trans hpattern'.symm)⟩

theorem Holds.not_lacks {b : Brackets} {template name pattern : String}
    (h : Holds b template name pattern) : ¬ Lacks b template := by
  obtain ⟨p, hp, -⟩ := h
  exact fun hlacks => hlacks p hp.place

/-- What the brackets give is what stands at the first place. -/
theorem find?_eq_some {b : Brackets} (closes : b.closer ≠ []) {template name pattern : String} :
    find? b template = some (name, pattern) ↔ Holds b template name pattern := by
  constructor
  · intro h
    obtain ⟨⟨n, r⟩, hlocate, heq⟩ := Option.map_eq_some_iff.mp h
    obtain ⟨rfl, rfl⟩ : String.ofList n = name ∧ String.ofList r = pattern := by simpa using heq
    obtain ⟨p, hfirst, rfl, rfl⟩ := locate?_some closes hlocate
    exact ⟨p, hfirst, String.toList_ofList, String.toList_ofList⟩
  · rintro ⟨p, hfirst, hname, hpattern⟩
    cases hlocate : locate? b template.toList with
    | none => exact absurd hfirst.place (locate?_none closes hlocate p)
    | some found =>
      obtain ⟨n, r⟩ := found
      obtain ⟨q, hq, rfl, rfl⟩ := locate?_some closes hlocate
      obtain rfl := hq.unique hfirst
      simp only [find?, hlocate, Option.map_some, ← hname, ← hpattern, String.ofList_toList]

theorem find?_eq_none {b : Brackets} (closes : b.closer ≠ []) {template : String} :
    find? b template = none ↔ Lacks b template := by
  constructor
  · intro h
    exact locate?_none closes (by simpa [find?] using h)
  · intro h
    cases hlocate : locate? b template.toList with
    | none => simp [find?, hlocate]
    | some found =>
      obtain ⟨n, r⟩ := found
      obtain ⟨p, hfirst, -⟩ := locate?_some closes hlocate
      exact absurd hfirst.place (h p)

/-- Of three openers in a row the first one counts, and of three closers too. -/
example : find? .multi "a[[[b]]]" = some ("a", "[b") := by decide

/-- An opener at the start of a text belongs to the name; no name reaches past a line break. -/
example : find? .split "\x7b\x7ba\x7b\x7bb\x7d\x7d" = some ("\x7b\x7ba", "b") ∧
    find? .mapping "a\nb<<c>>" = some ("b", "c") := by decide

end RaggedTables.Header
