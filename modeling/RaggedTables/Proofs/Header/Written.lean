import RaggedTables.Proofs.Header.Grammar

/-! Where brackets stand in a template that is put together from its parts. Brackets are doubled
characters: in a row of texts one stands in a text or across a border, so it is seen from the ends
of the texts what the scanner finds. The closing brackets are looked for from the left: a text that
ends in their character loses it to them. -/

namespace RaggedTables.Header

/-! ### Doubled characters -/

section Doubled

variable {l r : List Char} {x : Char}

theorem pair_infix_pair {y : Char} : [x, x] <:+: [y, y] ↔ x = y := by
  constructor
  · intro h
    simpa using h.eq_of_length rfl
  · rintro rfl
    exact List.infix_refl _

/-- A doubled character of two texts in a row is one of either, or it stands across their border. -/
theorem pair_infix_append :
    [x, x] <:+: l ++ r ↔
      [x, x] <:+: l ∨ [x, x] <:+: r ∨ l.getLast? = some x ∧ r.head? = some x := by
  rw [List.infix_append_iff]
  constructor
  · rintro (h | h | ⟨before, after, split, suffix, prefix'⟩)
    · exact .inl h
    · exact .inr (.inl h)
    · rcases before with _ | ⟨y, before⟩
      · obtain rfl : [x, x] = after := split
        exact .inr (.inl prefix'.isInfix)
      rcases before with _ | ⟨z, before⟩
      · obtain ⟨rfl, rfl⟩ : x = y ∧ [x] = after := by simpa using split
        exact .inr (.inr ⟨List.singleton_suffix_iff_getLast?_eq_some.mp suffix,
          List.singleton_prefix_iff_head?_eq_some.mp prefix'⟩)
      · obtain ⟨rfl, rfl, rfl, -⟩ : x = y ∧ x = z ∧ before = [] ∧ after = [] := by
          simpa [eq_comm] using split
        exact .inl suffix.isInfix
  · rintro (h | h | ⟨last, first⟩)
    · exact .inl h
    · exact .inr (.inl h)
    · exact .inr (.inr ⟨[x], [x], rfl, List.singleton_suffix_iff_getLast?_eq_some.mpr last,
        List.singleton_prefix_iff_head?_eq_some.mpr first⟩)

/-- Between other characters that are doubled only the text counts. -/
theorem pair_infix_between {left right : Char} {text : List Char} (apart : x ≠ left ∧ x ≠ right) :
    [x, x] <:+: [left, left] ++ (text ++ [right, right]) ↔ [x, x] <:+: text := by
  simp only [pair_infix_append, pair_infix_pair]
  simp [apart.1, apart.2, apart.1.symm, apart.2.symm]

/-- A doubled character stands behind a text that holds none and does not end in it. -/
theorem length_le_of_pair {i : Nat} (pair : [x, x] <+: (l ++ r).drop i) (apart : ¬ [x, x] <:+: l)
    (last : l.getLast? ≠ some x) : l.length ≤ i := by
  by_contra inside
  have left : (l ++ r).drop i = l.drop i ++ r := List.drop_append_of_le_length (by omega)
  have suffix : l.drop i <:+ l := List.drop_suffix i l
  rw [left] at pair
  rcases hdrop : l.drop i with _ | ⟨y, ys⟩
  · rw [List.drop_eq_nil_iff] at hdrop
    omega
  rw [hdrop] at pair suffix
  rcases ys with _ | ⟨z, zs⟩
  · obtain ⟨rfl, -⟩ := List.cons_prefix_cons.mp pair
    exact last (List.singleton_suffix_iff_getLast?_eq_some.mp suffix)
  · simp only [List.cons_append, List.cons_prefix_cons] at pair
    obtain ⟨rfl, rfl, -⟩ := pair
    exact apart ((List.prefix_append [x, x] zs).isInfix.trans suffix.isInfix)

/-- A doubled character stands in front of a text that holds none and does not start with it. -/
theorem le_length_of_pair {i : Nat} (pair : [x, x] <+: (l ++ r).drop i) (apart : ¬ [x, x] <:+: r)
    (first : r.head? ≠ some x) : i + 2 ≤ l.length := by
  by_contra behind
  rw [List.drop_append] at pair
  rcases hdrop : l.drop i with _ | ⟨y, ys⟩
  · rw [hdrop, List.nil_append] at pair
    exact apart (pair.isInfix.trans (List.drop_suffix ..).isInfix)
  · have length := congrArg List.length hdrop
    simp only [List.length_drop, List.length_cons] at length
    obtain rfl : ys = [] := List.length_eq_zero_iff.mp (by omega)
    have start : i - l.length = 0 := by omega
    simp only [hdrop, start, List.drop_zero, List.singleton_append, List.cons_prefix_cons] at pair
    exact first (List.singleton_prefix_iff_head?_eq_some.mp pair.2)

end Doubled

/-! ### The place that is written -/

/-- Brackets double a character on either side. -/
structure Brackets.Double (b : Brackets) (left right : Char) : Prop where
  opener : b.opener = [left, left]
  closer : b.closer = [right, right]
  apart : left ≠ right

/-- The text in front of opening brackets, with the lines above and the start of its last line. That
line is not empty, and the brackets are the first of their kind. -/
structure Leads (left : Char) (above line : List Char) : Prop where
  start : above = [] ∨ above.getLast? = some '\n'
  filled : line ≠ []
  flat : '\n' ∉ line
  unopened : ¬ [left, left] <:+: above ++ line
  last : line.getLast? ≠ some left

/-- A text that the closing brackets behind it leave whole. -/
structure Closes (right : Char) (text : List Char) : Prop where
  filled : text ≠ []
  flat : '\n' ∉ text
  unclosed : ¬ [right, right] <:+: text
  last : text.length = 1 ∨ text.getLast? ≠ some right

section Place

variable {b : Brackets} {left right : Char} {above line text after : List Char}

theorem extract_middle (before text after : List Char) :
    (before ++ (text ++ after)).extract before.length (before.length + text.length) = text := by
  simp

theorem isPlace_written (leads : Leads left above line) (closes : Closes right text) :
    IsPlace b (above ++ (line ++ (b.opener ++ (text ++ (b.closer ++ after)))))
      ⟨above.length, above.length + line.length,
        above.length + line.length + b.opener.length + text.length⟩ where
  name := by
    have := List.length_pos_iff.mpr leads.filled
    simp only
    omega
  opener := by simp
  pattern := by
    have := List.length_pos_iff.mpr closes.filled
    simp only
    omega
  closer := by
    have := extract_middle (above ++ line ++ b.opener ++ text) b.closer after
    simpa [Nat.add_assoc] using this
  nameLine := by
    simp only [extract_middle]
    exact leads.flat
  patternLine := by
    have middle := extract_middle (above ++ line ++ b.opener) text (b.closer ++ after)
    rw [List.append_assoc, List.append_assoc, List.length_append, List.length_append] at middle
    rw [middle]
    exact closes.flat

/-- No line break stands between the start of a name and the brackets behind it. -/
theorem Leads.length_le {rest : List Char} {i j : Nat} (leads : Leads left above line)
    (behind : above.length ≤ j) (flat : '\n' ∉ (above ++ rest).extract i j) : above.length ≤ i := by
  rcases leads.start with rfl | last
  · exact Nat.zero_le i
  obtain ⟨init, rfl⟩ := List.getLast?_eq_some_iff.mp last
  by_contra before
  rw [List.length_append, List.length_singleton] at behind before
  refine flat (List.mem_iff_getElem?.mpr ⟨init.length - i, ?_⟩)
  have place : i + (init.length - i) = init.length := by omega
  have within : init.length - i < j - i := by omega
  rw [List.extract_eq_take_drop, List.getElem?_take, if_pos within, List.getElem?_drop, place]
  simp

/-- What is written is at the first place: nothing opens before it, and nothing closes before it. -/
theorem isFirst_written (double : b.Double left right) (leads : Leads left above line)
    (closes : Closes right text) :
    IsFirst b (above ++ (line ++ (b.opener ++ (text ++ (b.closer ++ after)))))
      ⟨above.length, above.length + line.length,
        above.length + line.length + b.opener.length + text.length⟩ := by
  refine ⟨isPlace_written leads closes, ?_⟩
  rintro ⟨i, j, k⟩ place
  have opens : above.length + line.length ≤ j := by
    have pair := extract_eq_mark.mp place.opener
    rw [double.opener, ← List.append_assoc above line] at pair
    simpa using length_le_of_pair pair leads.unopened (by
      simpa [List.getLast?_append_of_ne_nil _ leads.filled] using leads.last)
  have behind : above.length ≤ j := by omega
  have starts : above.length ≤ i := leads.length_le behind place.nameLine
  have ends : j = above.length + line.length →
      above.length + line.length + b.opener.length + text.length ≤ k := by
    rintro rfl
    have gap : above.length + line.length + b.opener.length < k := place.pattern
    obtain ⟨m, rfl⟩ := Nat.exists_eq_add_of_lt gap
    suffices text.length ≤ m + 1 by omega
    rcases closes.last with short | last
    · omega
    have inside : (above ++ (line ++ (b.opener ++ (text ++ (b.closer ++ after))))).drop
        (above.length + line.length + b.opener.length + m + 1) =
          (text ++ (b.closer ++ after)).drop (m + 1) := by
      simp [Nat.add_assoc]
    have pair := extract_eq_mark.mp place.closer
    dsimp only at pair
    rw [inside, double.closer] at pair
    exact length_le_of_pair pair closes.unclosed last
  simp only [Place.NoLater]
  omega

theorem holds_written (double : b.Double left right) (leads : Leads left above line)
    (closes : Closes right text) {template : String}
    (written : template.toList = above ++ (line ++ (b.opener ++ (text ++ (b.closer ++ after))))) :
    Holds b template (String.ofList line) (String.ofList text) := by
  refine ⟨_, written ▸ isFirst_written double leads closes, ?_, ?_⟩
  · rw [written, String.toList_ofList, extract_middle]
  · have middle := extract_middle (above ++ line ++ b.opener) text (b.closer ++ after)
    rw [List.append_assoc, List.append_assoc, List.length_append, List.length_append] at middle
    rw [written, String.toList_ofList, middle]

end Place

/-! ### Brackets that are not written -/

section Lacks

variable {b : Brackets} {template : String}

theorem lacks_of_opener (h : ¬ b.opener <:+: template.toList) : Lacks b template := by
  intro p place
  have mark := extract_eq_mark.mp place.opener
  exact h (mark.isInfix.trans (List.drop_suffix ..).isInfix)

theorem IsPlace.congr {cs cs' : List Char} {p : Place} (place : IsPlace b cs p)
    (same : ∀ i j, j ≤ p.closes + b.closer.length → cs'.extract i j = cs.extract i j) :
    IsPlace b cs' p where
  name := place.name
  opener := by rw [same _ _ (by have := place.pattern; omega), place.opener]
  pattern := place.pattern
  closer := by rw [same _ _ (Nat.le_refl _), place.closer]
  nameLine := by
    rw [same _ _ (by have := place.pattern; omega)]
    exact place.nameLine
  patternLine := by
    rw [same _ _ (Nat.le_add_right ..)]
    exact place.patternLine

variable {left right : Char} {l r : List Char}

theorem extract_append_left (r : List Char) {i j : Nat} (inside : j ≤ l.length) :
    (l ++ r).extract i j = l.extract i j := by
  rw [List.extract_eq_take_drop, List.extract_eq_take_drop, ← List.drop_take, ← List.drop_take,
    List.take_append_of_le_length inside]

theorem IsPlace.inside (double : b.Double left right) {p : Place} (place : IsPlace b l p) :
    p.closes + b.closer.length ≤ l.length := by
  have closed : b.closer.length = 2 := by simp [double.closer]
  have inside := (extract_eq_mark.mp place.closer).length_le
  rw [List.length_drop] at inside
  omega

/-- Places stay where they are when a text is appended that closes nothing. -/
theorem isPlace_append (double : b.Double left right) (apart : ¬ [right, right] <:+: r)
    (first : r.head? ≠ some right) {p : Place} : IsPlace b (l ++ r) p ↔ IsPlace b l p := by
  constructor
  · intro place
    have pair := extract_eq_mark.mp place.closer
    rw [double.closer] at pair
    have inside := le_length_of_pair pair apart first
    have closed : b.closer.length = 2 := by simp [double.closer]
    exact place.congr fun i j h => (extract_append_left r (by omega)).symm
  · intro place
    have inside := place.inside double
    exact place.congr fun i j h => extract_append_left r (by omega)

theorem isFirst_append (double : b.Double left right) (apart : ¬ [right, right] <:+: r)
    (first : r.head? ≠ some right) {p : Place} : IsFirst b (l ++ r) p ↔ IsFirst b l p := by
  constructor
  · rintro ⟨place, least⟩
    exact ⟨(isPlace_append double apart first).mp place, fun q hq =>
      least q ((isPlace_append double apart first).mpr hq)⟩
  · rintro ⟨place, least⟩
    exact ⟨(isPlace_append double apart first).mpr place, fun q hq =>
      least q ((isPlace_append double apart first).mp hq)⟩

theorem holds_append {other : String} (double : b.Double left right)
    (written : other.toList = template.toList ++ r) (apart : ¬ [right, right] <:+: r)
    (first : r.head? ≠ some right) {name text : String} (holds : Holds b template name text) :
    Holds b other name text := by
  obtain ⟨p, least, hname, htext⟩ := holds
  have inside := least.place.inside double
  have opens := least.place.pattern
  refine ⟨p, written ▸ (isFirst_append double apart first).mpr least, ?_, ?_⟩
  · rw [written, extract_append_left r (by omega), hname]
  · rw [written, extract_append_left r (by omega), htext]

theorem lacks_append {other : String} (double : b.Double left right)
    (written : other.toList = template.toList ++ r) (apart : ¬ [right, right] <:+: r)
    (first : r.head? ≠ some right) (lacks : Lacks b template) : Lacks b other := by
  intro p place
  rw [written] at place
  exact lacks p ((isPlace_append double apart first).mp place)

end Lacks

end RaggedTables.Header
