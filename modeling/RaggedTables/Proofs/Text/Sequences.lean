import Mathlib.Data.Nat.Digits.Defs
import RaggedTables.Proofs.Text.Blanks
import RaggedTables.Text.Ansi

/-! What is visible of a text: all but its control sequences, which are found from the left. A
sequence ends before any character that cannot stand in one, so behind such a character a text is
seen as if it stood alone; and a text whose own sequences are whole is seen the same in front of any
other. -/

namespace RaggedTables.Text

/-- A character that no control sequence holds, the introducer apart. -/
def Breaks (d : Char) : Prop := isMark d = false ∧ isFinal d = false

/-- No character of a text introduces a control sequence. -/
def Bare (cs : List Char) : Prop := ∀ c ∈ cs, isIntroducer c = false

instance : DecidablePred Bare := fun cs =>
  decidable_of_iff (cs.all fun c => !isIntroducer c) (by simp [Bare])

/-- In front of any text, `seen` is what is visible of `cs`. -/
def ShowsAs (cs seen : List Char) : Prop := ∀ rest, visible (cs ++ rest) = seen ++ visible rest

section

variable {c d : Char} {cs rest after fallback : List Char}

theorem isFinal_of_digit (h : isAsciiDigit c = true) : isFinal c = true := by simp [isFinal, h]

theorem notEnding_of_mark (h : isMark c = true) : isAsciiDigit c = false ∧ isFinal c = false := by
  have marks : c ∈ ['[', '(', ')', '#', ';', '?'] := by simpa [isMark] using h
  simp only [List.mem_cons, List.not_mem_nil, or_false] at marks
  obtain rfl | rfl | rfl | rfl | rfl | rfl := marks <;> decide

theorem Breaks.notDigit (h : Breaks d) : isAsciiDigit d = false := by
  rw [← Bool.not_eq_true]
  intro digit
  have final := isFinal_of_digit digit
  rw [h.2] at final
  cases final

theorem Breaks.ne_semicolon (h : Breaks d) : d ≠ ';' := by
  rintro rfl
  exact absurd h.1 (by decide)

/-! ### One sequence -/

theorem afterDigits_suffix (count : Nat) (cs : List Char) : afterDigits count cs <:+ cs := by
  induction count generalizing cs with
  | zero => cases cs <;> exact List.suffix_rfl
  | succ count ih =>
    cases cs with
    | nil => exact List.suffix_rfl
    | cons c cs =>
      rw [afterDigits]
      split
      · exact (ih cs).trans (List.suffix_cons c cs)
      · exact List.suffix_rfl

theorem length_afterDigits_le (count : Nat) (cs : List Char) :
    (afterDigits count cs).length ≤ cs.length := (afterDigits_suffix count cs).length_le

theorem afterDigits_append (stop : isAsciiDigit d = false) (count : Nat) (cs rest : List Char) :
    afterDigits count (cs ++ d :: rest) = afterDigits count cs ++ d :: rest := by
  induction count generalizing cs with
  | zero => simp [afterDigits]
  | succ count ih =>
    cases cs with
    | nil => simp [afterDigits, stop]
    | cons c cs =>
      rw [List.cons_append, afterDigits, afterDigits, ih]
      split <;> rfl

theorem afterDigits_digits {ds : List Char} {count : Nat} (digits : ∀ c ∈ ds, isAsciiDigit c = true)
    (short : ds.length ≤ count) (stop : isAsciiDigit d = false) :
    afterDigits count (ds ++ d :: rest) = d :: rest := by
  rw [afterDigits_append stop]
  induction ds generalizing count with
  | nil => cases count <;> simp [afterDigits]
  | cons c ds ih =>
    obtain ⟨hc, hds⟩ := List.forall_mem_cons.mp digits
    cases count with
    | zero => simp at short
    | succ count =>
      rw [afterDigits, if_pos hc]
      exact ih hds (by simpa using short)

theorem afterNumbers_semicolon (fuel : Nat) (fallback cs : List Char) :
    afterNumbers (fuel + 1) fallback (';' :: cs) =
      afterNumbers fuel
        (if (afterDigits 4 cs).length < cs.length then afterDigits 4 cs else fallback)
        (afterDigits 4 cs) := rfl

theorem afterNumbers_of_ne (apart : c ≠ ';') (fuel : Nat) (fallback cs : List Char) :
    afterNumbers fuel fallback (c :: cs) = if isFinal c then cs else fallback := by
  cases fuel with
  | zero => rw [afterNumbers]; simp
  | succ fuel => rw [afterNumbers]; simpa using apart

theorem afterNumbers_breaks (breaks : Breaks d) (fuel : Nat) (fallback rest : List Char) :
    afterNumbers fuel fallback (d :: rest) = fallback := by
  rw [afterNumbers_of_ne breaks.ne_semicolon, if_neg (by simp [breaks.2])]

theorem length_afterNumbers_le {fuel n : Nat} (back : fallback.length ≤ n) (here : cs.length ≤ n) :
    (afterNumbers fuel fallback cs).length ≤ n := by
  induction fuel generalizing fallback cs with
  | zero =>
    cases cs with
    | nil => exact back
    | cons c cs =>
      rw [afterNumbers]
      · simp only [List.length_cons] at here
        split
        · omega
        · exact back
      · simp
  | succ fuel ih =>
    cases cs with
    | nil => exact back
    | cons c cs =>
      simp only [List.length_cons] at here
      by_cases hc : c = ';'
      · have shorter := length_afterDigits_le 4 cs
        rw [hc, afterNumbers_semicolon]
        refine ih ?_ (by omega)
        split
        · omega
        · exact back
      · rw [afterNumbers_of_ne hc]
        split
        · omega
        · exact back

/-- Numbers end before a character that cannot stand in a sequence, wherever they are read. -/
theorem afterNumbers_append (breaks : Breaks d) {fuel fuel' : Nat} (enough : cs.length ≤ fuel)
    (enough' : (cs ++ d :: rest).length ≤ fuel') :
    afterNumbers fuel' (fallback ++ d :: rest) (cs ++ d :: rest) =
      afterNumbers fuel fallback cs ++ d :: rest := by
  induction fuel generalizing fuel' fallback cs with
  | zero =>
    obtain rfl : cs = [] := List.eq_nil_of_length_eq_zero (Nat.le_zero.mp enough)
    exact afterNumbers_breaks breaks _ _ _
  | succ fuel ih =>
    cases cs with
    | nil => exact afterNumbers_breaks breaks _ _ _
    | cons c cs =>
      rw [List.cons_append] at enough' ⊢
      by_cases hc : c = ';'
      · cases fuel' with
        | zero => simp at enough'
        | succ fuel' =>
          have shorter := length_afterDigits_le 4 cs
          simp only [List.length_cons, List.length_append] at enough enough'
          have back : (if (afterDigits 4 cs ++ d :: rest).length < (cs ++ d :: rest).length then
              afterDigits 4 cs ++ d :: rest else fallback ++ d :: rest) =
              (if (afterDigits 4 cs).length < cs.length then afterDigits 4 cs else fallback) ++
                d :: rest := by
            simp only [List.length_append, Nat.add_lt_add_iff_right]
            split <;> rfl
          rw [hc, afterNumbers_semicolon, afterNumbers_semicolon,
            afterDigits_append breaks.notDigit, back]
          exact ih (by omega) (by simp only [List.length_append, List.length_cons]; omega)
      · rw [afterNumbers_of_ne hc, afterNumbers_of_ne hc]
        split <;> rfl

theorem length_afterSequence?_le (h : afterSequence? cs = some after) :
    after.length ≤ cs.length := by
  have marks := (List.dropWhile_sublist isMark (l := cs)).length_le
  unfold afterSequence? at h
  split at h
  · cases h
  · rename_i c more found
    rw [found, List.length_cons] at marks
    split at h
    · have shorter := length_afterDigits_le 3 more
      obtain rfl := Option.some.inj h
      exact length_afterNumbers_le (by omega) (by omega)
    · split at h
      · obtain rfl := Option.some.inj h
        omega
      · cases h

theorem length_opened_le
    (h : (if isIntroducer c then afterSequence? cs else none) = some after) :
    after.length ≤ cs.length := by
  split at h
  · exact length_afterSequence?_le h
  · cases h

/-- No sequence goes beyond a character that cannot stand in one. -/
theorem afterSequence?_append (breaks : Breaks d) (cs rest : List Char) :
    afterSequence? (cs ++ d :: rest) = (afterSequence? cs).map (· ++ d :: rest) := by
  unfold afterSequence?
  rw [List.dropWhile_append]
  cases found : cs.dropWhile isMark with
  | nil => simp [breaks.1, breaks.2, breaks.notDigit]
  | cons c more =>
    simp only [List.isEmpty_cons, Bool.false_eq_true, ↓reduceIte, List.cons_append]
    rw [afterDigits_append breaks.notDigit]
    split
    · exact congrArg some (afterNumbers_append breaks (Nat.le_refl _) (Nat.le_refl _))
    · split <;> rfl

/-- An opening bracket, a number of at most four digits and a final character behind it. -/
theorem afterSequence?_number {ds : List Char} (digits : ∀ c ∈ ds, isAsciiDigit c = true)
    (some : ds ≠ []) (short : ds.length ≤ 4) (stop : isAsciiDigit d = false) (apart : d ≠ ';')
    (final : isFinal d = true) : afterSequence? ('[' :: (ds ++ d :: rest)) = .some rest := by
  obtain ⟨c, ds, rfl⟩ := List.exists_cons_of_ne_nil some
  obtain ⟨hc, hds⟩ := List.forall_mem_cons.mp digits
  have first : isMark c = false := by
    rw [← Bool.not_eq_true]
    intro mark
    rw [(notEnding_of_mark mark).1] at hc
    cases hc
  have bracket : isMark '[' = true := by decide
  unfold afterSequence?
  rw [List.dropWhile_cons_of_pos bracket, List.cons_append,
    List.dropWhile_cons_of_neg (by simp [first])]
  simp only [hc, ↓reduceIte]
  rw [List.length_cons] at short
  rw [afterDigits_digits hds (by omega) stop, afterNumbers_of_ne apart, if_pos final]

/-! ### What is visible -/

theorem withoutSequences_enough {fuel fuel' : Nat} (enough : cs.length ≤ fuel)
    (enough' : cs.length ≤ fuel') : withoutSequences fuel cs = withoutSequences fuel' cs := by
  induction fuel generalizing fuel' cs with
  | zero =>
    obtain rfl : cs = [] := List.eq_nil_of_length_eq_zero (Nat.le_zero.mp enough)
    cases fuel' <;> rfl
  | succ fuel ih =>
    cases cs with
    | nil => cases fuel' <;> rfl
    | cons c cs =>
      simp only [List.length_cons] at enough enough'
      cases fuel' with
      | zero => omega
      | succ fuel' =>
        rw [withoutSequences, withoutSequences]
        split
        · rename_i after found
          have shorter := length_opened_le found
          exact ih (by omega) (by omega)
        · have rest : withoutSequences fuel cs = withoutSequences fuel' cs :=
            ih (by omega) (by omega)
          rw [rest]

@[simp] theorem visible_nil : visible [] = [] := rfl

theorem visible_cons (c : Char) (cs : List Char) :
    visible (c :: cs) =
      match if isIntroducer c then afterSequence? cs else none with
      | some after => visible after
      | none => c :: visible cs := by
  rw [visible, List.length_cons, withoutSequences]
  cases found : if isIntroducer c then afterSequence? cs else none with
  | none => rfl
  | some after => exact withoutSequences_enough (length_opened_le found) (Nat.le_refl _)

theorem visible_cons_of_plain (plain : isIntroducer c = false) (cs : List Char) :
    visible (c :: cs) = c :: visible cs := by
  rw [visible_cons, if_neg (by simp [plain])]

theorem visible_of_sequence (opens : isIntroducer c = true)
    (whole : afterSequence? cs = some after) :
    visible (c :: cs) = visible after := by
  rw [visible_cons, if_pos opens, whole]

/-- Behind a character that cannot stand in a sequence a text is seen as if it stood alone. -/
theorem visible_append_cons (breaks : Breaks d) (cs rest : List Char) :
    visible (cs ++ d :: rest) = visible cs ++ visible (d :: rest) := by
  induction hn : cs.length using Nat.strong_induction_on generalizing cs with
  | _ n ih =>
    cases cs with
    | nil => rfl
    | cons c cs =>
      rw [List.length_cons] at hn
      rw [List.cons_append, visible_cons, visible_cons, afterSequence?_append breaks]
      have later := ih cs.length (by omega) cs rfl
      cases opens : isIntroducer c with
      | false => exact congrArg (c :: ·) later
      | true =>
        cases found : afterSequence? cs with
        | none => exact congrArg (c :: ·) later
        | some after =>
          have shorter := length_afterSequence?_le found
          exact ih after.length (by omega) after rfl

theorem Bare.of_cons (h : Bare (c :: cs)) : isIntroducer c = false ∧ Bare cs :=
  List.forall_mem_cons.mp h

/-! ### Texts of whole sequences -/

theorem ShowsAs.nil : ShowsAs [] [] := fun _ => rfl

theorem ShowsAs.append {cs' seen seen' : List Char} (h : ShowsAs cs seen) (h' : ShowsAs cs' seen') :
    ShowsAs (cs ++ cs') (seen ++ seen') := by
  intro rest
  rw [List.append_assoc, h, h', List.append_assoc]

theorem ShowsAs.visible {seen : List Char} (h : ShowsAs cs seen) : visible cs = seen := by
  simpa using h []

/-- A text without introducers is seen as it is. -/
theorem Bare.showsAs (h : Bare cs) : ShowsAs cs cs := by
  intro rest
  induction cs with
  | nil => rfl
  | cons c cs ih =>
    obtain ⟨hc, hcs⟩ := h.of_cons
    rw [List.cons_append, visible_cons_of_plain hc, ih hcs, List.cons_append]

theorem ShowsAs.intercalate {mark mark' : List Char} (hmark : ShowsAs mark mark')
    {texts texts' : List (List Char)} (h : List.Forall₂ ShowsAs texts texts') :
    ShowsAs (mark.intercalate texts) (mark'.intercalate texts') := by
  induction h with
  | nil => exact .nil
  | @cons text text' texts texts' first rest ih =>
    cases rest with
    | nil => simpa using first
    | cons =>
      rw [List.intercalate_cons_cons, List.intercalate_cons_cons]
      exact (first.append hmark).append ih

end

end RaggedTables.Text
