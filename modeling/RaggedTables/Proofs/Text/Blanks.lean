import Mathlib.Data.List.Chain
import Mathlib.Data.List.DropRight
import RaggedTables.Text.Clean

/-! Texts with their blanks in order: trimmed, without blanks at the ends, and squeezed, with each
run of two blanks or more as one space. Both are described by what is taken from the text, and
trimming and squeezing give the one text that fits. -/

namespace RaggedTables.Text

/-- The first character, where there is one, is no blank. -/
def Starts (cs : List Char) : Prop := ∀ c ∈ cs.head?, isBlank c = false

/-- The last character, where there is one, is no blank. -/
def Stops (cs : List Char) : Prop := ∀ c ∈ cs.getLast?, isBlank c = false

instance : DecidablePred Starts := fun cs =>
  decidable_of_iff (cs.head?.all fun c => !isBlank c) (by simp [Starts, Option.all_eq_true])

instance : DecidablePred Stops := fun cs =>
  decidable_of_iff (cs.getLast?.all fun c => !isBlank c) (by simp [Stops, Option.all_eq_true])

/-- `core` is a text without the blanks at its ends. -/
def Trimmed (cs core : List Char) : Prop :=
  ∃ lead trail, cs = lead ++ core ++ trail ∧ (∀ c ∈ lead, isBlank c) ∧ (∀ c ∈ trail, isBlank c) ∧
    Starts core ∧ Stops core

/-- A text with each longest run of two blanks or more as one space; a blank that stands alone
stays. -/
inductive Squeezed : List Char → List Char → Prop
  | nil : Squeezed [] []
  | solid {c cs out} (hc : isBlank c = false) (rest : Squeezed cs out) :
      Squeezed (c :: cs) (c :: out)
  | single {c cs out} (hc : isBlank c = true) (longest : Starts cs) (rest : Squeezed cs out) :
      Squeezed (c :: cs) (c :: out)
  | run {run cs out} (two : 2 ≤ run.length) (blanks : ∀ c ∈ run, isBlank c) (longest : Starts cs)
      (rest : Squeezed cs out) : Squeezed (run ++ cs) (' ' :: out)

section Blanks

variable {cs core out : List Char} {c : Char}

theorem starts_cons : Starts (c :: cs) ↔ isBlank c = false := by
  simp [Starts]

/-! ### Trimming -/

theorem drop_takeWhile (cs : List Char) :
    cs.drop (cs.takeWhile isBlank).length = cs.dropWhile isBlank := by
  induction cs with
  | nil => rfl
  | cons c cs ih => by_cases hc : isBlank c <;> simp [hc, ih]

theorem starts_dropWhile (cs : List Char) : Starts (cs.dropWhile isBlank) := by
  intro c hc
  have hhead := List.head?_dropWhile_not isBlank cs
  rwa [Option.mem_def.mp hc] at hhead

theorem dropWhile_eq_self (h : Starts cs) : cs.dropWhile isBlank = cs := by
  cases cs with
  | nil => rfl
  | cons c cs => exact List.dropWhile_cons_of_neg (by simp [starts_cons.mp h])

theorem dropWhile_blanks (h : ∀ c ∈ core, isBlank c) (cs : List Char) :
    (core ++ cs).dropWhile isBlank = cs.dropWhile isBlank := by
  rw [List.dropWhile_append, List.dropWhile_eq_nil_iff.mpr h, List.isEmpty_nil, if_pos rfl]

theorem starts_reverse : Starts cs.reverse ↔ Stops cs := by
  rw [Starts, Stops, List.head?_reverse]

theorem trimRight_eq_self (h : Stops cs) : trimRight cs = cs := by
  rw [trimRight, dropWhile_eq_self (starts_reverse.mpr h), List.reverse_reverse]

theorem trimRight_cons (h : ¬ ∀ d ∈ c :: cs, isBlank d) :
    trimRight (c :: cs) = c :: trimRight cs := by
  rw [trimRight, trimRight, List.reverse_cons, List.dropWhile_append]
  split
  · rename_i hnone
    have hcs : ∀ d ∈ cs, isBlank d := by simpa using hnone
    have hc : ¬ isBlank c := fun hc => h (List.forall_mem_cons.mpr ⟨hc, hcs⟩)
    simp [hc, List.isEmpty_iff.mp hnone]
  · rw [List.reverse_append, List.reverse_singleton, List.singleton_append]

theorem trimRight_blanks (h : ∀ c ∈ cs, isBlank c) : trimRight cs = [] :=
  List.rdropWhile_eq_nil_iff.mpr h

theorem trimRight_append {trail : List Char} (h : ∀ c ∈ trail, isBlank c) (cs : List Char) :
    trimRight (cs ++ trail) = trimRight cs := by
  have hback : ∀ c ∈ trail.reverse, isBlank c := fun c hc => h c (List.mem_reverse.mp hc)
  rw [trimRight, trimRight, List.reverse_append, dropWhile_blanks hback]

theorem exists_trimRight (cs : List Char) :
    ∃ trail, cs = trimRight cs ++ trail ∧ ∀ c ∈ trail, isBlank c := by
  refine ⟨(cs.reverse.takeWhile isBlank).reverse, ?_, fun c hc => ?_⟩
  · rw [trimRight, ← List.reverse_append, List.takeWhile_append_dropWhile, List.reverse_reverse]
  · exact List.mem_takeWhile_imp (List.mem_reverse.mp hc)

theorem trimmed_trim (cs : List Char) : Trimmed cs (trim cs) := by
  obtain ⟨trail, hback, hblank⟩ := exists_trimRight (trimLeft cs)
  have hfront : cs = cs.takeWhile isBlank ++ trimLeft cs := List.takeWhile_append_dropWhile.symm
  have hstops : Stops (trim cs) := by
    rw [← starts_reverse, trim, trimRight, List.reverse_reverse]
    exact starts_dropWhile _
  have hstarts : Starts (trim cs) := by
    have hleft : Starts (trim cs ++ trail) := hback ▸ starts_dropWhile cs
    intro c hc
    exact hleft c (by rw [List.head?_append, Option.mem_def.mp hc]; rfl)
  refine ⟨cs.takeWhile isBlank, trail, ?_, fun c => List.mem_takeWhile_imp, hblank, hstarts, hstops⟩
  rw [List.append_assoc, trim, ← hback]
  exact hfront

theorem Trimmed.eq_trim (h : Trimmed cs core) : core = trim cs := by
  obtain ⟨lead, trail, rfl, hlead, htrail, hstarts, hstops⟩ := h
  rw [trim, trimLeft, List.append_assoc, dropWhile_blanks hlead]
  cases core with
  | nil => rw [List.nil_append, List.dropWhile_eq_nil_iff.mpr htrail]; rfl
  | cons c core =>
    have hleft : Starts (c :: core ++ trail) := starts_cons.mpr (starts_cons.mp hstarts)
    rw [dropWhile_eq_self hleft, trimRight_append htrail, trimRight_eq_self hstops]

theorem trim_eq_self (starts : Starts cs) (stops : Stops cs) : trim cs = cs := by
  rw [trim, trimLeft, dropWhile_eq_self starts, trimRight_eq_self stops]

theorem length_trim_le (cs : List Char) : (trim cs).length ≤ cs.length := by
  obtain ⟨lead, trail, whole, -⟩ := trimmed_trim cs
  have lengths := congrArg List.length whole
  simp only [List.length_append] at lengths
  omega

theorem length_trim_eq_iff : (trim cs).length = cs.length ↔ Starts cs ∧ Stops cs := by
  obtain ⟨lead, trail, whole, -, -, starts, stops⟩ := trimmed_trim cs
  constructor
  · intro same
    have lengths := congrArg List.length whole
    simp only [List.length_append] at lengths
    obtain rfl : lead = [] := List.eq_nil_of_length_eq_zero (by omega)
    obtain rfl : trail = [] := List.eq_nil_of_length_eq_zero (by omega)
    rw [List.nil_append, List.append_nil] at whole
    rw [whole]
    exact ⟨starts, stops⟩
  · rintro ⟨starts, stops⟩
    rw [trim_eq_self starts stops]

theorem mem_of_mem_strip {line : String} (h : c ∈ (strip line).toList) : c ∈ line.toList := by
  obtain ⟨lead, trail, whole, -⟩ := trimmed_trim line.toList
  rw [strip, String.toList_ofList] at h
  rw [whole]
  exact List.mem_append_left _ (List.mem_append_right _ h)

/-! ### Squeezing -/

theorem squeeze_nil : squeeze [] = [] := by rw [squeeze.eq_def]

theorem squeeze_cons (c : Char) (cs : List Char) : squeeze (c :: cs) =
    if isBlank c then
      if (cs.takeWhile isBlank).isEmpty then c :: squeeze cs
      else ' ' :: squeeze (cs.dropWhile isBlank)
    else c :: squeeze cs := by
  rw [squeeze.eq_def]

theorem starts_iff : Starts cs ↔ cs.takeWhile isBlank = [] := by
  constructor
  · intro starts
    cases cs with
    | nil => rfl
    | cons c cs => exact List.takeWhile_cons_of_neg (by simp [starts_cons.mp starts])
  · intro none
    rw [← List.takeWhile_append_dropWhile (p := isBlank) (l := cs), none]
    exact starts_dropWhile cs

theorem takeWhile_blanks (h : ∀ c ∈ core, isBlank c) (longest : Starts cs) :
    (core ++ cs).takeWhile isBlank = core := by
  rw [List.takeWhile_append_of_pos h, starts_iff.mp longest, List.append_nil]

theorem squeezed_squeeze (cs : List Char) : Squeezed cs (squeeze cs) := by
  induction cs using squeeze.induct with
  | case1 => rw [squeeze_nil]; exact .nil
  | case2 c cs hc alone ih =>
    rw [squeeze_cons, if_pos hc, if_pos alone]
    exact .single hc (starts_iff.mpr (List.isEmpty_iff.mp alone)) ih
  | case3 c cs hc more ih =>
    have two : 2 ≤ (c :: cs.takeWhile isBlank).length :=
      Nat.succ_le_succ (List.length_pos_iff.mpr fun none => more (List.isEmpty_iff.mpr none))
    have blanks : ∀ d ∈ c :: cs.takeWhile isBlank, isBlank d :=
      List.forall_mem_cons.mpr ⟨hc, fun d => List.mem_takeWhile_imp⟩
    have hrun := Squeezed.run two blanks (starts_dropWhile cs) ih
    rw [List.cons_append, List.takeWhile_append_dropWhile] at hrun
    rwa [squeeze_cons, if_pos hc, if_neg more]
  | case4 c cs hc ih =>
    rw [squeeze_cons, if_neg hc]
    exact .solid (Bool.eq_false_iff.mpr hc) ih

theorem Squeezed.eq_squeeze (h : Squeezed cs out) : out = squeeze cs := by
  induction h with
  | nil => rw [squeeze_nil]
  | solid hc rest ih => rw [squeeze_cons, if_neg (by simp [hc]), ih]
  | @single c cs out hc longest rest ih =>
    have alone : (cs.takeWhile isBlank).isEmpty = true :=
      List.isEmpty_iff.mpr (starts_iff.mp longest)
    rw [squeeze_cons, if_pos hc, if_pos alone, ih]
  | @run run cs out two blanks longest rest ih =>
    cases run with
    | nil => simp at two
    | cons c others =>
      obtain ⟨hc, blanks⟩ := List.forall_mem_cons.mp blanks
      have more : ¬ ((others ++ cs).takeWhile isBlank).isEmpty := by
        rw [takeWhile_blanks blanks longest, List.isEmpty_iff]
        rintro rfl
        simp at two
      rw [List.cons_append, squeeze_cons, if_pos hc, if_neg more, dropWhile_blanks blanks,
        dropWhile_eq_self longest, ih]

theorem Squeezed.starts (h : Squeezed cs out) (starts : Starts cs) : Starts out := by
  cases h with
  | nil => exact starts
  | solid hc => exact starts_cons.mpr hc
  | single hc => exact absurd hc (Bool.not_eq_true _ ▸ starts_cons.mp starts)
  | @run run cs _ two blanks =>
    cases run with
    | nil => simp at two
    | cons c others =>
      exact absurd (blanks c List.mem_cons_self) (Bool.not_eq_true _ ▸ starts_cons.mp starts)

theorem Stops.of_append {front : List Char} (stops : Stops (front ++ cs)) : Stops cs := by
  intro c hc
  refine stops c ?_
  rw [List.getLast?_append, Option.mem_def.mp hc]
  rfl

/-- A text that does not end in blanks ends as before. -/
theorem Squeezed.getLast? (h : Squeezed cs out) (stops : Stops cs) :
    out.getLast? = cs.getLast? := by
  induction h with
  | nil => rfl
  | @solid c cs out _ _ ih | @single c cs out _ _ _ ih =>
    have later : Stops cs := Stops.of_append (show Stops ([c] ++ cs) from stops)
    rw [List.getLast?_cons, List.getLast?_cons, ih later]
  | @run run cs out two blanks longest rest ih =>
    rw [List.getLast?_cons, ih stops.of_append, List.getLast?_append]
    cases hlast : cs.getLast? with
    | some d => rfl
    | none =>
      obtain rfl := List.getLast?_eq_none_iff.mp hlast
      rw [List.append_nil] at stops
      cases hrun : run.getLast? with
      | none => simp [List.getLast?_eq_none_iff.mp hrun] at two
      | some d =>
        have solid := stops d hrun
        rw [blanks d (List.mem_of_getLast? hrun)] at solid
        cases solid

theorem Squeezed.isChain (h : Squeezed cs out) :
    out.IsChain fun a b => ¬ (isBlank a ∧ isBlank b) := by
  induction h with
  | nil => exact .nil
  | solid hc _ ih => exact List.isChain_cons.mpr ⟨fun d _ both => by simp [hc] at both, ih⟩
  | single _ longest rest ih | run _ _ longest rest ih =>
    refine List.isChain_cons.mpr ⟨fun d hd both => ?_, ih⟩
    have solid := rest.starts longest d hd
    rw [both.2] at solid
    cases solid

theorem Squeezed.solids (h : Squeezed cs out) :
    out.filter (fun c => !isBlank c) = cs.filter fun c => !isBlank c := by
  induction h with
  | nil => rfl
  | solid hc _ ih | single hc _ _ ih => simp [hc, ih]
  | @run run cs out _ blanks _ _ ih =>
    have none : run.filter (fun c => !isBlank c) = [] :=
      List.filter_eq_nil_iff.mpr fun c hc => by simp [blanks c hc]
    rw [List.filter_append, none, List.nil_append, ← ih]
    rfl

theorem Squeezed.mem (h : Squeezed cs out) {c : Char} (hc : c ∈ out) : c ∈ cs ∨ c = ' ' := by
  induction h with
  | nil => exact .inl hc
  | solid _ _ ih | single _ _ _ ih =>
    rcases List.mem_cons.mp hc with rfl | hc
    · exact .inl List.mem_cons_self
    · exact (ih hc).imp_left (List.mem_cons_of_mem _)
  | run _ _ _ _ ih =>
    rcases List.mem_cons.mp hc with rfl | hc
    · exact .inr rfl
    · exact (ih hc).imp_left (List.mem_append_right _)

theorem squeezed_self (apart : cs.IsChain fun a b => ¬ (isBlank a ∧ isBlank b)) :
    Squeezed cs cs := by
  induction cs with
  | nil => exact .nil
  | cons c cs ih =>
    obtain ⟨next, later⟩ := List.isChain_cons.mp apart
    cases hc : isBlank c with
    | false => exact .solid hc (ih later)
    | true =>
      have longest : Starts cs := fun d hd => Bool.eq_false_iff.mpr fun hb => next d hd ⟨hc, hb⟩
      exact .single hc longest (ih later)

end Blanks

end RaggedTables.Text
