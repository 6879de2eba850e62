import Mathlib.Data.List.Basic
import RaggedTables.Selector.Token

/-! What scanning a selector takes when a `>` follows it: escapes, names, strings and numbers. A
name or an escape that ends the text may take the blank before the `>`, and a backslash that ends it
takes the `>`; nothing else that has been read is changed by what follows. -/

namespace RaggedTables.Selector

open Markup (isSpace isHexDigit lowerAscii)

variable {α : Type} {c d : Char} {cs rest after tail more name : List Char}

/-- What a `>` brings behind a text: itself, perhaps after a blank. -/
inductive Tail : List Char → Prop
  | mark (more : List Char) : Tail ('>' :: more)
  | blank (more : List Char) : Tail (' ' :: '>' :: more)

/-- A character that neither goes on with a name or a number nor is part of a line end. -/
structure Stops (d : Char) : Prop where
  name : isNamePart d = false
  escape : d ≠ '\\'
  digit : Text.isAsciiDigit d = false
  hex : isHexDigit d = false
  line : d ≠ '\n'
  point : d ≠ '.'
  star : d ≠ '*'

theorem Tail.stops (h : Tail tail) : ∃ d more, tail = d :: more ∧ Stops d := by
  cases h with
  | mark more => exact ⟨'>', more, rfl, by constructor <;> decide⟩
  | blank more => exact ⟨' ', '>' :: more, rfl, by constructor <;> decide⟩

/-- How a scan that takes a piece from the front of a text goes when a `>` follows the text: what is
left behind the piece stands before the `>`; or the piece ends the text and takes a blank before the
`>` as well; or a piece goes on through the `>`. -/
inductive Ends (scan : List Char → α → List Char → Prop) (cs : List Char) (a : α)
    (after : List Char) : Prop
  | apart (h : ∀ tail, Tail tail → scan (cs ++ tail) a (after ++ tail))
  | blank (last : after = []) (mark : ∀ more, scan (cs ++ '>' :: more) a ('>' :: more))
      (blank : ∀ more, scan (cs ++ ' ' :: '>' :: more) a ('>' :: more))
  | through (a' : α) (h : scan (cs ++ ['>']) a' [])

/-! ### Escapes -/

theorem takeWhile_take_append {p : Char → Bool} (h : p d = false) (n : Nat) (cs more : List Char) :
    ((cs ++ d :: more).take n).takeWhile p = (cs.take n).takeWhile p := by
  induction cs generalizing n with
  | nil => cases n <;> simp [h]
  | cons c cs ih =>
    cases n with
    | zero => rfl
    | succ n => simp [List.takeWhile_cons, ih]

theorem length_afterBlank_le (cs : List Char) : (afterBlank cs).length ≤ cs.length := by
  unfold afterBlank
  split
  · simp; omega
  · split <;> simp
  · simp

theorem afterBlank_cons (h : ¬ (c = '\r' ∧ ∃ more, rest = '\n' :: more)) :
    afterBlank (c :: rest) = if isSpace c then rest else c :: rest := by
  rw [afterBlank]
  rintro more rfl rfl
  exact h ⟨rfl, more, rfl⟩

theorem afterBlank_append (nonempty : cs ≠ []) (h : Stops d) (more : List Char) :
    afterBlank (cs ++ d :: more) = afterBlank cs ++ d :: more := by
  obtain ⟨c, rest, rfl⟩ := List.exists_cons_of_ne_nil nonempty
  by_cases line : c = '\r' ∧ ∃ more, rest = '\n' :: more
  · obtain ⟨rfl, after, rfl⟩ := line
    rfl
  · have apart : ¬ (c = '\r' ∧ ∃ after, rest ++ d :: more = '\n' :: after) := by
      rintro ⟨rfl, after, same⟩
      cases rest with
      | nil => exact h.line (List.cons.inj same).1
      | cons e rest => exact line ⟨rfl, rest, by rw [(List.cons.inj same).1]⟩
    rw [List.cons_append, afterBlank_cons apart, afterBlank_cons line]
    split <;> rfl

/-- The digits at the front of an escape. -/
def escapeDigits (cs : List Char) : List Char := (cs.take 6).takeWhile isHexDigit

/-- The character that the digits of an escape stand for. -/
def escaped (digits : List Char) : Char :=
  let n := Markup.Reference.hexNumber (digits.map lowerAscii)
  if n.isValidChar then Char.ofNat n else '\ufffd'

theorem escape?_cons (c : Char) (rest : List Char) :
    escape? (c :: rest) =
      if (escapeDigits (c :: rest)).isEmpty then if isLineEnd c then none else some (c, rest)
      else some (escaped (escapeDigits (c :: rest)),
        afterBlank ((c :: rest).drop (escapeDigits (c :: rest)).length)) := rfl

theorem escapeDigits_append (ht : Tail tail) (cs : List Char) :
    escapeDigits (cs ++ tail) = escapeDigits cs := by
  obtain ⟨d, more, rfl, stops⟩ := ht.stops
  exact takeWhile_take_append stops.hex 6 cs more

theorem length_escapeDigits_le (cs : List Char) : (escapeDigits cs).length ≤ cs.length :=
  Nat.le_trans (List.takeWhile_prefix _).length_le (List.length_take_le' _ _)

theorem escape?_append (ht : Tail tail) (c : Char) (rest : List Char) :
    escape? (c :: rest ++ tail) =
      if (escapeDigits (c :: rest)).isEmpty then
        if isLineEnd c then none else some (c, rest ++ tail)
      else some (escaped (escapeDigits (c :: rest)),
        afterBlank ((c :: rest).drop (escapeDigits (c :: rest)).length ++ tail)) := by
  rw [← List.drop_append_of_le_length (length_escapeDigits_le _), ← escapeDigits_append ht]
  rfl

theorem length_escape?_lt {e : Char} (h : escape? cs = some (e, after)) :
    after.length < cs.length := by
  cases cs with
  | nil => simp [escape?] at h
  | cons c rest =>
    rw [escape?_cons] at h
    split at h
    · split at h
      · simp at h
      · simp only [Option.some.injEq, Prod.mk.injEq] at h
        simp [h.2]
    · rename_i digits
      have nonempty : escapeDigits (c :: rest) ≠ [] := fun none => digits (by simp [none])
      have pos := List.length_pos_iff.mpr nonempty
      simp only [Option.some.injEq, Prod.mk.injEq] at h
      have short := length_afterBlank_le ((c :: rest).drop (escapeDigits (c :: rest)).length)
      rw [h.2, List.length_drop] at short
      have := List.length_pos_iff.mpr (List.cons_ne_nil c rest)
      omega

/-- What follows an escape stands behind it, or the escape ends the text and takes a blank. -/
theorem escape?_ends {e : Char} (h : escape? cs = some (e, after)) :
    (∀ tail, Tail tail → escape? (cs ++ tail) = some (e, after ++ tail)) ∨
      after = [] ∧ ∀ more, escape? (cs ++ '>' :: more) = some (e, '>' :: more) ∧
        escape? (cs ++ ' ' :: '>' :: more) = some (e, '>' :: more) := by
  obtain _ | ⟨c, rest⟩ := cs
  · simp [escape?] at h
  rw [escape?_cons] at h
  split at h
  · rename_i none
    split at h
    · simp at h
    · rename_i line
      simp only [Option.some.injEq, Prod.mk.injEq] at h
      obtain ⟨rfl, rfl⟩ := h
      exact .inl fun tail ht => by rw [escape?_append ht, if_pos none, if_neg line]
  · rename_i digits
    simp only [Option.some.injEq, Prod.mk.injEq] at h
    obtain ⟨rfl, rfl⟩ := h
    by_cases last : (c :: rest).drop (escapeDigits (c :: rest)).length = []
    · refine .inr ⟨by rw [last]; rfl, fun more => ⟨?_, ?_⟩⟩
      · rw [escape?_append (.mark more), if_neg digits, last]
        rfl
      · rw [escape?_append (.blank more), if_neg digits, last]
        rfl
    · refine .inl fun tail ht => ?_
      obtain ⟨d, more, rfl, stops⟩ := ht.stops
      rw [escape?_append ht, if_neg digits, afterBlank_append last stops]

/-- Whether there is an escape is not changed by what follows the text, unless nothing is there. -/
theorem isSome_escape?_append (nonempty : cs ≠ []) (ht : Tail tail) :
    (escape? (cs ++ tail)).isSome = (escape? cs).isSome := by
  obtain ⟨c, rest, rfl⟩ := List.exists_cons_of_ne_nil nonempty
  rw [escape?_append ht, escape?_cons]
  split
  · split <;> rfl
  · rfl

/-! ### Names -/

/-- A name at the front of a text, and what is behind it. -/
inductive Names : List Char → List Char → List Char → Prop
  | nil : Names [] [] []
  | part {c : Char} {rest name after : List Char} (part : isNamePart c)
      (more : Names rest name after) :
      Names (c :: rest) (c :: name) after
  | escaped {e : Char} {rest between name after : List Char}
      (escape : escape? rest = some (e, between)) (more : Names between name after) :
      Names ('\\' :: rest) (e :: name) after
  | stop {c : Char} {rest : List Char} (part : isNamePart c = false)
      (plain : c = '\\' → escape? rest = none) : Names (c :: rest) [] (c :: rest)

theorem Names.length_le (h : Names cs name after) : after.length + name.length ≤ cs.length := by
  induction h with
  | nil => simp
  | part _ _ ih => simp; omega
  | escaped escape _ ih =>
    have := length_escape?_lt escape
    simp
    omega
  | stop => simp

theorem Names.eq_of_nil (h : Names cs [] after) : after = cs := by
  cases h <;> rfl

theorem Names.nameParts (h : Names cs name after) {fuel : Nat} (enough : cs.length ≤ fuel) :
    nameParts fuel cs = (name, after) := by
  induction h generalizing fuel with
  | nil => cases fuel <;> rfl
  | part part _ ih =>
    obtain _ | fuel := fuel
    · simp at enough
    · rw [Selector.nameParts, if_pos part, ih (by simpa using enough)]
  | escaped escape _ ih =>
    obtain _ | fuel := fuel
    · simp at enough
    · have short := length_escape?_lt escape
      have part : isNamePart '\\' = false := by decide
      simp only [List.length_cons] at enough
      simp only [Selector.nameParts, part, if_pos, escape, ih (show _ ≤ fuel by omega)]
      rfl
  | @stop c rest part plain =>
    obtain _ | fuel := fuel
    · simp at enough
    · by_cases back : c = '\\'
      · subst back
        simp [Selector.nameParts, part, plain rfl]
      · simp [Selector.nameParts, part, back]

theorem names_nameParts {fuel : Nat} (enough : cs.length ≤ fuel) :
    Names cs (nameParts fuel cs).1 (nameParts fuel cs).2 := by
  induction fuel generalizing cs with
  | zero =>
    obtain rfl := List.eq_nil_of_length_eq_zero (Nat.le_zero.mp enough)
    exact .nil
  | succ fuel ih =>
    obtain _ | ⟨c, rest⟩ := cs
    · exact .nil
    simp only [List.length_cons, Nat.add_le_add_iff_right] at enough
    rw [nameParts]
    split
    · rename_i part
      exact .part part (ih enough)
    · rename_i part
      split
      · rename_i e more escape
        obtain ⟨rfl, escape⟩ : c = '\\' ∧ escape? rest = some (e, more) := by
          split at escape
          · rename_i back
            exact ⟨back, escape⟩
          · simp at escape
        exact .escaped escape (ih (by have := length_escape?_lt escape; omega))
      · rename_i none
        exact .stop (by simpa using part) fun back => by simpa [back] using none

theorem Tail.names (ht : Tail tail) : Names tail [] tail := by
  obtain ⟨d, more, rfl, stops⟩ := ht.stops
  exact .stop stops.name fun back => absurd back stops.escape

/-- Where no name starts, none does when a `>` follows, except behind a lone backslash. -/
theorem Names.stopped (h : Names cs [] cs) (lone : cs ≠ ['\\']) (ht : Tail tail) :
    Names (cs ++ tail) [] (cs ++ tail) := by
  cases h with
  | nil => exact ht.names
  | @stop c rest part plain =>
    refine .stop part fun back => ?_
    have nonempty : rest ≠ [] := fun none => lone (by rw [back, none])
    have same := isSome_escape?_append nonempty ht
    rwa [plain back, Option.isSome_none, Option.isSome_eq_false_iff, Option.isNone_iff_eq_none]
      at same

theorem Names.ends (h : Names cs name after) : Ends Names cs name after := by
  induction h with
  | nil => exact .apart fun tail ht => ht.names
  | part part _ ih =>
    cases ih with
    | apart h => exact .apart fun tail ht => .part part (h tail ht)
    | blank last mark blank =>
      exact .blank last (fun more => .part part (mark more)) fun more => .part part (blank more)
    | through name' h => exact .through _ (.part part h)
  | escaped escape rest ih =>
    obtain h | ⟨rfl, h⟩ := escape?_ends escape
    · cases ih with
      | apart h' => exact .apart fun tail ht => .escaped (h tail ht) (h' tail ht)
      | blank last mark blank =>
        exact .blank last (fun more => .escaped (h _ (.mark more)) (mark more))
          fun more => .escaped (h _ (.blank more)) (blank more)
      | through name' h' => exact .through _ (.escaped (h _ (.mark [])) h')
    · cases rest
      exact .blank rfl (fun more => .escaped (h more).1 (Tail.mark more).names)
        fun more => .escaped (h more).2 (Tail.mark more).names
  | @stop c rest part plain =>
    by_cases lone : c :: rest = ['\\']
    · obtain ⟨rfl, rfl⟩ := List.cons.inj lone
      exact .through ['>'] (.escaped rfl .nil)
    · exact .apart fun tail ht => (Names.stop part plain).stopped lone ht

/-- Whether a name starts with an escape or a starting character. -/
theorem startsName_cons (c : Char) (rest : List Char) :
    startsName (c :: rest) =
      if c = '-' then
        match rest with
        | e :: more => isNameStart e || (e == '\\' && (escape? more).isSome)
        | [] => false
      else isNameStart c || (c == '\\' && (escape? rest).isSome) := by
  by_cases dash : c = '-'
  · subst dash
    rfl
  · rw [if_neg dash]
    unfold startsName
    split
    · rename_i same
      exact absurd (List.cons.inj same).1 dash
    · rfl

theorem Names.not_starts (h : Names (c :: rest) [] after) : ¬ startsName (c :: rest) := by
  cases h with
  | stop part plain =>
    have start : isNameStart c = false := by
      simp only [isNamePart, Bool.or_eq_false_iff] at part
      exact part.1.1
    have dash : c ≠ '-' := by
      rintro rfl
      exact absurd part (by decide)
    rw [startsName_cons, if_neg dash, start]
    simpa using plain

theorem starts_append (lone : c :: rest ≠ ['\\']) (ht : Tail tail) :
    (isNameStart c || (c == '\\' && (escape? (rest ++ tail)).isSome)) =
      (isNameStart c || (c == '\\' && (escape? rest).isSome)) := by
  by_cases back : c = '\\'
  · have nonempty : rest ≠ [] := fun none => lone (by rw [back, none])
    rw [isSome_escape?_append nonempty ht]
  · have other : (c == '\\') = false := by simpa using back
    simp only [other, Bool.false_and]

theorem startsName_append (lone : c :: rest ≠ ['\\']) (dashed : c :: rest ≠ ['-', '\\'])
    (ht : Tail tail) : startsName (c :: rest ++ tail) = startsName (c :: rest) := by
  rw [List.cons_append, startsName_cons, startsName_cons]
  by_cases dash : c = '-'
  · subst dash
    rw [if_pos rfl, if_pos rfl]
    cases rest with
    | nil =>
      obtain ⟨d, more, rfl, stops⟩ := ht.stops
      have start : isNameStart d = false := by
        have := stops.name
        simp only [isNamePart, Bool.or_eq_false_iff] at this
        exact this.1.1
      simp [start, stops.escape]
    | cons e more => exact starts_append (fun same => dashed (by rw [same])) ht
  · rw [if_neg dash, if_neg dash, starts_append lone ht]

/-! ### Strings, numbers and comments -/

/-- What is behind the line end `e`, which may have two characters. -/
def behindLineEnd (e : Char) (more : List Char) : List Char :=
  if e = '\r' ∧ more.head? = some '\n' then more.tail else more

theorem length_behindLineEnd_le (e : Char) (more : List Char) :
    (behindLineEnd e more).length ≤ more.length := by
  rw [behindLineEnd]
  split
  · simp
  · exact Nat.le_refl _

theorem behindLineEnd_append (nonempty : behindLineEnd c cs ≠ []) (ht : Tail tail) :
    behindLineEnd c (cs ++ tail) = behindLineEnd c cs ++ tail := by
  obtain ⟨d, more, rfl, stops⟩ := ht.stops
  rw [behindLineEnd] at nonempty
  rw [behindLineEnd, behindLineEnd]
  cases cs with
  | nil => simp at nonempty
  | cons e cs =>
    by_cases line : c = '\r' ∧ (e :: cs).head? = some '\n'
    · exact (if_pos line).trans (by rw [if_pos line]; rfl)
    · exact (if_neg line).trans (by rw [if_neg line])

section Strings

variable {quote : Char} (other : quote ≠ '\\')

theorem stringRest?_close (fuel : Nat) (rest : List Char) :
    stringRest? quote (fuel + 1) (quote :: rest) = some ([], rest) := by
  simp [stringRest?]

include other in
theorem stringRest?_escape (fuel : Nat) (e : Char) (more : List Char) :
    stringRest? quote (fuel + 1) ('\\' :: e :: more) =
      if isLineEnd e then stringRest? quote fuel (behindLineEnd e more)
      else (escape? (e :: more)).bind fun (e, more) =>
        (stringRest? quote fuel more).map fun (s, after) => (e :: s, after) := by
  rw [stringRest?.eq_def]
  simp only [if_neg other.symm, if_pos]
  split
  · rename_i same
    obtain ⟨rfl, rfl⟩ := List.cons.inj same
    rfl
  · rename_i short same
    obtain ⟨rfl, rfl⟩ := List.cons.inj same
    have one : behindLineEnd e more = more := by
      rw [behindLineEnd, if_neg]
      rintro ⟨rfl, line⟩
      cases more with
      | nil => simp at line
      | cons d more =>
        obtain rfl := Option.some.inj line
        exact short more rfl rfl
    rw [one]
    split
    · rfl
    · cases escape? (e :: more) <;> rfl
  · rename_i same
    cases same

theorem stringRest?_other (fuel : Nat) (inside : c ≠ quote) (plain : c ≠ '\\') (rest : List Char) :
    stringRest? quote (fuel + 1) (c :: rest) =
      if isLineEnd c then none
      else (stringRest? quote fuel rest).map fun (s, after) => (c :: s, after) := by
  simp only [stringRest?, if_neg inside, if_neg plain]

include other in
theorem length_stringRest?_lt {s : List Char} {fuel : Nat}
    (h : stringRest? quote fuel cs = some (s, after)) : after.length < cs.length := by
  induction fuel generalizing cs s with
  | zero => simp [stringRest?] at h
  | succ fuel ih =>
    obtain _ | ⟨c, rest⟩ := cs
    · simp [stringRest?] at h
    by_cases close : c = quote
    · subst close
      rw [stringRest?_close] at h
      cases h
      simp
    by_cases back : c = '\\'
    · subst back
      obtain _ | ⟨e, more⟩ := rest
      · simp [stringRest?, other.symm] at h
      rw [stringRest?_escape other] at h
      split at h
      · have := ih h
        have := length_behindLineEnd_le e more
        simp
        omega
      · obtain ⟨⟨d, behind⟩, escape, h⟩ := Option.bind_eq_some_iff.mp h
        obtain ⟨⟨s', _⟩, h, same⟩ := Option.map_eq_some_iff.mp h
        cases same
        have := ih h
        have := length_escape?_lt escape
        simp at this ⊢
        omega
    · rw [stringRest?_other fuel close back] at h
      split at h
      · simp at h
      · obtain ⟨⟨s', _⟩, h, same⟩ := Option.map_eq_some_iff.mp h
        cases same
        have := ih h
        simp
        omega

include other in
theorem stringRest?_append {s : List Char} {fuel fuel' : Nat}
    (h : stringRest? quote fuel cs = some (s, after)) (enough : fuel ≤ fuel') (ht : Tail tail) :
    stringRest? quote fuel' (cs ++ tail) = some (s, after ++ tail) := by
  induction fuel generalizing cs s fuel' with
  | zero => simp [stringRest?] at h
  | succ fuel ih =>
    obtain ⟨fuel', rfl⟩ : ∃ n, fuel' = n + 1 := ⟨fuel' - 1, by omega⟩
    replace enough : fuel ≤ fuel' := by omega
    obtain _ | ⟨c, rest⟩ := cs
    · simp [stringRest?] at h
    by_cases close : c = quote
    · subst close
      rw [stringRest?_close] at h
      cases h
      exact stringRest?_close _ _
    by_cases back : c = '\\'
    · subst back
      obtain _ | ⟨e, more⟩ := rest
      · simp [stringRest?, other.symm] at h
      have nonempty {between s : List Char}
          (h : stringRest? quote fuel between = some (s, after)) : between ≠ [] := by
        have := length_stringRest?_lt other h
        exact List.length_pos_iff.mp (by omega)
      rw [stringRest?_escape other] at h
      rw [List.cons_append, List.cons_append, stringRest?_escape other]
      split at h
      · rename_i line
        rw [if_pos line, behindLineEnd_append (nonempty h) ht]
        exact ih h enough
      · rename_i line
        rw [if_neg line]
        obtain ⟨⟨d, behind⟩, escape, h⟩ := Option.bind_eq_some_iff.mp h
        obtain ⟨⟨s', _⟩, h, same⟩ := Option.map_eq_some_iff.mp h
        cases same
        obtain apart | ⟨rfl, -⟩ := escape?_ends escape
        · rw [← List.cons_append, apart tail ht]
          simp [ih h enough]
        · exact absurd rfl (nonempty h)
    · rw [stringRest?_other fuel close back] at h
      rw [List.cons_append, stringRest?_other fuel' close back]
      split at h
      · simp at h
      · rename_i line
        obtain ⟨⟨s', _⟩, h, same⟩ := Option.map_eq_some_iff.mp h
        cases same
        simp [line, ih h enough]

end Strings

/-- The number at the front of a text behind its sign. -/
def numberBody? (sign body : List Char) : Option (List Char × List Char) :=
  let whole := body.takeWhile Text.isAsciiDigit
  match body.drop whole.length with
  | '.' :: rest =>
    let part := rest.takeWhile Text.isAsciiDigit
    if !part.isEmpty then some (sign ++ whole ++ '.' :: part, rest.drop part.length)
    else if whole.isEmpty then none
    else some (sign ++ whole, '.' :: rest)
  | rest => if whole.isEmpty then none else some (sign ++ whole, rest)

theorem number?_cons (c : Char) (rest : List Char) :
    number? (c :: rest) =
      if c = '+' ∨ c = '-' then numberBody? [c] rest else numberBody? [] (c :: rest) := by
  by_cases plus : c = '+'
  · subst plus
    rfl
  by_cases minus : c = '-'
  · subst minus
    rfl
  rw [if_neg (not_or.mpr ⟨plus, minus⟩)]
  unfold number?
  split
  rename_i same
  split at same
  · exact absurd (List.cons.inj ‹_›).1 plus
  · exact absurd (List.cons.inj ‹_›).1 minus
  · obtain ⟨rfl, rfl⟩ := Prod.mk.inj same
    rfl

theorem numberBody?_append (sign body : List Char) (ht : Tail tail) :
    numberBody? sign (body ++ tail) =
      (numberBody? sign body).map fun (n, after) => (n, after ++ tail) := by
  obtain ⟨d, more, rfl, stops⟩ := ht.stops
  have digits (cs : List Char) :
      (cs ++ d :: more).takeWhile Text.isAsciiDigit = cs.takeWhile Text.isAsciiDigit := by
    have same := takeWhile_take_append stops.digit (cs ++ d :: more).length cs more
    rwa [List.take_length, List.take_of_length_le (by simp)] at same
  have behind (cs : List Char) : (cs ++ d :: more).drop (cs.takeWhile Text.isAsciiDigit).length =
      cs.drop (cs.takeWhile Text.isAsciiDigit).length ++ d :: more :=
    List.drop_append_of_le_length (List.takeWhile_prefix _).length_le
  rw [numberBody?, numberBody?, digits, behind]
  generalize body.takeWhile Text.isAsciiDigit = whole
  cases body.drop whole.length with
  | nil =>
    simp only [List.nil_append]
    split
    · rename_i same
      exact absurd (List.cons.inj same).1 stops.point
    · split <;> rfl
  | cons e rest =>
    by_cases point : e = '.'
    · subst point
      simp only [List.cons_append, digits, behind]
      split
      · rfl
      · split <;> rfl
    · simp [point]
      split <;> rfl

theorem number?_append (c : Char) (rest : List Char) (ht : Tail tail) :
    number? (c :: rest ++ tail) =
      (number? (c :: rest)).map fun (n, after) => (n, after ++ tail) := by
  rw [List.cons_append, number?_cons, number?_cons]
  split
  · exact numberBody?_append [c] rest ht
  · exact numberBody?_append [] (c :: rest) ht

theorem length_numberBody?_lt {sign body n : List Char}
    (h : numberBody? sign body = some (n, after)) : after.length < body.length := by
  have count : (body.takeWhile Text.isAsciiDigit).length ≤ body.length :=
    (List.takeWhile_prefix _).length_le
  have behind := List.length_drop (i := (body.takeWhile Text.isAsciiDigit).length) (l := body)
  rw [numberBody?] at h
  dsimp only at h
  generalize body.takeWhile Text.isAsciiDigit = whole at h count behind
  have digits (nonempty : ¬ whole.isEmpty) : 0 < whole.length :=
    List.length_pos_iff.mpr fun none => nonempty (by simp [none])
  split at h
  · rename_i rest hrest
    rw [hrest, List.length_cons] at behind
    split at h
    · simp only [Option.some.injEq, Prod.mk.injEq] at h
      rw [← h.2, List.length_drop]
      omega
    · split at h
      · simp at h
      · rename_i nonempty
        simp only [Option.some.injEq, Prod.mk.injEq] at h
        have := digits nonempty
        rw [← h.2, List.length_cons]
        omega
  · split at h
    · simp at h
    · rename_i nonempty
      simp only [Option.some.injEq, Prod.mk.injEq] at h
      have := digits nonempty
      rw [← h.2]
      omega

theorem length_number?_lt {n : List Char} (h : number? cs = some (n, after)) :
    after.length < cs.length := by
  cases cs with
  | nil => cases h
  | cons c rest =>
    rw [number?_cons] at h
    split at h
    · exact Nat.lt_succ_of_lt (length_numberBody?_lt h)
    · exact length_numberBody?_lt h

end RaggedTables.Selector
