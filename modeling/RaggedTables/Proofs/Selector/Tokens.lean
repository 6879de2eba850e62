import RaggedTables.Proofs.Selector.Scanning
import RaggedTables.Proofs.Text.Pieces

/-! The tokens of selectors that are joined by a `>`. Cutting a text into tokens is a relation of
its own, `Lexes`, with one piece for each step; where a `>` behind a text is a token of its own, the
tokens of a joined text are those of its parts. -/

namespace RaggedTables.Selector

open Markup (isSpace)

variable {c : Char} {cs rest after tail more : List Char}

/-- A front that is no blank, starts no name, and opens no string. -/
structure Plain (c : Char) (rest : List Char) : Prop where
  shown : isSpace c = false
  start : startsName (c :: rest) = false
  hash : c = '#' → Names rest [] rest
  quote : c ≠ '"' ∧ c ≠ '\''

/-- A piece at the front of a text, the token that it is, if it is no comment, and what is behind
it. -/
inductive Piece : List Char → Option Token → List Char → Prop
  | space {c : Char} {rest : List Char} (blank : isSpace c) :
      Piece (c :: rest) (some .space) (rest.dropWhile isSpace)
  | ident {c : Char} {rest name after : List Char} (shown : isSpace c = false)
      (start : startsName (c :: rest)) (names : Names (c :: rest) name after) :
      Piece (c :: rest) (some (.ident (String.ofList name))) after
  | hash {rest name after : List Char} (names : Names rest name after) (nonempty : name ≠ []) :
      Piece ('#' :: rest) (some (.hash (String.ofList name))) after
  | string {quote : Char} {rest s after : List Char} (hq : quote = '"' ∨ quote = '\'')
      (closed : stringRest? quote (rest.length + 1) rest = some (s, after)) :
      Piece (quote :: rest) (some (.string (String.ofList s))) after
  | number {c : Char} {rest n after : List Char} (plain : Plain c rest)
      (number : number? (c :: rest) = some (n, after)) :
      Piece (c :: rest) (some (.number (String.ofList n))) after
  | comment {more : List Char} :
      Piece ('/' :: '*' :: more) none ((Text.cut? ['*', '/'] more).getD ([], [])).2
  | mark {c : Char} {rest : List Char} (plain : Plain c rest) (none : number? (c :: rest) = none)
      (own : ¬ (c = '/' ∧ rest.head? = some '*')) : Piece (c :: rest) (some (.mark c)) rest

theorem names_of_isEmpty (sharp : c = '#')
    (empty : (if c = '#' then nameParts rest.length rest else ([], [])).1.isEmpty) :
    Names rest [] rest := by
  have names := names_nameParts (Nat.le_refl rest.length)
  rw [if_pos sharp] at empty
  rw [List.isEmpty_iff.mp empty] at names
  have all := names.eq_of_nil
  rwa [all] at names

theorem tokensFrom_cons {fuel : Nat} {ts : List Token}
    (h : tokensFrom (fuel + 1) (c :: rest) = some ts) :
    ∃ token after ts', Piece (c :: rest) token after ∧ tokensFrom fuel after = some ts' ∧
      ts = token.toList ++ ts' := by
  rw [tokensFrom.eq_def] at h
  dsimp only at h
  generalize hhashed : (if c = '#' then nameParts rest.length rest else ([], [])) = hashed at h
  split at h
  · rename_i blank
    obtain ⟨ts', later, rfl⟩ := Option.map_eq_some_iff.mp h
    exact ⟨some .space, _, ts', .space blank, later, rfl⟩
  rename_i shown
  split at h
  · rename_i start
    obtain ⟨ts', later, rfl⟩ := Option.map_eq_some_iff.mp h
    exact ⟨some (.ident _), _, ts',
      .ident (by simpa using shown) start (names_nameParts (Nat.le_refl _)), later, rfl⟩
  rename_i start
  split at h
  · rename_i nonempty
    obtain ⟨ts', later, rfl⟩ := Option.map_eq_some_iff.mp h
    split at hhashed
    · rename_i sharp
      subst sharp hhashed
      exact ⟨some (.hash _), _, ts', .hash (names_nameParts (Nat.le_refl _))
        (by simpa using nonempty), later, rfl⟩
    · subst hhashed
      simp at nonempty
  rename_i empty
  split at h
  · rename_i hq
    split at h
    · rename_i s after closed
      obtain ⟨ts', later, rfl⟩ := Option.map_eq_some_iff.mp h
      exact ⟨some (.string _), _, ts', .string hq closed, later, rfl⟩
    · simp at h
  rename_i hq
  have plain : Plain c rest :=
    ⟨by simpa using shown, by simpa using start, fun sharp => names_of_isEmpty sharp (by
      rw [hhashed]
      simpa using empty), not_or.mp hq⟩
  split at h
  · rename_i n after number
    obtain ⟨ts', later, rfl⟩ := Option.map_eq_some_iff.mp h
    exact ⟨some (.number _), _, ts', .number plain number, later, rfl⟩
  rename_i none
  split at h
  · exact ⟨.none, _, ts, .comment, h, rfl⟩
  · rename_i own
    obtain ⟨ts', later, rfl⟩ := Option.map_eq_some_iff.mp h
    refine ⟨some (.mark c), _, ts', .mark plain none ?_, later, rfl⟩
    rintro ⟨rfl, star⟩
    obtain _ | ⟨d, rest⟩ := rest
    · cases star
    · cases star
      exact own _ rfl rfl

/-- Behind a front that is plain a number, a comment or a mark is read. -/
theorem tokensFrom_plain (c : Char) (rest : List Char) (fuel : Nat) : Plain c rest →
    tokensFrom (fuel + 1) (c :: rest) =
      match number? (c :: rest) with
      | some (n, after) => (tokensFrom fuel after).map (Token.number (String.ofList n) :: ·)
      | none =>
        match c, rest with
        | '/', '*' :: more => tokensFrom fuel ((Text.cut? ['*', '/'] more).getD ([], [])).2
        | c, rest => (tokensFrom fuel rest).map (Token.mark c :: ·) := by
  intro plain
  have hashed : (if c = '#' then nameParts rest.length rest else ([], [])).1.isEmpty = true := by
    split
    · rename_i sharp
      rw [(plain.hash sharp).nameParts (Nat.le_refl _)]
      rfl
    · rfl
  have read := tokensFrom.eq_def (fuel + 1) (c :: rest)
  simp only [plain.shown, plain.start, hashed, plain.quote, Bool.false_eq_true, if_false,
    Bool.not_true, or_self] at read
  exact read

/-- A comment and the text behind it. -/
theorem plain_slash (rest : List Char) : Plain '/' rest :=
  ⟨by decide, by rw [startsName_cons]; rfl, fun sharp => absurd sharp (by decide), by decide⟩

theorem Piece.tokensFrom {token : Option Token} (h : Piece cs token after) (fuel : Nat) :
    tokensFrom (fuel + 1) cs = (tokensFrom fuel after).map (token.toList ++ ·) := by
  cases h with
  | space blank => simp [Selector.tokensFrom, blank]
  | ident shown start names => simp [Selector.tokensFrom, shown, start, names.nameParts]
  | @hash rest name _ names nonempty =>
    have shown : isSpace '#' = false := by decide
    have start : startsName ('#' :: rest) = false := rfl
    rw [tokensFrom.eq_def]
    simp [shown, start, names.nameParts, nonempty]
  | @string quote rest s _ hq closed =>
    have shown : isSpace quote = false := by obtain rfl | rfl := hq <;> decide
    have start : startsName (quote :: rest) = false := by obtain rfl | rfl := hq <;> rfl
    have sharp : quote ≠ '#' := by obtain rfl | rfl := hq <;> decide
    rw [tokensFrom.eq_def]
    simp [shown, start, sharp, hq, closed]
  | number plain number =>
    rw [tokensFrom_plain _ _ _ plain, number]
    rfl
  | comment =>
    have none (rest : List Char) : number? ('/' :: rest) = none := rfl
    rw [tokensFrom_plain _ _ _ (plain_slash _), none]
    simp
  | @mark c rest plain none own =>
    rw [tokensFrom_plain _ _ _ plain, none]
    dsimp only
    split
    · exact absurd ⟨rfl, rfl⟩ own
    · rfl

theorem Piece.length_lt {token : Option Token} (h : Piece cs token after) :
    after.length < cs.length := by
  cases h with
  | space => exact Nat.lt_succ_of_le (List.dropWhile_suffix _).length_le
  | @ident c rest name _ shown start names =>
    have nonempty : name ≠ [] := by
      rintro rfl
      exact names.not_starts start
    have := names.length_le
    have := List.length_pos_iff.mpr nonempty
    omega
  | hash names => exact Nat.lt_succ_of_le (by have := names.length_le; omega)
  | string hq closed =>
    refine Nat.lt_succ_of_lt (length_stringRest?_lt ?_ closed)
    obtain rfl | rfl := hq <;> decide
  | number _ number => exact length_number?_lt number
  | @comment more =>
    cases hcut : Text.cut? ['*', '/'] more with
    | none => simp
    | some found =>
      have := congrArg List.length (Text.cut?_eq_append hcut)
      simp at this ⊢
      omega
  | mark => exact Nat.lt_succ_self _

theorem Piece.exists_comment (h : Piece cs none after) : ∃ more, cs = '/' :: '*' :: more := by
  cases h with
  | @comment more => exact ⟨more, rfl⟩

/-- What opens a comment is no token. -/
theorem Piece.eq_none {token : Option Token} (h : Piece ('/' :: '*' :: more) token after) :
    token = none := by
  have start : startsName ('/' :: '*' :: more) = false := rfl
  cases h with
  | space blank => exact absurd blank (by decide)
  | ident _ start' => exact absurd start' (by rw [start]; decide)
  | string hq => exact absurd hq (by decide)
  | number _ number => cases number
  | comment => rfl
  | mark _ _ own => exact absurd ⟨rfl, rfl⟩ own

/-- How a text is cut into tokens, where comments are left out. -/
inductive Lexes : List Char → List Token → Prop
  | nil : Lexes [] []
  | piece {cs after : List Char} {token : Option Token} {ts : List Token}
      (piece : Piece cs token after)
      (more : Lexes after ts) : Lexes cs (token.toList ++ ts)

theorem Lexes.eq_nil {ts : List Token} (h : Lexes [] ts) : ts = [] := by
  cases h with
  | nil => rfl
  | piece piece => cases piece

theorem lexes_tokensFrom {fuel : Nat} {ts : List Token} (h : tokensFrom fuel cs = some ts) :
    Lexes cs ts := by
  induction fuel generalizing cs ts with
  | zero =>
    cases cs with
    | nil =>
      cases h
      exact .nil
    | cons => cases h
  | succ fuel ih =>
    cases cs with
    | nil =>
      cases h
      exact .nil
    | cons c rest =>
      obtain ⟨token, after, ts', piece, later, rfl⟩ := tokensFrom_cons h
      exact .piece piece (ih later)

theorem Lexes.tokensFrom {ts : List Token} (h : Lexes cs ts) {fuel : Nat}
    (enough : cs.length ≤ fuel) :
    tokensFrom fuel cs = some ts := by
  induction h generalizing fuel with
  | nil => cases fuel <;> rfl
  | piece piece _ ih =>
    have := piece.length_lt
    obtain ⟨fuel, rfl⟩ : ∃ n, fuel = n + 1 := ⟨fuel - 1, by omega⟩
    rw [piece.tokensFrom, ih (by omega)]
    rfl

theorem tokens?_iff {text : String} {ts : List Token} :
    tokens? text = some ts ↔ Lexes text.toList ts :=
  ⟨lexes_tokensFrom, fun h => h.tokensFrom (Nat.le_succ _)⟩

theorem Lexes.behind {ts : List Token} {token : Option Token} (h : Lexes cs ts)
    (piece : Piece cs token after) :
    ∃ ts', Lexes after ts' ∧ ts = token.toList ++ ts' := by
  have read := h.tokensFrom (Nat.le_succ cs.length)
  rw [piece.tokensFrom] at read
  obtain ⟨ts', later, same⟩ := Option.map_eq_some_iff.mp read
  exact ⟨ts', lexes_tokensFrom later, same.symm⟩

theorem Plain.append (plain : Plain c rest)
    (lone : c :: rest ≠ ['\\'] ∧ c :: rest ≠ ['-', '\\'] ∧ c :: rest ≠ ['#', '\\'])
    (ht : Tail tail) : Plain c (rest ++ tail) where
  shown := plain.shown
  start := (startsName_append lone.1 lone.2.1 ht).trans plain.start
  hash sharp := (plain.hash sharp).stopped (fun same => lone.2.2 (by rw [sharp, same])) ht
  quote := plain.quote

/-! ### How a piece ends -/

theorem ends_space (blank : isSpace c) :
    Ends Piece (c :: rest) (some .space) (rest.dropWhile isSpace) := by
  have behind (tail : List Char) : (rest ++ tail).dropWhile isSpace =
      if (rest.dropWhile isSpace).isEmpty then tail.dropWhile isSpace
      else rest.dropWhile isSpace ++ tail := List.dropWhile_append
  by_cases last : rest.dropWhile isSpace = []
  · have takes (tail : List Char) :
        Piece (c :: (rest ++ tail)) (some .space) (tail.dropWhile isSpace) := by
      have piece := @Piece.space c (rest ++ tail) blank
      rwa [behind, last] at piece
    exact .blank last (fun more => takes ('>' :: more)) fun more => takes (' ' :: '>' :: more)
  · refine .apart fun tail ht => ?_
    have piece := @Piece.space c (rest ++ tail) blank
    rwa [behind, if_neg (by simpa using last)] at piece

theorem ends_ident {name : List Char} (shown : isSpace c = false) (start : startsName (c :: rest))
    (names : Names (c :: rest) name after) :
    Ends Piece (c :: rest) (some (.ident (String.ofList name))) after := by
  have starts {tail : List Char} (ht : Tail tail) : startsName (c :: (rest ++ tail)) = true := by
    refine (startsName_append ?_ ?_ ht).trans start
    · rintro same
      rw [same] at start
      exact absurd start (by decide)
    · rintro same
      rw [same] at start
      exact absurd start (by decide)
  cases names.ends with
  | apart h => exact .apart fun tail ht => .ident shown (starts ht) (h tail ht)
  | blank last mark blank =>
    exact .blank last (fun more => .ident shown (starts (.mark more)) (mark more))
      fun more => .ident shown (starts (.blank more)) (blank more)
  | through name' h => exact .through _ (.ident shown (starts (.mark [])) h)

theorem ends_hash {name : List Char} (names : Names rest name after) (nonempty : name ≠ []) :
    Ends Piece ('#' :: rest) (some (.hash (String.ofList name))) after := by
  cases names.ends with
  | apart h => exact .apart fun tail ht => .hash (h tail ht) nonempty
  | blank last mark blank =>
    exact .blank last (fun more => .hash (mark more) nonempty) fun more =>
      .hash (blank more) nonempty
  | through name' h =>
    refine .through _ (.hash h ?_)
    rintro rfl
    exact absurd h.eq_of_nil (by simp)

theorem ends_comment : Ends Piece ('/' :: '*' :: more) none
    ((Text.cut? ['*', '/'] more).getD ([], [])).2 := by
  cases hcut : Text.cut? ['*', '/'] more with
  | none =>
    have piece := @Piece.comment (more ++ ['>'])
    have unclosed : Text.cut? ['*', '/'] (more ++ ['>']) = none :=
      @Text.cut?_concat ['*'] more '>' '/' (by decide) hcut
    rw [unclosed] at piece
    exact .through _ piece
  | some found =>
    refine .apart fun tail ht => ?_
    have piece := @Piece.comment (more ++ tail)
    rwa [Text.cut?_extend hcut] at piece

theorem ends_mark (plain : Plain c rest) (none : number? (c :: rest) = none)
    (own : ¬ (c = '/' ∧ rest.head? = some '*')) :
    Ends Piece (c :: rest) (some (.mark c)) rest := by
  by_cases back : c :: rest = ['\\']
  · cases back
    exact .through _ (.ident (by decide) (by decide) (.escaped rfl .nil))
  by_cases dashed : c :: rest = ['-', '\\']
  · cases dashed
    exact .through _ (.ident (by decide) (by decide) (.part (by decide) (.escaped rfl .nil)))
  by_cases hashed : c :: rest = ['#', '\\']
  · cases hashed
    exact .through _ (.hash (.escaped rfl .nil) (by simp))
  refine .apart fun tail ht => .mark (plain.append ⟨back, dashed, hashed⟩ ht) ?_ ?_
  · exact (number?_append c rest ht).trans (by rw [none]; rfl)
  · rintro ⟨rfl, star⟩
    obtain ⟨d, more, rfl, stops⟩ := ht.stops
    cases rest with
    | nil => exact stops.star (Option.some.inj star)
    | cons e rest => exact own ⟨rfl, star⟩

theorem Piece.ends {token : Option Token} (h : Piece cs token after) :
    Ends Piece cs token after := by
  cases h with
  | space blank => exact ends_space blank
  | ident shown start names => exact ends_ident shown start names
  | hash names nonempty => exact ends_hash names nonempty
  | @string quote _ _ _ hq closed =>
    have other : quote ≠ '\\' := by obtain rfl | rfl := hq <;> decide
    refine .apart fun tail ht => .string hq (stringRest?_append other closed ?_ ht)
    simp
  | @number c rest n _ plain number =>
    have solid {front : List Char} (none : number? front = none) : c :: rest ≠ front := by
      rintro rfl
      rw [none] at number
      cases number
    refine .apart fun tail ht => .number (plain.append ⟨solid rfl, solid rfl, solid rfl⟩ ht) ?_
    exact (number?_append c rest ht).trans (by rw [number]; rfl)
  | comment => exact ends_comment
  | mark plain none own => exact ends_mark plain none own

/-! ### Texts before a `>` -/

/-- A text behind which a `>` is read as a mark of its own can be followed by a blank and a `>`: the
blank is a token, unless the last piece takes it. -/
theorem Lexes.joined {ts : List Token} (h : Lexes cs ts)
    (closed : Lexes (cs ++ ['>']) (ts ++ [.mark '>'])) :
    ∃ gap, (gap = [] ∨ gap = [Token.space]) ∧ ∀ more rest, Lexes ('>' :: more) rest →
      Lexes (cs ++ ' ' :: '>' :: more) (ts ++ gap ++ rest) := by
  induction h with
  | nil =>
    refine ⟨[.space], .inr rfl, fun more rest later => ?_⟩
    exact .piece (Piece.space rfl) later
  | @piece cs after token ts piece more ih =>
    cases piece.ends with
    | apart h =>
      obtain ⟨ts', later, same⟩ := closed.behind (h _ (.mark []))
      rw [List.append_assoc] at same
      obtain rfl := List.append_cancel_left same
      obtain ⟨gap, hgap, joined⟩ := ih later
      refine ⟨gap, hgap, fun more rest behind => ?_⟩
      rw [List.append_assoc, List.append_assoc]
      exact .piece (h _ (.blank more)) (by rw [← List.append_assoc]; exact joined more rest behind)
    | blank last _ blank =>
      obtain rfl : ts = [] := by
        subst last
        exact more.eq_nil
      refine ⟨[], .inl rfl, fun more rest behind => ?_⟩
      rw [List.append_nil, List.append_nil]
      exact .piece (blank more) behind
    | through token' h =>
      obtain ⟨ts', later, same⟩ := closed.behind h
      obtain rfl := later.eq_nil
      exfalso
      cases token with
      | some token =>
        have := congrArg List.length same
        cases token' <;> simp at this
      | none =>
        obtain ⟨more', rfl⟩ := piece.exists_comment
        obtain rfl := h.eq_none
        simp at same

theorem Lexes.mark {ts : List Token} (h : Lexes cs ts) : Lexes ('>' :: cs) (.mark '>' :: ts) := by
  refine .piece (.mark ⟨by decide, rfl, fun sharp => absurd sharp (by decide), by decide⟩ rfl ?_) h
  exact fun opens => absurd opens.1 (by decide)

theorem Lexes.blank {ts : List Token} (h : Lexes cs ts)
    (shown : ∀ c, cs.head? = some c → isSpace c = false) : Lexes (' ' :: cs) (.space :: ts) := by
  have stays : cs.dropWhile isSpace = cs := by
    cases cs with
    | nil => rfl
    | cons c rest => exact List.dropWhile_cons_of_neg (by simp [shown c rfl])
  have piece := @Piece.space ' ' cs rfl
  rw [stays] at piece
  exact .piece piece h

/-- A `>` behind a text is read as a mark of its own. -/
def Joins (text : String) : Prop :=
  tokens? (text ++ ">") = (tokens? text).map (· ++ [.mark '>'])

theorem joins_iff {text : String} {ts : List Token} (h : tokens? text = some ts) :
    Joins text ↔ Lexes (text.toList ++ ['>']) (ts ++ [.mark '>']) := by
  rw [Joins, h, Option.map_some, tokens?_iff, String.toList_append]
  rfl

/-- The tokens of two texts that are joined by a `>` between blanks. -/
theorem tokens?_joined {front part : String} {ts ts' : List Token}
    (hfront : tokens? front = some ts)
    (joins : Joins front) (hpart : tokens? part = some ts')
    (shown : ∀ c, part.toList.head? = some c → isSpace c = false) :
    ∃ gap, (gap = [] ∨ gap = [Token.space]) ∧
      tokens? (front ++ " > " ++ part) = some (ts ++ gap ++ .mark '>' :: .space :: ts') ∧
      (Joins part → Joins (front ++ " > " ++ part)) := by
  obtain ⟨gap, hgap, joined⟩ := (tokens?_iff.mp hfront).joined ((joins_iff hfront).mp joins)
  have text :
      (front ++ " > " ++ part).toList = front.toList ++ ' ' :: '>' :: ' ' :: part.toList := by
    simp
  have tokens :
      tokens? (front ++ " > " ++ part) = some (ts ++ gap ++ .mark '>' :: .space :: ts') := by
    rw [tokens?_iff, text]
    exact joined _ _ ((tokens?_iff.mp hpart).blank shown).mark
  refine ⟨gap, hgap, tokens, fun joins' => ?_⟩
  have closed := (joins_iff hpart).mp joins'
  have shown' (c : Char) (hc : (part.toList ++ ['>']).head? = some c) : isSpace c = false := by
    cases hpart : part.toList with
    | nil =>
      rw [hpart] at hc
      obtain rfl := Option.some.inj hc
      decide
    | cons d rest =>
      rw [hpart] at hc
      exact shown c (by rw [hpart]; exact hc)
  rw [joins_iff tokens, text]
  have all := joined _ _ (closed.blank shown').mark
  simpa using all

end RaggedTables.Selector
