import RaggedTables.Text.Pieces

/-! Cutting a text at a mark. The cuts are the occurrences of the mark that are found from the left,
each after the one before it, so joining the pieces with the mark gives the text back. Pieces that
share no character with the mark are found again in what they are joined to. -/

namespace RaggedTables.Text

/-- The pieces of a text between occurrences of a mark that are found from the left: the first piece
ends where the mark first occurs, the next one goes on behind that occurrence, and the last one
holds no occurrence. -/
inductive CutAt (mark : List Char) : List Char → List (List Char) → Prop
  | last {cs} (none : ∀ before after, cs ≠ before ++ mark ++ after) : CutAt mark cs [cs]
  | cut {piece rest pieces}
      (first : ∀ before after, piece ++ mark ++ rest = before ++ mark ++ after →
        piece.length ≤ before.length)
      (tail : CutAt mark rest pieces) : CutAt mark (piece ++ mark ++ rest) (piece :: pieces)

theorem CutAt.ne_nil {mark cs : List Char} {pieces : List (List Char)} (h : CutAt mark cs pieces) :
    pieces ≠ [] := by
  cases h <;> simp

theorem CutAt.intercalate {mark cs : List Char} {pieces : List (List Char)}
    (h : CutAt mark cs pieces) : mark.intercalate pieces = cs := by
  induction h with
  | last => exact List.intercalate_singleton
  | cut _ tail ih => rw [List.intercalate_cons_of_ne_nil tail.ne_nil, ih]

/-- There is one way to cut a text at a mark. -/
theorem CutAt.unique {mark cs : List Char} {pieces pieces' : List (List Char)}
    (h : CutAt mark cs pieces) (h' : CutAt mark cs pieces') : pieces = pieces' := by
  induction h generalizing pieces' with
  | last none =>
    cases h' with
    | last => rfl
    | cut => exact absurd rfl (none _ _)
  | @cut piece rest _ first tail ih =>
    generalize htext : piece ++ mark ++ rest = text at h'
    cases h' with
    | last none => exact absurd htext.symm (none _ _)
    | @cut piece' rest' _ first' tail' =>
      have hlength := Nat.le_antisymm (first _ _ htext) (first' _ _ htext.symm)
      rw [List.append_assoc, List.append_assoc] at htext
      obtain ⟨rfl, hrest⟩ := List.append_inj htext hlength
      obtain rfl := List.append_cancel_left hrest
      rw [ih tail']

/-! ### The first occurrence -/

theorem cut?_eq_none {mark cs : List Char} (h : cut? mark cs = none) (before after : List Char) :
    cs ≠ before ++ mark ++ after := by
  rintro rfl
  induction before with
  | nil =>
    cases mark with
    | nil => cases after <;> simp [cut?] at h
    | cons m mark => simp [cut?] at h
  | cons b before ih =>
    simp only [List.cons_append, cut?] at h
    split at h
    · simp at h
    · exact ih (by simpa using h)

theorem cut?_first {mark cs piece rest : List Char} (h : cut? mark cs = some (piece, rest))
    {before after : List Char} (occurs : cs = before ++ mark ++ after) :
    piece.length ≤ before.length := by
  subst occurs
  induction before generalizing piece with
  | nil =>
    cases mark with
    | nil => cases after <;> simp_all [cut?]
    | cons m mark => simp_all [cut?]
  | cons b before ih =>
    simp only [List.cons_append, cut?] at h
    split at h
    · obtain ⟨rfl, -⟩ := Prod.mk.inj (Option.some.inj h)
      exact Nat.zero_le _
    · obtain ⟨⟨p, r⟩, hcut, heq⟩ := Option.map_eq_some_iff.mp h
      obtain ⟨rfl, rfl⟩ := Prod.mk.inj heq
      exact Nat.succ_le_succ (ih (by simpa using hcut))

/-- The first occurrence of a mark is not moved by what follows the text. -/
theorem cut?_extend {mark cs before after : List Char} (h : cut? mark cs = some (before, after))
    (tail : List Char) : cut? mark (cs ++ tail) = some (before, after ++ tail) := by
  have text := cut?_eq_append h
  have extended : cs ++ tail = before ++ mark ++ (after ++ tail) := by rw [text, List.append_assoc]
  cases hcut : cut? mark (cs ++ tail) with
  | none => exact absurd extended (cut?_eq_none hcut _ _)
  | some found =>
    obtain ⟨before', after'⟩ := found
    have text' := cut?_eq_append hcut
    have early := cut?_first hcut extended
    obtain ⟨behind, inside⟩ : before' ++ mark <+: cs := by
      refine List.prefix_of_prefix_length_le ⟨after', text'.symm⟩ (List.prefix_append cs tail) ?_
      rw [text]
      simp only [List.length_append]
      omega
    have late := cut?_first h inside.symm
    obtain ⟨same, rest⟩ := List.append_inj (text'.symm.trans extended) (by simp; omega)
    rw [List.append_cancel_right same, rest]

/-- A character that does not end a mark brings no occurrence of it. -/
theorem cut?_concat {mark cs : List Char} {c d : Char} (other : c ≠ d)
    (h : cut? (mark ++ [d]) cs = none) : cut? (mark ++ [d]) (cs ++ [c]) = none := by
  cases hcut : cut? (mark ++ [d]) (cs ++ [c]) with
  | none => rfl
  | some found =>
    obtain ⟨before, after⟩ := found
    have text := cut?_eq_append hcut
    obtain rfl | ⟨front, e, rfl⟩ := after.eq_nil_or_concat
    · rw [List.append_nil, ← List.append_assoc] at text
      exact absurd (List.append_inj_right' text rfl) (by simpa using other)
    · rw [List.concat_eq_append, ← List.append_assoc] at text
      exact absurd (List.append_inj_left' text rfl) (cut?_eq_none h _ _)

/-! ### Pieces -/

theorem piecesFrom_cutAt {mark : List Char} (pos : mark ≠ []) (fuel : Nat) (cs : List Char)
    (enough : cs.length ≤ fuel) : CutAt mark cs (piecesFrom mark fuel cs) := by
  induction fuel generalizing cs with
  | zero =>
    obtain rfl : cs = [] := List.eq_nil_of_length_eq_zero (Nat.le_zero.mp enough)
    refine .last fun before after h => pos ?_
    exact (List.append_eq_nil_iff.mp (List.append_eq_nil_iff.mp h.symm).1).2
  | succ fuel ih =>
    rw [piecesFrom]
    cases hcut : cut? mark cs with
    | none => exact .last (cut?_eq_none hcut)
    | some found =>
      obtain ⟨piece, rest⟩ := found
      have hcs := cut?_eq_append hcut
      subst hcs
      have hmark : 1 ≤ mark.length := List.length_pos_iff.mpr pos
      refine .cut (fun before after h => cut?_first hcut h) (ih rest ?_)
      simp only [List.length_append] at enough
      omega

/-- The pieces of a text are those between the occurrences of the mark found from the left. -/
theorem pieces_cutAt {mark : List Char} (pos : mark ≠ []) (cs : List Char) :
    CutAt mark cs (pieces mark cs) :=
  piecesFrom_cutAt pos cs.length cs (Nat.le_refl _)

/-! ### Pieces that share no character with the mark -/

section Apart

variable {mark piece : List Char} (pos : mark ≠ []) (apart : ∀ c ∈ piece, c ∉ mark)
include pos apart

theorem not_isPrefixOf_of_apart {c : Char} (hc : c ∈ piece) (rest : List Char) :
    mark.isPrefixOf (c :: rest) = false := by
  cases mark with
  | nil => exact absurd rfl pos
  | cons m mark =>
    have hne : m ≠ c := fun e => apart c hc (by simp [e])
    simp [List.isPrefixOf, hne]

theorem cut?_append (rest : List Char) :
    cut? mark (piece ++ mark ++ rest) = some (piece, rest) := by
  induction piece with
  | nil =>
    cases mark with
    | nil => exact absurd rfl pos
    | cons m mark => simp [cut?]
  | cons c piece ih =>
    have hprefix := not_isPrefixOf_of_apart pos apart (c := c) (by simp) (piece ++ mark ++ rest)
    have hrest := ih fun d hd => apart d (by simp [hd])
    simp only [List.cons_append, cut?, hprefix, hrest]
    rfl

theorem cut?_of_apart : cut? mark piece = none := by
  induction piece with
  | nil =>
    cases mark with
    | nil => exact absurd rfl pos
    | cons m mark => rfl
  | cons c piece ih =>
    have hprefix := not_isPrefixOf_of_apart pos apart (c := c) (by simp) piece
    have hrest := ih fun d hd => apart d (by simp [hd])
    simp only [cut?, hprefix, hrest]
    rfl

end Apart

theorem piecesFrom_intercalate {mark : List Char} (pos : mark ≠ []) {texts : List (List Char)}
    (some : texts ≠ []) (apart : ∀ text ∈ texts, ∀ c ∈ text, c ∉ mark) {fuel : Nat}
    (enough : texts.length ≤ fuel + 1) : piecesFrom mark fuel (mark.intercalate texts) = texts := by
  induction texts generalizing fuel with
  | nil => exact absurd rfl some
  | cons text texts ih =>
    have htext := apart text (by simp)
    cases texts with
    | nil =>
      rw [List.intercalate_singleton]
      cases fuel with
      | zero => rfl
      | succ fuel => rw [piecesFrom, cut?_of_apart pos htext]
    | cons next texts =>
      cases fuel with
      | zero => simp at enough
      | succ fuel =>
        rw [List.intercalate_cons_cons, piecesFrom, cut?_append pos htext]
        simp only
        rw [ih (by simp) (fun t ht => apart t (by simp [ht])) (by simpa using enough)]

theorem mem_of_mem_intercalate {mark : List Char} {texts : List (List Char)} {c : Char}
    (h : c ∈ mark.intercalate texts) : c ∈ mark ∨ ∃ text ∈ texts, c ∈ text := by
  induction texts with
  | nil => simp at h
  | cons text texts ih =>
    cases texts with
    | nil => exact .inr ⟨text, by simp, by simpa using h⟩
    | cons next texts =>
      rw [List.intercalate_cons_cons] at h
      rcases List.mem_append.mp h with h | h
      · rcases List.mem_append.mp h with h | h
        · exact .inr ⟨text, by simp, h⟩
        · exact .inl h
      · rcases ih h with h | ⟨t, ht, hc⟩
        · exact .inl h
        · exact .inr ⟨t, by simp [ht], hc⟩

theorem mem_intercalate_iff {mark : List Char} {texts : List (List Char)} {c : Char}
    (apart : c ∉ mark) : c ∈ mark.intercalate texts ↔ ∃ text ∈ texts, c ∈ text := by
  refine ⟨fun h => (mem_of_mem_intercalate h).resolve_left apart, ?_⟩
  rintro ⟨text, htext, hc⟩
  induction texts with
  | nil => simp at htext
  | cons first texts ih =>
    cases texts with
    | nil => simpa [List.mem_singleton.mp htext] using hc
    | cons next texts =>
      rw [List.intercalate_cons_cons, List.mem_append, List.mem_append]
      rcases List.mem_cons.mp htext with rfl | htext
      · exact .inl (.inl hc)
      · exact .inr (ih htext)

theorem length_le_intercalate {mark : List Char} (pos : mark ≠ []) (texts : List (List Char)) :
    texts.length ≤ (mark.intercalate texts).length + 1 := by
  induction texts with
  | nil => simp
  | cons text texts ih =>
    cases texts with
    | nil => simp
    | cons next texts =>
      have hmark : 1 ≤ mark.length := List.length_pos_iff.mpr pos
      rw [List.intercalate_cons_cons]
      simp only [List.length_cons, List.length_append] at ih ⊢
      omega

/-- Texts joined with a mark that shares no character with them are the pieces of the whole. -/
theorem pieces_intercalate {mark : List Char} (pos : mark ≠ []) {texts : List (List Char)}
    (some : texts ≠ []) (apart : ∀ text ∈ texts, ∀ c ∈ text, c ∉ mark) :
    pieces mark (mark.intercalate texts) = texts :=
  piecesFrom_intercalate pos some apart (length_le_intercalate pos texts)

/-! ### A mark that does not occur -/

theorem cut?_of_not_infix {mark cs : List Char} (h : ¬ mark <:+: cs) : cut? mark cs = none := by
  cases found : cut? mark cs with
  | none => rfl
  | some parts =>
    obtain ⟨before, after⟩ := parts
    exact absurd ⟨before, after, (cut?_eq_append found).symm⟩ h

theorem pieces_of_not_infix {mark cs : List Char} (h : ¬ mark <:+: cs) : pieces mark cs = [cs] := by
  unfold pieces
  cases cs.length with
  | zero => rfl
  | succ fuel => rw [piecesFrom, cut?_of_not_infix h]

/-- A text in which a mark does not occur stays as it is. -/
theorem without_of_absent {mark s : String} (absent : mark ≠ "" → ¬ mark.toList <:+: s.toList) :
    without mark s = s := by
  unfold without
  by_cases empty : mark = ""
  · rw [if_pos (by simp [empty])]
  · rw [if_neg (by simpa using empty), pieces_of_not_infix (absent empty)]
    simp

/-! ### A mark of one character -/

theorem not_mem_of_cut? {m : Char} {cs piece rest : List Char}
    (h : cut? [m] cs = some (piece, rest)) : m ∉ piece := by
  intro hm
  obtain ⟨before, after, rfl⟩ := List.append_of_mem hm
  have whole : cs = before ++ [m] ++ (after ++ [m] ++ rest) := by simp [cut?_eq_append h]
  have short := cut?_first h whole
  simp only [List.length_append, List.length_cons] at short
  omega

theorem piecesFrom_singleton (m : Char) {fuel : Nat} {cs : List Char} (enough : cs.length ≤ fuel) :
    piecesFrom [m] fuel cs = cs.splitOn m := by
  induction fuel generalizing cs with
  | zero =>
    obtain rfl : cs = [] := List.eq_nil_of_length_eq_zero (Nat.le_zero.mp enough)
    rw [piecesFrom, List.splitOn_nil]
  | succ fuel ih =>
    rw [piecesFrom]
    cases hcut : cut? [m] cs with
    | none =>
      have absent : m ∉ cs := fun hm => by
        obtain ⟨before, after, rfl⟩ := List.append_of_mem hm
        exact cut?_eq_none hcut before after (by simp)
      rw [List.splitOn_eq_singleton absent]
    | some found =>
      obtain ⟨piece, rest⟩ := found
      have whole := cut?_eq_append hcut
      subst whole
      have room : rest.length ≤ fuel := by
        simp only [List.length_append, List.length_singleton] at enough
        omega
      rw [List.append_assoc, List.singleton_append,
        List.splitOn_append_cons_self_of_not_mem (not_mem_of_cut? hcut)]
      exact congrArg (piece :: ·) (ih room)

/-- To cut at a mark of one character is to split there. -/
theorem pieces_singleton (m : Char) (cs : List Char) : pieces [m] cs = cs.splitOn m :=
  piecesFrom_singleton m (Nat.le_refl _)

theorem not_mem_of_mem_splitOn {m : Char} {cs piece : List Char} (h : piece ∈ cs.splitOn m) :
    m ∉ piece := by
  induction cs generalizing piece with
  | nil =>
    rw [List.splitOn_nil, List.mem_singleton] at h
    simp [h]
  | cons c cs ih =>
    rw [List.splitOn_cons_eq_if_modifyHead] at h
    split at h
    · rcases List.mem_cons.mp h with rfl | h
      · simp
      · exact ih h
    · rename_i apart
      obtain ⟨first, others, split⟩ := List.exists_cons_of_ne_nil (List.splitOn_ne_nil m cs)
      rw [split] at h ih
      rcases List.mem_cons.mp h with rfl | h
      · have hfirst : m ∉ first := ih (by simp)
        have hc : m ≠ c := fun e => apart (by simp [e])
        simp [hc, hfirst]
      · exact ih (List.mem_cons_of_mem _ h)

theorem flatten_splitOn (m : Char) (cs : List Char) :
    (cs.splitOn m).flatten = cs.filter (· ≠ m) := by
  induction cs with
  | nil => rfl
  | cons c cs ih =>
    obtain ⟨first, others, split⟩ := List.exists_cons_of_ne_nil (List.splitOn_ne_nil m cs)
    rw [List.splitOn_cons_eq_if_modifyHead, List.filter_cons, ← ih, split]
    by_cases hc : c = m <;> simp [hc]

/-- Without a mark of one character a text has its other characters, in order. -/
theorem toList_without (m : Char) (s : String) :
    (without (String.singleton m) s).toList = s.toList.filter (· ≠ m) := by
  have filled : ¬ (String.singleton m).isEmpty = true := by simp
  rw [without, if_neg filled, String.toList_ofList, String.toList_singleton, pieces_singleton,
    flatten_splitOn]

theorem not_mem_without (m : Char) (s : String) : m ∉ (without (String.singleton m) s).toList := by
  rw [toList_without]
  simp

/-! ### Strings -/

theorem intercalate_splitAt {mark : String} (pos : mark ≠ "") (s : String) :
    mark.intercalate (splitAt mark s) = s := by
  have hmark : mark.toList ≠ [] := by simpa using pos
  rw [← String.toList_inj, String.toList_intercalate, splitAt, List.map_map]
  simpa [Function.comp_def] using (pieces_cutAt hmark s.toList).intercalate

/-- The pieces of a string are the one way to cut it. -/
theorem cutAt_iff_splitAt {mark s : String} (pos : mark ≠ "") {texts : List String} :
    CutAt mark.toList s.toList (texts.map String.toList) ↔ texts = splitAt mark s := by
  have hmark : mark.toList ≠ [] := by simpa using pos
  have hcut := pieces_cutAt hmark s.toList
  constructor
  · intro h
    rw [splitAt, ← h.unique hcut]
    simp [Function.comp_def]
  · rintro rfl
    simpa [splitAt, Function.comp_def] using hcut

theorem splitAt_intercalate {mark : String} (pos : mark ≠ "") {texts : List String}
    (some : texts ≠ []) (apart : ∀ text ∈ texts, ∀ c ∈ text.toList, c ∉ mark.toList) :
    splitAt mark (mark.intercalate texts) = texts := by
  have hmark : mark.toList ≠ [] := by simpa using pos
  rw [splitAt, String.toList_intercalate, pieces_intercalate hmark (by simpa using some)]
  · simp [Function.comp_def]
  · intro text htext
    obtain ⟨t, ht, rfl⟩ := List.mem_map.mp htext
    exact apart t ht

end RaggedTables.Text
