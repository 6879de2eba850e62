import RaggedTables.Proofs.Record.Failing

/-! Pieces with a mapping. A split gives the mapping of its pieces if the mapping matches in every
one of them, and else all of its pieces as they are, with no trace of a mapping that was begun. In a
mapping each key stands where its first piece does and holds what its last piece gives. -/

namespace RaggedTables.Record

/-- A group of the first match in `s`: none where nothing matches, where the pattern has no such
group, and where the group took no part. -/
def groupIn (pattern : Pattern) (s : String) (index : Nat) : Option String :=
  (pattern.search s).bind fun group => groupOf pattern group index

/-- The pieces of a cell when all of them are texts: the items of a list, or what the delimiter cuts
a text into. -/
inductive TextPieces (delimiter : Pattern) : Value → List String → Prop
  | listed (pieces : List String) : TextPieces delimiter (.list (pieces.map .text)) pieces
  | cut {s : String} {pieces : List String} (cut : delimiter.split s = pieces.map some) :
      TextPieces delimiter (.text s) pieces

/-- The last of the pieces with `key` in its first group has `value` in its second. -/
def LastMapped (mapping : Pattern) (pieces : List String) (key value : Option String) : Prop :=
  ∃ before s after, pieces = before ++ s :: after ∧ groupIn mapping s 1 = key ∧
    groupIn mapping s 2 = value ∧ ∀ t ∈ after, groupIn mapping t 1 ≠ key

section

variable {cell : Value} {delimiter mapping : Pattern} {pieces : List String}

theorem TextPieces.cellPieces (h : TextPieces delimiter cell pieces) :
    cellPieces cell delimiter = .ok (pieces.map .text) := by
  cases h with
  | listed => rfl
  | cut cut => simp [Record.cellPieces, cut, Report.optionalText, Function.comp_def]

/-! ### Mapping pieces -/

/-- The entry that a piece gives to a mapping. -/
def entryIn (mapping : Pattern) (s : String) : Option String × Option String :=
  (groupIn mapping s 1, groupIn mapping s 2)

theorem mapPieces_matched (matched : ∀ s ∈ pieces, mapping.search s ≠ none)
    (found : Fields (Option String) (Option String)) :
    mapPieces mapping (pieces.map .text) found =
      .ok (some (found.update (pieces.map (entryIn mapping)))) := by
  induction pieces generalizing found with
  | nil => rfl
  | cons s pieces ih =>
    obtain ⟨group, first⟩ := Option.ne_none_iff_exists'.mp (matched s (by simp))
    have entry : entryIn mapping s = (groupOf mapping group 1, groupOf mapping group 2) := by
      simp [entryIn, groupIn, first]
    rw [List.map_cons, mapPieces_text, first, List.map_cons, Fields.update_cons, entry]
    exact ih (fun t ht => matched t (by simp [ht])) _

theorem mapPieces_missed (missed : ∃ s ∈ pieces, mapping.search s = none)
    (found : Fields (Option String) (Option String)) :
    mapPieces mapping (pieces.map .text) found = .ok none := by
  induction pieces generalizing found with
  | nil => simp at missed
  | cons s pieces ih =>
    rw [List.map_cons, mapPieces_text]
    cases first : mapping.search s with
    | none => rfl
    | some group =>
      have later : ∃ t ∈ pieces, mapping.search t = none := by simpa [first] using missed
      exact ih later _

theorem lastMapped_cons {s : String} {key value : Option String} :
    LastMapped mapping (s :: pieces) key value ↔
      LastMapped mapping pieces key value ∨
        (∀ t ∈ pieces, groupIn mapping t 1 ≠ key) ∧
          groupIn mapping s 1 = key ∧ groupIn mapping s 2 = value := by
  constructor
  · rintro ⟨before, t, after, split, keyed, valued, last⟩
    cases before with
    | nil =>
      obtain ⟨rfl, rfl⟩ := List.cons.inj split
      exact .inr ⟨last, keyed, valued⟩
    | cons first before =>
      obtain ⟨rfl, rfl⟩ := List.cons.inj split
      exact .inl ⟨before, t, after, rfl, keyed, valued, last⟩
  · rintro (⟨before, t, after, rfl, mapped⟩ | ⟨last, keyed, valued⟩)
    · exact ⟨s :: before, t, after, rfl, mapped⟩
    · exact ⟨[], s, pieces, rfl, keyed, valued, last⟩

theorem get?_update_entries (found : Fields (Option String) (Option String))
    (key value : Option String) :
    (found.update (pieces.map (entryIn mapping))).get? key = some value ↔
      LastMapped mapping pieces key value ∨
        (∀ s ∈ pieces, groupIn mapping s 1 ≠ key) ∧ found.get? key = some value := by
  induction pieces generalizing found with
  | nil => simp [LastMapped]
  | cons s pieces ih =>
    rw [List.map_cons, Fields.update_cons, ih, lastMapped_cons, or_assoc]
    refine or_congr_right ?_
    by_cases same : groupIn mapping s 1 = key
    · subst same
      simp [entryIn, Fields.get?_put_self]
    · simp [entryIn, Fields.get?_put_of_ne _ _ (Ne.symm same), same]

/-! ### Splitting -/

theorem splitCell_mapped {mapped : Option (Fields (Option String) (Option String))}
    (texts : TextPieces delimiter cell pieces)
    (h : mapPieces mapping (pieces.map .text) [] = .ok mapped) :
    splitCell cell delimiter (some mapping) = .ok (match mapped with
      | none => .list (pieces.map .text)
      | some found => .map (found.map fun (key, value) =>
          (Report.optionalText key, Report.optionalText value))) := by
  rw [splitCell, texts.cellPieces, ok_bind]
  simp only [h, ok_bind]
  cases mapped <;> rfl

/-- A split gives all its pieces, unchanged, exactly when it has no mapping or a piece in which the
mapping matches nowhere. Else it gives the mapping of its pieces: the first groups as keys, in the
order in which they come first, and under each key the second group of the last piece with that key.
-/
theorem splitCell_pieces (texts : TextPieces delimiter cell pieces) :
    splitCell cell delimiter none = .ok (.list (pieces.map .text)) ∧
    ∀ mapping : Pattern,
      (splitCell cell delimiter (some mapping) = .ok (.list (pieces.map .text)) ↔
        ∃ s ∈ pieces, mapping.search s = none) ∧
      ((∀ s ∈ pieces, mapping.search s ≠ none) →
        ∃ found : Fields (Option String) (Option String),
          splitCell cell delimiter (some mapping) = .ok (.map (found.map fun (key, value) =>
            (Report.optionalText key, Report.optionalText value))) ∧
          found.keys = (pieces.map (groupIn mapping · 1)).eraseDups ∧
          ∀ key value, found.get? key = some value ↔ LastMapped mapping pieces key value) := by
  refine ⟨by rw [splitCell, texts.cellPieces, ok_bind]; rfl, fun mapping => ⟨⟨?_, ?_⟩, ?_⟩⟩
  · intro list
    by_contra all
    have matched : ∀ s ∈ pieces, mapping.search s ≠ none := fun s hs missed => all ⟨s, hs, missed⟩
    rw [splitCell_mapped texts (mapPieces_matched matched [])] at list
    cases list
  · exact fun missed => splitCell_mapped texts (mapPieces_missed missed [])
  · intro matched
    refine ⟨_, splitCell_mapped texts (mapPieces_matched matched []), ?_, fun key value => ?_⟩
    · have empty : Fields.keys ([] : Fields (Option String) (Option String)) =
          ([] : List (Option String)).eraseDups := rfl
      simpa [entryIn, Function.comp_def] using
        Fields.keys_update_of_eraseDups empty (pieces.map (entryIn mapping))
    · exact (get?_update_entries [] key value).trans (by simp [Fields.get?])

end

/-- A semicolon. -/
def semicolon : Pattern := ⟨";", { unicode := true }, 0, .one { items := [.code 59] }⟩

/-- A character, an equals sign and perhaps one more character. -/
def pair : Pattern :=
  ⟨"(.)=(.)?", { unicode := true }, 2,
    .seq (.group 1 (.any false)) (.seq (.one { items := [.code 61] })
      (.repeated (.group 2 (.any false)) 0 (some 1) .greedy))⟩

/-- The first and the last piece have one key, and in the piece between the second group takes no
part. -/
theorem splitCell_pieces_repeated :
    Header.compile "a\x7b\x7b;\x7d\x7d<<(.)=(.)?>>" = .ok (.split "a" semicolon (some pair)) ∧
      TextPieces semicolon (.text "p=1;q=;p=2") ["p=1", "q=", "p=2"] ∧
      (∀ s ∈ ["p=1", "q=", "p=2"], pair.search s ≠ none) ∧
      ∃ found : Fields (Option String) (Option String),
        splitCell (.text "p=1;q=;p=2") semicolon (some pair) =
          .ok (.map (found.map fun (key, value) =>
            (Report.optionalText key, Report.optionalText value))) ∧
        found.keys = [some "p", some "q"] ∧
        found.get? (some "p") = some (some "2") ∧ found.get? (some "q") = some none := by
  have texts : TextPieces semicolon (.text "p=1;q=;p=2") ["p=1", "q=", "p=2"] :=
    .cut (by decide +kernel)
  have matched : ∀ s ∈ ["p=1", "q=", "p=2"], pair.search s ≠ none := by decide +kernel
  obtain ⟨found, split, keys, last⟩ := ((splitCell_pieces texts).2 pair).2 matched
  refine ⟨eq_ok_of_toOption (by decide +kernel), texts, matched, found, split,
    keys.trans (by decide +kernel), (last _ _).mpr ?_, (last _ _).mpr ?_⟩
  · exact ⟨["p=1", "q="], "p=2", [], rfl, by decide +kernel, by decide +kernel, by simp⟩
  · exact ⟨["p=1"], "q=", ["p=2"], rfl, by decide +kernel, by decide +kernel, by decide +kernel⟩

end RaggedTables.Record
