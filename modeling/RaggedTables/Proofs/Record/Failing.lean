import RaggedTables.Proofs.Record.Columns

/-! Why a record is not assembled. The first column whose header takes nothing from its cell
decides; no other column, and nothing that was taken before, plays a part. -/

namespace RaggedTables.Record

/-- A mapping comes to a piece that is no text: it matches in every piece before. -/
inductive Stops (mapping : Pattern) : List Value → Value → Prop
  | here {piece rest} (noText : ∀ s, piece ≠ .text s) : Stops mapping (piece :: rest) piece
  | later {s rest piece} (matched : mapping.search s ≠ none) (stops : Stops mapping rest piece) :
      Stops mapping (.text s :: rest) piece

/-- Why a header takes nothing from a cell. -/
inductive Fails (cell : Value) (column : Nat) : Header → Fault → Prop
  /-- A transform matches nowhere in the cell. -/
  | mismatch {name pattern mapping} (missed : ∀ s, cell = .text s → pattern.search s = none) :
      Fails cell column (.transform name pattern mapping)
        (.report (.mismatch cell (some (.transform name pattern mapping)) column none))
  /-- A split is given neither a text nor a list. -/
  | uncut {name delimiter mapping} (noText : ∀ s, cell ≠ .text s)
      (noList : ∀ items, cell ≠ .list items) :
      Fails cell column (.split name delimiter mapping) (.kind (.notText cell.fullKind))
  /-- The mapping of a split comes to a piece that is no text. -/
  | unmapped {name delimiter mapping pieces piece} (cut : cellPieces cell delimiter = .ok pieces)
      (stops : Stops mapping pieces piece) :
      Fails cell column (.split name delimiter (some mapping)) (.kind (.notText piece.fullKind))

/-! ### Cells -/

theorem cellPieces_error {cell : Value} {delimiter : Pattern} {fault : Fault} :
    cellPieces cell delimiter = .error fault ↔
      (∀ s, cell ≠ .text s) ∧ (∀ items, cell ≠ .list items) ∧
        fault = .kind (.notText cell.fullKind) := by
  cases cell <;> simp [cellPieces, eq_comm]

theorem mapPieces_text (mapping : Pattern) (s : String) (rest : List Value)
    (found : Fields (Option String) (Option String)) :
    mapPieces mapping (.text s :: rest) found =
      match mapping.search s with
      | none => .ok none
      | some group =>
        mapPieces mapping rest
          (found.put (groupOf mapping group 1) (groupOf mapping group 2)) := by
  cases search : mapping.search s with
  | none => rw [mapPieces, search]
  | some group => rw [mapPieces, search]

theorem mapPieces_of_noText (mapping : Pattern) {piece : Value} (noText : ∀ s, piece ≠ .text s)
    (rest : List Value) (found : Fields (Option String) (Option String)) :
    mapPieces mapping (piece :: rest) found = .error (.kind (.notText piece.fullKind)) := by
  cases piece with
  | text s => exact absurd rfl (noText s)
  | _ => rfl

theorem mapPieces_error {mapping : Pattern} {pieces : List Value}
    {found : Fields (Option String) (Option String)} {fault : Fault} :
    mapPieces mapping pieces found = .error fault ↔
      ∃ piece, Stops mapping pieces piece ∧ fault = .kind (.notText piece.fullKind) := by
  constructor
  · intro h
    induction pieces generalizing found with
    | nil => cases h
    | cons first rest ih =>
      by_cases text : ∃ s, first = .text s
      · obtain ⟨s, rfl⟩ := text
        rw [mapPieces_text] at h
        cases matched : mapping.search s with
        | none => simp [matched] at h
        | some group =>
          rw [matched] at h
          obtain ⟨piece, stops, same⟩ := ih h
          exact ⟨piece, .later (by simp [matched]) stops, same⟩
      · have noText : ∀ s, first ≠ .text s := fun s same => text ⟨s, same⟩
        rw [mapPieces_of_noText mapping noText] at h
        exact ⟨first, .here noText, (Except.error.inj h).symm⟩
  · rintro ⟨piece, stops, rfl⟩
    induction stops generalizing found with
    | here noText => exact mapPieces_of_noText mapping noText _ _
    | later matched stops ih =>
      obtain ⟨group, found⟩ := Option.ne_none_iff_exists'.mp matched
      rw [mapPieces_text, found]
      exact ih

theorem splitCell_error {cell : Value} {delimiter : Pattern} {mapping : Option Pattern}
    {fault : Fault} :
    splitCell cell delimiter mapping = .error fault ↔
      cellPieces cell delimiter = .error fault ∨
        ∃ m pieces, mapping = some m ∧ cellPieces cell delimiter = .ok pieces ∧
          mapPieces m pieces [] = .error fault := by
  rw [splitCell, bind_eq_error]
  refine or_congr_right ?_
  cases mapping with
  | none => simp
  | some m =>
    simp only [bind_eq_error]
    constructor
    · rintro ⟨pieces, cut, fails | ⟨found, -, h⟩⟩
      · exact ⟨m, pieces, rfl, cut, fails⟩
      · cases found <;> cases h
    · rintro ⟨_, pieces, ⟨⟩, cut, fails⟩
      exact ⟨pieces, cut, .inl fails⟩

theorem transformCell_error {cell : Value} {header : Header} {pattern : Pattern} {column : Nat}
    {fault : Fault} :
    transformCell cell header pattern column = .error fault ↔
      (∀ s, cell = .text s → pattern.search s = none) ∧
        fault = .report (.mismatch cell (some header) column none) := by
  unfold transformCell
  cases h : searchCell pattern cell with
  | none =>
    have missed := searchCell_eq_none h
    simp only [Except.error.injEq, eq_comm, iff_and_self]
    exact fun _ => missed
  | some group =>
    obtain ⟨s, rfl, found⟩ := searchCell_eq_some h
    simp [found]

theorem cellFields_error {cell : Value} {header : Header} {column : Nat} {fault : Fault} :
    cellFields cell header column = .error fault ↔ Fails cell column header fault := by
  cases header with
  | norm name mapping =>
    refine ⟨nofun, nofun⟩
  | multi names pattern mapping =>
    refine ⟨nofun, nofun⟩
  | transform name pattern mapping =>
    rw [cellFields, bind_eq_error, transformCell_error]
    constructor
    · rintro (⟨missed, rfl⟩ | ⟨v, -, ⟨⟩⟩)
      exact .mismatch missed
    · rintro (missed | _)
      exact .inl ⟨missed, rfl⟩
  | split name delimiter mapping =>
    rw [cellFields, bind_eq_error, splitCell_error, cellPieces_error]
    constructor
    · rintro ((⟨noText, noList, rfl⟩ | ⟨m, pieces, rfl, cut, fails⟩) | ⟨v, -, ⟨⟩⟩)
      · exact .uncut noText noList
      · obtain ⟨piece, stops, rfl⟩ := mapPieces_error.mp fails
        exact .unmapped cut stops
    · rintro (_ | ⟨noText, noList⟩ | ⟨cut, stops⟩)
      · exact .inl (.inl ⟨noText, noList, rfl⟩)
      · exact .inl (.inr ⟨_, _, rfl, cut, mapPieces_error.mpr ⟨_, stops, rfl⟩⟩)

/-! ### Rows -/

/-- The header of a column takes nothing from its cell; the first column has number `start`. -/
def FailsAt (start : Nat) (cells : List Value) (headers : List (Option Header)) (column : Nat)
    (fault : Fault) : Prop :=
  ∃ cell header, cells[column]? = some cell ∧ headers[column]? = some (some header) ∧
    Fails cell (start + column) header fault

/-- A column fails, and none before it. -/
def FirstFails (start : Nat) (cells : List Value) (headers : List (Option Header))
    (fault : Fault) : Prop :=
  ∃ column, FailsAt start cells headers column fault ∧
    ∀ c < column, ∀ own, ¬ FailsAt start cells headers c own

section

variable {start : Nat} {cell : Value} {cells : List Value} {header? : Option Header}
  {headers : List (Option Header)} {fault : Fault}

theorem failsAt_zero :
    FailsAt start (cell :: cells) (header? :: headers) 0 fault ↔
      ∃ header, header? = some header ∧ Fails cell start header fault := by
  simp [FailsAt]

theorem failsAt_succ {column : Nat} :
    FailsAt start (cell :: cells) (header? :: headers) (column + 1) fault ↔
      FailsAt (start + 1) cells headers column fault := by
  have next : start + (column + 1) = start + 1 + column := by omega
  simp [FailsAt, next]

/-- The first column fails, or it does not and the rest of the row does. -/
theorem firstFails_cons :
    FirstFails start (cell :: cells) (header? :: headers) fault ↔
      FailsAt start (cell :: cells) (header? :: headers) 0 fault ∨
        (∀ own, ¬ FailsAt start (cell :: cells) (header? :: headers) 0 own) ∧
          FirstFails (start + 1) cells headers fault := by
  constructor
  · rintro ⟨column, fails, sound⟩
    cases column with
    | zero => exact .inl fails
    | succ column =>
      refine .inr ⟨sound 0 (Nat.succ_pos column), column, failsAt_succ.mp fails,
        fun c hc own h => ?_⟩
      exact sound (c + 1) (Nat.succ_lt_succ hc) own (failsAt_succ.mpr h)
  · rintro (fails | ⟨first, column, fails, sound⟩)
    · exact ⟨0, fails, fun c hc => absurd hc (Nat.not_lt_zero c)⟩
    · refine ⟨column + 1, failsAt_succ.mpr fails, fun c hc own h => ?_⟩
      cases c with
      | zero => exact first own h
      | succ c => exact sound c (Nat.lt_of_succ_lt_succ hc) own (failsAt_succ.mp h)

end

theorem assembleFrom_error {start : Nat} {record : Record} {cells : List Value}
    {headers : List (Option Header)} {fault : Fault} :
    assembleFrom start record cells headers = .error fault ↔
      FirstFails start cells headers fault := by
  induction cells generalizing start record headers with
  | nil => simp [assembleFrom, FirstFails, FailsAt]
  | cons cell cells ih =>
    cases headers with
    | nil => simp [assembleFrom, FirstFails, FailsAt]
    | cons header? headers =>
      rw [firstFails_cons, failsAt_zero]
      simp only [failsAt_zero]
      cases header? with
      | none => simp [assembleFrom, ih]
      | some header =>
        rw [assembleFrom, bind_eq_error, cellFields_error]
        simp only [Option.some.injEq, exists_eq_left', ih]
        refine or_congr_right ?_
        cases taken : cellFields cell header start with
        | error own =>
          have fails := cellFields_error.mp taken
          simp only [reduceCtorEq, false_and, exists_false, false_iff, not_and]
          exact fun sound => absurd fails (sound own)
        | ok fields =>
          have sound : ∀ own, ¬ Fails cell start header own := by
            intro own fails
            rw [cellFields_error.mpr fails] at taken
            cases taken
          simp [sound]

/-- A row comes to no record exactly when a column fails, and it fails as the first such column
does. -/
theorem assemble_error {cells : List Value} {headers : List (Option Header)} {fault : Fault} :
    assemble cells headers = .error fault ↔ FirstFails 0 cells headers fault :=
  assembleFrom_error

end RaggedTables.Record
