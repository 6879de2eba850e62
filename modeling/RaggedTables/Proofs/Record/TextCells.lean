import RaggedTables.Proofs.Record.Failing

/-! Rows of texts and of lists of texts. There are two reasons why no record comes of such a row: a
transform does not match, or the mapping of a split comes to a group of the delimiter that took no
part in a cut. A delimiter without groups leaves the first alone. What stands past the shorter of
the row and its headers, and under skipped columns, plays no part. -/

namespace RaggedTables

/-! ### Pieces -/

namespace Pattern

theorem not_mem_pieces_of_ungrouped {pattern : Pattern} (ungrouped : pattern.groupCount = 0)
    (text : Array Char) (start : Nat) (cuts : List Found) :
    none ∉ pattern.pieces text start cuts := by
  induction cuts generalizing start with
  | nil => simp [pieces]
  | cons found rest ih => simp [pieces, ungrouped, ih]

theorem not_mem_split_of_ungrouped {pattern : Pattern} (ungrouped : pattern.groupCount = 0)
    (s : String) : none ∉ pattern.split s :=
  not_mem_pieces_of_ungrouped ungrouped _ _ _

end Pattern

namespace Record

/-- A text, or a list of texts. -/
inductive IsTextual : Value → Prop
  | text (s : String) : IsTextual (.text s)
  | texts (items : List String) : IsTextual (.list (items.map .text))

/-- A mapping comes to a missing piece: it matches in every piece before. -/
def MeetsGap (mapping : Pattern) (pieces : List (Option String)) : Prop :=
  ∃ (before : List String) (after : List (Option String)),
    pieces = before.map some ++ none :: after ∧ ∀ s ∈ before, mapping.search s ≠ none

theorem MeetsGap.mem {mapping : Pattern} {pieces : List (Option String)}
    (gap : MeetsGap mapping pieces) : none ∈ pieces := by
  obtain ⟨before, after, rfl, -⟩ := gap
  simp

theorem stops_iff {mapping : Pattern} {pieces : List (Option String)} {piece : Value} :
    Stops mapping (pieces.map Report.optionalText) piece ↔
      piece = .null ∧ MeetsGap mapping pieces := by
  constructor
  · intro stops
    induction pieces with
    | nil => cases stops
    | cons first rest ih =>
      cases first with
      | none =>
        cases stops
        exact ⟨rfl, [], rest, rfl, by simp⟩
      | some s =>
        cases stops with
        | here noText => exact absurd rfl (noText s)
        | later matched stops =>
          obtain ⟨rfl, before, after, rfl, sound⟩ := ih stops
          exact ⟨rfl, s :: before, after, rfl, by simpa using ⟨matched, sound⟩⟩
  · rintro ⟨rfl, before, after, rfl, sound⟩
    induction before with
    | nil => exact .here fun s => nofun
    | cons s before ih =>
      exact .later (sound s (by simp)) (ih fun t ht => sound t (by simp [ht]))

theorem not_stops_texts {mapping : Pattern} {items : List String} {piece : Value} :
    ¬Stops mapping (items.map .text) piece := by
  have texts : items.map Value.text = (items.map some).map Report.optionalText := by
    simp [Report.optionalText, Function.comp_def]
  rw [texts, stops_iff]
  rintro ⟨-, gap⟩
  simpa using gap.mem

/-! ### Cells -/

/-- Why a header takes nothing from a text or a list of texts: a transform matches nowhere in it, or
the mapping of a split comes to a missing piece. -/
inductive Refuses (cell : Value) (column : Nat) : Header → Fault → Prop
  | mismatch {name pattern mapping} (missed : ∀ s, cell = .text s → pattern.search s = none) :
      Refuses cell column (.transform name pattern mapping)
        (.report (.mismatch cell (some (.transform name pattern mapping)) column none))
  | gap {name s delimiter mapping} (text : cell = .text s)
      (gap : MeetsGap mapping (delimiter.split s)) :
      Refuses cell column (.split name delimiter (some mapping)) (.kind (.notText "NoneType"))

theorem fails_iff_refuses {cell : Value} {column : Nat} {header : Header} {fault : Fault}
    (textual : IsTextual cell) :
    Fails cell column header fault ↔ Refuses cell column header fault := by
  constructor
  · rintro (missed | ⟨noText, noList⟩ | ⟨cut, stops⟩)
    · exact .mismatch missed
    · cases textual with
      | text s => exact absurd rfl (noText s)
      | texts items => exact absurd rfl (noList _)
    · cases textual with
      | text s =>
        obtain rfl := Except.ok.inj cut
        obtain ⟨rfl, gap⟩ := stops_iff.mp stops
        exact .gap rfl gap
      | texts items =>
        obtain rfl := Except.ok.inj cut
        exact absurd stops not_stops_texts
  · rintro (missed | ⟨rfl, gap⟩)
    · exact .mismatch missed
    · exact .unmapped rfl (stops_iff.mpr ⟨rfl, gap⟩)

theorem splitCell_text_error {s : String} {delimiter : Pattern} {mapping : Option Pattern}
    {fault : Fault} :
    splitCell (.text s) delimiter mapping = .error fault ↔
      fault = .kind (.notText "NoneType") ∧ ∃ m, mapping = some m ∧
      MeetsGap m (delimiter.split s) := by
  rw [splitCell_error, cellPieces]
  constructor
  · rintro (uncut | ⟨m, pieces, rfl, cut, fails⟩)
    · cases uncut
    · obtain rfl := Except.ok.inj cut
      obtain ⟨piece, stops, rfl⟩ := mapPieces_error.mp fails
      obtain ⟨rfl, gap⟩ := stops_iff.mp stops
      exact ⟨rfl, m, rfl, gap⟩
  · rintro ⟨rfl, m, rfl, gap⟩
    exact .inr ⟨m, _, rfl, rfl, mapPieces_error.mpr ⟨.null, stops_iff.mpr ⟨rfl, gap⟩, rfl⟩⟩

theorem splitCell_ok {cell v : Value} {delimiter : Pattern} {mapping : Option Pattern}
    (h : splitCell cell delimiter mapping = .ok v) :
    (∃ items, v = .list items) ∨ ∃ entries, v = .map entries := by
  obtain ⟨pieces, -, h⟩ := bind_eq_ok.mp h
  cases mapping with
  | none => exact .inl ⟨pieces, (Except.ok.inj h).symm⟩
  | some mapping =>
    obtain ⟨found, -, h⟩ := bind_eq_ok.mp h
    cases found with
    | none => exact .inl ⟨pieces, (Except.ok.inj h).symm⟩
    | some found => exact .inr ⟨_, (Except.ok.inj h).symm⟩

/-! ### Rows -/

/-- The header of a column takes nothing from the text or the texts in its cell. -/
def RefusedAt (cells : List Value) (headers : List (Option Header)) (column : Nat) (fault : Fault) :
    Prop :=
  ∃ cell header, cells[column]? = some cell ∧ headers[column]? = some (some header) ∧
    Refuses cell column header fault

section

variable {cells : List Value} {headers : List (Option Header)}

theorem failsAt_iff_refusedAt (textual : ∀ cell ∈ cells, IsTextual cell) {column : Nat}
    {fault : Fault} :
    FailsAt 0 cells headers column fault ↔ RefusedAt cells headers column fault := by
  refine exists_congr fun cell => exists_congr fun header => and_congr_right fun found => ?_
  rw [Nat.zero_add, fails_iff_refuses (textual cell (List.mem_of_getElem? found))]

theorem assemble_error_of_textual (textual : ∀ cell ∈ cells, IsTextual cell) {fault : Fault} :
    assemble cells headers = .error fault ↔
      ∃ column, RefusedAt cells headers column fault ∧
        ∀ c < column, ∀ own, ¬RefusedAt cells headers c own := by
  rw [assemble_error]
  simp only [FirstFails, failsAt_iff_refusedAt textual]

/-- Rows of texts and lists of texts fail as their first column that takes nothing does: a transform
does not match, or a mapping comes to a group of the delimiter that took no part. A split of a text
gives a list or a mapping in every other case. -/
theorem assembleRecord_refused (textual : ∀ cell ∈ cells, IsTextual cell) :
    (∀ fault, (assembleRecord cells headers).outcome = .error fault ↔
      ∃ column, RefusedAt cells headers column fault ∧
        ∀ c < column, ∀ own, ¬RefusedAt cells headers c own) ∧
    ∀ s delimiter mapping,
      (∀ fault, splitCell (.text s) delimiter mapping = .error fault ↔
        fault = .kind (.notText "NoneType") ∧
          ∃ m, mapping = some m ∧ MeetsGap m (delimiter.split s)) ∧
      ∀ v, splitCell (.text s) delimiter mapping = .ok v →
        (∃ items, v = .list items) ∨ ∃ entries, v = .map entries :=
  ⟨fun _ => assemble_error_of_textual textual,
    fun _ _ _ => ⟨fun _ => splitCell_text_error, fun _ => splitCell_ok⟩⟩

end

/-- A list whose pieces are cut at commas and semicolons, with a group for the comma alone, and
mapped by two groups. -/
def gapHeaders : List (Option Header) :=
  let comma : Pattern.Node := .group 1 (.one { items := [.code 44] })
  let letters : Pattern.Node := .seq (.group 1 (.any false)) (.group 2 (.any false))
  [some (.split "a" ⟨"(,)|;", { unicode := true }, 1, .alt comma (.one { items := [.code 59] })⟩
    (some ⟨"(.)(.)", { unicode := true }, 2, letters⟩))]

/-- The semicolon in `ab;cd` leaves the group for the comma without a part, behind the piece `ab`.
-/
theorem assembleRecord_refused_gap :
    (∀ cell ∈ [Value.text "ab;cd"], IsTextual cell) ∧
      RefusedAt [.text "ab;cd"] gapHeaders 0 (.kind (.notText "NoneType")) ∧
      (assembleRecord [.text "ab;cd"] gapHeaders).outcome =
        .error (.kind (.notText "NoneType")) := by
  have textual : ∀ cell ∈ [Value.text "ab;cd"], IsTextual cell := by simp [IsTextual.text]
  have refused : RefusedAt [.text "ab;cd"] gapHeaders 0 (.kind (.notText "NoneType")) :=
    ⟨_, _, rfl, rfl, .gap rfl ⟨["ab"], [some "cd"], by decide +kernel, by decide +kernel⟩⟩
  refine ⟨textual, refused, ((assembleRecord_refused textual).1 _).mpr ⟨0, refused, ?_⟩⟩
  exact fun c before => absurd before (Nat.not_lt_zero c)

/-- Rows of texts and lists of texts do not fail by a transform alone. -/
theorem not_only_mismatch :
    ¬∀ templates headers cells fault, Header.compileAll templates = .ok headers →
      (∀ cell ∈ cells, IsTextual cell) →
      (assembleRecord cells headers).outcome = .error fault →
      ∃ cell header column row, fault = .report (.mismatch cell header column row) := by
  intro only
  have compiled : Header.compileAll [some "a\x7b\x7b(,)|;\x7d\x7d<<(.)(.)>>"] = .ok gapHeaders :=
    eq_ok_of_toOption (by decide +kernel)
  obtain ⟨_, _, _, _, mismatch⟩ :=
    only _ gapHeaders [.text "ab;cd"] _ compiled (by simp [IsTextual.text]) rfl
  cases mismatch

/-! ### Transforms -/

/-- A column has a transform whose cell is a list, or a text in which it matches nowhere. -/
def MissesAt (cells : List Value) (headers : List (Option Header)) (column : Nat) (cell : Value)
    (header : Header) : Prop :=
  cells[column]? = some cell ∧ headers[column]? = some (some header) ∧
    ∃ name pattern mapping, header = .transform name pattern mapping ∧
      ((∃ items, cell = .list items) ∨ ∃ s, cell = .text s ∧ pattern.search s = none)

/-- Two rows with their headers agree wherever assembling looks: in the number of columns with a
cell and a header, in the headers of these columns, and in the cells that are not under a skipped
one. -/
structure Agree (cells : List Value) (headers : List (Option Header)) (others : List Value)
    (rules : List (Option Header)) : Prop where
  columns : min others.length rules.length = min cells.length headers.length
  ruled : ∀ c < min cells.length headers.length, rules[c]? = headers[c]?
  held : ∀ c < min cells.length headers.length, ∀ header, headers[c]? = some (some header) →
    others[c]? = cells[c]?

section

variable {cells others : List Value} {headers rules : List (Option Header)}

theorem assembleFrom_of_no_columns (empty : min cells.length headers.length = 0) (column : Nat)
    (record : Record) : assembleFrom column record cells headers = .ok record := by
  cases cells with
  | nil => rfl
  | cons cell cells =>
    cases headers with
    | nil => rfl
    | cons header? headers => simp at empty

theorem Agree.tail {cell other : Value} {header? rule? : Option Header}
    (agree : Agree (cell :: cells) (header? :: headers) (other :: others) (rule? :: rules)) :
    Agree cells headers others rules := by
  obtain ⟨columns, ruled, held⟩ := agree
  simp only [List.length_cons, Nat.add_min_add_right,
    Nat.add_right_cancel_iff] at columns ruled held
  refine ⟨columns, fun c below => ?_, fun c below header found => ?_⟩
  · exact ruled (c + 1) (Nat.succ_lt_succ below)
  · exact held (c + 1) (Nat.succ_lt_succ below) header found

/-- The rows run out of columns together, and until then the first columns agree. -/
theorem assembleFrom_of_agree (agree : Agree cells headers others rules) (column : Nat)
    (record : Record) :
    assembleFrom column record others rules = assembleFrom column record cells headers := by
  induction cells generalizing column record headers others rules with
  | nil =>
    have empty : min others.length rules.length = 0 := by simpa using agree.columns
    rw [assembleFrom_of_no_columns empty]
    rfl
  | cons cell cells ih =>
    cases headers with
    | nil =>
      have empty : min others.length rules.length = 0 := by simpa using agree.columns
      rw [assembleFrom_of_no_columns empty]
      rfl
    | cons header? headers =>
      have more : 0 < min others.length rules.length := by
        rw [agree.columns]
        simp
      obtain ⟨other, others, rfl⟩ :=
        List.exists_cons_of_length_pos (Nat.lt_of_lt_of_le more (Nat.min_le_left _ _))
      obtain ⟨rule?, rules, rfl⟩ :=
        List.exists_cons_of_length_pos (Nat.lt_of_lt_of_le more (Nat.min_le_right _ _))
      obtain rfl : rule? = header? := by simpa using agree.ruled 0 (by simp)
      cases rule? with
      | none => exact ih agree.tail (column + 1) record
      | some header =>
        obtain rfl : other = cell := by simpa using agree.held 0 (by simp) header rfl
        simp only [assembleFrom, ih agree.tail]

theorem refusedAt_iff_missesAt (textual : ∀ cell ∈ cells, IsTextual cell)
    (ungrouped : ∀ name delimiter mapping, some (.split name delimiter mapping) ∈ headers →
      delimiter.groupCount = 0) {column : Nat} {fault : Fault} :
    RefusedAt cells headers column fault ↔
      ∃ cell header, MissesAt cells headers column cell header ∧
        fault = .report (.mismatch cell (some header) column none) := by
  constructor
  · rintro ⟨cell, header, found, ruled, missed | ⟨-, gap⟩⟩
    · refine ⟨cell, _, ⟨found, ruled, _, _, _, rfl, ?_⟩, rfl⟩
      cases textual cell (List.mem_of_getElem? found) with
      | text s => exact .inr ⟨s, rfl, missed s rfl⟩
      | texts items => exact .inl ⟨_, rfl⟩
    · have plain := ungrouped _ _ _ (List.mem_of_getElem? ruled)
      exact absurd gap.mem (Pattern.not_mem_split_of_ungrouped plain _)
  · rintro ⟨cell, header, ⟨found, ruled, name, pattern, mapping, rfl, missed⟩, rfl⟩
    refine ⟨cell, _, found, ruled, .mismatch ?_⟩
    rintro s rfl
    obtain ⟨items, list⟩ | ⟨t, text, missed⟩ := missed
    · cases list
    · obtain rfl := Value.text.inj text
      exact missed

theorem assemble_error_of_ungrouped (textual : ∀ cell ∈ cells, IsTextual cell)
    (ungrouped : ∀ name delimiter mapping, some (.split name delimiter mapping) ∈ headers →
      delimiter.groupCount = 0) {fault : Fault} :
    assemble cells headers = .error fault ↔
      ∃ column cell header, MissesAt cells headers column cell header ∧
        (∀ c < column, ∀ other rule, ¬MissesAt cells headers c other rule) ∧
        fault = .report (.mismatch cell (some header) column none) := by
  have refusedAt {column : Nat} {fault : Fault} : RefusedAt cells headers column fault ↔ _ :=
    refusedAt_iff_missesAt textual ungrouped
  refine (assemble_error_of_textual textual).trans ⟨?_, ?_⟩
  · rintro ⟨column, refused, first⟩
    obtain ⟨cell, header, misses, rfl⟩ := refusedAt.mp refused
    refine ⟨column, cell, header, misses, fun c before other rule earlier => ?_, rfl⟩
    exact first c before _ (refusedAt.mpr ⟨other, rule, earlier, rfl⟩)
  · rintro ⟨column, cell, header, misses, first, rfl⟩
    refine ⟨column, refusedAt.mpr ⟨cell, header, misses, rfl⟩, fun c before own refused => ?_⟩
    obtain ⟨other, rule, earlier, -⟩ := refusedAt.mp refused
    exact first c before other rule earlier

/-- Where no delimiter has groups, a row of texts and lists of texts fails exactly when a transform
misses, as the first such column does, and comes to a record otherwise. What stands past the shorter
of the row and its headers, and under skipped columns, changes nothing. -/
theorem assembleRecord_transforms (textual : ∀ cell ∈ cells, IsTextual cell)
    (ungrouped : ∀ name delimiter mapping, some (.split name delimiter mapping) ∈ headers →
      delimiter.groupCount = 0) :
    (∀ fault, (assembleRecord cells headers).outcome = .error fault ↔
      ∃ column cell header, MissesAt cells headers column cell header ∧
        (∀ c < column, ∀ other rule, ¬MissesAt cells headers c other rule) ∧
        fault = .report (.mismatch cell (some header) column none)) ∧
    ((∀ column cell header, ¬MissesAt cells headers column cell header) →
      ∃ record, (assembleRecord cells headers).outcome = .ok record) ∧
    ∀ others rules, Agree cells headers others rules →
      (assembleRecord others rules).outcome = (assembleRecord cells headers).outcome := by
  refine ⟨fun fault => assemble_error_of_ungrouped textual ungrouped, fun sound => ?_,
    fun others rules agree => assembleFrom_of_agree agree 0 []⟩
  cases outcome : (assembleRecord cells headers).outcome with
  | ok record => exact ⟨record, rfl⟩
  | error fault =>
    obtain ⟨column, cell, header, misses, -⟩ :=
      (assemble_error_of_ungrouped textual ungrouped).mp outcome
    exact absurd misses (sound column cell header)

end

/-- Pieces with a mapping, a skipped column, and the character before an `x`. -/
def transformHeaders : List (Option Header) :=
  let letter (c : Nat) : Pattern.Node := .one { items := [.code c] }
  let first : Pattern.Node := .group 1 (.any false)
  [some (.split "a" ⟨";", { unicode := true }, 0, letter 59⟩
      (some ⟨"(.)=(.)", { unicode := true }, 2,
        .seq first (.seq (letter 61) (.group 2 (.any false)))⟩)),
    none, some (.transform "b" ⟨"(.)x", { unicode := true }, 1, .seq first (letter 120)⟩ none)]

/-- The third cell does not match; the one under the skipped column and a fourth one play no part.
-/
theorem assembleRecord_transforms_skipped :
    let cells : List Value := [.list [.text "p=q", .text "r"], .text "s", .text "yy"]
    let others : List Value := [.list [.text "p=q", .text "r"], .text "t", .text "yy", .text "u"]
    let fault : Fault := .report (.mismatch (.text "yy") (transformHeaders[2]?.getD none) 2 none)
    (Header.compileAll [some "a\x7b\x7b;\x7d\x7d<<(.)=(.)>>", none, some "b//(.)x\\\\"]).toOption =
        some transformHeaders ∧
      (∀ cell ∈ cells, IsTextual cell) ∧
      (∀ name delimiter mapping, some (.split name delimiter mapping) ∈ transformHeaders →
        delimiter.groupCount = 0) ∧
      (assembleRecord cells transformHeaders).outcome = .error fault ∧
      (assembleRecord others transformHeaders).outcome = .error fault := by
  intro cells others fault
  have textual : ∀ cell ∈ cells, IsTextual cell := by
    have pieces := IsTextual.texts ["p=q", "r"]
    simpa [cells, IsTextual.text] using pieces
  have ungrouped : ∀ name delimiter mapping,
      some (.split name delimiter mapping) ∈ transformHeaders → delimiter.groupCount = 0 := by
    intro name delimiter mapping split
    obtain ⟨-, rfl, -⟩ : _ ∧ _ ∧ _ := by simpa [transformHeaders] using split
    rfl
  have transforms := assembleRecord_transforms textual ungrouped
  have fails : (assembleRecord cells transformHeaders).outcome = .error fault := by
    refine (transforms.1 fault).mpr
      ⟨2, .text "yy", _, ⟨rfl, rfl, _, _, _, rfl, .inr ⟨"yy", rfl, rfl⟩⟩, ?_, rfl⟩
    rintro c before other rule ⟨-, ruled, _, _, _, rfl, -⟩
    obtain rfl | rfl : c = 0 ∨ c = 1 := by omega
    · cases ruled
    · cases ruled
  have agree : Agree cells transformHeaders others transformHeaders := by
    refine ⟨rfl, fun c _ => rfl, fun c below header ruled => ?_⟩
    obtain rfl | rfl | rfl : c = 0 ∨ c = 1 ∨ c = 2 := by
      simp [cells, transformHeaders] at below
      omega
    · rfl
    · cases ruled
    · rfl
  exact ⟨by decide +kernel, textual, ungrouped, fails, (transforms.2.2 _ _ agree).trans fails⟩

end Record

end RaggedTables
