import RaggedTables.Proofs.Csv.Alignment
import RaggedTables.Proofs.Text.Pieces

/-! Reading the text of a document back. Nothing in a field is escaped, yet the qualifier and the
delimiter are enough to find the fields again, as long as no field has a line break or a character
of the qualifier or of the delimiter. -/

namespace RaggedTables.CsvDocument

/-! ### The decoder -/

/-- What stands between two fields of a line: the end of the one, the delimiter, and the beginning
of the other. -/
def seam (options : CsvOptions) : List Char :=
  options.qualifier.toList ++ options.delimiter.toList ++ options.qualifier.toList

/-- A list without its first and its last `n` elements. -/
def trimmed {α : Type} (n : Nat) (items : List α) : List α :=
  (items.drop n).take (items.length - 2 * n)

/-- The fields of a line: what is left between the outer qualifiers, cut at every seam. -/
def decodeLine (options : CsvOptions) (line : String) : List String :=
  (Text.pieces (seam options) (trimmed options.qualifier.length line.toList)).map String.ofList

/-- The rendered rows of a text. -/
def decode (options : CsvOptions) (text : String) : List (List String) :=
  (Text.splitAt "\n" text).map (decodeLine options)

/-! ### Fields and lines -/

/-- A text without line breaks and without characters of the qualifier or of the delimiter. -/
def IsClear (options : CsvOptions) (text : String) : Prop :=
  ∀ c ∈ text.toList, c ≠ '\n' ∧ c ∉ options.qualifier.toList ∧ c ∉ options.delimiter.toList

/-- The search goes through the characters of the text. -/
instance (options : CsvOptions) (text : String) : Decidable (IsClear options text) :=
  List.decidableBAll
    (fun c => c ≠ '\n' ∧ c ∉ options.qualifier.toList ∧ c ∉ options.delimiter.toList) text.toList

/-- A delimiter that is not empty, and no line break in the delimiter or in the qualifier. -/
structure IsSeparating (options : CsvOptions) : Prop where
  delimiter : options.delimiter ≠ ""
  unbrokenQualifier : '\n' ∉ options.qualifier.toList
  unbrokenDelimiter : '\n' ∉ options.delimiter.toList

theorem trimmed_append {α : Type} {n : Nat} {before items after : List α}
    (front : before.length = n) (back : after.length = n) :
    trimmed n (before ++ items ++ after) = items := by
  subst front
  have hlength : (before ++ items ++ after).length - 2 * before.length = items.length := by
    simp only [List.length_append, back]
    omega
  rw [trimmed, hlength, List.append_assoc, List.drop_left, List.take_left]

theorem seam_ne_nil {options : CsvOptions} (separating : IsSeparating options) :
    seam options ≠ [] := by
  intro h
  have hdelimiter := (List.append_eq_nil_iff.mp (List.append_eq_nil_iff.mp h).1).2
  exact separating.delimiter (String.toList_inj.mp hdelimiter)

/-- The characters of a line: the fields joined by seams, between two qualifiers. -/
theorem toList_line {options : CsvOptions} {fields : List String} (some : fields ≠ []) :
    (line options fields).toList = options.qualifier.toList ++
      (seam options).intercalate (fields.map String.toList) ++ options.qualifier.toList := by
  rw [line, String.toList_intercalate, List.map_map]
  induction fields with
  | nil => exact absurd rfl some
  | cons field fields ih =>
    cases fields with
    | nil => simp
    | cons next fields =>
      have rest := ih (by simp)
      simp only [List.map_cons, List.intercalate_cons_cons, Function.comp_apply,
        String.toList_append] at rest ⊢
      rw [rest]
      simp [seam]

/-- A line is decoded to its fields. -/
theorem decodeLine_line {options : CsvOptions} (separating : IsSeparating options)
    {fields : List String} (some : fields ≠ []) (clear : ∀ field ∈ fields, IsClear options field) :
    decodeLine options (line options fields) = fields := by
  have apart : ∀ text ∈ fields.map String.toList, ∀ c ∈ text, c ∉ seam options := by
    intro text htext c hc hseam
    obtain ⟨field, hfield, rfl⟩ := List.mem_map.mp htext
    obtain ⟨-, hq, hd⟩ := clear field hfield c hc
    simp [seam, hq, hd] at hseam
  have hpieces := Text.pieces_intercalate (seam_ne_nil separating) (by simpa using some) apart
  have hlength := String.length_toList (s := options.qualifier)
  rw [decodeLine, toList_line some, trimmed_append hlength hlength, hpieces]
  simp [Function.comp_def]

/-- A line holds no line break. -/
theorem unbroken_line {options : CsvOptions} (separating : IsSeparating options)
    {fields : List String} (some : fields ≠ []) (clear : ∀ field ∈ fields, IsClear options field) :
    '\n' ∉ (line options fields).toList := by
  intro h
  rw [toList_line some, List.append_assoc] at h
  rcases List.mem_append.mp h with h | h
  · exact separating.unbrokenQualifier h
  rcases List.mem_append.mp h with h | h
  · rcases Text.mem_of_mem_intercalate h with h | ⟨text, htext, h⟩
    · simp [seam, separating.unbrokenQualifier, separating.unbrokenDelimiter] at h
    · obtain ⟨field, hfield, rfl⟩ := List.mem_map.mp htext
      exact (clear field hfield _ h).1 rfl
  · exact separating.unbrokenQualifier h

/-! ### Rows -/

/-- Rows that a text gives back: there is one at least, none is without fields, and the fields are
clear. -/
structure IsReadable (options : CsvOptions) (rows : List (List String)) : Prop where
  some : rows ≠ []
  filled : ∀ row ∈ rows, row ≠ []
  clear : ∀ row ∈ rows, ∀ field ∈ row, IsClear options field

/-- The lines of a text are the lines of its rows. -/
theorem splitAt_encode {options : CsvOptions} (separating : IsSeparating options)
    {rows : List (List String)} (readable : IsReadable options rows) :
    Text.splitAt "\n" (encode options rows) = rows.map (line options) := by
  refine Text.splitAt_intercalate (by decide) (by simpa using readable.some) ?_
  intro text htext c hc hbreak
  obtain ⟨row, hrow, rfl⟩ := List.mem_map.mp htext
  obtain rfl : c = '\n' := by simpa using hbreak
  exact unbroken_line separating (readable.filled row hrow) (readable.clear row hrow) hc

/-- A text is decoded to its rows. -/
theorem decode_encode {options : CsvOptions} (separating : IsSeparating options)
    {rows : List (List String)} (readable : IsReadable options rows) :
    decode options (encode options rows) = rows := by
  rw [decode, splitAt_encode separating readable, List.map_map]
  refine (List.map_congr_left fun row hrow => ?_).trans (List.map_id rows)
  exact decodeLine_line separating (readable.filled row hrow) (readable.clear row hrow)

/-! ### Documents -/

/-- Rows as they are written, field by field. -/
def rendered (rows : List (List Value)) : List (List String) :=
  rows.map fun row => row.map Value.field

theorem outcome_toText {doc : CsvDocument} {rows : List (List Value)}
    (h : doc.rows.outcome = .ok rows) :
    doc.toText.outcome = .ok (encode doc.options (rendered rows)) := by
  simp [toText, rendered, h, Except.bind]

/-- No field of the rows has a line break or a character of the qualifier or of the delimiter. -/
def AllClear (options : CsvOptions) (rows : List (List Value)) : Prop :=
  ∀ row ∈ rows, ∀ v ∈ row, IsClear options v.field

instance (options : CsvOptions) (rows : List (List Value)) : Decidable (AllClear options rows) :=
  inferInstanceAs (Decidable (∀ row ∈ rows, ∀ v ∈ row, IsClear options v.field))

theorem Aligned.readable {doc : CsvDocument} (aligned : doc.Aligned) (headed : doc.headers ≠ [])
    {rows : List (List Value)} (h : doc.rows.outcome = .ok rows)
    (clear : AllClear doc.options rows) : IsReadable doc.options (rendered rows) := by
  refine ⟨?_, fun row hrow => ?_, fun row hrow field hfield => ?_⟩
  · have length := aligned.length_rows h
    intro hnil
    obtain rfl : rows = [] := by simpa [rendered] using hnil
    simp at length
    omega
  · obtain ⟨values, hvalues, rfl⟩ := List.mem_map.mp hrow
    have width := aligned.width h values hvalues
    rw [ne_eq, List.map_eq_nil_iff]
    rintro rfl
    exact headed (List.eq_nil_of_length_eq_zero width.symm)
  · obtain ⟨values, hvalues, rfl⟩ := List.mem_map.mp hrow
    obtain ⟨v, hv, rfl⟩ := List.mem_map.mp hfield
    exact clear values hvalues v hv

/-- The text of a document with headers is read back by its qualifier and delimiter alone, when no
field of its rows is unclear: it is decoded to the rendered rows, it has a line for each, and no
other rows have the same text. Entries are aligned however the document is built, see
`Built.aligned`. -/
theorem decode_toText {doc : CsvDocument} (aligned : doc.Aligned) (headed : doc.headers ≠ [])
    (separating : IsSeparating doc.options) :
    ∃ rows text, doc.rows.outcome = .ok rows ∧ doc.toText.outcome = .ok text ∧
      (AllClear doc.options rows →
        decode doc.options text = rendered rows ∧
        (Text.splitAt "\n" text).length =
          1 + (doc.entries.map fun entry => CsvEntry.height entry.cells).sum ∧
        ∀ (other : CsvDocument) (otherRows : List (List Value)), other.Aligned →
          other.headers ≠ [] → other.options = doc.options →
          other.rows.outcome = .ok otherRows → AllClear other.options otherRows →
          other.toText.outcome = .ok text → rendered otherRows = rendered rows) := by
  obtain ⟨blocks, -, hrows⟩ := aligned.rows
  refine ⟨_, _, hrows, outcome_toText hrows, fun clear => ?_⟩
  have readable := aligned.readable headed hrows clear
  have decoded := decode_encode separating readable
  refine ⟨decoded, ?_, ?_⟩
  · rw [splitAt_encode separating readable, List.length_map, rendered, List.length_map]
    exact aligned.length_rows hrows
  · intro other otherRows otherAligned otherHeaded options hother otherClear text
    have otherReadable := otherAligned.readable otherHeaded hother otherClear
    have otherDecoded := decode_encode (options ▸ separating) otherReadable
    have same := Except.ok.inj (text.symm.trans (outcome_toText hother))
    rw [← otherDecoded, ← same, options, decoded]

/-- A qualifier of two characters, one of which the delimiter has too, and empty fields at both ends
of a row. -/
def sharedDocument : CsvDocument :=
  ⟨[.text "x", .text "y"], ⟨"';", ";;"⟩,
    [⟨[.text "x", .text "y"], [.list [.text "1", .int 0], .null]⟩,
      ⟨[.text "x", .text "y"], [.null, .bool true]⟩]⟩

theorem decode_toText_shared :
    sharedDocument.Aligned ∧ sharedDocument.headers ≠ [] ∧ IsSeparating sharedDocument.options ∧
      ∃ rows text, sharedDocument.rows.outcome = .ok rows ∧
        sharedDocument.toText.outcome = .ok text ∧ AllClear sharedDocument.options rows ∧
        decode sharedDocument.options text = rendered rows ∧
        (Text.splitAt "\n" text).length = 4 := by
  have aligned : sharedDocument.Aligned := by
    intro entry hentry
    rcases List.mem_pair.mp hentry with rfl | rfl
    · exact ⟨rfl, rfl⟩
    · exact ⟨rfl, rfl⟩
  have headed : sharedDocument.headers ≠ [] := List.cons_ne_nil _ _
  have separating : IsSeparating sharedDocument.options := ⟨by decide, by decide, by decide⟩
  obtain ⟨rows, text, hrows, htext, spec⟩ := decode_toText aligned headed separating
  have known : sharedDocument.rows.outcome = .ok [[.text "x", .text "y"], [.text "1", .null],
      [.int 0, .text ""], [.null, .bool true]] := rfl
  have clear : AllClear sharedDocument.options rows := by
    obtain rfl := Except.ok.inj (known.symm.trans hrows)
    decide
  obtain ⟨decoded, lines, -⟩ := spec clear
  exact ⟨aligned, headed, separating, rows, text, hrows, htext, clear, decoded, lines⟩

end RaggedTables.CsvDocument
