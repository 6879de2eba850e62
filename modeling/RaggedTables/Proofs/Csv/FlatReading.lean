import RaggedTables.Proofs.Csv.FlatLines

/-! Reading flat text back. A qualifier of one character is taken out of every value, so between two
of them there is a whole field, whatever commas and line breaks it has; a reader that goes by the
qualifier alone finds the header row and the row of every record again. -/

namespace RaggedTables.FlatCsv

/-- Where a reader stands, with the fields of the row so far: before a field, inside it behind some
of its characters, or behind a field. -/
inductive Reading where
  | before (row : List String)
  | inside (row : List String) (field : List Char)
  | behind (row : List String)

/-- Reads rows of fields between qualifiers. A field takes in all that stands before the next
qualifier; a comma behind it goes on with the row, and a line break ends it. -/
def readFrom (qualifier : Char) : Reading → List Char → Option (List (List String))
  | .before row, [] => if row.isEmpty then some [] else none
  | .before row, c :: cs => if c = qualifier then readFrom qualifier (.inside row []) cs else none
  | .inside row field, c :: cs =>
    if c = qualifier then readFrom qualifier (.behind (row ++ [String.ofList field])) cs
    else readFrom qualifier (.inside row (field ++ [c])) cs
  | .behind row, c :: cs =>
    if c = ',' then readFrom qualifier (.before row) cs
    else if c = '\n' then (readFrom qualifier (.before []) cs).map (row :: ·)
    else none
  | .inside .., [] | .behind _, [] => none

/-- The rows of a text. -/
def readRows (qualifier : Char) (text : String) : Option (List (List String)) :=
  readFrom qualifier (.before []) text.toList

/-! ### Fields, rows and texts -/

section Reading

variable {q : Char}

theorem readFrom_inside {text : List Char} (absent : q ∉ text) (row : List String)
    (field rest : List Char) :
    readFrom q (.inside row field) (text ++ q :: rest) =
      readFrom q (.behind (row ++ [String.ofList (field ++ text)])) rest := by
  induction text generalizing field with
  | nil => simp [readFrom]
  | cons c text ih =>
    obtain ⟨hc, absent⟩ := not_or.mp (List.mem_cons.not.mp absent)
    rw [List.cons_append, readFrom, if_neg (Ne.symm hc), ih absent]
    simp

/-- A field between qualifiers is read whole, also where the qualifier is a comma or a line break.
-/
theorem readFrom_field {field : String} (absent : q ∉ field.toList) (row : List String)
    (rest : List Char) :
    readFrom q (.before row) ((String.singleton q ++ field ++ String.singleton q).toList ++ rest) =
      readFrom q (.behind (row ++ [field])) rest := by
  simp [readFrom, readFrom_inside absent]

theorem readFrom_line {fields : List String} (some : fields ≠ [])
    (absent : ∀ field ∈ fields, q ∉ field.toList) (row : List String) (rest : List Char) :
    readFrom q (.before row)
        ((CsvDocument.line ⟨String.singleton q, ","⟩ fields).toList ++ '\n' :: rest) =
      (readFrom q (.before []) rest).map ((row ++ fields) :: ·) := by
  induction fields generalizing row with
  | nil => exact absurd rfl some
  | cons field fields ih =>
    obtain ⟨own, others⟩ := List.forall_mem_cons.mp absent
    cases fields with
    | nil =>
      have line : CsvDocument.line ⟨String.singleton q, ","⟩ [field] =
          String.singleton q ++ field ++ String.singleton q := by simp [CsvDocument.line]
      rw [line, readFrom_field own]
      simp [readFrom]
    | cons next fields =>
      have line : (CsvDocument.line ⟨String.singleton q, ","⟩ (field :: next :: fields)).toList =
          (String.singleton q ++ field ++ String.singleton q).toList ++
            ',' :: (CsvDocument.line ⟨String.singleton q, ","⟩ (next :: fields)).toList := by
        simp [CsvDocument.line, String.intercalate_cons_cons]
      rw [line, List.append_assoc, readFrom_field own, List.cons_append, readFrom, if_pos rfl,
        ih (List.cons_ne_nil _ _) others]
      simp

/-- Rows that have fields, none with the qualifier in it, are read back line by line. -/
theorem readRows_lines {rows : List (List String)} (some : ∀ row ∈ rows, row ≠ [])
    (absent : ∀ row ∈ rows, ∀ field ∈ row, q ∉ field.toList) :
    readRows q (String.join (rows.map fun row =>
      CsvDocument.line ⟨String.singleton q, ","⟩ row ++ "\n")) = .some rows := by
  induction rows with
  | nil => rfl
  | cons row rows ih =>
    obtain ⟨filled, others⟩ := List.forall_mem_cons.mp some
    obtain ⟨own, absent⟩ := List.forall_mem_cons.mp absent
    have rest := ih others absent
    rw [readRows] at rest ⊢
    have split (line text : String) :
        (line ++ "\n" ++ text).toList = line.toList ++ '\n' :: text.toList := by simp
    rw [List.map_cons, String.join_cons, split, readFrom_line filled own, rest]
    rfl

end Reading

/-! ### Texts of records -/

/-- What is read back of the record that has the given fields, under each of the names: the text
that was written, without the qualifier. -/
def ReadsBack (render : Option Render) (q : Char) (names : List String) (record : Value)
    (row : List String) : Prop :=
  ∃ entries, record = .map entries ∧
    List.Forall₂ (fun name own => ∃ field, IsField render entries name field ∧
      own.toList = field.toList.filter (· ≠ q)) names row

theorem IsRow.readsBack {render : Option Render} {names : List String}
    (named : names ≠ []) {q : Char}
    {record : Value} {row : List String} (h : IsRow render names record row) :
    ReadsBack render q names record (row.map (Text.without (String.singleton q))) := by
  obtain ⟨entries, rfl, fields⟩ := h.exists_fields named
  refine ⟨entries, rfl, List.forall₂_map_right_iff.mpr (fields.imp fun name field own => ?_)⟩
  exact ⟨field, own, Text.toList_without q field⟩

theorem filled_rows {render : Option Render} {names : List String} (named : names ≠ [])
    {records : List Value} {rows : List (List String)}
    (all : List.Forall₂ (IsRow render names) records rows) : ∀ row ∈ rows, row ≠ [] := by
  induction all with
  | nil => nofun
  | cons own _ ih =>
    refine List.forall_mem_cons.mpr ⟨?_, ih⟩
    rintro rfl
    obtain ⟨_, -, fields⟩ := own.exists_fields named
    exact named (List.forall₂_nil_right_iff.mp fields)

/-- Flat text under names without the qualifier is read back by the qualifier alone: the names, and
then for each record the text that was written under each name, without the qualifier. -/
theorem readRows_generate {first : List (Value × Value)} {rest : List Value}
    {render : Option Render}
    {q : Char} {text : String} (named : first ≠ [])
    (written : generate (.map first :: rest) render (String.singleton q) = .ok text)
    (absent : ∀ name, .text name ∈ first.map Prod.fst → q ∉ name.toList) :
    ∃ names rows, first.map Prod.fst = names.map .text ∧ readRows q text = some (names :: rows) ∧
      List.Forall₂ (ReadsBack render q names) (.map first :: rest) rows := by
  obtain ⟨names, rows, keys, all, rfl⟩ := generate_ok.mp written
  have named' : names ≠ [] := by
    rintro rfl
    exact named (List.map_eq_nil_iff.mp keys)
  refine ⟨names, rows.map fun row => row.map (Text.without (String.singleton q)), keys, ?_,
    List.forall₂_map_right_iff.mpr (all.imp fun record row h => h.readsBack named')⟩
  rw [textOf_eq_lines named']
  refine readRows_lines (List.forall_mem_cons.mpr ⟨named', ?_⟩) (List.forall_mem_cons.mpr ⟨?_, ?_⟩)
  · rw [List.forall_mem_map]
    intro row mem none
    exact filled_rows named' all row mem (List.map_eq_nil_iff.mp none)
  · intro name mem
    exact absent name (keys ▸ List.mem_map_of_mem mem)
  · rw [List.forall_mem_map]
    intro row _ field mem
    obtain ⟨own, -, rfl⟩ := List.mem_map.mp mem
    exact Text.not_mem_without q own

/-- The qualifier is the comma itself. One value has commas and a line break, one is rendered, and
the second record has no field under the first name. -/
theorem readRows_generate_comma :
    let first : List (Value × Value) := [(.text "a", .text "x,\ny"), (.text "b", .list [.text "p"])]
    let second : List (Value × Value) := [(.text "c", .text ","), (.text "b", .null)]
    let joined : Render := fun header _ => .ok (.text (header ++ ",,"))
    first ≠ [] ∧
      generate [.map first, .map second] (some joined) "," = .ok ",a,,,b,\n,x\ny,,,b,\n,,,,,\n" ∧
      (∀ name, .text name ∈ first.map Prod.fst → ',' ∉ name.toList) ∧
      ∃ rows, readRows ',' ",a,,,b,\n,x\ny,,,b,\n,,,,,\n" = some (["a", "b"] :: rows) ∧
        List.Forall₂ (ReadsBack (some joined) ',' ["a", "b"]) [.map first, .map second] rows := by
  intro first second joined
  have named : first ≠ [] := List.cons_ne_nil _ _
  have written : generate [.map first, .map second] (some joined) (String.singleton ',') =
      .ok ",a,,,b,\n,x\ny,,,b,\n,,,,,\n" := eq_ok_of_toOption (by decide +kernel)
  have absent : ∀ name, .text name ∈ first.map Prod.fst → ',' ∉ name.toList := by
    simp [first]
  obtain ⟨names, rows, keys, read, back⟩ := readRows_generate named written absent
  have injective : Function.Injective Value.text := fun _ _ => Value.text.inj
  obtain rfl : ["a", "b"] = names := List.map_injective_iff.mpr injective keys
  exact ⟨named, written, absent, rows, read, back⟩

end RaggedTables.FlatCsv
