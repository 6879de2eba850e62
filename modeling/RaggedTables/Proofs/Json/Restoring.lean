import RaggedTables.Files.Values
import RaggedTables.Proofs.Fields
import RaggedTables.Proofs.Files.Rereading
import RaggedTables.Proofs.Json.Scalars
import RaggedTables.Proofs.Json.Writing
import RaggedTables.Record.Assembly

/-! Values restored from what was written of them. A text spells a value if it is read as that value
in front of whatever may follow; what is written of a restorable value spells it, at every level of
every layout that keeps to blanks. No carriage return is written, so a file that holds such a text
gives it back unchanged. -/

namespace RaggedTables

namespace Json

/-- Null, truth values, integers of no more digits than are read, texts, and lists and maps of
these; the keys of a map are distinct texts. -/
inductive Restorable : Value → Prop
  | null : Restorable .null
  | bool (b : Bool) : Restorable (.bool b)
  | int {n : Int} (short : (Nat.toDigits 10 n.natAbs).length ≤ Text.digitLimit) :
      Restorable (.int n)
  | text (s : String) : Restorable (.text s)
  | list {items : List Value} (each : ∀ v ∈ items, Restorable v) : Restorable (.list items)
  | map {fields : Record} (distinct : fields.keys.Nodup)
      (each : ∀ field ∈ fields, Restorable field.2) : Restorable (.ofFields fields)

/-! ### Blanks -/

/-- Blanks that no reading of a file changes. -/
def Blank (cs : List Char) : Prop := ∀ c ∈ cs, isSpace c = true ∧ c ≠ '\r'

section

variable {c : Char} {gap trail cs rest : List Char}

theorem skipSpace_of_blank (blank : Blank gap) (shown : isSpace c = false) :
    skipSpace (gap ++ c :: rest) = c :: rest := by
  rw [skipSpace, List.dropWhile_append_of_pos fun d hd => (blank d hd).1,
    List.dropWhile_cons_of_neg (by simp [shown])]

theorem skipSpace_cons (shown : isSpace c = false) : skipSpace (c :: rest) = c :: rest :=
  List.dropWhile_cons_of_neg (by simp [shown])

theorem Blank.not_mem (blank : Blank cs) : '\r' ∉ cs := fun mem => (blank _ mem).2 rfl

theorem Blank.endsNumber (blank : Blank gap) (ends : EndsNumber (c :: rest)) :
    EndsNumber (gap ++ c :: rest) := by
  cases gap with
  | nil => exact ends
  | cons d gap =>
    rintro _ ⟨⟩
    have space := (blank d List.mem_cons_self).1
    simp only [isSpace, Bool.or_eq_true, beq_iff_eq] at space
    rcases space with ((rfl | rfl) | rfl) | rfl
    all_goals decide

theorem endsNumber_cons (mark : c = ',' ∨ c = ']' ∨ c = '\x7d') : EndsNumber (c :: rest) := by
  rintro _ ⟨⟩
  rcases mark with rfl | rfl | rfl
  all_goals decide

end

/-! ### Spelled values -/

/-- A text that is read as a value in front of anything that a number does not go on with. -/
structure Spelled (v : Value) (s : String) : Prop where
  starts : ∃ c cs, s.toList = c :: cs ∧ isSpace c = false ∧ c ≠ ']' ∧ c ≠ '\ufeff'
  noReturn : '\r' ∉ s.toList
  /-- A list or map takes a step for itself and one for each part, so two for each character are
  enough. -/
  reads : ∀ fuel rest, 2 * s.toList.length ≤ fuel → EndsNumber rest →
    readValue fuel (s.toList ++ rest) = .ok (v, rest)

section

variable {v : Value} {s : String}

theorem Spelled.of_cons {c : Char} {cs : List Char} (front : s.toList = c :: cs)
    (starts : isSpace c = false ∧ c ≠ ']' ∧ c ≠ '\ufeff') (noReturn : '\r' ∉ cs)
    (reads : ∀ fuel rest, 2 * cs.length < fuel → EndsNumber rest →
      readValue (fuel + 1) (c :: (cs ++ rest)) = .ok (v, rest)) : Spelled v s := by
  refine ⟨⟨c, cs, front, starts⟩, ?_, ?_⟩
  · rw [front, List.mem_cons, not_or]
    refine ⟨?_, noReturn⟩
    rintro rfl
    exact absurd starts.1 (by decide)
  · intro fuel rest enough ends
    rw [front, List.length_cons] at enough
    rw [front, List.cons_append]
    cases fuel with
    | zero => omega
    | succ fuel => exact reads fuel rest (by omega) ends

/-- Characters that no number and no word begins with. -/
def otherStarts : List Char := " \t\n\r]\ufeff\"[\x7b".toList

theorem Spelled.of_scalar {c : Char} {cs : List Char} (front : s.toList = c :: cs)
    (opens : c ∉ otherStarts) (noReturn : '\r' ∉ cs)
    (reads : ∀ rest, EndsNumber rest → readScalar (s.toList ++ rest) = .ok (v, rest)) :
      Spelled v s := by
  have apart : ∀ d ∈ otherStarts, c ≠ d := fun d hd h => opens (h ▸ hd)
  have shown : isSpace c = false := by
    rw [← Bool.not_eq_true]
    intro space
    simp only [isSpace, Bool.or_eq_true, beq_iff_eq] at space
    rcases space with ((rfl | rfl) | rfl) | rfl
    all_goals exact absurd opens (by decide)
  refine .of_cons front ⟨shown, apart ']' (by decide), apart '\ufeff' (by decide)⟩ noReturn ?_
  intro fuel rest _ ends
  rw [readValue, ← List.cons_append, ← front, reads rest ends]
  · rintro _ ⟨⟩
    exact apart _ (by decide) rfl
  · rintro _ ⟨⟩
    exact apart _ (by decide) rfl
  · rintro _ ⟨⟩
    exact apart _ (by decide) rfl

/-! ### Null, truth values, integers and texts -/

theorem spelled_null : Spelled .null "null" :=
  .of_scalar rfl (by decide) (by decide) fun rest _ => readScalar_null rest

theorem spelled_bool (b : Bool) : Spelled (.bool b) (if b then "true" else "false") := by
  cases b with
  | true => exact .of_scalar rfl (by decide) (by decide) fun rest _ => readScalar_bool true rest
  | false => exact .of_scalar rfl (by decide) (by decide) fun rest _ => readScalar_bool false rest

theorem spelled_int {n : Int} (short : (Nat.toDigits 10 n.natAbs).length ≤ Text.digitLimit) :
    Spelled (.int n) (toString n) := by
  have apart (d : Char) (digit : Text.isAsciiDigit d = true) : d ∉ otherStarts := by
    intro hd
    have noDigit : (otherStarts.all fun c => !Text.isAsciiDigit c) = true := by decide
    simpa [digit] using List.all_eq_true.mp noDigit d hd
  have digits : ∀ d ∈ Nat.toDigits 10 n.natAbs, d ∉ otherStarts :=
    fun d hd => apart d (Text.isAsciiDigit_of_mem_toDigits hd)
  have noReturn : '\r' ∉ Nat.toDigits 10 n.natAbs := fun mem => digits _ mem (by decide)
  have reads (rest : List Char) := @readScalar_int rest n short
  have spelling := toList_toString_int n
  split at spelling
  · exact .of_scalar spelling (by decide) noReturn reads
  · obtain ⟨d, ds, front⟩ :=
      List.exists_cons_of_ne_nil (Nat.toDigits_ne_nil (n := n.natAbs) (b := 10))
    rw [List.nil_append, front] at spelling
    rw [front] at digits noReturn
    exact .of_scalar spelling (digits d List.mem_cons_self)
      (fun mem => noReturn (List.mem_cons_of_mem d mem)) reads

theorem toList_quoted (s : String) :
    (quoted false s).toList = '"' :: (s.toList.flatMap (escaped false) ++ ['"']) := by
  rw [quoted, String.toList_ofList, List.cons_append]

theorem not_mem_quoted (s : String) : '\r' ∉ (quoted false s).toList := by
  rw [toList_quoted]
  simp [not_mem_escaped]

theorem spelled_text (s : String) : Spelled (.text s) (quoted false s) := by
  refine .of_cons (toList_quoted s) (by decide) (by simp [not_mem_escaped]) fun fuel rest _ _ => ?_
  rw [List.append_assoc, List.singleton_append, readValue, readText_quoted, ok_bind]
  rfl

end

/-! ### Parts between brackets -/

section

variable {α : Type} {close : Char} {Part : α → String → Prop}
  {read : Nat → List Char → Except Stop (List α × List Char)}

/-- How a reader goes over parts: the last part is followed by the closing mark, any other by a
comma. -/
structure ReadsParts (close : Char) (Part : α → String → Prop)
    (read : Nat → List Char → Except Stop (List α × List Char)) : Prop where
  starts : ∀ {a s}, Part a s → ∃ c cs, s.toList = c :: cs ∧ isSpace c = false ∧ c ≠ close
  noReturn : ∀ {a s}, Part a s → '\r' ∉ s.toList
  last : ∀ {a s fuel trail} rest, Part a s → Blank trail → 2 * s.toList.length ≤ fuel →
    read (fuel + 1) (s.toList ++ (trail ++ close :: rest)) = .ok ([a], rest)
  next : ∀ {a s fuel} rest, Part a s → 2 * s.toList.length ≤ fuel →
    read (fuel + 1) (s.toList ++ ',' :: rest) = (do
      let (more, rest) ← read fuel (skipSpace rest)
      return (a :: more, rest))

variable {parts : List α} {texts : List String} {gap trail : List Char}

theorem exists_joined {P : Char → Prop} {front : List Char} (starts : ∃ c cs, front = c :: cs ∧ P c)
    (sep : List Char) (more : List (List Char)) :
    ∃ c cs, sep.intercalate (front :: more) = c :: cs ∧ P c := by
  obtain ⟨c, cs, rfl, hc⟩ := starts
  cases more with
  | nil => exact ⟨c, cs, List.intercalate_singleton, hc⟩
  | cons text more => exact ⟨c, _, by rw [List.intercalate_cons_cons, List.append_assoc]; rfl, hc⟩

/-- Parts with a comma and blanks between them are read one after the other. -/
theorem ReadsParts.joined (reads : ReadsParts close Part read) (gapBlank : Blank gap)
    (trailBlank : Blank trail) (each : List.Forall₂ Part parts texts) (nonempty : texts ≠ [])
    (fuel : Nat) (enough : 2 * ((',' :: gap).intercalate (texts.map String.toList)).length < fuel)
    (rest : List Char) :
    read fuel ((',' :: gap).intercalate (texts.map String.toList) ++ (trail ++ close :: rest)) =
      .ok (parts, rest) := by
  induction each generalizing fuel with
  | nil => exact absurd rfl nonempty
  | @cons a s parts texts first others ih =>
    cases fuel with
    | zero => simp at enough
    | succ fuel =>
      cases others with
      | nil =>
        rw [List.map_cons, List.map_nil, List.intercalate_singleton] at enough ⊢
        exact reads.last rest first trailBlank (by omega)
      | @cons a' s' parts texts second others =>
        have later := ih (by simp) fuel
        obtain ⟨c, cs, joined, shown, -⟩ :=
          exists_joined (reads.starts second) (',' :: gap) (texts.map String.toList)
        rw [List.map_cons, List.map_cons, List.intercalate_cons_cons] at enough ⊢
        rw [List.map_cons] at later
        simp only [List.length_append, List.length_cons] at enough
        rw [List.append_assoc, List.append_assoc, List.cons_append, reads.next _ first (by omega)]
        rw [joined, List.cons_append] at later ⊢
        rw [skipSpace_of_blank gapBlank shown, later (by rw [← joined]; omega), ok_bind]
        rfl

theorem ReadsParts.not_mem_joined (reads : ReadsParts close Part read) (gapBlank : Blank gap)
    (each : List.Forall₂ Part parts texts) :
    '\r' ∉ (',' :: gap).intercalate (texts.map String.toList) := by
  induction each with
  | nil => simp
  | @cons a s parts texts first others ih =>
    have noReturn := reads.noReturn first
    have noGap := gapBlank.not_mem
    cases others with
    | nil => simpa using noReturn
    | cons =>
      rw [List.map_cons] at ih
      rw [List.map_cons, List.map_cons, List.intercalate_cons_cons]
      simp [noReturn, noGap, ih]

end

/-! ### Items and entries -/

section

variable {v : Value} {s : String} {rest : List Char} {fuel : Nat}

theorem readsItems : ReadsParts ']' Spelled readItems where
  starts spelled := by
    obtain ⟨c, cs, front, shown, apart, -⟩ := spelled.starts
    exact ⟨c, cs, front, shown, apart⟩
  noReturn := Spelled.noReturn
  last rest spelled blank enough := by
    have closes : isSpace ']' = false := by decide
    rw [readItems, spelled.reads _ _ enough (blank.endsNumber (endsNumber_cons (by decide))),
      ok_bind]
    simp only [skipSpace_of_blank blank closes, pure_eq_ok]
  next rest spelled enough := by
    have separates : isSpace ',' = false := by decide
    rw [readItems, spelled.reads _ _ enough (endsNumber_cons (by decide)), ok_bind]
    simp only [skipSpace_cons separates]

/-- A key between quotes and a spelled value. -/
def SpelledEntry (entry : Value × Value) (s : String) : Prop :=
  ∃ key text, entry.1 = .text key ∧ s = quoted false key ++ ": " ++ text ∧ Spelled entry.2 text

theorem toList_entry (key text : String) :
    (quoted false key ++ ": " ++ text).toList =
      '"' :: (key.toList.flatMap (escaped false) ++ '"' :: ':' :: ' ' :: text.toList) := by
  rw [String.toList_append, String.toList_append, toList_quoted]
  simp

/-- The key and the value of an entry are read; a mark decides what follows. -/
theorem readEntries_entry {entry : Value × Value} (spelled : SpelledEntry entry s)
    (enough : 2 * s.toList.length ≤ fuel) (ends : EndsNumber rest) :
    readEntries (fuel + 1) (s.toList ++ rest) =
      match skipSpace rest with
      | '\x7d' :: after => .ok ([entry], after)
      | ',' :: after => do
        let (more, rest) ← readEntries fuel (skipSpace after)
        return (entry :: more, rest)
      | other => stop "Expecting ',' delimiter" other := by
  obtain ⟨_, v⟩ := entry
  obtain ⟨key, text, rfl, rfl, spelled⟩ := spelled
  obtain ⟨c, cs, front, shown, -⟩ := spelled.starts
  have divides : isSpace ':' = false := by decide
  have afterColon : skipSpace (' ' :: c :: (cs ++ rest)) = c :: (cs ++ rest) := skipSpace_cons shown
  rw [toList_entry] at enough ⊢
  simp only [List.length_append, List.length_cons] at enough
  have value := spelled.reads fuel rest (by omega) ends
  rw [front, List.cons_append] at value
  rw [front, List.cons_append, List.append_assoc, readEntries, List.cons_append, List.cons_append,
    List.cons_append, List.cons_append, readText_quoted, ok_bind]
  simp only [skipSpace_cons divides, afterColon]
  rw [value, ok_bind]
  rfl

theorem readsEntries : ReadsParts '\x7d' SpelledEntry readEntries where
  starts := by
    rintro ⟨_, v⟩ _ ⟨key, text, rfl, rfl, -⟩
    exact ⟨_, _, toList_entry key text, by decide, by decide⟩
  noReturn := by
    rintro ⟨_, v⟩ _ ⟨key, text, rfl, rfl, spelled⟩
    have noKey := not_mem_quoted key
    have noValue := spelled.noReturn
    rw [String.toList_append, String.toList_append]
    simp [noKey, noValue]
  last rest spelled blank enough := by
    have closes : isSpace '\x7d' = false := by decide
    rw [readEntries_entry spelled enough (blank.endsNumber (endsNumber_cons (by decide)))]
    simp only [skipSpace_of_blank blank closes]
  next rest spelled enough := by
    have separates : isSpace ',' = false := by decide
    rw [readEntries_entry spelled enough (endsNumber_cons (by decide))]
    simp only [skipSpace_cons separates]

end

/-! ### Layouts -/

/-- Characters beyond ASCII are kept, and levels are indented by blanks. -/
structure Style.Plain (style : Style) : Prop where
  keeps : style.asciiOnly = false
  indents : ∀ indent ∈ style.indent, Blank indent.toList

theorem Style.plain_inFile (pretty : Bool) : (Style.inFile pretty).Plain := by
  cases pretty with
  | false => exact ⟨rfl, by simp [inFile, compact]⟩
  | true => exact ⟨rfl, by simp [inFile, tabbed, Blank, isSpace]⟩

section

variable {style : Style}

theorem blank_line {indent : String} (blank : Blank indent.toList) (level : Nat) :
    Blank ("\n" ++ String.join (List.replicate level indent)).toList := by
  intro c hc
  rw [String.toList_append, String.toList_join, List.mem_append, List.mem_flatMap] at hc
  rcases hc with hc | ⟨part, hpart, hc⟩
  · obtain rfl : c = '\n' := by simpa using hc
    decide
  · rw [(List.mem_replicate.mp hpart).2] at hc
    exact blank c hc

/-- Only blanks stand beside the parts, and a comma between them. -/
theorem toList_enclose (plain : style.Plain) (level : Nat) (first last : String)
    {parts : List String}
    (nonempty : parts ≠ []) :
    ∃ lead gap trail, Blank lead ∧ Blank gap ∧ Blank trail ∧
      (enclose style level first last parts).toList = first.toList ++ (lead ++
        ((',' :: gap).intercalate (parts.map String.toList) ++ (trail ++ last.toList))) := by
  obtain ⟨part, parts, rfl⟩ := List.exists_cons_of_ne_nil nonempty
  cases indents : style.indent with
  | none =>
    refine ⟨[], [' '], [], by simp [Blank], by simp [Blank, isSpace], by simp [Blank], ?_⟩
    simp [enclose, indents, String.toList_intercalate]
  | some indent =>
    have line := blank_line (plain.indents indent indents)
    refine ⟨_, _, _, line (level + 1), line (level + 1), line level, ?_⟩
    simp [enclose, indents, String.toList_intercalate]

/-- Parts in a layout are read, whatever stands behind the closing bracket. -/
theorem ReadsParts.enclosed {α : Type} {close : Char} {Part : α → String → Prop}
    {read : Nat → List Char → Except Stop (List α × List Char)} (reads : ReadsParts close Part read)
    (plain : style.Plain) (level : Nat) {opening : Char} {first last : String}
    (opens : first.toList = [opening]) (closes : last.toList = [close]) (apart : close ≠ '\r')
    {parts : List α} {texts : List String} (each : List.Forall₂ Part parts texts)
      (nonempty : texts ≠ []) :
    ∃ inside, (enclose style level first last texts).toList = opening :: inside ∧ '\r' ∉ inside ∧
      ∀ fuel rest, 2 * inside.length ≤ fuel → ∃ c cs, skipSpace (inside ++ rest) = c :: cs ∧
        c ≠ close ∧ read fuel (c :: cs) = .ok (parts, rest) := by
  obtain ⟨lead, gap, trail, leadBlank, gapBlank, trailBlank, spelling⟩ :=
    toList_enclose plain level first last nonempty
  rw [opens, closes, List.singleton_append] at spelling
  refine ⟨_, spelling, ?_, ?_⟩
  · simp [leadBlank.not_mem, reads.not_mem_joined gapBlank each, trailBlank.not_mem, apart.symm]
  · intro fuel rest enough
    have whole := reads.joined gapBlank trailBlank each nonempty fuel
      (by simp only [List.length_append, List.length_singleton] at enough; omega) rest
    cases each with
    | nil => exact absurd rfl nonempty
    | cons head others =>
      obtain ⟨c, cs, joined, shown, other⟩ :=
        exists_joined (reads.starts head) (',' :: gap) (List.map String.toList _)
      rw [List.map_cons, joined, List.cons_append] at whole ⊢
      refine ⟨c, _, ?_, other, whole⟩
      simp [skipSpace_of_blank leadBlank shown]

/-- Parts between brackets spell what is made of them, if the opening bracket leads to their reader.
-/
theorem ReadsParts.spelled {α : Type} {close : Char} {Part : α → String → Prop}
    {read : Nat → List Char → Except Stop (List α × List Char)} (reads : ReadsParts close Part read)
    (plain : style.Plain) (level : Nat) (make : List α → Value) {opening : Char}
      {first last : String}
    (opens : first.toList = [opening]) (closes : last.toList = [close]) (apart : close ≠ '\r')
    (starts : isSpace opening = false ∧ opening ≠ ']' ∧ opening ≠ '\ufeff')
    (empty : ∀ fuel rest, readValue (fuel + 1) (opening :: close :: rest) = .ok (make [], rest))
    (filled : ∀ fuel inside c cs parts rest, skipSpace inside = c :: cs → c ≠ close →
      read fuel (c :: cs) = .ok (parts, rest) →
        readValue (fuel + 1) (opening :: inside) = .ok (make parts, rest))
    {parts : List α} {texts : List String} (each : List.Forall₂ Part parts texts) :
    Spelled (make parts) (enclose style level first last texts) := by
  rcases eq_or_ne texts [] with rfl | nonempty
  · cases each
    have spelling : (enclose style level first last []).toList = opening :: [close] := by
      simp [enclose, opens, closes]
    exact .of_cons spelling starts (by simpa using apart.symm) fun fuel rest _ _ => empty fuel rest
  · obtain ⟨inside, spelling, noReturn, between⟩ :=
      reads.enclosed plain level opens closes apart each nonempty
    refine .of_cons spelling starts noReturn fun fuel rest enough _ => ?_
    obtain ⟨c, cs, skipped, other, read⟩ := between fuel rest (by omega)
    exact filled fuel _ c cs parts rest skipped other read

theorem spelled_list (plain : style.Plain) (level : Nat) {items : List Value} {texts : List String}
    (each : List.Forall₂ Spelled items texts) :
    Spelled (.list items) (enclose style level "[" "]" texts) := by
  refine readsItems.spelled plain level .list (show "[".toList = ['['] from rfl)
    (show "]".toList = [']'] from rfl) (by decide) (by decide) (fun _ _ => rfl) ?_ each
  intro fuel inside c cs items rest skipped apart read
  have noClose : ∀ after, c :: cs = ']' :: after → False := fun _ h => apart (List.cons.inj h).1
  simp only [readValue, skipped, read, ok_bind, pure_eq_ok]

theorem spelled_map (plain : style.Plain) (level : Nat) {entries : List (Value × Value)}
    {texts : List String} (each : List.Forall₂ SpelledEntry entries texts) :
    Spelled (.ofEntries entries) (enclose style level "\x7b" "\x7d" texts) := by
  refine readsEntries.spelled plain level .ofEntries (show "\x7b".toList = ['\x7b'] from rfl)
    (show "\x7d".toList = ['\x7d'] from rfl) (by decide) (by decide) (fun _ _ => rfl) ?_ each
  intro fuel inside c cs entries rest skipped apart read
  have noClose : ∀ after, c :: cs = '\x7d' :: after → False := fun _ h => apart (List.cons.inj h).1
  simp only [readValue, skipped, read, ok_bind, pure_eq_ok]

/-! ### Every restorable value -/

/-- What is written of a restorable value spells it, at every level. -/
theorem writeAt_spelled (plain : style.Plain) {v : Value} (restorable : Restorable v)
    (level : Nat) :
    ∃ s, writeAt style level v = .ok s ∧ Spelled v s := by
  induction restorable generalizing level with
  | null => exact ⟨_, by rw [writeAt], spelled_null⟩
  | bool b => exact ⟨_, by rw [writeAt], spelled_bool b⟩
  | int short => exact ⟨_, by rw [writeAt], spelled_int short⟩
  | text s => exact ⟨_, by rw [writeAt, plain.keeps], spelled_text s⟩
  | list each ih =>
    obtain ⟨texts, written, spelled⟩ := writeItems_ok fun v hv => ih v hv (level + 1)
    exact ⟨_, by rw [writeAt, written, ok_bind, pure_eq_ok], spelled_list plain level spelled⟩
  | @map fields distinct each ih =>
    have entries : ∀ entry ∈ fields.map fun field => (Value.text field.1, field.2),
        ∃ key s, keyText style entry.1 = .ok key ∧ writeAt style (level + 1) entry.2 = .ok s ∧
          SpelledEntry entry (quoted style.asciiOnly key ++ ": " ++ s) := by
      intro entry mem
      obtain ⟨field, hfield, rfl⟩ := List.mem_map.mp mem
      obtain ⟨s, written, spelled⟩ := ih field hfield (level + 1)
      exact ⟨field.1, s, rfl, written, field.1, s, rfl, by rw [plain.keeps], spelled⟩
    obtain ⟨texts, written, spelled⟩ := writeEntries_ok entries
    have kept := Fields.ofEntries_map Value.text_beq_text fields
    rw [Fields.ofEntries_of_nodup distinct] at kept
    refine ⟨_, by rw [Value.ofFields, writeAt, written, ok_bind, pure_eq_ok], ?_⟩
    have spelling := spelled_map plain level spelled
    rwa [Value.ofEntries, kept] at spelling

theorem readAll_of_spelled {v : Value} {s : String} (spelled : Spelled v s) :
    readAll s.toList = .ok v := by
  obtain ⟨c, cs, front, shown, -, noMark⟩ := spelled.starts
  have nothing : EndsNumber [] := fun _ h => absurd h (by simp)
  have value := spelled.reads (2 * s.toList.length + 2) [] (by omega) nothing
  rw [List.append_nil] at value
  rw [front] at value ⊢
  have notMarked : ∀ more, c :: cs = '\ufeff' :: more → False :=
    fun _ h => noMark (List.cons.inj h).1
  simp only [readAll, skipSpace_cons shown, value, ok_bind, pure_eq_ok]
  rfl

/-- A value is read from what is written of it, and no carriage return is written. -/
theorem read_write (plain : style.Plain) {v : Value} (restorable : Restorable v) :
    ∃ s, write style v = .ok s ∧ '\r' ∉ s.toList ∧ read s = .ok v := by
  obtain ⟨s, written, spelled⟩ := writeAt_spelled plain restorable 0
  refine ⟨s, written, spelled.noReturn, ?_⟩
  rw [read, readAll_of_spelled spelled]

end

end Json

namespace FileTree

variable {tree : FileTree} {path : String}

/-- A restorable value that is written to a file is read from it again, in either layout. -/
theorem readValue_writeValue {v : Value} (restorable : Json.Restorable v)
    (writable : tree.Writable path)
    (pretty : Bool) (now : Int) :
    ∃ files, tree.writeValue path v pretty now = .ok files ∧ files.readValue path = .ok v := by
  obtain ⟨text, written, noReturn, read⟩ :=
    Json.read_write (Json.Style.plain_inFile pretty) restorable
  obtain ⟨files, done⟩ := write_of_writable writable text now
  have kept : files.read path = .ok text := (read_eq_self_iff (file_of_write done)).mpr noReturn
  refine ⟨files, ?_, ?_⟩
  · rw [writeValue, written, ok_bind, done]
  · rw [readValue, kept, ok_bind, read]

/-- Levels in each other, texts that need escapes, and a key with a line end. -/
def nestedValue : Value :=
  .ofFields [("a\x0d\n", .list [.null, .bool true, .int (-12), .text "\x01\"\\\u00e4\u2028"]),
    ("", .ofFields []), ("b", .list [.list []])]

theorem readValue_writeValue_nested :
    Json.Restorable nestedValue ∧ Writable [] "f.txt" ∧
    (∃ files, writeValue [] "f.txt" nestedValue true 0 = .ok files ∧
      files.readValue "f.txt" = .ok nestedValue) ∧
    ∃ files, writeValue [] "f.txt" nestedValue false 0 = .ok files ∧
      files.readValue "f.txt" = .ok nestedValue := by
  have restorable : Json.Restorable nestedValue := by
    refine .map (by decide) ?_
    simp only [List.forall_mem_cons]
    refine ⟨.list ?_, .map (by decide) (by simp), .list ?_, by simp⟩
    · simp only [List.forall_mem_cons]
      exact ⟨.null, .bool true, .int (by decide), .text _, by simp⟩
    · simp only [List.forall_mem_cons]
      exact ⟨.list (by simp), by simp⟩
  exact ⟨restorable, writable_plain, readValue_writeValue restorable writable_plain true 0,
    readValue_writeValue restorable writable_plain false 0⟩

end FileTree

end RaggedTables
