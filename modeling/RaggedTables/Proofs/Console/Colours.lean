import RaggedTables.Console.Colour
import RaggedTables.Proofs.Number.Digits
import RaggedTables.Proofs.Outcome
import RaggedTables.Proofs.Text.Sequences
import RaggedTables.Value.Shown

/-! Coloured text without its colours. However many colours and styles a text is given, one around
the other, what is visible of it is the text; and of items in colours, their texts with the
separator between them. -/

namespace RaggedTables.Console

open Text (Bare ShowsAs visible)

/-- A tag that names a colour or a style. -/
def IsTag (tag : String) : Prop := (code? tag).isSome

/-! ### Codes -/

section

variable {tag text out : String} {code : Nat} {seen : List Char}

section

-- the code of a tag that is a variable is stuck, and looking for it takes long
attribute [local irreducible] code?

theorem colourText_nil (text : String) : colourText text [] = .ok text := rfl

theorem colourText_cons (text tag : String) (tags : List String) :
    colourText text (tag :: tags) =
      match code? tag with
      | some code => colourText (styled code text) tags
      | none => .error (.value (.badColour tag)) := rfl

end

/-- The code of a tag has at most three digits. -/
theorem code?_lt (h : code? tag = some code) : code < 1000 := by
  have style : ∀ entry ∈ styles, entry.2 < 1000 := by decide
  unfold code? at h
  dsimp only at h
  split at h
  · rename_i style' found
    obtain rfl := Option.some.inj h
    split at found
    · cases found
    · obtain ⟨before, after, split, -⟩ := List.lookup_eq_some_iff.mp found
      exact style _ (split ▸ List.mem_append_right before List.mem_cons_self)
  · split at h
    · have := Option.some.inj h
      split at this <;> omega
    · obtain ⟨i, found, rfl⟩ := Option.map_eq_some_iff.mp h
      obtain ⟨short, -⟩ := List.findIdx?_eq_some_iff_findIdx_eq.mp found
      have eight : colours.length = 8 := rfl
      split <;> split <;> omega

/-- The sequence of a code is not seen, whatever follows it. -/
theorem showsAs_code (short : code < 1000) :
    ShowsAs ("\x1b[" ++ toString code ++ "m").toList [] := by
  intro rest
  have whole : ("\x1b[" ++ toString code ++ "m").toList ++ rest =
      '\x1b' :: '[' :: (Nat.toDigits 10 code ++ 'm' :: rest) := by
    simp
  have digits : ∀ c ∈ Nat.toDigits 10 code, Text.isAsciiDigit c = true :=
    fun c => Text.isAsciiDigit_of_mem_toDigits
  have length : (Nat.toDigits 10 code).length ≤ 3 :=
    (Nat.length_toDigits_le_iff (by decide) (by decide)).mpr short
  rw [whole, Text.visible_of_sequence (by decide)
    (Text.afterSequence?_number digits Nat.toDigits_ne_nil (by omega) (by decide) (by decide)
      (by decide)), List.nil_append]

theorem showsAs_styled (short : code < 1000) (h : ShowsAs text.toList seen) :
    ShowsAs (styled code text).toList seen := by
  have reset : ShowsAs "\x1b[0m".toList [] := @showsAs_code 0 (by decide)
  have shown := ((showsAs_code short).append h).append reset
  rw [List.nil_append, List.append_nil] at shown
  rwa [styled, String.toList_append, String.toList_append]

/-- Tags do not change what is visible. -/
theorem showsAs_colourText {tags : List String} (h : ShowsAs text.toList seen)
    (done : colourText text tags = .ok out) : ShowsAs out.toList seen := by
  induction tags generalizing text with
  | nil =>
    rw [colourText_nil] at done
    obtain rfl := Except.ok.inj done
    exact h
  | cons tag tags ih =>
    rw [colourText_cons] at done
    split at done
    · rename_i code found
      exact ih (showsAs_styled (code?_lt found) h) done
    · cases done

theorem colourText_ok {tags : List String} (valid : ∀ tag ∈ tags, IsTag tag) (text : String) :
    ∃ out, colourText text tags = .ok out := by
  induction tags generalizing text with
  | nil => exact ⟨text, colourText_nil text⟩
  | cons tag tags ih =>
    obtain ⟨first, rest⟩ := List.forall_mem_cons.mp valid
    obtain ⟨code, found⟩ := Option.isSome_iff_exists.mp first
    obtain ⟨out, done⟩ := ih rest (styled code text)
    exact ⟨out, by rw [colourText_cons, found]; exact done⟩

end

/-! ### Items in colours -/

theorem mapM_colourText {tags : List String} (valid : ∀ tag ∈ tags, IsTag tag) {parts : List Value}
    (bare : ∀ v ∈ parts, Bare v.plain.toList) :
    ∃ outs, (parts.mapM fun v => colourText v.plain tags) = .ok outs ∧
      List.Forall₂ ShowsAs (outs.map String.toList) (parts.map fun v => v.plain.toList) := by
  induction parts with
  | nil => exact ⟨[], rfl, .nil⟩
  | cons v parts ih =>
    obtain ⟨hv, hparts⟩ := List.forall_mem_cons.mp bare
    obtain ⟨first, done⟩ := colourText_ok valid v.plain
    obtain ⟨outs, dones, shown⟩ := ih hparts
    refine ⟨first :: outs, ?_, .cons (showsAs_colourText hv.showsAs done) shown⟩
    rw [List.mapM_cons, done, ok_bind, dones, ok_bind, pure_eq_ok]

/-- Without its control sequences a coloured text is the text, and items in colours are their texts
with the separator between them, all without the blanks at the ends. -/
theorem stripAnsi_colours :
    (∀ text tags, Bare text.toList → (∀ tag ∈ tags, IsTag tag) →
      ∃ out, colourText text tags = .ok out ∧ Text.stripAnsi out = Text.strip text) ∧
    ∀ items parts separator elementColour separatorColour, items.items? = some parts →
      Bare separator.toList → (∀ v ∈ parts, Bare v.plain.toList) →
      (∀ tag ∈ tags elementColour, IsTag tag) → (∀ tag ∈ tags separatorColour, IsTag tag) →
      ∃ out, prettyArray items separator elementColour separatorColour = .ok out ∧
        Text.stripAnsi out = Text.strip (separator.intercalate (parts.map Value.plain)) := by
  constructor
  · intro text tags bare valid
    obtain ⟨out, done⟩ := colourText_ok valid text
    have shown := (showsAs_colourText bare.showsAs done).visible
    exact ⟨out, done, by rw [Text.stripAnsi, shown, Text.strip]⟩
  · intro items parts separator elementColour separatorColour found bareMark bare elementTag markTag
    obtain ⟨between, doneMark⟩ := colourText_ok markTag separator
    obtain ⟨outs, done, shown⟩ := mapM_colourText elementTag bare
    have whole := ((showsAs_colourText bareMark.showsAs doneMark).intercalate shown).visible
    refine ⟨between.intercalate outs, ?_, ?_⟩
    · rw [prettyArray, doneMark, ok_bind, found]
      dsimp only
      rw [done, ok_bind, pure_eq_ok]
    · rw [Text.stripAnsi, String.toList_intercalate, whole, Text.strip, String.toList_intercalate,
        List.map_map]
      rfl

/-- However a tag is spelled, its code is that of the colour or style. -/
theorem code?_spelled :
    code? "red" = some 31 ∧ code? "bg Blue Bright" = some 104 ∧ code? "bold" = some 1 := by
  decide +kernel

/-- A text that could go on a sequence, in two colours and a style, and items of two kinds. -/
theorem stripAnsi_colours_nested :
    (Bare "7;1m [x".toList ∧ (∀ tag ∈ ["red", "bg Blue Bright", "bold"], IsTag tag) ∧
      ∃ out, colourText "7;1m [x" ["red", "bg Blue Bright", "bold"] = .ok out ∧
        Text.stripAnsi out = Text.strip "7;1m [x") ∧
    (Value.list [.text "2K ", .int 3]).items? = some [.text "2K ", .int 3] ∧
      Bare " > ".toList ∧ (∀ v ∈ [Value.text "2K ", .int 3], Bare v.plain.toList) ∧
      (∀ tag ∈ tags (some "red"), IsTag tag) ∧ (∀ tag ∈ tags none, IsTag tag) ∧
      ∃ out, prettyArray (.list [.text "2K ", .int 3]) " > " (some "red") none = .ok out ∧
        Text.stripAnsi out =
          Text.strip (" > ".intercalate ([Value.text "2K ", .int 3].map Value.plain)) := by
  have bare : Bare "7;1m [x".toList := by decide
  obtain ⟨red, blue, bold⟩ := code?_spelled
  have isRed : IsTag "red" := Option.isSome_of_eq_some red
  have valid : ∀ tag ∈ ["red", "bg Blue Bright", "bold"], IsTag tag := by
    simp only [List.forall_mem_cons]
    exact ⟨isRed, Option.isSome_of_eq_some blue, Option.isSome_of_eq_some bold, nofun⟩
  have bareMark : Bare " > ".toList := by decide
  have bareItems : ∀ v ∈ [Value.text "2K ", .int 3], Bare v.plain.toList := by
    decide
  have mark : ∀ tag ∈ tags (some "red"), IsTag tag := List.forall_mem_singleton.mpr isRed
  have none : ∀ tag ∈ tags none, IsTag tag := by simp [tags]
  exact ⟨⟨bare, valid, stripAnsi_colours.1 _ _ bare valid⟩, rfl, bareMark, bareItems, mark, none,
    stripAnsi_colours.2 _ _ _ _ _ rfl bareMark bareItems mark none⟩

end RaggedTables.Console
