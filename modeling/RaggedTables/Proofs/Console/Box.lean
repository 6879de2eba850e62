import RaggedTables.Console.Box
import RaggedTables.Proofs.Console.Colours
import RaggedTables.Proofs.Text.Pieces

/-! How wide the lines of a box are. The borders are as wide as the widest line without the blanks
at its visible ends, and a line that has such blanks sticks out by their number: the lines of a box
have one width if no line is left with blanks at its visible ends once it is trimmed. -/

namespace RaggedTables.Console

open Text (Bare Breaks Starts Stops visible)

/-- The number of characters of a line that are seen. -/
def visibleWidth (line : String) : Nat := (visible line.toList).length

/-- All lines have one visible width. -/
def Aligned (lines : List String) : Prop := ∃ width, ∀ line ∈ lines, visibleWidth line = width

/-- What is visible of a line once it is trimmed has no blanks at its ends. -/
def Tight (line : String) : Prop :=
  Starts (visible (Text.strip line).toList) ∧ Stops (visible (Text.strip line).toList)

/-! ### One line -/

theorem widthOf_eq (line : String) : widthOf line = (Text.trim (visible line.toList)).length := by
  rw [widthOf, Text.stripAnsi, String.length_ofList]

theorem visibleWidth_border (left right : Char) (hleft : Text.isIntroducer left = false)
    (hright : Text.isIntroducer right = false) (width : Nat) :
    visibleWidth (border (String.singleton left) (String.singleton right) width) = width + 2 := by
  have bare : Bare (border (String.singleton left) (String.singleton right) width).toList := by
    intro c hc
    simp only [border, String.toList_append, String.toList_singleton, String.toList_ofList,
      List.mem_append, List.mem_singleton, List.mem_replicate] at hc
    rcases hc with (rfl | ⟨-, rfl⟩) | rfl
    · exact hleft
    · decide
    · exact hright
  rw [visibleWidth, bare.showsAs.visible]
  simp [border]

/-- A line of a box shows what is visible of it, its filling and the sides. -/
theorem visibleWidth_boxed (width : Nat) (line : String) :
    visibleWidth (boxed width line) = visibleWidth line + (width - widthOf line) + 2 := by
  have filling :
      ∃ d rest, List.replicate (width - widthOf line) ' ' ++ ['║'] = d :: rest ∧ Breaks d := by
    cases width - widthOf line with
    | zero => exact ⟨_, _, rfl, by decide, by decide⟩
    | succ n => exact ⟨_, _, rfl, by decide, by decide⟩
  have bare : Bare (List.replicate (width - widthOf line) ' ' ++ ['║']) := by
    intro c hc
    rcases List.mem_append.mp hc with hc | hc
    · rw [List.eq_of_mem_replicate hc]
      decide
    · rw [List.mem_singleton.mp hc]
      decide
  have whole : (boxed width line).toList =
      '║' :: (line.toList ++ (List.replicate (width - widthOf line) ' ' ++ ['║'])) := by
    simp [boxed]
  have shown := bare.showsAs.visible
  obtain ⟨d, rest, split, breaks⟩ := filling
  rw [visibleWidth, whole, Text.visible_cons_of_plain (by decide)]
  rw [split] at shown ⊢
  rw [Text.visible_append_cons breaks, shown, ← split]
  simp [visibleWidth]
  omega

/-! ### The lines of a box -/

/-- The width between the sides of a box. -/
def innerWidth (lines : List String) : Nat := ((lines.map Text.strip).map widthOf).foldl max 0

section

variable {lines : List String} {line text out : String} {tags : List String}

theorem mem_boxLines :
    out ∈ boxLines lines ↔
      out = border "╔" "╗" (innerWidth lines) ∨
        (∃ line ∈ lines, out = boxed (innerWidth lines) (Text.strip line)) ∨
          out = border "╚" "╝" (innerWidth lines) := by
  simp [boxLines, innerWidth, eq_comm (a := out)]

theorem widthOf_le_innerWidth (mem : line ∈ lines) :
    widthOf (Text.strip line) ≤ innerWidth lines := by
  have width : widthOf (Text.strip line) ∈ (lines.map Text.strip).map widthOf := by
    simpa using ⟨line, mem, rfl⟩
  rw [innerWidth, List.foldl_max_eq_max (List.ne_nil_of_mem width)]
  exact (List.le_max_of_mem width).trans (Nat.le_max_right _ _)

/-- A line is as wide as the borders if no blanks are at its visible ends. -/
theorem visibleWidth_boxed_eq_iff (mem : line ∈ lines) :
    visibleWidth (boxed (innerWidth lines) (Text.strip line)) = innerWidth lines + 2 ↔
      Tight line := by
  have fits := widthOf_le_innerWidth mem
  have shorter := Text.length_trim_le (visible (Text.strip line).toList)
  rw [visibleWidth_boxed, Tight, ← Text.length_trim_eq_iff, visibleWidth]
  rw [widthOf_eq] at fits ⊢
  omega

theorem aligned_boxLines_iff : Aligned (boxLines lines) ↔ ∀ line ∈ lines, Tight line := by
  have top : visibleWidth (border "╔" "╗" (innerWidth lines)) = innerWidth lines + 2 :=
    visibleWidth_border '╔' '╗' (by decide) (by decide) _
  have bottom : visibleWidth (border "╚" "╝" (innerWidth lines)) = innerWidth lines + 2 :=
    visibleWidth_border '╚' '╝' (by decide) (by decide) _
  constructor
  · rintro ⟨width, same⟩ line mem
    rw [← visibleWidth_boxed_eq_iff mem, ← top, same _ (mem_boxLines.mpr (.inl rfl)),
      same _ (mem_boxLines.mpr (.inr (.inl ⟨line, mem, rfl⟩)))]
  · intro tight
    refine ⟨innerWidth lines + 2, fun out hout => ?_⟩
    rcases mem_boxLines.mp hout with rfl | ⟨line, mem, rfl⟩ | rfl
    · exact top
    · exact (visibleWidth_boxed_eq_iff mem).mpr (tight line mem)
    · exact bottom

/-- The lines of a box are those that it is made of, if no line goes over several. -/
theorem linesOf_box (single : ∀ line ∈ lines, '\n' ∉ line.toList) :
    linesOf (box lines) = boxLines lines := by
  refine Text.splitAt_intercalate (by decide) (by simp [boxLines]) fun out hout c hc => ?_
  rw [show ("\n" : String).toList = ['\n'] from rfl, List.mem_singleton]
  rintro rfl
  rcases mem_boxLines.mp hout with rfl | ⟨line, mem, rfl⟩ | rfl
  · simp [border] at hc
  · exact single line mem (Text.mem_of_mem_strip (by simpa [boxed] using hc))
  · simp [border] at hc

/-! ### Coloured lines -/

/-- A coloured text is in the sequence of a code, and the reset is behind it. -/
theorem exists_styled {tag : String} (done : colourText text (tag :: tags) = .ok out) :
    ∃ code inner, out = styled code inner := by
  induction tags generalizing text tag with
  | nil =>
    rw [colourText_cons] at done
    split at done
    · rw [colourText_nil] at done
      exact ⟨_, _, (Except.ok.inj done).symm⟩
    · cases done
  | cons next tags ih =>
    rw [colourText_cons] at done
    split at done
    · exact ih done
    · cases done

/-- A code is no blank, so a coloured text is not trimmed. -/
theorem strip_styled (code : Nat) (text : String) :
    Text.strip (styled code text) = styled code text := by
  have whole : (styled code text).toList =
      '\x1b' :: ("[" ++ toString code ++ "m" ++ text ++ "\x1b[0").toList ++ ['m'] := by
    simp [styled]
  have starts : Starts (styled code text).toList := by
    rw [whole]
    exact Text.starts_cons.mpr (by decide)
  have stops : Stops (styled code text).toList := by
    intro c hc
    rw [whole, List.getLast?_concat] at hc
    obtain rfl := Option.some.inj hc
    decide
  rw [Text.strip, Text.trim_eq_self starts stops, String.ofList_toList]

theorem tight_coloured_iff (bare : Bare text.toList) (done : colourText text tags = .ok out) :
    Tight out ↔ tags = [] ∨ Starts text.toList ∧ Stops text.toList := by
  cases tags with
  | nil =>
    rw [colourText_nil] at done
    obtain rfl := Except.ok.inj done
    obtain ⟨lead, trail, -, -, -, starts, stops⟩ := Text.trimmed_trim text.toList
    have inside : Bare (Text.strip text).toList := fun c hc => bare c (Text.mem_of_mem_strip hc)
    rw [Tight, inside.showsAs.visible, Text.strip, String.toList_ofList]
    simp [starts, stops]
  | cons tag tags =>
    have shown := (showsAs_colourText bare.showsAs done).visible
    obtain ⟨code, inner, rfl⟩ := exists_styled done
    rw [Tight, strip_styled, shown]
    simp

end

/-- The lines of a box are aligned if no line has blanks at its visible ends once it is trimmed. Of
coloured texts these are the ones that have blanks at their ends inside the colours. -/
theorem aligned_box_iff (lines : List String) (single : ∀ line ∈ lines, '\n' ∉ line.toList) :
    (linesOf (box lines)).length = lines.length + 2 ∧
      (Aligned (linesOf (box lines)) ↔ ∀ line ∈ lines, Tight line) ∧
      ∀ text tags out, Bare text.toList → colourText text tags = .ok out →
        (Tight out ↔ tags = [] ∨ Starts text.toList ∧ Stops text.toList) := by
  rw [linesOf_box single]
  exact ⟨by simp [boxLines], aligned_boxLines_iff, fun _ _ _ => tight_coloured_iff⟩

/-- A red text, and a line that is trimmed. -/
theorem aligned_box_red :
    (∀ line ∈ ["\x1b[31mab\x1b[0m", " abcd "], '\n' ∉ line.toList) ∧
      (linesOf (box ["\x1b[31mab\x1b[0m", " abcd "])).length = 4 ∧
      Aligned (linesOf (box ["\x1b[31mab\x1b[0m", " abcd "])) := by
  have single : ∀ line ∈ ["\x1b[31mab\x1b[0m", " abcd "], '\n' ∉ line.toList := by decide
  have law := aligned_box_iff _ single
  have red : Tight "\x1b[31mab\x1b[0m" := by
    refine (law.2.2 "ab" ["red"] _ (by decide) ?_).mpr (.inr (by decide))
    rw [colourText_cons, code?_spelled.1]
    rfl
  have plain : Tight " abcd " := ⟨by decide, by decide⟩
  refine ⟨single, law.1, law.2.1.mpr ?_⟩
  exact List.forall_mem_cons.mpr ⟨red, List.forall_mem_cons.mpr ⟨plain, nofun⟩⟩

/-- Of a text with blanks in front, coloured red, the line of the box is too wide by their number.
-/
theorem not_aligned_indented :
    colourText "  ab" ["red"] = .ok "\x1b[31m  ab\x1b[0m" ∧
      (∀ line ∈ ["\x1b[31m  ab\x1b[0m", "abcd"], '\n' ∉ line.toList) ∧
      ¬ Aligned (linesOf (box ["\x1b[31m  ab\x1b[0m", "abcd"])) := by
  have coloured : colourText "  ab" ["red"] = .ok "\x1b[31m  ab\x1b[0m" := by
    rw [colourText_cons, code?_spelled.1]
    rfl
  refine ⟨coloured, by decide, ?_⟩
  have widths :
      (linesOf (box ["\x1b[31m  ab\x1b[0m", "abcd"])).map visibleWidth = [6, 8, 6, 6] := by
    decide
  rintro ⟨width, same⟩
  have each : ∀ n ∈ [6, 8, 6, 6], n = width := by
    rw [← widths]
    simpa using same
  have six := each 6 (by simp)
  have eight := each 8 (by simp)
  omega

end RaggedTables.Console
