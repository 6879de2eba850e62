import RaggedTables.Proofs.Pattern.Replacing
import RaggedTables.Proofs.Text.Pieces

/-! What cleaning a text comes to: without its decoration, without the blanks at its ends and with
each run of two blanks or more as one space. One text is the outcome, it has nothing left to clean,
and the characters that are neither blank nor decoration are kept. -/

namespace RaggedTables.Text

/-- `out` is a text without decoration, without the blanks at its ends, and then squeezed. -/
def Cleaned (cs out : List Char) : Prop :=
  ∃ core, Trimmed (cs.filter fun c => !isDecoration c) core ∧ Squeezed core out

/-- A text with nothing to clean. -/
structure Tidy (cs : List Char) : Prop where
  undecorated : ∀ c ∈ cs, isDecoration c = false
  starts : Starts cs
  stops : Stops cs
  apart : cs.IsChain fun a b => ¬ (isBlank a ∧ isBlank b)

section Cleaning

variable {cs out : List Char}

theorem cleaned_clean (cs : List Char) : Cleaned cs (clean cs) :=
  ⟨_, trimmed_trim _, squeezed_squeeze _⟩

/-- A text is cleaned in one way. -/
theorem Cleaned.eq_clean (h : Cleaned cs out) : out = clean cs := by
  obtain ⟨core, trimmed, squeezed⟩ := h
  rw [squeezed.eq_squeeze, trimmed.eq_trim, clean]

theorem Cleaned.tidy (h : Cleaned cs out) : Tidy out := by
  obtain ⟨core, ⟨lead, trail, whole, -, -, starts, stops⟩, squeezed⟩ := h
  refine ⟨fun c hc => ?_, squeezed.starts starts, ?_, squeezed.isChain⟩
  · rcases squeezed.mem hc with hc | rfl
    · have kept : c ∈ cs.filter fun c => !isDecoration c := by
        rw [whole]
        exact List.mem_append_left _ (List.mem_append_right _ hc)
      simpa using (List.mem_filter.mp kept).2
    · rfl
  · rwa [Stops, squeezed.getLast? stops]

theorem Cleaned.solids (h : Cleaned cs out) :
    out.filter (fun c => !isBlank c) =
      (cs.filter fun c => !isDecoration c).filter fun c => !isBlank c := by
  obtain ⟨core, ⟨lead, trail, whole, front, back, -, -⟩, squeezed⟩ := h
  have none {edge : List Char} (blanks : ∀ c ∈ edge, isBlank c) :
      edge.filter (fun c => !isBlank c) = [] :=
    List.filter_eq_nil_iff.mpr fun c hc => by simp [blanks c hc]
  rw [squeezed.solids, whole, List.filter_append, List.filter_append, none front, none back,
    List.nil_append, List.append_nil]

theorem Tidy.cleaned (h : Tidy cs) : Cleaned cs cs := by
  have undecorated : cs.filter (fun c => !isDecoration c) = cs :=
    List.filter_eq_self.mpr fun c hc => by simp [h.undecorated c hc]
  refine ⟨cs, ⟨[], [], ?_, nofun, nofun, h.starts, h.stops⟩, squeezed_self h.apart⟩
  rw [undecorated, List.nil_append, List.append_nil]

theorem without_decoration (s : String) :
    (without "▣" s).toList = s.toList.filter fun c => !isDecoration c := by
  rw [show "▣" = String.singleton '▣' from rfl, toList_without]
  refine List.filter_congr fun c _ => ?_
  rw [isDecoration, decide_not, Bool.beq_eq_decide_eq]

end Cleaning

/-- Cleaning leaves the one text without decoration, without the blanks at its ends, and with each
run of two blanks or more as one space. It has nothing left to clean, it has the characters of the
first text that are neither blank nor decoration, and it is what comes of the text when the matches
of the two patterns for blanks are replaced. -/
theorem sanitise_exact (s : String) :
    (∀ out : String, Cleaned s.toList out.toList ↔ out = sanitise s) ∧ Tidy (sanitise s).toList ∧
      (sanitise s).toList.filter (fun c => !isBlank c) =
        (s.toList.filter fun c => !isDecoration c).filter (fun c => !isBlank c) ∧
      sanitise (sanitise s) = sanitise s ∧
      ∃ edges gaps, Pattern.compile "^\\s+|\\s+$" = .ok edges ∧
        Pattern.compile "\\s\\s+" = .ok gaps ∧
        sanitise s = gaps.replaced " " (edges.replaced "" (without "▣" s)) := by
  have text : (sanitise s).toList = clean s.toList := String.toList_ofList
  have cleaned : Cleaned s.toList (sanitise s).toList := text ▸ cleaned_clean s.toList
  obtain ⟨edges, compiled, trimmed⟩ := Pattern.compile_edges
  obtain ⟨gaps, compiled', squeezed⟩ := Pattern.compile_gap
  refine ⟨fun out => ⟨fun h => ?_, fun h => h ▸ cleaned⟩, cleaned.tidy, cleaned.solids, ?_,
    edges, gaps, compiled, compiled', ?_⟩
  · rw [← String.toList_inj, text, h.eq_clean]
  · rw [← String.toList_inj]
    exact (cleaned.tidy.cleaned.eq_clean.trans String.toList_ofList.symm).symm
  · rw [squeezed, trimmed, strip, String.toList_ofList, without_decoration]
    rfl

end RaggedTables.Text
