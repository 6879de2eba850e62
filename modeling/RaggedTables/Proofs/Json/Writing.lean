import Mathlib.Data.List.Forall2
import RaggedTables.Json.Writer
import RaggedTables.Proofs.Outcome

/-! Values that JSON has a form for. Texts, missing values and all that is built of them can be
written, in every style and at every level. -/

namespace RaggedTables.Json

/-- Texts, missing values, and lists and maps of what has a form; keys are texts or missing. -/
inductive HasForm : Value → Prop
  | null : HasForm .null
  | text (s : String) : HasForm (.text s)
  | list {items} (each : ∀ v ∈ items, HasForm v) : HasForm (.list items)
  | map {entries} (keys : ∀ entry ∈ entries, entry.1 = .null ∨ ∃ s, entry.1 = .text s)
      (values : ∀ entry ∈ entries, HasForm entry.2) : HasForm (.map entries)

variable {style : Style} {level : Nat}

/-- Items are written one after the other; what holds of each text holds of all. -/
theorem writeItems_ok {P : Value → String → Prop} {items : List Value}
    (each : ∀ v ∈ items, ∃ s, writeAt style level v = .ok s ∧ P v s) :
    ∃ parts, writeItems style level items = .ok parts ∧ List.Forall₂ P items parts := by
  induction items with
  | nil => exact ⟨[], by rw [writeItems], .nil⟩
  | cons v rest ih =>
    obtain ⟨first, hfirst, holds⟩ := each v (by simp)
    obtain ⟨parts, hparts, others⟩ := ih fun w hw => each w (by simp [hw])
    exact ⟨first :: parts, by rw [writeItems, hfirst, ok_bind, hparts, ok_bind, pure_eq_ok],
      .cons holds others⟩

theorem keyText_ok (style : Style) {key : Value} (h : key = .null ∨ ∃ s, key = .text s) :
    ∃ s, keyText style key = .ok s := by
  rcases h with rfl | ⟨s, rfl⟩
  · exact ⟨_, rfl⟩
  · exact ⟨_, rfl⟩

theorem writeEntries_ok {P : Value × Value → String → Prop} {entries : List (Value × Value)}
    (each : ∀ entry ∈ entries, ∃ key s, keyText style entry.1 = .ok key ∧
      writeAt style level entry.2 = .ok s ∧ P entry (quoted style.asciiOnly key ++ ": " ++ s)) :
    ∃ parts, writeEntries style level entries = .ok parts ∧ List.Forall₂ P entries parts := by
  induction entries with
  | nil => exact ⟨[], by rw [writeEntries], .nil⟩
  | cons entry rest ih =>
    obtain ⟨key, v⟩ := entry
    obtain ⟨shown, first, hkey, hfirst, holds⟩ := each _ (List.mem_cons_self ..)
    obtain ⟨parts, hparts, others⟩ := ih fun e he => each e (by simp [he])
    exact ⟨_, by rw [writeEntries, hkey, ok_bind, hfirst, ok_bind, hparts, ok_bind, pure_eq_ok],
      .cons holds others⟩

theorem writeAt_of_hasForm {v : Value} (h : HasForm v) (style : Style) (level : Nat) :
    ∃ s, writeAt style level v = .ok s := by
  induction h generalizing level with
  | null => exact ⟨_, by rw [writeAt]⟩
  | text s => exact ⟨_, by rw [writeAt]⟩
  | list each ih =>
    have written (v : Value) (hv : v ∈ _) :=
      (ih v hv (level + 1)).imp fun _ h => And.intro h trivial
    obtain ⟨parts, hparts, -⟩ := writeItems_ok written
    exact ⟨_, by rw [writeAt, hparts, ok_bind, pure_eq_ok]⟩
  | map keys values ih =>
    obtain ⟨parts, hparts, -⟩ := writeEntries_ok (P := fun _ _ => True) fun entry he => by
      obtain ⟨key, hkey⟩ := keyText_ok style (keys entry he)
      obtain ⟨s, hs⟩ := ih entry he (level + 1)
      exact ⟨key, s, hkey, hs, trivial⟩
    exact ⟨_, by rw [writeAt, hparts, ok_bind, pure_eq_ok]⟩

end RaggedTables.Json
