import Mathlib.Data.List.Induction
import RaggedTables.Fields

/-! Writing many fields in order: every key stays where it was first written and holds what was
written last under it. -/

namespace RaggedTables.Fields

variable {κ ν : Type} [BEq κ] [LawfulBEq κ]

/-! ### Keys -/

/-- One more name is one more distinct name, unless it was there. -/
theorem eraseDups_concat (names : List κ) (name : κ) :
    (names ++ [name]).eraseDups =
      if name ∈ names then names.eraseDups else names.eraseDups ++ [name] := by
  rw [List.eraseDups_append]
  by_cases h : name ∈ names
  · simp [List.removeAll, h]
  · simp [List.removeAll, h, List.eraseDups_cons]

theorem eraseDups_append_of_subset {names more : List κ} (h : ∀ name ∈ more, name ∈ names) :
    (names ++ more).eraseDups = names.eraseDups := by
  have none : more.removeAll names = [] := by
    rw [List.removeAll, List.filter_eq_nil_iff]
    intro name hname
    simp [h name hname]
  rw [List.eraseDups_append, none]
  simp

/-- Names with the same distinct ones still have them when more names follow. -/
theorem eraseDups_append_congr {names others : List κ} (h : names.eraseDups = others.eraseDups)
    (more : List κ) : (names ++ more).eraseDups = (others ++ more).eraseDups := by
  have same : more.removeAll names = more.removeAll others := by
    unfold List.removeAll
    apply List.filter_congr
    intro name _
    have : name ∈ names ↔ name ∈ others := by
      rw [← List.mem_eraseDups, h, List.mem_eraseDups]
    simp [this]
  rw [List.eraseDups_append, List.eraseDups_append, h, same]

theorem eraseDups_append_eraseDups (names more : List κ) :
    (names ++ more.eraseDups).eraseDups = (names ++ more).eraseDups := by
  induction more using List.reverseRecOn with
  | nil => simp
  | append_singleton more name ih =>
    rw [eraseDups_concat, ← List.append_assoc, eraseDups_concat (names ++ more)]
    by_cases h : name ∈ more
    · simp [h, ih]
    · rw [if_neg h, ← List.append_assoc, eraseDups_concat, ih]
      simp only [List.mem_append, List.mem_eraseDups]

theorem nodup_eraseDups : (names : List κ) → names.eraseDups.Nodup
  | [] => by simp
  | name :: names => by
    have : (names.filter fun other => !other == name).length < names.length + 1 :=
      Nat.lt_succ_of_le (List.length_filter_le _ _)
    rw [List.eraseDups_cons, List.nodup_cons]
    exact ⟨by simp [List.mem_eraseDups], nodup_eraseDups _⟩
termination_by names => names.length

/-- The keys of fields that are the distinct ones of `names`, after one more write. -/
theorem eraseDups_of_nodup {names : List κ} (h : names.Nodup) : names.eraseDups = names := by
  induction names using List.reverseRecOn with
  | nil => simp
  | append_singleton names name ih =>
    obtain ⟨rest, -, apart⟩ := List.nodup_append.mp h
    have new : name ∉ names := fun mem => apart name mem name (by simp) rfl
    rw [eraseDups_concat, if_neg new, ih rest]

theorem keys_put_of_eraseDups {fields : Fields κ ν} {names : List κ}
    (h : fields.keys = names.eraseDups) (key : κ) (value : ν) :
    (fields.put key value).keys = (names ++ [key]).eraseDups := by
  rw [keys_put, h, eraseDups_concat]
  simp only [List.mem_eraseDups]

theorem keys_update_of_eraseDups {fields : Fields κ ν} {names : List κ}
    (h : fields.keys = names.eraseDups) (more : List (κ × ν)) :
    (fields.update more).keys = (names ++ more.map Prod.fst).eraseDups := by
  induction more generalizing fields names with
  | nil => simp [h]
  | cons entry more ih =>
    rw [update_cons, ih (keys_put_of_eraseDups h entry.1 entry.2)]
    simp

/-- A key that is not there is written at the end. -/
theorem put_of_not_mem {fields : Fields κ ν} {key : κ} (h : key ∉ fields.keys) (value : ν) :
    fields.put key value = fields ++ [(key, value)] := by
  induction fields with
  | nil => rfl
  | cons entry rest ih =>
    obtain ⟨k, v⟩ := entry
    obtain ⟨hk, hrest⟩ : key ≠ k ∧ key ∉ keys rest := by simpa [keys] using h
    have hk' : (k == key) = false := beq_false_of_ne hk.symm
    simp [put, hk', ih hrest]

theorem update_of_nodup {fields : Fields κ ν} {more : List (κ × ν)}
    (h : (fields ++ more).keys.Nodup) : fields.update more = fields ++ more := by
  induction more generalizing fields with
  | nil => simp
  | cons entry more ih =>
    have new : entry.1 ∉ fields.keys := by
      simp only [keys, List.map_append, List.map_cons] at h ⊢
      exact fun hm => (List.nodup_append.mp h).2.2 _ hm _ (by simp) rfl
    rw [update_cons, put_of_not_mem new, ih (by simpa using h)]
    simp

/-- Entries with distinct keys are fields as they stand. -/
theorem ofEntries_of_nodup {entries : List (κ × ν)} (h : (entries.map Prod.fst).Nodup) :
    ofEntries entries = entries := by
  have distinct : (keys ([] ++ entries)).Nodup := by simpa [keys] using h
  simpa [ofEntries] using update_of_nodup distinct

/-! ### Values -/

/-- Entry `i` writes `value` under `key`, and no later one writes under it. -/
structure IsLastWrite (entries : List (κ × ν)) (key : κ) (i : Nat) (value : ν) : Prop where
  writes : entries[i]? = some (key, value)
  last : ∀ j, (entries.map Prod.fst)[j]? = some key → j ≤ i

/-- Under a key stands what was written last, or what stood there if nothing was. -/
theorem get?_update (fields : Fields κ ν) (more : List (κ × ν)) (key : κ) :
    (∃ i value, IsLastWrite more key i value ∧ (fields.update more).get? key = some value) ∨
      (key ∉ more.map Prod.fst ∧ (fields.update more).get? key = fields.get? key) := by
  induction more generalizing fields with
  | nil => exact .inr ⟨by simp, rfl⟩
  | cons entry more ih =>
    obtain ⟨k, v⟩ := entry
    rw [update_cons]
    rcases ih (fields.put k v) with ⟨i, value, ⟨hi, hlast⟩, hget⟩ | ⟨hnot, hget⟩
    · refine .inl ⟨i + 1, value, ⟨by simpa using hi, fun j hj => ?_⟩, hget⟩
      cases j with
      | zero => omega
      | succ j => exact Nat.succ_le_succ (hlast j (by simpa using hj))
    · by_cases hk : key = k
      · subst hk
        refine .inl ⟨0, v, ⟨rfl, fun j hj => ?_⟩, by rw [hget, get?_put_self]⟩
        cases j with
        | zero => omega
        | succ j => exact absurd (List.mem_of_getElem? (by simpa using hj)) hnot
      · exact .inr ⟨by simpa [hk] using hnot, by rw [hget, get?_put_of_ne _ _ hk]⟩

theorem get?_eq_none_iff {fields : Fields κ ν} {key : κ} :
    fields.get? key = none ↔ key ∉ fields.keys := by
  induction fields with
  | nil => simp [get?, keys]
  | cons entry rest ih =>
    obtain ⟨k, v⟩ := entry
    by_cases hk : k = key
    · simp [get?, keys, hk]
    · have hk' : key ≠ k := fun e => hk e.symm
      simp only [keys] at ih
      simp [get?, keys, hk, hk', ih]

theorem mem_of_get? {fields : Fields κ ν} {key : κ} {value : ν}
    (h : fields.get? key = some value) : (key, value) ∈ fields := by
  induction fields with
  | nil => simp [get?] at h
  | cons entry rest ih =>
    obtain ⟨k, v⟩ := entry
    simp only [get?] at h
    split at h
    · rename_i hk
      obtain rfl := Option.some.inj h
      simp [eq_of_beq hk]
    · simp [ih h]

theorem get?_eq_some_of_mem {fields : Fields κ ν} (h : fields.keys.Nodup) {key : κ} {value : ν}
    (mem : (key, value) ∈ fields) : fields.get? key = some value := by
  induction fields with
  | nil => simp at mem
  | cons entry rest ih =>
    obtain ⟨k, v⟩ := entry
    obtain ⟨hk, hrest⟩ : k ∉ keys rest ∧ (keys rest).Nodup := by simpa [keys] using h
    rcases List.mem_cons.mp mem with heq | hmem
    · obtain ⟨rfl, rfl⟩ : key = k ∧ value = v := by simpa using heq
      simp [get?]
    · have hne : (k == key) = false :=
        beq_false_of_ne fun e => hk (e ▸ List.mem_map_of_mem (f := Prod.fst) hmem)
      simp [get?, hne, ih hrest hmem]

/-- Of fields with distinct keys at most one stands under a key. -/
theorem values_filter {fields : Fields κ ν} (h : fields.keys.Nodup) (key : κ) :
    (fields.filter fun entry => entry.1 == key).map Prod.snd = (fields.get? key).toList := by
  induction fields with
  | nil => rfl
  | cons entry rest ih =>
    obtain ⟨k, v⟩ := entry
    obtain ⟨hk, hrest⟩ : k ∉ keys rest ∧ (keys rest).Nodup := by simpa [keys] using h
    rw [List.filter_cons, get?]
    split
    · rename_i heq
      obtain rfl : k = key := eq_of_beq heq
      have none : get? rest k = none := get?_eq_none_iff.mpr hk
      simp [ih hrest, none]
    · exact ih hrest

/-- The order of fields with distinct keys plays no part in what is found. -/
theorem get?_perm {fields others : Fields κ ν} (h : fields.keys.Nodup) (perm : others.Perm fields)
    (key : κ) : others.get? key = fields.get? key := by
  have keys : others.keys.Perm fields.keys := perm.map Prod.fst
  cases hget : fields.get? key with
  | none =>
    rw [get?_eq_none_iff] at hget ⊢
    exact fun hkey => hget (keys.subset hkey)
  | some value =>
    exact get?_eq_some_of_mem (keys.nodup_iff.mpr h) (perm.symm.subset (mem_of_get? hget))

/-! ### Values that their keys determine -/

omit [LawfulBEq κ] in
/-- Writing what stands under a key already changes nothing. -/
theorem put_of_get? {fields : Fields κ ν} {key : κ} {value : ν} (h : fields.get? key = some value) :
    fields.put key value = fields := by
  induction fields with
  | nil => simp [get?] at h
  | cons entry rest ih =>
    obtain ⟨k, v⟩ := entry
    by_cases hk : k == key
    · simp only [get?, hk, if_true, Option.some.injEq] at h
      simp [put, hk, h]
    · simp only [get?, hk] at h
      simp [put, hk, ih h]

theorem get?_table (f : κ → ν) {names : List κ} {name : κ} (mem : name ∈ names) :
    Fields.get? (names.map fun n => (n, f n)) name = some (f name) := by
  induction names with
  | nil => cases mem
  | cons first names ih =>
    by_cases h : first = name
    · simp [get?, h]
    · simp [get?, h, ih ((List.mem_cons.mp mem).resolve_left (Ne.symm h))]

/-- Where the value is determined by the key, a key that comes again changes nothing. -/
theorem ofEntries_table (f : κ → ν) (names : List κ) :
    ofEntries (names.map fun n => (n, f n)) = names.eraseDups.map fun n => (n, f n) := by
  induction names using List.reverseRecOn with
  | nil => simp [ofEntries]
  | append_singleton names name ih =>
    have step : ofEntries ((names ++ [name]).map fun n => (n, f n)) =
        (ofEntries (names.map fun n => (n, f n))).put name (f name) := by
      simp [ofEntries, update]
    rw [step, ih, eraseDups_concat]
    by_cases mem : name ∈ names
    · rw [if_pos mem, put_of_get? (get?_table f (List.mem_eraseDups.mpr mem))]
    · have new : name ∉ keys (names.eraseDups.map fun n => (n, f n)) := by
        simpa [keys, Function.comp_def, List.mem_eraseDups] using mem
      rw [if_neg mem, put_of_not_mem new, List.map_append]
      rfl

/-! ### Other keys -/

section MapKeys

variable {α β : Type} [BEq α] [BEq β] {f : α → β} (same : ∀ a b, (f a == f b) = (a == b))
include same

theorem put_map (fields : Fields α ν) (key : α) (value : ν) :
    Fields.put (fields.map fun entry => (f entry.1, entry.2)) (f key) value =
      (fields.put key value).map fun entry => (f entry.1, entry.2) := by
  induction fields with
  | nil => rfl
  | cons entry rest ih =>
    obtain ⟨k, v⟩ := entry
    simp only [List.map_cons, put, same, ih]
    split <;> rfl

theorem get?_map (fields : Fields α ν) (key : α) :
    Fields.get? (fields.map fun entry => (f entry.1, entry.2)) (f key) = fields.get? key := by
  induction fields with
  | nil => rfl
  | cons entry rest ih => simp only [List.map_cons, get?, same, ih]

theorem update_map (fields : Fields α ν) (more : List (α × ν)) :
    Fields.update (fields.map fun entry => (f entry.1, entry.2))
        (more.map fun entry => (f entry.1, entry.2)) =
      (fields.update more).map fun entry => (f entry.1, entry.2) := by
  induction more generalizing fields with
  | nil => rfl
  | cons entry more ih => rw [List.map_cons, update_cons, update_cons, put_map same, ih]

theorem ofEntries_map (entries : List (α × ν)) :
    ofEntries (entries.map fun entry => (f entry.1, entry.2)) =
      (ofEntries entries).map fun entry => (f entry.1, entry.2) :=
  update_map same [] entries

end MapKeys

end RaggedTables.Fields
