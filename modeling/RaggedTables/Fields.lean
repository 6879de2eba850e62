/-! Fields in order: an association list that keeps each key where it was first written and holds
the last value written under it. -/

namespace RaggedTables

/-- Keys with values, in the order in which the keys were first written. -/
abbrev Fields (κ ν : Type) := List (κ × ν)

namespace Fields

variable {κ ν : Type} [BEq κ]

/-- Writes a value under a key: in place if the key is there, else at the end. -/
def put (fields : Fields κ ν) (key : κ) (value : ν) : Fields κ ν :=
  match fields with
  | [] => [(key, value)]
  | (k, v) :: rest => if k == key then (k, value) :: rest else (k, v) :: put rest key value

/-- The value under a key. -/
def get? (fields : Fields κ ν) (key : κ) : Option ν :=
  match fields with
  | [] => none
  | (k, v) :: rest => if k == key then some v else get? rest key

/-- The keys in order. -/
def keys (fields : Fields κ ν) : List κ := fields.map Prod.fst

/-- Whether a key is there. -/
def has (fields : Fields κ ν) (key : κ) : Bool := (fields.get? key).isSome

/-- Writes all of `more` in order. -/
def update (fields : Fields κ ν) (more : List (κ × ν)) : Fields κ ν :=
  more.foldl (fun fields entry => fields.put entry.1 entry.2) fields

/-- The fields that writing `entries` in order leaves. -/
def ofEntries (entries : List (κ × ν)) : Fields κ ν := update [] entries

@[simp] theorem update_nil (fields : Fields κ ν) : fields.update [] = fields := rfl

@[simp] theorem update_cons (fields : Fields κ ν) (entry : κ × ν) (more : List (κ × ν)) :
    fields.update (entry :: more) = (fields.put entry.1 entry.2).update more := rfl

variable [LawfulBEq κ]

/-- Writing a key that is there keeps the keys; a new one goes to the end. -/
theorem keys_put (fields : Fields κ ν) (key : κ) (value : ν) :
    (fields.put key value).keys =
      if key ∈ fields.keys then fields.keys else fields.keys ++ [key] := by
  induction fields with
  | nil => simp [put, keys]
  | cons entry rest ih =>
    obtain ⟨k, v⟩ := entry
    by_cases h : k = key
    · subst h; simp [put, keys]
    · have h' : key ≠ k := fun e => h e.symm
      have hk : (k == key) = false := by simp [h]
      simp only [keys] at ih
      simp only [put, hk, keys, List.map_cons, List.mem_cons, h', false_or]
      simp only [Bool.false_eq_true, ↓reduceIte, List.map_cons, ih]
      split <;> simp_all

/-- What was written last under a key is what is found. -/
theorem get?_put_self (fields : Fields κ ν) (key : κ) (value : ν) :
    (fields.put key value).get? key = some value := by
  induction fields with
  | nil => simp [put, get?]
  | cons entry rest ih =>
    obtain ⟨k, v⟩ := entry
    by_cases h : k = key
    · subst h; simp [put, get?]
    · have hk : (k == key) = false := by simp [h]
      simp [put, get?, hk, ih]

/-- Other keys keep their values. -/
theorem get?_put_of_ne (fields : Fields κ ν) {key other : κ} (value : ν) (h : other ≠ key) :
    (fields.put key value).get? other = fields.get? other := by
  induction fields with
  | nil => simp [put, get?, Ne.symm h]
  | cons entry rest ih =>
    obtain ⟨k, v⟩ := entry
    by_cases hk : k = key
    · subst hk; simp [put, get?, Ne.symm h]
    · have : (k == key) = false := by simp [hk]
      by_cases ho : k = other
      · subst ho; simp [put, get?, this]
      · have ho' : (k == other) = false := by simp [ho]
        simp [put, get?, this, ho', ih]

end Fields

end RaggedTables
