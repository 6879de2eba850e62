import RaggedTables.Proofs.Csv.Adding

/-! Documents in the making. A workspace holds every entry that was ever begun and lists the numbers
of those that belong to the document. Calls change it in place and step by step, and one that fails
stops where it is: an object that is refused midway leaves its entry behind, half filled and not
listed. -/

namespace RaggedTables

structure CsvWorkspace where
  headers : List Value
  options : CsvOptions
  /-- Every entry that was begun, listed or not. -/
  entries : List CsvEntry
  /-- The numbers of the entries of the document, in order. -/
  listed : List Nat

namespace CsvWorkspace

/-- A computation on a workspace. Where it fails, the workspace stays as it is at that point. -/
abbrev Action := ExceptT Fault (StateM CsvWorkspace)

/-- What a computation comes to, and the workspace after it. -/
def Action.result {α : Type} (x : Action α) (w : CsvWorkspace) : Except Fault α × CsvWorkspace :=
  x.run.run w

def document (w : CsvWorkspace) : CsvDocument :=
  ⟨w.headers, w.options, w.listed.map fun number => w.entries.getD number default⟩

/-- The workspace of a document with no other entries. -/
def holding (doc : CsvDocument) : CsvWorkspace :=
  ⟨doc.headers, doc.options, doc.entries, List.range doc.entries.length⟩

/-- The workspace with an entry in the place of the one that had its number. -/
def replace (w : CsvWorkspace) (number : Nat) (entry : CsvEntry) : CsvWorkspace :=
  { w with entries := w.entries.set number entry }

/-- The workspace with one more entry, which is not listed. -/
def withEntry (w : CsvWorkspace) (entry : CsvEntry) : CsvWorkspace :=
  { w with entries := w.entries ++ [entry] }

/-! ### Calls in place -/

/-- Begins an entry, which is not listed yet. -/
def beginEntry (data : Value) : Action Nat := do
  let w ← get
  let entry ← CsvEntry.ofValue w.headers data
  set (w.withEntry entry)
  return w.entries.length

def addInPlace (number : Nat) (header v : Value) : Action Unit := do
  let w ← get
  let entry ← (w.entries.getD number default).add header v
  set (w.replace number entry)

def fillInPlace (number : Nat) : List (Value × Value) → Action Unit
  | [] => pure ()
  | (key, v) :: rest => do
    let w ← get
    if w.headers.any fun h => h == key then
      addInPlace number key v
      fillInPlace number rest
    else throw (.report (.unknownField key (.list w.headers)))

def enlist (number : Nat) : Action Unit :=
  modify fun w => { w with listed := w.listed ++ [number] }

def addLine (line : Value) : Action Unit := do
  let number ← beginEntry line
  enlist number

def addObject : Value → Action Unit
  | .map entries => do
    let w ← get
    if entries.length ≠ w.headers.length then
      throw (.report (.cardinality w.headers.length entries.length "Object"))
    else
      let number ← beginEntry .null
      fillInPlace number entries
      enlist number
  | v => throw (.kind (.notMapping v.kind))

def addEach : List Value → Action Unit
  | [] => pure ()
  | object :: rest => do
    addObject object
    addEach rest

def addObjects (objects : Value) : Action Unit := do
  let items ← objects.itemsOf
  addEach items

def addToEntry (index : Int) (header v : Value) : Action Unit := do
  let w ← get
  match (CsvDocument.place? w.listed.length index).bind fun i => w.listed[i]? with
  | none => throw .outOfRange
  | some number => addInPlace number header v

/-- A call on a document: adding a line, an object, several objects, or a value to the entry with
the given index. -/
inductive Call where
  | line (line : Value)
  | object (object : Value)
  | objects (objects : Value)
  | value (index : Int) (header v : Value)

def Call.perform : Call → Action Unit
  | .line cells => addLine cells
  | .object fields => addObject fields
  | .objects several => addObjects several
  | .value index header v => addToEntry index header v

/-- The workspace after calls, whether they fail or not. -/
def run (w : CsvWorkspace) (calls : List Call) : CsvWorkspace :=
  calls.foldl (fun w call => (call.perform.result w).2) w

/-! ### Results of actions -/

section Results

variable {α β : Type}

theorem result_bind (x : Action α) (f : α → Action β) (w : CsvWorkspace) :
    Action.result (x >>= f) w =
      match x.result w with
      | (.ok a, next) => (f a).result next
      | (.error fault, next) => (.error fault, next) := by
  unfold Action.result ExceptT.run StateT.run
  simp only [bind, ExceptT.bind, ExceptT.mk, StateT.bind, ExceptT.bindCont]
  cases x w with
  | mk outcome next => cases outcome <;> rfl

@[simp] theorem result_pure (a : α) (w : CsvWorkspace) :
    Action.result (pure a) w = (.ok a, w) := rfl

@[simp] theorem result_throw (fault : Fault) (w : CsvWorkspace) :
    Action.result (throw fault : Action α) w = (.error fault, w) := rfl

@[simp] theorem result_get (w : CsvWorkspace) : Action.result get w = (.ok w, w) := rfl

@[simp] theorem result_set (next w : CsvWorkspace) :
    Action.result (set next) w = (.ok (), next) := rfl

@[simp] theorem result_lift (x : Except Fault α) (w : CsvWorkspace) :
    Action.result (liftM x) w = (x, w) := by
  cases x <;> rfl

end Results

theorem result_enlist (number : Nat) (w : CsvWorkspace) :
    (enlist number).result w = (.ok (), { w with listed := w.listed ++ [number] }) := rfl

theorem result_beginEntry (data : Value) (w : CsvWorkspace) :
    (beginEntry data).result w =
      match CsvEntry.ofValue w.headers data with
      | .ok entry => (.ok w.entries.length, w.withEntry entry)
      | .error fault => (.error fault, w) := by
  simp only [beginEntry, result_bind, result_get, result_lift]
  cases CsvEntry.ofValue w.headers data with
  | ok entry => rfl
  | error fault => rfl

theorem result_addInPlace (number : Nat) (header v : Value) (w : CsvWorkspace) :
    (addInPlace number header v).result w =
      match (w.entries.getD number default).add header v with
      | .ok entry => (.ok (), w.replace number entry)
      | .error fault => (.error fault, w) := by
  simp only [addInPlace, result_bind, result_get, result_lift]
  cases (w.entries.getD number default).add header v <;> simp

/-! ### Entries in place -/

theorem headers_of_add {entry result : CsvEntry} {header v : Value}
    (h : entry.add header v = .ok result) : result.headers = entry.headers := by
  unfold CsvEntry.add at h
  split at h
  · simp at h
  · obtain ⟨i, -, hi⟩ := bind_eq_ok.mp h
    obtain rfl := Except.ok.inj hi
    rfl

theorem replace_self {w : CsvWorkspace} {number : Nat} {entry : CsvEntry}
    (place : w.entries[number]? = some entry) : w.replace number entry = w := by
  obtain ⟨h, rfl⟩ := List.getElem?_eq_some_iff.mp place
  unfold replace
  rw [List.set_getElem_self]

theorem replace_replace (w : CsvWorkspace) (number : Nat) (entry other : CsvEntry) :
    (w.replace number entry).replace number other = w.replace number other := by
  unfold replace
  simp only [List.set_set]

theorem getElem?_replace {w : CsvWorkspace} {number : Nat} {entry : CsvEntry}
    (place : w.entries[number]? = some entry) (other : CsvEntry) :
    (w.replace number other).entries[number]? = some other := by
  have bound := (List.getElem?_eq_some_iff.mp place).1
  simp [replace, bound]

/-- Filling an entry in place comes to what filling it comes to. Where it fails, the entry is left
half filled, and no other entry has changed. -/
theorem result_fillInPlace {w : CsvWorkspace} {number : Nat} {entry : CsvEntry}
    (place : w.entries[number]? = some entry) (headers : entry.headers = w.headers)
    (fields : List (Value × Value)) :
    ∃ last, (fillInPlace number fields).result w =
        ((CsvDocument.fill entry fields).map fun _ => (), w.replace number last) ∧
      ∀ filled, CsvDocument.fill entry fields = .ok filled → last = filled := by
  induction fields generalizing w entry with
  | nil =>
    refine ⟨entry, ?_, fun filled h => Except.ok.inj h⟩
    rw [replace_self place]
    rfl
  | cons field fields ih =>
    obtain ⟨key, v⟩ := field
    have found : w.entries.getD number default = entry := by simp [List.getD, place]
    simp only [fillInPlace, CsvDocument.fill, result_bind, result_get, headers]
    by_cases known : (w.headers.any fun h => h == key) = true
    · simp only [known, if_true, result_bind, result_addInPlace, found]
      cases hadd : entry.add key v with
      | error fault =>
        refine ⟨entry, ?_, fun filled h => by simp at h⟩
        rw [replace_self place]
        rfl
      | ok next =>
        obtain ⟨last, hlast, hfilled⟩ :=
          ih (getElem?_replace place next) ((headers_of_add hadd).trans headers)
        refine ⟨last, ?_, hfilled⟩
        rw [replace_replace] at hlast
        exact hlast
    · simp only [known]
      refine ⟨entry, ?_, fun filled h => by cases h⟩
      rw [replace_self place]
      rfl

theorem replace_withEntry (w : CsvWorkspace) (entry other : CsvEntry) :
    (w.withEntry entry).replace w.entries.length other = w.withEntry other := by
  simp [replace, withEntry]

/-- Adding an object begins an entry, fills it and lists it, or fails with the entry half filled. -/
theorem result_addObject (w : CsvWorkspace) (object : Value) :
    (∃ entry, CsvEntry.ofObject w.headers object = .ok entry ∧
      (addObject object).result w = (enlist w.entries.length).result (w.withEntry entry)) ∨
    ∃ fault, CsvEntry.ofObject w.headers object = .error fault ∧
      ((addObject object).result w = (.error fault, w) ∨
        ∃ half, (addObject object).result w = (.error fault, w.withEntry half)) := by
  cases object with
  | map fields =>
    by_cases count : fields.length = w.headers.length
    · let start : CsvEntry := ⟨w.headers, w.headers.map fun _ => .null⟩
      have place : (w.withEntry start).entries[w.entries.length]? = some start := by
        simp [withEntry]
      obtain ⟨last, hlast, hfilled⟩ := result_fillInPlace place rfl fields
      rw [replace_withEntry] at hlast
      have entry : CsvEntry.ofObject w.headers (.map fields) = CsvDocument.fill start fields := by
        simp only [CsvEntry.ofObject, count, ne_eq, not_true_eq_false, if_false]
        rfl
      have run : (addObject (.map fields)).result w =
          Action.result (do fillInPlace w.entries.length fields; enlist w.entries.length)
            (w.withEntry start) := by
        simp only [addObject, result_bind, result_get, count, ne_eq, not_true_eq_false, if_false,
          result_beginEntry, CsvEntry.ofValue]
        rfl
      rw [run, result_bind, hlast, entry]
      cases h : CsvDocument.fill start fields with
      | ok filled =>
        obtain rfl := hfilled filled h
        exact .inl ⟨last, rfl, rfl⟩
      | error fault => exact .inr ⟨fault, rfl, .inr ⟨last, rfl⟩⟩
    · let fault : Fault := .report (.cardinality w.headers.length fields.length "Object")
      refine .inr ⟨fault, ?_, .inl ?_⟩
      · simp only [CsvEntry.ofObject, ne_eq, count, not_false_eq_true, if_true, fault]
      · simp only [addObject, result_bind, result_get, ne_eq, count, not_false_eq_true, if_true,
          result_throw, fault]
  | _ => exact .inr ⟨_, rfl, .inl rfl⟩

end CsvWorkspace

end RaggedTables
