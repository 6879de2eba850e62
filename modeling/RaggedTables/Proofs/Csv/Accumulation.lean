import Mathlib.Data.List.TakeWhile
import RaggedTables.Proofs.Csv.Alignment

/-! Values added to an entry one after the other. Each call changes the one cell that stands under
its header, so what a cell comes to is told by what it held and by the values added under its
header, in order: as long as nothing counts the latest value stands, and from the first value that
counts on all are kept. -/

namespace RaggedTables

/-- Only a text equals a text. -/
theorem Value.beq_text_iff {v : Value} {s : String} : (v == .text s) = true ↔ v = .text s := by
  show same v (.text s) = true ↔ _
  cases v <;> simp [same, worth?]

theorem Value.text_beq_iff {v : Value} {s : String} : (.text s == v) = true ↔ .text s = v := by
  show same (.text s) v = true ↔ _
  cases v <;> simp [same, worth?]

namespace CsvEntry

/-- Adds values, each under a header, one after the other. -/
def addAll (entry : CsvEntry) : List (Value × Value) → Except Fault CsvEntry
  | [] => .ok entry
  | (header, v) :: rest => do addAll (← entry.add header v) rest

/-- An entry takes a value that is no mapping under a header that it has. -/
structure Admits (entry : CsvEntry) (call : Value × Value) : Prop where
  known : ∃ i, entry.indexOf call.1 = .ok i
  plain : ∀ fields, call.2 ≠ .map fields

/-- The values that calls add in a place, in order. -/
def valuesAt (entry : CsvEntry) (i : Nat) (calls : List (Value × Value)) : List Value :=
  (calls.filter fun call => (entry.indexOf call.1).toOption = some i).map Prod.snd

/-- What a cell comes to whose values, the one it held first among them, are those of the list. -/
inductive Accumulates : List Value → Value → Prop
  /-- Values that count as nothing give way to the one after them. -/
  | latest {earlier v} (empty : ∀ w ∈ earlier, w.isEmpty = true) : Accumulates (earlier ++ [v]) v
  /-- Behind a list that counts all values are kept as further items of it. -/
  | listed {earlier items later} (empty : ∀ w ∈ earlier, w.isEmpty = true)
      (counts : items ≠ []) (more : later ≠ []) :
      Accumulates (earlier ++ .list items :: later) (.list (items ++ later))
  /-- Behind any other value that counts all values are kept, and it becomes the first of them. -/
  | several {earlier w later} (empty : ∀ w ∈ earlier, w.isEmpty = true)
      (counts : w.isEmpty = false) (single : ∀ items, w ≠ .list items) (more : later ≠ []) :
      Accumulates (earlier ++ w :: later) (.list (w :: later))

/-! ### One cell -/

@[simp] theorem extended_of_empty {cell : Value} (h : cell.isEmpty = true) (v : Value) :
    extended cell v = v := by
  unfold extended
  rw [if_pos h]

theorem extended_list {items : List Value} (h : items ≠ []) (v : Value) :
    extended (.list items) v = .list (items ++ [v]) := by
  unfold extended
  rw [if_neg (by simpa [Value.isEmpty] using h)]

theorem extended_single {w : Value} (counts : w.isEmpty = false)
    (single : ∀ items, w ≠ .list items) (v : Value) : extended w v = .list [w, v] := by
  unfold extended
  rw [if_neg (by simp [counts])]
  split
  · exact absurd rfl (single _)
  · rfl

/-- Values that count as nothing leave no trace behind the value after them. -/
theorem foldl_extended_of_empty {earlier : List Value} (empty : ∀ w ∈ earlier, w.isEmpty = true)
    {cell : Value} (h : cell.isEmpty = true) (w : Value) (later : List Value) :
    (earlier ++ w :: later).foldl extended cell = later.foldl extended w := by
  induction earlier generalizing cell with
  | nil => simp [h]
  | cons first earlier ih =>
    rw [List.cons_append, List.foldl_cons, extended_of_empty h]
    exact ih (fun v hv => empty v (List.mem_cons_of_mem _ hv)) (empty first List.mem_cons_self)

theorem foldl_extended_list {items : List Value} (h : items ≠ []) (later : List Value) :
    later.foldl extended (.list items) = .list (items ++ later) := by
  induction later generalizing items with
  | nil => simp
  | cons v later ih =>
    rw [List.foldl_cons, extended_list h, ih (by simp), List.append_assoc, List.singleton_append]

/-- Adding the values one after the other to an empty cell. -/
theorem Accumulates.foldl_eq {values : List Value} {last : Value} (h : Accumulates values last) :
    values.foldl extended .null = last := by
  cases h with
  | latest empty => exact foldl_extended_of_empty empty rfl _ _
  | listed empty counts _ =>
    rw [foldl_extended_of_empty empty rfl]
    exact foldl_extended_list counts _
  | @several earlier w later empty counts single more =>
    obtain ⟨v, later, rfl⟩ := List.exists_cons_of_ne_nil more
    rw [foldl_extended_of_empty empty rfl, List.foldl_cons, extended_single counts single]
    exact foldl_extended_list (by simp) _

theorem exists_accumulates {values : List Value} (some : values ≠ []) :
    ∃ last, Accumulates values last := by
  have empty : ∀ w ∈ values.takeWhile Value.isEmpty, w.isEmpty = true :=
    fun w hw => List.mem_takeWhile_imp hw
  have split := List.takeWhile_append_dropWhile (p := Value.isEmpty) (l := values)
  cases hrest : values.dropWhile Value.isEmpty with
  | nil =>
    rw [hrest, List.append_nil] at split
    rw [split] at empty
    rw [← List.dropLast_concat_getLast some]
    exact ⟨_, .latest fun w hw => empty w (List.dropLast_subset _ hw)⟩
  | cons w later =>
    have counts : w.isEmpty = false := by
      have head := List.head?_dropWhile_not Value.isEmpty values
      simpa [hrest] using head
    rw [hrest] at split
    rw [← split]
    by_cases more : later = []
    · exact ⟨w, more ▸ .latest empty⟩
    · cases w with
      | list items => exact ⟨_, .listed empty (by simpa [Value.isEmpty] using counts) more⟩
      | _ => exact ⟨_, .several empty counts (by simp) more⟩

/-- What a cell comes to is what adding the values one after the other makes of it. -/
theorem accumulates_iff {cell last : Value} {values : List Value} :
    Accumulates (cell :: values) last ↔ values.foldl extended cell = last := by
  constructor
  · intro h
    have same := h.foldl_eq
    rwa [List.foldl_cons, extended_of_empty rfl] at same
  · rintro rfl
    obtain ⟨last, h⟩ := exists_accumulates (List.cons_ne_nil cell values)
    have same := h.foldl_eq
    rw [List.foldl_cons, extended_of_empty rfl] at same
    exact same ▸ h

/-! ### Places -/

section Places

variable {entry : CsvEntry}

theorem toOption_indexOf (entry : CsvEntry) (header : Value) :
    (entry.indexOf header).toOption = entry.headers.findIdx? fun h => h == header := by
  unfold indexOf
  cases entry.headers.findIdx? fun h => h == header <;> rfl

theorem indexOf_congr {other : CsvEntry} (h : other.headers = entry.headers) (header : Value) :
    other.indexOf header = entry.indexOf header := by
  unfold indexOf
  rw [h]

theorem indexOf_iff {header : Value} {i : Nat} :
    entry.indexOf header = .ok i ↔ (entry.indexOf header).toOption = some i := by
  cases entry.indexOf header <;> simp [Except.toOption]

theorem lt_of_indexOf {header : Value} {i : Nat} (h : entry.indexOf header = .ok i) :
    i < entry.headers.length := by
  rw [indexOf_iff, toOption_indexOf, List.findIdx?_eq_some_iff_getElem] at h
  exact h.1

/-- In the place of a text stands that text. -/
theorem header_of_indexOf {name : String} {i : Nat} (h : entry.indexOf (.text name) = .ok i) :
    entry.headers[i]? = some (.text name) := by
  rw [indexOf_iff, toOption_indexOf, List.findIdx?_eq_some_iff_getElem] at h
  obtain ⟨hlt, heq, -⟩ := h
  rw [List.getElem?_eq_getElem hlt, Value.beq_text_iff.mp heq]

/-- What is added in the place of a text is what is added under that text. -/
theorem valuesAt_text {name : String} {i : Nat} (h : entry.indexOf (.text name) = .ok i)
    (calls : List (Value × Value)) :
    entry.valuesAt i calls = (calls.filter fun call => call.1 == .text name).map Prod.snd := by
  unfold valuesAt
  congr 1
  apply List.filter_congr
  intro call _
  rw [Bool.eq_iff_iff, decide_eq_true_iff, ← indexOf_iff, Value.beq_text_iff]
  constructor
  · intro hcall
    have place := header_of_indexOf h
    rw [indexOf_iff, toOption_indexOf, List.findIdx?_eq_some_iff_getElem] at hcall
    obtain ⟨hlt, heq, -⟩ := hcall
    rw [List.getElem?_eq_getElem hlt] at place
    rw [Option.some.inj place] at heq
    exact (Value.text_beq_iff.mp heq).symm
  · intro hcall
    rw [hcall]
    exact h

theorem get_eq {header : Value} {i : Nat} {cell : Value} (h : entry.indexOf header = .ok i)
    (place : entry.cells[i]? = some cell) : entry.get header = .ok cell := by
  unfold get
  rw [h, ok_bind, place]
  rfl

end Places

/-! ### Calls one after the other -/

section Calls

variable {entry : CsvEntry} {calls : List (Value × Value)}

/-- A value that is no mapping goes into the cell under its header. -/
theorem add_of_plain {header v : Value} {i : Nat} (h : entry.indexOf header = .ok i)
    (plain : ∀ fields, v ≠ .map fields) :
    entry.add header v =
      .ok { entry with cells := entry.cells.modify i fun cell => extended cell v } := by
  unfold add
  split
  · exact absurd rfl (plain _)
  · rw [h, ok_bind]
    rfl

theorem valuesAt_cons (entry : CsvEntry) (i : Nat) (call : Value × Value)
    (calls : List (Value × Value)) :
    entry.valuesAt i (call :: calls) =
      if (entry.indexOf call.1).toOption = some i then call.2 :: entry.valuesAt i calls
      else entry.valuesAt i calls := by
  unfold valuesAt
  rw [List.filter_cons]
  split <;> simp_all

theorem valuesAt_append (entry : CsvEntry) (i : Nat) (calls more : List (Value × Value)) :
    entry.valuesAt i (calls ++ more) = entry.valuesAt i calls ++ entry.valuesAt i more := by
  simp [valuesAt]

/-- Calls change every cell by the values that they add in its place, and nothing else. -/
theorem addAll_spec (fit : ∀ call ∈ calls, entry.Admits call) :
    ∃ final, entry.addAll calls = .ok final ∧ final.headers = entry.headers ∧
      ∀ i, final.cells[i]? =
        entry.cells[i]?.map fun cell => (entry.valuesAt i calls).foldl extended cell := by
  induction calls generalizing entry with
  | nil => exact ⟨entry, rfl, rfl, fun i => by simp [valuesAt]⟩
  | cons call calls ih =>
    obtain ⟨i, hi⟩ := (fit call List.mem_cons_self).known
    let next : CsvEntry :=
      { entry with cells := entry.cells.modify i fun cell => extended cell call.2 }
    have step : entry.add call.1 call.2 = .ok next :=
      add_of_plain hi (fit call List.mem_cons_self).plain
    have same (header : Value) : next.indexOf header = entry.indexOf header :=
      indexOf_congr rfl header
    have rest : ∀ other ∈ calls, next.Admits other := fun other hother =>
      ⟨by simpa only [same] using (fit other (List.mem_cons_of_mem _ hother)).known,
        (fit other (List.mem_cons_of_mem _ hother)).plain⟩
    obtain ⟨final, hfinal, headers, cells⟩ := ih rest
    refine ⟨final, by rw [addAll, step, ok_bind, hfinal], headers, fun j => ?_⟩
    have values : next.valuesAt j calls = entry.valuesAt j calls := by simp only [valuesAt, same]
    rw [cells, values, valuesAt_cons, indexOf_iff.mp hi, List.getElem?_modify]
    by_cases hj : i = j
    · simp [hj, Function.comp_def]
    · simp [hj]

/-- Calls that add the same values in every place come to the same entry. -/
theorem addAll_congr {others : List (Value × Value)} (fit : ∀ call ∈ calls, entry.Admits call)
    (fit' : ∀ call ∈ others, entry.Admits call)
    (same : ∀ i, entry.valuesAt i others = entry.valuesAt i calls) :
    entry.addAll others = entry.addAll calls := by
  obtain ⟨⟨headers, cells⟩, hfinal, rfl, hcells⟩ := addAll_spec fit
  obtain ⟨⟨headers', cells'⟩, hfinal', rfl, hcells'⟩ := addAll_spec fit'
  obtain rfl : cells' = cells := List.ext_getElem? fun i => by rw [hcells, hcells', same]
  rw [hfinal, hfinal']

/-- Two calls in a row in different places can change their order. -/
theorem valuesAt_swap {a b : Value × Value} (apart : entry.indexOf a.1 ≠ entry.indexOf b.1)
    (ha : entry.Admits a) (before after : List (Value × Value)) (i : Nat) :
    entry.valuesAt i (before ++ b :: a :: after) =
      entry.valuesAt i (before ++ a :: b :: after) := by
  obtain ⟨j, hj⟩ := ha.known
  have other : (entry.indexOf a.1).toOption = some i → (entry.indexOf b.1).toOption ≠ some i := by
    intro h h'
    exact apart ((indexOf_iff.mpr h).trans (indexOf_iff.mpr h').symm)
  simp only [valuesAt_append, valuesAt_cons]
  split <;> split <;> simp_all

end Calls

/-- Adding values that are no mappings under headers of an entry always succeeds. The cell under a
header comes to what the cell there and the values added under that header accumulate to, and to
nothing else; so calls that add the same values in every place come to the same entry, and two calls
in a row under headers in different places can change their order. -/
theorem addAll_accumulates {entry : CsvEntry} {calls : List (Value × Value)}
    (aligned : entry.cells.length = entry.headers.length)
    (fit : ∀ call ∈ calls, entry.Admits call) :
    ∃ final, entry.addAll calls = .ok final ∧ final.headers = entry.headers ∧
      (∀ header i, entry.indexOf header = .ok i → ∃ cell last,
        entry.get header = .ok cell ∧ final.get header = .ok last ∧
        ∀ v, Accumulates (cell :: entry.valuesAt i calls) v ↔ v = last) ∧
      (∀ name i, entry.indexOf (.text name) = .ok i →
        entry.valuesAt i calls = (calls.filter fun call => call.1 == .text name).map Prod.snd) ∧
      (∀ others, (∀ call ∈ others, entry.Admits call) →
        (∀ i, entry.valuesAt i others = entry.valuesAt i calls) →
        entry.addAll others = .ok final) ∧
      ∀ before a b after, calls = before ++ a :: b :: after →
        entry.indexOf a.1 ≠ entry.indexOf b.1 →
        entry.addAll (before ++ b :: a :: after) = .ok final := by
  obtain ⟨final, hfinal, headers, cells⟩ := addAll_spec fit
  refine ⟨final, hfinal, headers, fun header i hi => ?_, fun name i hi => valuesAt_text hi calls,
    fun others fit' same => (addAll_congr fit fit' same).trans hfinal, ?_⟩
  · have bound : i < entry.cells.length := aligned ▸ lt_of_indexOf hi
    have place := List.getElem?_eq_getElem bound
    have place' := cells i
    rw [place, Option.map_some] at place'
    refine ⟨_, _, get_eq hi place, get_eq ((indexOf_congr headers header).trans hi) place',
      fun v => ?_⟩
    rw [accumulates_iff, eq_comm]
  · rintro before a b after rfl apart
    have ha : entry.Admits a := fit a (by simp)
    refine (addAll_congr fit (fun call hcall => fit call ?_)
      (valuesAt_swap apart ha before after)).trans hfinal
    simpa [or_left_comm] using hcall

/-- Values for two headers in turn, some of which count as nothing. The first cell holds a zero and
comes to hold several values behind a tuple; the second holds a list already. -/
theorem addAll_accumulates_interleaved :
    let entry : CsvEntry := ⟨[.text "a", .text "b"], [.int 0, .list [.text "x"]]⟩
    let calls : List (Value × Value) := [(.text "a", .text ""), (.text "b", .null),
      (.text "a", .tuple [.int 1]), (.text "a", .bool false), (.text "b", .text "y")]
    entry.cells.length = entry.headers.length ∧ (∀ call ∈ calls, entry.Admits call) ∧
      ∃ final, entry.addAll calls = .ok final ∧
        final.cells = [.list [.tuple [.int 1], .bool false], .list [.text "x", .null, .text "y"]] ∧
        ∀ header i, entry.indexOf header = .ok i → ∃ cell last,
          entry.get header = .ok cell ∧ final.get header = .ok last ∧
          ∀ v, Accumulates (cell :: entry.valuesAt i calls) v ↔ v = last := by
  intro entry calls
  have known : ∀ call ∈ calls, entry.Admits call := by
    have first : entry.indexOf (.text "a") = .ok 0 := rfl
    have second : entry.indexOf (.text "b") = .ok 1 := rfl
    simp only [calls, List.forall_mem_cons, List.not_mem_nil, false_imp_iff, implies_true, and_true]
    exact ⟨⟨⟨0, first⟩, nofun⟩, ⟨⟨1, second⟩, nofun⟩, ⟨⟨0, first⟩, nofun⟩, ⟨⟨0, first⟩, nofun⟩,
      ⟨⟨1, second⟩, nofun⟩⟩
  have aligned : entry.cells.length = entry.headers.length := rfl
  obtain ⟨final, hfinal, -, cells, -⟩ := addAll_accumulates aligned known
  have run : entry.addAll calls = .ok ⟨entry.headers,
      [.list [.tuple [.int 1], .bool false], .list [.text "x", .null, .text "y"]]⟩ := rfl
  obtain rfl := Except.ok.inj (run.symm.trans hfinal)
  exact ⟨aligned, known, _, hfinal, rfl, cells⟩

end CsvEntry

end RaggedTables
