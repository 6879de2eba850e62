import RaggedTables.Proofs.Csv.Accumulation

/-! One more value under a header. A value that counts is added below those that count in the column
of its header, the other columns keep theirs, and the entry grows by one row at most. That is so for
every cell but one: a tuple has as many values as items in the rows, but it becomes the first item
of a list, and so a single value, when something is added to it. -/

namespace RaggedTables.CsvEntry

/-- Entries that were made from cells, and those that come of adding to them. -/
inductive Built : CsvEntry → Prop
  | new {headers data entry} (h : ofValue headers data = .ok entry) : Built entry
  | add {entry header v next} (built : Built entry) (h : entry.add header v = .ok next) : Built next

theorem Built.aligned {entry : CsvEntry} (built : entry.Built) :
    entry.AlignedWith entry.headers := by
  induction built with
  | new h =>
    have aligned := AlignedWith.ofValue h
    exact aligned.headers.symm ▸ aligned
  | add _ h ih =>
    have aligned := ih.add h
    exact aligned.headers.symm ▸ aligned

/-- The values that count in column `k`, from the top. -/
def present (k : Nat) (rows : List (List Value)) : List Value :=
  (columnAt k rows).filter Value.isTruthy

/-! ### One cell -/

theorem values_of_empty {cell : Value} (h : cell.isEmpty = true) :
    (valuesOf cell).filter Value.isTruthy = [] := by
  cases cell with
  | list items | tuple items =>
    obtain rfl : items = [] := by simpa [Value.isEmpty] using h
    rfl
  | _ => simp [valuesOf, Value.several?, Value.isTruthy, h]

/-- A value that is added stands below the others of its cell, unless the cell is a tuple. -/
theorem values_extended {cell v : Value} (scalar : v.IsScalar) (counts : v.isEmpty = false)
    (single : ∀ items, cell = .tuple items → items = []) :
    (valuesOf (extended cell v)).filter Value.isTruthy =
      (valuesOf cell).filter Value.isTruthy ++ [v] := by
  have own : (valuesOf v).filter Value.isTruthy = [v] := by
    simp [valuesOf, scalar.several?, Value.isTruthy, counts]
  cases h : cell.isEmpty with
  | true => rw [extended_of_empty h, own, values_of_empty h, List.nil_append]
  | false =>
    cases cell with
    | list items =>
      have some : items ≠ [] := by simpa [Value.isEmpty] using h
      rw [extended_list some]
      simp [valuesOf, Value.several?, Value.isTruthy, counts]
    | tuple items =>
      rw [single items rfl] at h
      cases h
    | _ =>
      rw [extended_single h (by simp)]
      simp [valuesOf, Value.several?, Value.isTruthy, counts, h]

/-- A tuple that counts is itself the value above the one that is added. -/
theorem values_extended_tuple {items : List Value} {v : Value} (some : items ≠ [])
    (counts : v.isEmpty = false) :
    (valuesOf (extended (.tuple items) v)).filter Value.isTruthy = [.tuple items, v] := by
  have full : (Value.tuple items).isEmpty = false := by simpa [Value.isEmpty] using some
  rw [extended_single full (by simp)]
  simp [valuesOf, Value.several?, Value.isTruthy, full, counts]

theorem tuple_not_mem (items : List Value) : Value.tuple items ∉ items := by
  intro mem
  have smaller := List.sizeOf_lt_of_mem mem
  rw [Value.tuple.sizeOf_spec] at smaller
  omega

theorem several_extended_le {cell v : Value} (scalar : v.IsScalar) {bound : Nat} (pos : 1 ≤ bound)
    (room : several cell ≤ bound) : several (extended cell v) ≤ bound + 1 := by
  have two : 2 ≤ bound + 1 := Nat.succ_le_succ pos
  cases h : cell.isEmpty with
  | true => simp [extended_of_empty h, several, scalar.several?]
  | false =>
    cases cell with
    | list items =>
      have some : items ≠ [] := by simpa [Value.isEmpty] using h
      rw [extended_list some]
      simpa [several, Value.several?] using room
    | _ =>
      rw [extended_single h (by simp)]
      exact two

/-! ### One entry -/

section Add

variable {entry : CsvEntry} {header v : Value} {i : Nat}

theorem height_modify_le (cells : List Value) (i : Nat) (scalar : v.IsScalar) :
    height (cells.modify i fun cell => extended cell v) ≤ height cells + 1 := by
  refine height_le_iff.mpr ⟨Nat.le_add_left 1 _, fun other mem => ?_⟩
  obtain ⟨k, hk⟩ := List.mem_iff_getElem?.mp mem
  rw [List.getElem?_modify, Option.map_eq_map, Option.map_eq_some_iff] at hk
  obtain ⟨cell, found, rfl⟩ := hk
  have room := several_le_height (List.mem_of_getElem? found)
  split
  · exact several_extended_le scalar one_le_height room
  · exact Nat.le_succ_of_le room

/-- Adding changes what counts in the one column of its header, from the values of the cell to those
of the cell with the value added. -/
theorem present_add (built : entry.Built) (known : entry.indexOf header = .ok i)
    (scalar : v.IsScalar) :
    ∃ next rows after cell, entry.add header v = .ok next ∧ entry.get header = .ok cell ∧
      entry.outputRows.outcome = .ok rows ∧ next.outputRows.outcome = .ok after ∧
      after.length ≤ rows.length + 1 ∧
      (∀ k < entry.headers.length, k ≠ i → present k after = present k rows) ∧
      present i rows = (valuesOf cell).filter Value.isTruthy ∧
      present i after = (valuesOf (extended cell v)).filter Value.isTruthy := by
  have length := built.aligned.cells
  have added := add_of_plain known scalar.ne_map
  obtain ⟨rows, expanded, block⟩ := expand_spec length
  obtain ⟨after, expanded', block'⟩ := expand_spec ((Built.add built added).aligned.cells)
  have bound : i < entry.cells.length := length ▸ lt_of_indexOf known
  have place := List.getElem?_eq_getElem bound
  refine ⟨_, rows, after, _, added, get_eq known place, ?_, ?_, ?_, fun k hk apart => ?_,
    block.column i _ place, block'.column i _ ?_⟩
  · rw [outputRows, Traced.outcome_call, Traced.outcome_lift, expanded]
  · rw [outputRows, Traced.outcome_call, Traced.outcome_lift, expanded']
  · rw [block.height, block'.height]
    exact height_modify_le entry.cells i scalar
  · have other := List.getElem?_eq_getElem (length ▸ hk)
    rw [present, present, block.column k _ other]
    refine block'.column k _ ?_
    simp [other, apart.symm]
  · simp [place]

end Add

/-- A scalar that counts, added under a header, stands below the values that counted in its column
before exactly if the cell there is no tuple with items; the other columns keep the values that
count, and there is one more row at most. A tuple with items stands as one value above the one that
is added. -/
theorem add_appends {entry : CsvEntry} (built : entry.Built) {header v : Value} {i : Nat}
    (known : entry.indexOf header = .ok i) (scalar : v.IsScalar) (counts : v.isEmpty = false) :
    ∃ next rows after cell, entry.add header v = .ok next ∧ entry.get header = .ok cell ∧
      entry.outputRows.outcome = .ok rows ∧ next.outputRows.outcome = .ok after ∧
      after.length ≤ rows.length + 1 ∧
      (∀ k < entry.headers.length, k ≠ i → present k after = present k rows) ∧
      (present i after = present i rows ++ [v] ↔ ∀ items, cell = .tuple items → items = []) ∧
      ∀ items, cell = .tuple items → items ≠ [] → present i after = [cell, v] := by
  obtain ⟨next, rows, after, cell, added, got, shown, shown', height, others, before, own⟩ :=
    present_add built known scalar
  refine ⟨next, rows, after, cell, added, got, shown, shown', height, others,
    ⟨?_, fun single => ?_⟩, ?_⟩
  · rintro appended items rfl
    by_contra some
    rw [own, before, values_extended_tuple some counts] at appended
    have same : [.tuple items] = items.filter Value.isTruthy := List.append_cancel_right appended
    have mem : Value.tuple items ∈ items.filter Value.isTruthy := same ▸ List.mem_singleton_self _
    exact tuple_not_mem items (List.mem_filter.mp mem).1
  · rw [own, before, values_extended scalar counts single]
  · rintro items rfl some
    rw [own, values_extended_tuple some counts]

/-- A list that holds a zero, beside a tuple: the zero gives way in the rows, and the tuple keeps
its two. -/
theorem add_appends_listed :
    let entry : CsvEntry := ⟨[.text "a", .text "b"],
      [.list [.text "x", .int 0], .tuple [.text "p", .text "q"]]⟩
    entry.Built ∧ entry.indexOf (.text "a") = .ok 0 ∧ (Value.text "z").IsScalar ∧
      (Value.text "z").isEmpty = false ∧
      ∃ next rows after, entry.add (.text "a") (.text "z") = .ok next ∧
        entry.outputRows.outcome = .ok rows ∧ next.outputRows.outcome = .ok after ∧
        present 0 after = present 0 rows ++ [.text "z"] ∧ present 1 after = present 1 rows := by
  intro entry
  have built : entry.Built :=
    .new (show ofValue entry.headers (.list entry.cells) = .ok entry from rfl)
  have known : entry.indexOf (.text "a") = .ok 0 := rfl
  obtain ⟨next, rows, after, cell, added, got, shown, shown', -, others, appended, -⟩ :=
    add_appends built known (v := .text "z") trivial rfl
  obtain rfl : .list [.text "x", .int 0] = cell := Except.ok.inj got
  exact ⟨built, known, trivial, rfl, next, rows, after, added, shown, shown', appended.mpr nofun,
    others 1 (by decide) (by decide)⟩

/-- A text that is added behind a tuple leaves two values in the column, where there should be
three. -/
theorem not_appended_behind_tuple :
    ¬∀ (entry next : CsvEntry) header v i rows after, entry.Built → entry.indexOf header = .ok i →
      v.IsScalar → v.isEmpty = false → entry.add header v = .ok next →
      entry.outputRows.outcome = .ok rows → next.outputRows.outcome = .ok after →
      present i after = present i rows ++ [v] := by
  intro appends
  let pair : Value := .tuple [.text "x", .text "y"]
  have built : Built ⟨[.text "a"], [pair]⟩ :=
    .new (show ofValue [.text "a"] (.list [pair]) = .ok ⟨[.text "a"], [pair]⟩ from rfl)
  have appended :=
    appends ⟨[.text "a"], [pair]⟩ ⟨[.text "a"], [.list [pair, .text "z"]]⟩ (.text "a")
    (.text "z") 0 [[.text "x"], [.text "y"]] [[pair], [.text "z"]] built rfl trivial rfl rfl rfl rfl
  exact absurd (congrArg List.length appended) (by decide)

end RaggedTables.CsvEntry
