import RaggedTables.Proofs.Fields
import RaggedTables.Proofs.Outcome
import RaggedTables.Record.Assembly

/-! The fields of an assembled record. Its keys are the names of the columns in their order, each
where it is first named, and under a key stands what the last place with that name gives. So the
keys depend on the headers and on the number of cells, and on nothing in the cells. -/

namespace RaggedTables.Record

/-- The names of a column, none if it is skipped. -/
def namesOf (header? : Option Header) : List String := (header?.map Header.names).getD []

/-- The names of the columns that are not skipped, one header's names after the other's. -/
def columnNames (headers : List (Option Header)) : List String := headers.flatMap namesOf

@[simp] theorem columnNames_nil : columnNames [] = [] := rfl

@[simp] theorem columnNames_cons (header? : Option Header) (headers : List (Option Header)) :
    columnNames (header? :: headers) = namesOf header? ++ columnNames headers := rfl

/-! ### What one column gives -/

/-- What a header gives to its name number `i` from a cell. -/
inductive Gives (cell : Value) : Header → Nat → Value → Prop
  /-- The cell itself. -/
  | norm {name mapping} : Gives cell (.norm name mapping) 0 cell
  /-- The first group of the match. -/
  | transform {name pattern mapping s group} (text : cell = .text s)
      (found : pattern.search s = some group) :
      Gives cell (.transform name pattern mapping) 0 (Report.optionalText (groupOf pattern group 1))
  /-- The group with the number of the name, names and groups counted from one. -/
  | spread {names pattern mapping i s group} (text : cell = .text s)
      (found : pattern.search s = some group) :
      Gives cell (.multi names pattern mapping) i
        (Report.optionalText (groupOf pattern group (i + 1)))
  /-- No value, as the cell is no text or does not match. -/
  | unmatched {names pattern mapping i} (missed : ∀ s, cell = .text s → pattern.search s = none) :
      Gives cell (.multi names pattern mapping) i .null
  /-- The pieces of the cell or their mapping. -/
  | split {name delimiter mapping v} (cut : splitCell cell delimiter mapping = .ok v) :
      Gives cell (.split name delimiter mapping) 0 v

theorem searchCell_eq_some {pattern : Pattern} {cell : Value} {group : Nat → Option String}
    (h : searchCell pattern cell = some group) :
    ∃ s, cell = .text s ∧ pattern.search s = some group := by
  cases cell with
  | text s => exact ⟨s, rfl, h⟩
  | _ => simp [searchCell] at h

theorem searchCell_eq_none {pattern : Pattern} {cell : Value}
    (h : searchCell pattern cell = none) : ∀ s, cell = .text s → pattern.search s = none := by
  rintro s rfl
  exact h

theorem transformCell_eq_ok {cell v : Value} {header : Header} {pattern : Pattern} {column : Nat}
    (h : transformCell cell header pattern column = .ok v) :
    ∃ s group, cell = .text s ∧ pattern.search s = some group ∧
      v = Report.optionalText (groupOf pattern group 1) := by
  unfold transformCell at h
  split at h
  · cases h
  · next group hs =>
    obtain ⟨s, rfl, found⟩ := searchCell_eq_some hs
    exact ⟨s, group, rfl, found, (Except.ok.inj h).symm⟩

/-- A spread writes its names in order, to each what the header gives it. -/
theorem spreadCell_spec (cell : Value) (names : List String) (pattern : Pattern)
    (mapping : Option Pattern) :
    (spreadCell cell names pattern).map Prod.fst = names ∧
      ∀ i name v, (spreadCell cell names pattern)[i]? = some (name, v) →
        Gives cell (.multi names pattern mapping) i v := by
  unfold spreadCell
  cases h : searchCell pattern cell with
  | none =>
    refine ⟨by simp [Function.comp_def], fun i name v hi => ?_⟩
    simp only [List.getElem?_map, Option.map_eq_some_iff, Prod.mk.injEq] at hi
    obtain ⟨_, _, _, rfl⟩ := hi
    exact .unmatched (searchCell_eq_none h)
  | some group =>
    obtain ⟨s, rfl, found⟩ := searchCell_eq_some h
    refine ⟨List.ext_getElem? fun i => by simp [Function.comp_def], fun i name v hi => ?_⟩
    simp only [List.getElem?_mapIdx, Option.map_eq_some_iff, Prod.mk.injEq] at hi
    obtain ⟨_, _, _, rfl⟩ := hi
    exact .spread rfl found

theorem single_spec {cell v : Value} {header : Header} {name : String}
    (names : header.names = [name]) (gives : Gives cell header 0 v) :
    [(name, v)].map Prod.fst = header.names ∧
      ∀ i key w, [(name, v)][i]? = some (key, w) → Gives cell header i w := by
  refine ⟨by simp [names], fun i key w hi => ?_⟩
  cases i with
  | zero =>
    obtain ⟨rfl, rfl⟩ : name = key ∧ v = w := by simpa using hi
    exact gives
  | succ i => simp at hi

/-- The fields of a cell are the header's names in order, each with what the header gives it. -/
theorem cellFields_spec {cell : Value} {header : Header} {column : Nat}
    {fields : List (String × Value)} (h : cellFields cell header column = .ok fields) :
    fields.map Prod.fst = header.names ∧
      ∀ i name v, fields[i]? = some (name, v) → Gives cell header i v := by
  cases header with
  | norm name mapping =>
    obtain rfl : [(name, cell)] = fields := by simpa [cellFields] using h
    exact single_spec rfl .norm
  | transform name pattern mapping =>
    obtain ⟨v, hv, h⟩ := bind_eq_ok.mp h
    obtain rfl := Except.ok.inj h
    obtain ⟨s, group, rfl, found, rfl⟩ := transformCell_eq_ok hv
    exact single_spec rfl (.transform rfl found)
  | multi names pattern mapping =>
    obtain rfl : spreadCell cell names pattern = fields := by simpa [cellFields] using h
    exact spreadCell_spec cell names pattern mapping
  | split name delimiter mapping =>
    obtain ⟨v, hv, h⟩ := bind_eq_ok.mp h
    obtain rfl := Except.ok.inj h
    exact single_spec rfl (.split hv)

/-! ### What all columns give -/

/-- Name number `i` of column `c` is `key`, and the row has a cell for the column. -/
def NamedAt (cells : List Value) (headers : List (Option Header)) (key : String) (c i : Nat) :
    Prop :=
  ∃ cell header, cells[c]? = some cell ∧ headers[c]? = some (some header) ∧
    header.names[i]? = some key

/-- Column `c` gives `v` to its name number `i`, which is `key`. -/
def GivenAt (cells : List Value) (headers : List (Option Header)) (key : String) (c i : Nat)
    (v : Value) : Prop :=
  ∃ cell header, cells[c]? = some cell ∧ headers[c]? = some (some header) ∧
    header.names[i]? = some key ∧ Gives cell header i v

/-- `v` is given at the last place named `key`: the last such column, and in it the last such name.
-/
def LastGiven (cells : List Value) (headers : List (Option Header)) (key : String) (v : Value) :
    Prop :=
  ∃ c i, GivenAt cells headers key c i v ∧
    ∀ c' i', NamedAt cells headers key c' i' → c' < c ∨ c' = c ∧ i' ≤ i

section Cons

variable {cell : Value} {cells : List Value} {header? : Option Header}
  {headers : List (Option Header)} {key : String} {v : Value}

theorem LastGiven.cons (h : LastGiven cells headers key v) :
    LastGiven (cell :: cells) (header? :: headers) key v := by
  obtain ⟨c, i, given, last⟩ := h
  refine ⟨c + 1, i, by simpa [GivenAt] using given, fun c' i' named => ?_⟩
  cases c' with
  | zero => exact .inl (Nat.succ_pos c)
  | succ c' =>
    rcases last c' i' (by simpa [NamedAt] using named) with hc | ⟨rfl, hi⟩
    · exact .inl (Nat.succ_lt_succ hc)
    · exact .inr ⟨rfl, hi⟩

/-- No later column has the key, so the last place is in the front one. -/
theorem LastGiven.head {header : Header} {i : Nat} (name : header.names[i]? = some key)
    (gives : Gives cell header i v) (last : ∀ j, header.names[j]? = some key → j ≤ i)
    (later : ∀ c j, ¬NamedAt cells headers key c j) :
    LastGiven (cell :: cells) (some header :: headers) key v := by
  refine ⟨0, i, ⟨cell, header, rfl, rfl, name, gives⟩, fun c' i' named => ?_⟩
  cases c' with
  | zero =>
    obtain ⟨_, header', _, hh, hn⟩ := named
    obtain rfl : header = header' := by simpa using hh
    exact .inr ⟨rfl, last i' hn⟩
  | succ c' => exact absurd (by simpa [NamedAt] using named) (later c' i')

theorem not_namedAt_cons (front : key ∉ namesOf header?)
    (later : ∀ c j, ¬NamedAt cells headers key c j) (c j : Nat) :
    ¬NamedAt (cell :: cells) (header? :: headers) key c j := by
  rintro ⟨cell', header, hc, hh, hn⟩
  cases c with
  | zero =>
    obtain rfl : header? = some header := by simpa using hh
    exact front (List.mem_of_getElem? hn)
  | succ c => exact later c j ⟨cell', header, by simpa using hc, by simpa using hh, hn⟩

/-- The first step of assembling writes the fields of the front column, none if it is skipped. -/
theorem assembleFrom_cons {column : Nat} {record result : Record}
    (h : assembleFrom column record (cell :: cells) (header? :: headers) = .ok result) :
    ∃ fields, fields.map Prod.fst = namesOf header? ∧
      (∀ i name v, fields[i]? = some (name, v) →
        ∃ header, header? = some header ∧ Gives cell header i v) ∧
      assembleFrom (column + 1) (record.update fields) cells headers = .ok result := by
  cases header? with
  | none => exact ⟨[], rfl, by simp, h⟩
  | some header =>
    obtain ⟨fields, hfields, h⟩ := bind_eq_ok.mp h
    obtain ⟨names, gives⟩ := cellFields_spec hfields
    exact ⟨fields, names, fun i name v hi => ⟨header, rfl, gives i name v hi⟩, h⟩

end Cons

theorem assembleFrom_nil_right (column : Nat) (record : Record) (cells : List Value) :
    assembleFrom column record cells [] = .ok record := by
  cases cells <;> rfl

/-- From a record whose keys are the distinct ones of `names`, assembling adds the names of the
columns that have a cell. -/
theorem keys_assembleFrom {column : Nat} {record result : Record} {cells : List Value}
    {headers : List (Option Header)} {names : List String}
    (h : assembleFrom column record cells headers = .ok result)
    (keys : record.keys = names.eraseDups) :
    result.keys =
      (names ++ columnNames (headers.take (min cells.length headers.length))).eraseDups := by
  induction cells generalizing column record headers names with
  | nil =>
    obtain rfl : record = result := by simpa [assembleFrom] using h
    simpa using keys
  | cons cell cells ih =>
    cases headers with
    | nil =>
      obtain rfl : record = result := by simpa [assembleFrom_nil_right] using h
      simpa using keys
    | cons header? headers =>
      obtain ⟨fields, hnames, -, h⟩ := assembleFrom_cons h
      have hmin : min (cell :: cells).length (header? :: headers).length =
          min cells.length headers.length + 1 := by simp
      rw [hmin, List.take_succ_cons, columnNames_cons, ← List.append_assoc, ← hnames]
      exact ih h (Fields.keys_update_of_eraseDups keys fields)

/-- Assembling leaves under a key what the last place with that name gives, or what stood there if
no column has the name. -/
theorem get?_assembleFrom {column : Nat} {record result : Record} {cells : List Value}
    {headers : List (Option Header)} (key : String)
    (h : assembleFrom column record cells headers = .ok result) :
    (∃ v, LastGiven cells headers key v ∧ result.get? key = some v) ∨
      ((∀ c i, ¬NamedAt cells headers key c i) ∧ result.get? key = record.get? key) := by
  induction cells generalizing column record headers with
  | nil =>
    obtain rfl : record = result := by simpa [assembleFrom] using h
    exact .inr ⟨by simp [NamedAt], rfl⟩
  | cons cell cells ih =>
    cases headers with
    | nil =>
      obtain rfl : record = result := by simpa [assembleFrom_nil_right] using h
      exact .inr ⟨by simp [NamedAt], rfl⟩
    | cons header? headers =>
      obtain ⟨fields, hnames, hgives, h⟩ := assembleFrom_cons h
      rcases ih h with ⟨v, given, hget⟩ | ⟨later, hget⟩
      · exact .inl ⟨v, given.cons, hget⟩
      rcases Fields.get?_update record fields key with ⟨i, v, hlast, hput⟩ | ⟨hnot, hput⟩
      · obtain ⟨header, rfl, gives⟩ := hgives i key v hlast.writes
        have names : fields.map Prod.fst = header.names := hnames
        have name : header.names[i]? = some key := by
          rw [← names, List.getElem?_map, hlast.writes]
          rfl
        exact .inl ⟨v, .head name gives (names ▸ hlast.last) later, hget.trans hput⟩
      · exact .inr ⟨not_namedAt_cons (hnames ▸ hnot) later, hget.trans hput⟩

theorem keys_assemble {cells : List Value} {headers : List (Option Header)} {record : Record}
    (h : assemble cells headers = .ok record) :
    record.keys = (columnNames (headers.take (min cells.length headers.length))).eraseDups := by
  have empty : Fields.keys ([] : Record) = ([] : List String).eraseDups := rfl
  simpa using keys_assembleFrom h empty

theorem get?_assemble {cells : List Value} {headers : List (Option Header)} {record : Record}
    (h : assemble cells headers = .ok record) {key : String} (hk : key ∈ record.keys) :
    ∃ v, LastGiven cells headers key v ∧ record.get? key = some v := by
  rcases get?_assembleFrom key h with found | ⟨-, hget⟩
  · exact found
  · exact absurd hk (Fields.get?_eq_none_iff.mp hget)

/-- Assembling a row gives the names of the columns that have a cell, each where it is first named,
with what the last place of that name gives; the cells' contents play no part in the keys. -/
theorem assembleRecord_fields {cells : List Value} {headers : List (Option Header)}
    {record : Record} (h : (assembleRecord cells headers).outcome = .ok record) :
    record.keys = (columnNames (headers.take (min cells.length headers.length))).eraseDups ∧
      (∀ key ∈ record.keys, ∃ v, LastGiven cells headers key v ∧ record.get? key = some v) ∧
      ∀ (others : List Value) (other : Record), others.length = cells.length →
        (assembleRecord others headers).outcome = .ok other → other.keys = record.keys := by
  refine ⟨keys_assemble h, fun key hk => get?_assemble h hk, fun others other hlen ho => ?_⟩
  rw [keys_assemble h, keys_assemble ho, hlen]

/-- The columns `a`, one that is skipped, `b,,a,,b` with a group for two of the names, `c` and `d`.
-/
def raggedHeaders : List (Option Header) :=
  [some (.norm "a" none), none,
    some (.multi ["b", "a", "b"] ⟨"(.)(.)", { unicode := true }, 2,
      .seq (.group 1 (.any false)) (.group 2 (.any false))⟩ none),
    some (.transform "c" ⟨"(.)", { unicode := true }, 1, .group 1 (.any false)⟩ none),
    some (.norm "d" none)]

/-- A row of four cells for these columns: `a` is written a second time, the second `b` has no
group, and `d` has no cell. -/
theorem assembleRecord_fields_ragged :
    (Header.compileAll
        [some "a", none, some "b,,a,,b[[(.)(.)]]", some "c//(.)\\\\", some "d"]).toOption =
        some raggedHeaders ∧
      (assembleRecord [.text "x", .text "y", .text "uv", .text "wz"] raggedHeaders).outcome =
        .ok [("a", .text "v"), ("b", .null), ("c", .text "w")] ∧
      ["a", "b", "c"] = (columnNames (raggedHeaders.take 4)).eraseDups ∧
      ∃ v, LastGiven [.text "x", .text "y", .text "uv", .text "wz"] raggedHeaders "b" v ∧
        some .null = some v := by
  have assembled : (assembleRecord [.text "x", .text "y", .text "uv", .text "wz"]
      raggedHeaders).outcome = .ok [("a", .text "v"), ("b", .null), ("c", .text "w")] := rfl
  have fields := assembleRecord_fields assembled
  exact ⟨by decide +kernel, assembled, fields.1, fields.2.1 "b" (by decide)⟩

end RaggedTables.Record
