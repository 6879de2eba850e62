import RaggedTables.Console.Analysis
import RaggedTables.Proofs.Outcome
import RaggedTables.Proofs.Selector.Children
import RaggedTables.Proofs.Text.Blanks

/-! The analysis of a chain of selectors that are joined by `>`: each count is the number of
elements that the links so far match, so nothing is matched again once nothing is, and the dashed
line stands before the first link that matches nothing behind one that matches something. -/

namespace RaggedTables.Console

open Markup Selector

/-- A stripped text does not start with a blank. -/
theorem isSpace_head?_strip (text : String) (d : Char)
    (h : (Text.strip text).toList.head? = some d) : isSpace d = false := by
  obtain ⟨_, _, -, -, -, starts, -⟩ := Text.trimmed_trim text.toList
  rw [Text.strip, String.toList_ofList] at h
  have solid := starts d h
  by_contra blank
  rw [Bool.not_eq_false] at blank
  simp only [isSpace, Bool.or_eq_true, beq_iff_eq] at blank
  obtain (((rfl | rfl) | rfl) | rfl) | rfl := blank <;> exact absurd solid (by decide)

/-- The numbers of elements that the links of a chain match, counted up to each. -/
structure Counts (root : PageElement) (compounds : List Compound) (counts : List Nat) : Prop where
  each : counts.length = compounds.length
  matched : ∀ (k count : Nat), counts[k]? = some count →
    {place | Matched root.document root.place (compounds.take (k + 1)) place}.encard = count

/-- The first link that matches nothing, if links before it match something. -/
def StopsAt (counts : List Nat) (k : Nat) : Prop :=
  counts[k]? = some 0 ∧ 0 < k ∧ ∀ j < k, counts[j]? ≠ some 0

instance (counts : List Nat) (k : Nat) : Decidable (StopsAt counts k) :=
  inferInstanceAs (Decidable (_ ∧ _ ∧ _))

/-- The lines for the beginnings of a chain, with a dashed one where the matches stop. -/
def chainLines (parts : List String) (counts : List Nat) : List String :=
  (List.range counts.length).flatMap fun k =>
    (if StopsAt counts k then [dashes] else []) ++
      [chainLine (parts.take (k + 1)) " > " (counts[k]?.getD 0)]

/-! ### Counting from the front -/

theorem analyseFrom_ok {root : PageElement} {mark : String} {parts seen : List String}
    {before : Nat}
    {counts : List Nat} (each : counts.length = parts.length)
    (found : ∀ k count, counts[k]? = some count → ∃ elements,
      root.select? (mark.intercalate (seen ++ parts.take (k + 1))) = some elements ∧
        elements.length = count) :
    analyseFrom root mark seen before parts =
      ((List.range parts.length).flatMap fun k =>
        analysisLines (seen ++ parts.take (k + 1)) mark ((before :: counts)[k]?.getD 0)
          (counts[k]?.getD 0),
        .ok counts) := by
  induction parts generalizing seen before counts with
  | nil =>
    obtain rfl := List.eq_nil_of_length_eq_zero each
    rfl
  | cons part rest ih =>
    obtain _ | ⟨count, counts⟩ := counts
    · cases each
    obtain ⟨elements, select, rfl⟩ := found 0 count rfl
    rw [List.take_succ_cons, List.take_zero] at select
    have first : root.select (mark.intercalate (seen ++ [part])) "selector prefix" { least := 0 } =
        .ok elements := by
      rw [PageElement.select, select, Wanted.check_least]
    have later := @ih (seen ++ [part]) elements.length counts (by simpa using each)
      fun k count hk => by simpa using found (k + 1) count hk
    simp only [analyseFrom]
    rw [first]
    simp only [later]
    rw [List.length_cons, List.range_succ_eq_map, List.flatMap_cons, List.flatMap_map]
    simp only [List.append_assoc]
    rfl

/-- Where the counts stay zero, a dashed line stands where the matches stop. -/
theorem analysisLines_eq {counts : List Nat} (k : Nat) (parts : List String)
    (stays : ∀ i j, i ≤ j → counts[i]? = some 0 → j < counts.length → counts[j]? = some 0)
    (h : k < counts.length) :
    analysisLines parts " > " ((0 :: counts)[k]?.getD 0) (counts[k]?.getD 0) =
      (if StopsAt counts k then [dashes] else []) ++
        [chainLine parts " > " (counts[k]?.getD 0)] := by
  have stops : (counts[k]?.getD 0 = 0 ∧ 0 < (0 :: counts)[k]?.getD 0) ↔ StopsAt counts k := by
    have zero : counts[k]?.getD 0 = 0 ↔ counts[k]? = some 0 := by simp [h]
    rw [zero]
    refine and_congr_right fun _ => ?_
    cases k with
    | zero => simp
    | succ k =>
      have h' : k < counts.length := by omega
      have pos : 0 < counts[k]?.getD 0 ↔ counts[k]? ≠ some 0 := by
        simp [h', Nat.pos_iff_ne_zero]
      rw [List.getElem?_cons_succ, pos]
      constructor
      · intro some
        exact ⟨Nat.succ_pos k, fun j hj none => some (stays j k (by omega) none h')⟩
      · exact fun h => h.2 k (Nat.lt_succ_self k)
  rw [analysisLines]
  simp only [← stops, Bool.and_eq_true, decide_eq_true_eq]

/-! ### The counts -/

section

variable {root : PageElement} {compounds : List Compound} {counts : List Nat}

theorem Counts.eq_zero_iff (h : Counts root compounds counts) {k : Nat}
    (short : k < counts.length) :
    counts[k]? = some 0 ↔
      ∀ place, ¬ Matched root.document root.place (compounds.take (k + 1)) place := by
  have card := h.matched k _ (List.getElem?_eq_getElem short)
  rw [List.getElem?_eq_getElem short, Option.some.injEq, ← Nat.cast_inj (R := ℕ∞), ← card,
    Nat.cast_zero, Set.encard_eq_zero, Set.eq_empty_iff_forall_notMem]
  rfl

/-- Once nothing is matched, nothing is matched any more. -/
theorem Counts.stays_zero (h : Counts root compounds counts) {i j : Nat} (le : i ≤ j)
    (zero : counts[i]? = some 0) (short : j < counts.length) : counts[j]? = some 0 := by
  rw [h.eq_zero_iff short]
  intro place matched
  have split := List.take_append_drop (i + 1) (compounds.take (j + 1))
  rw [List.take_take, Nat.min_eq_left (by omega)] at split
  have nonempty : compounds.take (i + 1) ≠ [] := by
    have := h.each
    rw [ne_eq, List.take_eq_nil_iff]
    rintro (none | none)
    · omega
    · simp [none] at this
      simp [this] at short
  rw [← split] at matched
  obtain ⟨above, front⟩ := matched.exists_front nonempty
  exact (h.eq_zero_iff (by omega)).mp zero above front

end

theorem stopsAt_unique {counts : List Nat} {i j : Nat} (h : StopsAt counts i)
    (h' : StopsAt counts j) : i = j := by
  obtain lt | rfl | gt := Nat.lt_trichotomy i j
  · exact absurd h.1 (h'.2.2 i lt)
  · rfl
  · exact absurd h'.1 (h.2.2 j gt)

theorem head?_styled (code : Nat) (text : String) :
    (styled code text).toList.head? = some '\x1b' := by
  simp [styled]

/-- A line for a beginning of a chain starts with the code of a colour. -/
theorem head?_chainLine {parts : List String} (nonempty : parts ≠ []) (mark : String)
    (count : Nat) :
    (chainLine parts mark count).toList.head? = some '\x1b' := by
  obtain ⟨part, parts, rfl⟩ := List.exists_cons_of_ne_nil nonempty
  rw [chainLine, List.map_cons]
  cases parts with
  | nil => simp [head?_styled]
  | cons next parts => simp [String.intercalate_cons_cons, head?_styled]

theorem chainLine_ne_dashes {parts : List String} (nonempty : parts ≠ []) (mark : String)
    (count : Nat) :
    chainLine parts mark count ≠ dashes := by
  have dash : dashes.toList = List.replicate 53 '-' := String.toList_ofList
  intro same
  have head := head?_chainLine nonempty mark count
  rw [same, dash] at head
  exact absurd head (by simp)

theorem count_marked {α : Type} [BEq α] [LawfulBEq α] {p : Nat → Prop} [DecidablePred p] {x : α}
    {line : Nat → α} (other : ∀ k, line k ≠ x) (l : List Nat) :
    (l.flatMap fun k => (if p k then [x] else []) ++ [line k]).count x = l.countP p := by
  induction l with
  | nil => rfl
  | cons k l ih =>
    rw [List.flatMap_cons, List.count_append, ih, List.countP_cons]
    have plain : List.count x [line k] = 0 := List.count_eq_zero.mpr (by simpa using (other k).symm)
    rw [List.count_append, plain]
    by_cases h : p k
    · simp [h]
      omega
    · simp [h]

/-- The dashed line is among the lines at most once. -/
theorem count_dashes_le (parts : List String) (nonempty : parts ≠ []) (counts : List Nat) :
    (chainLines parts counts).count dashes ≤ 1 := by
  have take (k : Nat) : parts.take (k + 1) ≠ [] := by simpa using nonempty
  rw [chainLines, count_marked fun k => chainLine_ne_dashes (take k) _ _]
  by_cases stops : ∃ k, StopsAt counts k
  · obtain ⟨k, hk⟩ := stops
    refine Nat.le_trans (List.countP_mono_left fun i _ hi => ?_)
      (List.nodup_iff_count_le_one.mp (List.nodup_range (n := counts.length)) k)
    simpa using stopsAt_unique (by simpa using hi) hk
  · rw [List.countP_eq_zero.mpr fun i _ => by simpa using fun h => stops ⟨i, h⟩]
    exact Nat.zero_le 1

/-! ### Chains of compounds -/

/-- How many elements each beginning of a chain of compounds selects. -/
def linkCounts (root : PageElement) (c : Compound) (cs : List Compound) : List Nat :=
  (List.range (c :: cs).length).map fun k =>
    (Selector.select root.document [childChain c (cs.take k)] root.place).length

theorem linkCounts_eq_some (root : PageElement) (c : Compound) (cs : List Compound)
    (k count : Nat) :
    (linkCounts root c cs)[k]? = some count ↔ k < (c :: cs).length ∧
      (Selector.select root.document [childChain c (cs.take k)] root.place).length = count := by
  rw [linkCounts, List.getElem?_map]
  by_cases short : k < (c :: cs).length
  · rw [List.getElem?_range short]
    simp only [Option.map_some, Option.some.injEq, short, true_and]
  · rw [List.getElem?_eq_none (by simpa using short)]
    simp only [Option.map_none, short, false_and, reduceCtorEq]

theorem counts_linkCounts (root : PageElement) (c : Compound) (cs : List Compound) :
    Counts root (c :: cs) (linkCounts root c cs) := by
  refine ⟨by simp [linkCounts], fun k count hk => ?_⟩
  rw [List.take_succ_cons, encard_matched, ((linkCounts_eq_some root c cs k count).mp hk).2]

/-- The analysis of texts that spell compounds, where a `>` is read behind each but the last. -/
theorem analyseFrom_spelled (root : PageElement) {parts : List String} {c : Compound}
    {cs : List Compound} (spells : List.Forall₂ Spells parts (c :: cs))
    (shown : ∀ part ∈ parts, ∀ d, part.toList.head? = some d → isSpace d = false)
    (joins : ∀ part ∈ parts.dropLast, Joins part)
    (accepted : ∀ k < parts.length, (read? (" > ".intercalate (parts.take (k + 1)))).isSome) :
    analyseFrom root " > " [] 0 parts =
      (chainLines parts (linkCounts root c cs), .ok (linkCounts root c cs)) := by
  have length := spells.length_eq
  have read (k : Nat) (hk : k < parts.length) :
      read? (" > ".intercalate (parts.take (k + 1))) = some [childChain c (cs.take k)] := by
    refine (read?_intercalate (List.forall₂_take (k + 1) spells)
      (fun part hpart => shown part (List.mem_of_mem_take hpart))
      (fun part hpart => joins part ?_) fun j hj => ?_).1
    · rw [List.dropLast_eq_take, List.take_take] at hpart
      rw [List.dropLast_eq_take]
      refine (List.take_sublist_take_left ?_).subset hpart
      rw [List.length_take]
      omega
    · rw [List.length_take] at hj
      rw [List.take_take, Nat.min_eq_left (by omega)]
      exact accepted j (by omega)
  have counted := counts_linkCounts root c cs
  generalize hcounts : linkCounts root c cs = counts at *
  rw [@analyseFrom_ok root " > " parts [] 0 counts (counted.each.trans length.symm)]
  · rw [chainLines, counted.each, length]
    refine congrArg (·, _) (List.flatMap_congr fun k hk => ?_)
    have short : k < counts.length := by
      rw [counted.each]
      exact List.mem_range.mp hk
    exact analysisLines_eq k _ (fun i j => counted.stays_zero) short
  · intro k count hk
    rw [← hcounts, linkCounts_eq_some] at hk
    rw [List.nil_append, PageElement.select?, read k (by rw [length]; exact hk.1), Option.map_some]
    exact ⟨_, rfl, by rw [PageElement.others, List.length_map]; exact hk.2⟩

/-- The pieces of a selector at `>` may be compounds that mean the same without the blanks around
them, and behind each of which but the last a `>` is read. Then, if all beginnings of the chain are
read, there is a count for each link, the number of elements that the links up to it match. Once a
count is zero all later ones are, and the dashed line is printed at most once, before the first link
that matches nothing behind one that matches something. -/
theorem analyse_counts_links (root : PageElement) (selector : String) (pieces : List String)
    (compounds : List Compound) (split : Text.splitAt ">" selector = pieces)
    (spells : List.Forall₂ Spells pieces compounds)
    (kept : ∀ piece ∈ pieces, read? (Text.strip piece) = read? piece)
    (joins : ∀ piece ∈ pieces.dropLast, Joins (Text.strip piece))
    (accepted : ∀ k < pieces.length,
      (read? (" > ".intercalate ((pieces.map Text.strip).take (k + 1)))).isSome) :
    ∃ counts,
      analyse root selector ">" =
        (String.join ((chainLines (pieces.map Text.strip) counts).map echo), .ok counts) ∧
      Counts root compounds counts ∧
      (∀ i j, i ≤ j → counts[i]? = some 0 → j < counts.length → counts[j]? = some 0) ∧
      (chainLines (pieces.map Text.strip) counts).count dashes ≤ 1 := by
  have nonempty : pieces ≠ [] := by
    rw [← split, Text.splitAt]
    simpa using (Text.pieces_cutAt (by decide) selector.toList).ne_nil
  obtain _ | ⟨c, cs⟩ := compounds
  · exact absurd (List.eq_nil_of_length_eq_zero spells.length_eq) nonempty
  have spelled : List.Forall₂ Spells (pieces.map Text.strip) (c :: cs) := by
    rw [List.forall₂_map_left_iff, List.forall₂_iff_zip]
    refine ⟨spells.length_eq, fun {piece c} hzip => ?_⟩
    exact (kept piece (List.of_mem_zip hzip).1).trans ((List.forall₂_iff_zip.mp spells).2 hzip)
  have run := analyseFrom_spelled root spelled
    (List.forall_mem_map.mpr fun piece _ => isSpace_head?_strip piece)
    (by rw [← List.map_dropLast]; exact List.forall_mem_map.mpr joins)
    (by rw [List.length_map]; exact accepted)
  have counted := counts_linkCounts root c cs
  refine ⟨linkCounts root c cs, ?_, counted, fun i j => counted.stays_zero,
    count_dashes_le _ (by simpa using nonempty) _⟩
  have separated : (">" : String).isEmpty = false := by decide
  have mark : (" " : String) ++ ">" ++ " " = " > " := by decide
  rw [analyse, separated, split, mark]
  simp only [run, Bool.false_eq_true, if_false]

/-- On a page with a table that has a row, a chain of four links stops at the third. -/
theorem analyse_counts_links_stopping :
    let page : PageElement :=
      ⟨[.element "table" [] [.element "tr" [] [.element "td" [] [.text "x"]]]], [0], ""⟩
    let pieces := ["table ", " tr ", " th ", " b"]
    Text.splitAt ">" "table > tr > th > b" = pieces ∧
      (∀ piece ∈ pieces, read? (Text.strip piece) = read? piece) ∧
      (∀ piece ∈ pieces.dropLast, Joins (Text.strip piece)) ∧
      (∀ k < pieces.length,
        (read? (" > ".intercalate ((pieces.map Text.strip).take (k + 1)))).isSome) ∧
      ∃ compounds, List.Forall₂ Spells pieces compounds ∧ Counts page compounds [1, 1, 0, 0] ∧
        analyse page "table > tr > th > b" ">" =
          ("table: 1\ntable > tr: 1\n" ++ dashes ++ "\ntable > tr > th\ntable > tr > th > b\n",
            .ok [1, 1, 0, 0]) := by
  intro page pieces
  have split : Text.splitAt ">" "table > tr > th > b" = pieces := by decide +kernel
  have spells : List.Forall₂ Spells pieces
      (["table", "tr", "th", "b"].map fun tag => ⟨some tag, none, false⟩) :=
    .cons (by decide +kernel)
      (.cons (by decide +kernel) (.cons (by decide +kernel) (.cons (by decide +kernel) .nil)))
  have kept : ∀ piece ∈ pieces, read? (Text.strip piece) = read? piece := by
    simp only [pieces, List.forall_mem_cons]
    exact ⟨by decide +kernel, by decide +kernel, by decide +kernel, by decide +kernel,
      List.forall_mem_nil _⟩
  have joins : ∀ piece ∈ pieces.dropLast, Joins (Text.strip piece) := by
    simp only [pieces, Joins]
    decide +kernel
  have accepted : ∀ k < pieces.length,
      (read? (" > ".intercalate ((pieces.map Text.strip).take (k + 1)))).isSome := by
    decide +kernel
  have run : analyse page "table > tr > th > b" ">" =
      ("table: 1\ntable > tr: 1\n" ++ dashes ++ "\ntable > tr > th\ntable > tr > th > b\n",
        .ok [1, 1, 0, 0]) := Prod.ext (by decide +kernel) (eq_ok_of_toOption (by decide +kernel))
  obtain ⟨counts, analysed, matched, -, -⟩ :=
    analyse_counts_links page "table > tr > th > b" pieces _ split spells kept joins accepted
  obtain rfl : counts = [1, 1, 0, 0] := by
    rw [run] at analysed
    exact (Except.ok.inj (Prod.mk.inj analysed).2).symm
  exact ⟨split, kept, joins, accepted, _, spells, matched, run⟩

/-- The blank that ends a name is trimmed off with the blanks around a link, so an element that the
link matches is not counted. -/
theorem not_counted_trimmed :
    ∃ page, PageElement.parse "<p id=\"a&#160;\">x</p>" = .ok page ∧
      ∃ c, List.Forall₂ Spells (Text.splitAt ">" "#a\u00a0") [c] ∧
        {place | Matched page.document page.place [c] place}.encard = 1 ∧
        analyse page "#a\u00a0" ">" = ("#a\n", .ok [0]) ∧
        ¬ ∃ printed counts, analyse page "#a\u00a0" ">" = (printed, .ok counts) ∧
          Counts page [c] counts := by
  let page : PageElement :=
    ⟨[.element "html" [] [.element "body" []
      [.element "p" [⟨"id", some "a\u00a0"⟩] [.text "x"]]]], [0, 0, 0], ""⟩
  let c : Compound := ⟨none, some (.attribute "id" .equal "a\u00a0"), false⟩
  have one : {place | Matched page.document page.place [c] place}.encard = 1 := by
    have found : select page.document [childChain c []] page.place = [[0, 0, 0]] := by
      decide +kernel
    rw [encard_matched c [], found]
    rfl
  have run : analyse page "#a\u00a0" ">" = ("#a\n", .ok [0]) :=
    Prod.ext (by decide +kernel) (eq_ok_of_toOption (by decide +kernel))
  refine ⟨page, rfl, c, .cons (by decide +kernel) .nil, one, run, ?_⟩
  rintro ⟨printed, counts, analysed, counted⟩
  obtain rfl : [0] = counts := Except.ok.inj (Prod.mk.inj (run.symm.trans analysed)).2
  have none := counted.matched 0 0 rfl
  rw [List.take_succ_cons, List.take_nil, one] at none
  exact absurd none (by simp)

end RaggedTables.Console
