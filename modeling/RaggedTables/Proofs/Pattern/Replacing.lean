import RaggedTables.Proofs.Outcome
import RaggedTables.Proofs.Pattern.Shortest
import RaggedTables.Proofs.Text.Blanks

/-! Texts with every match of a pattern replaced, and runs of a pattern that take as much as they
can. A greedy repetition of the class of blanks goes to the end of the run and gives back one by
one; the end of the text, or the place before a line break that ends it, is no reason to give back,
as the line break is blank too. So the patterns for blanks at the ends and for runs of blanks come
to trimming and squeezing. -/

namespace RaggedTables

open Pattern Text

namespace Pattern

/-- The text from `start` on, with every match replaced. -/
def replacedFrom (whole new : List Char) : (start : Nat) → List Found → List Char
  | start, [] => whole.drop start
  | start, found :: rest =>
    whole.extract start found.span.start ++ new ++ replacedFrom whole new found.span.stop rest

/-- A text with every match of a pattern replaced. -/
def replaced (pattern : Pattern) (new s : String) : String :=
  String.ofList (replacedFrom s.toList new.toList 0
    (pattern.node.cutsFrom s.toList.toArray (2 * s.toList.length + 2) 0 false))

/-- One blank. -/
def Node.blank : Node := .one { items := [.category .blank false] }

/-- One blank or more, as many as possible. -/
def Node.blanks : Node := .repeated .blank 1 none .greedy

/-- One blank or more that end the text. -/
def Node.ending : Node := .seq .blanks (.anchor .lineEnd false false)

/-- Blanks at the beginning of a text or at its end. -/
def Node.edges : Node := .alt (.seq (.anchor .lineStart false false) .blanks) .ending

/-- Two blanks or more. -/
def Node.gap : Node := .seq .blank .blanks

section Replace

variable {node : Node} {whole new cs : List Char} {c : Char} {start : Nat}

/-! ### Matches in order -/

theorem length_drop_of_eq (hleft : whole.drop start = cs) : whole.length - start = cs.length := by
  rw [← hleft, List.length_drop]

theorem length_of_drop_cons (hleft : whole.drop start = c :: cs) :
    whole.length = start + cs.length + 1 := by
  have hlength := length_drop_of_eq hleft
  rw [List.length_cons] at hlength
  omega

theorem searchFrom_skip (hleft : whole.drop start = c :: cs)
    (hmatch : node.matchAt? whole.toArray start false = none) :
    node.searchFrom whole.toArray (whole.length + 1 - start) start false =
      node.searchFrom whole.toArray (whole.length + 1 - (start + 1)) (start + 1) false := by
  have hlength := length_of_drop_cons hleft
  have hfuel : whole.length + 1 - start = whole.length + 1 - (start + 1) + 1 := by omega
  have hmore : start < whole.length := by omega
  rw [hfuel, Node.searchFrom, hmatch]
  simp [hmore]

theorem start_le_of_searchFrom {fuel : Nat} {advance : Bool} {found : Found}
    (h : node.searchFrom whole.toArray fuel start advance = some found) :
    start ≤ found.span.start := by
  induction fuel generalizing start advance with
  | zero => cases h
  | succ fuel ih =>
    rw [Node.searchFrom] at h
    cases hmatch : node.matchAt? whole.toArray start advance with
    | some first =>
      rw [hmatch] at h
      obtain rfl := Option.some.inj h
      obtain ⟨p, -, rfl⟩ := Option.map_eq_some_iff.mp hmatch
      exact Nat.le_refl _
    | none =>
      simp only [hmatch] at h
      split at h
      · exact Nat.le_of_succ_le (ih h)
      · cases h

theorem extract_cons_of_drop (hleft : whole.drop start = c :: cs) {stop : Nat} (h : start < stop) :
    whole.extract start stop = c :: whole.extract (start + 1) stop := by
  have hstop : stop - start = stop - (start + 1) + 1 := by omega
  rw [List.extract_eq_take_drop, List.extract_eq_take_drop, hleft, drop_succ hleft, hstop,
    List.take_succ_cons]

/-- A character at which no match begins stays. -/
theorem replaced_skip (hleft : whole.drop start = c :: cs)
    (hmatch : node.matchAt? whole.toArray start false = none) (fuel : Nat) :
    replacedFrom whole new start (node.cutsFrom whole.toArray fuel start false) =
      c :: replacedFrom whole new (start + 1)
        (node.cutsFrom whole.toArray fuel (start + 1) false) := by
  have hlast : whole.drop start = c :: whole.drop (start + 1) := by rw [hleft, drop_succ hleft]
  cases fuel with
  | zero => exact hlast
  | succ fuel =>
    rw [Node.cutsFrom, Node.cutsFrom, List.size_toArray, searchFrom_skip hleft hmatch]
    cases hsearch : node.searchFrom whole.toArray (whole.length + 1 - (start + 1))
      (start + 1) false with
    | none => exact hlast
    | some found =>
      have hstart : start < found.span.start := start_le_of_searchFrom hsearch
      rw [replacedFrom, replacedFrom, extract_cons_of_drop hleft hstart, List.cons_append,
        List.cons_append]

/-- A match that is not empty is replaced, and the rest goes on behind it. -/
theorem replaced_match {stop : Nat} {groups : List (Nat × Span)}
    (hleft : whole.drop start = c :: cs)
    (more : start < stop)
    (hmatch : node.matchAt? whole.toArray start false = some ⟨⟨start, stop⟩, groups⟩) (fuel : Nat) :
    replacedFrom whole new start (node.cutsFrom whole.toArray (fuel + 1) start false) =
      new ++ replacedFrom whole new stop (node.cutsFrom whole.toArray fuel stop false) := by
  have hlength := length_of_drop_cons hleft
  obtain ⟨k, hk⟩ : ∃ k, whole.length + 1 - start = k + 1 := ⟨whole.length - start, by omega⟩
  have hmoved : (stop == start) = false := by simp; omega
  rw [Node.cutsFrom, List.size_toArray, hk, Node.searchFrom, hmatch]
  simp [replacedFrom, hmoved, List.extract_eq_take_drop]

theorem replaced_end (hleft : whole.drop start = [])
    (hmatch : node.matchAt? whole.toArray start false = none) (fuel : Nat) :
    replacedFrom whole new start (node.cutsFrom whole.toArray fuel start false) = [] := by
  have hend : ¬ start < whole.length := Nat.not_lt.mpr (List.drop_eq_nil_iff.mp hleft)
  cases fuel with
  | zero => exact hleft
  | succ fuel =>
    rw [Node.cutsFrom, List.size_toArray]
    cases whole.length + 1 - start with
    | zero => exact hleft
    | succ k =>
      rw [Node.searchFrom, hmatch]
      simp [hend, replacedFrom, hleft]

/-! ### Runs of blanks -/

theorem blank_accepts (c : Char) :
    OneChar.accepts { items := [.category .blank false] } c = isBlank c := by
  simp [OneChar.accepts, ClassItem.holds, Category.holds]

/-- The last place where `rest` matches behind one blank or more of a run. -/
def longestStop (rest : Rest) : List Char → Rest
  | [], _ => none
  | c :: cs, p =>
    if isBlank c then
      (longestStop rest cs { p with place := p.place + 1 }).or
        (rest { p with place := p.place + 1 })
    else none

variable {rest : Rest} {p : Progress}

theorem run_blank : Node.blank.run whole.toArray rest p =
    match whole.drop p.place with
    | [] => none
    | c :: _ => if isBlank c then rest { p with place := p.place + 1 } else none := by
  rw [Node.blank, Node.run, toArray_getElem?]
  cases whole.drop p.place with
  | nil => rfl
  | cons c cs => simp [blank_accepts]

/-- After the first blank all others of the run are taken before the rest is tried. -/
theorem iterate_blank {fuel count : Nat} {last : Option Nat} (hleft : whole.drop p.place = cs)
    (enough : cs.length < fuel) (started : 1 ≤ count) (moved : last ≠ some p.place) :
    iterate (Node.blank.run whole.toArray) 1 none .greedy rest fuel count last p =
      (longestStop rest cs p).or (rest p) := by
  induction cs generalizing p fuel count last with
  | nil =>
    obtain ⟨fuel, rfl⟩ := Nat.exists_eq_succ_of_ne_zero (Nat.ne_of_gt enough)
    simp only [iterate, Nat.not_lt.mpr started, run_blank, hleft, longestStop]
    simp
  | cons c cs ih =>
    obtain ⟨fuel, rfl⟩ := Nat.exists_eq_succ_of_ne_zero (Nat.ne_of_gt (Nat.zero_lt_of_lt enough))
    have hmoved : some p.place ≠ some (p.place + 1) := by simp
    have hnext := ih (p := { p with place := p.place + 1 }) (drop_succ hleft)
      (Nat.lt_of_succ_lt_succ enough) (Nat.le_add_left 1 count) hmoved
    simp only [iterate, Nat.not_lt.mpr started, run_blank, hleft, longestStop]
    by_cases hc : isBlank c
    · simp only [below, hc, hnext, bne_iff_ne, ne_eq, moved, not_false_eq_true, Bool.true_and,
        if_true, if_false]
      cases (longestStop rest cs { p with place := p.place + 1 }).or
        (rest { p with place := p.place + 1 }) <;> rfl
    · simp [hc]

theorem run_blanks (hleft : whole.drop p.place = cs) :
    Node.blanks.run whole.toArray rest p = longestStop rest cs p := by
  have hlength := length_drop_of_eq hleft
  rw [Node.blanks, Node.run, List.size_toArray]
  generalize hfuel : 1 + whole.length + 2 - p.place = fuel
  cases fuel with
  | zero =>
    obtain rfl : cs = [] := List.eq_nil_of_length_eq_zero (by omega)
    rfl
  | succ fuel =>
    simp only [iterate, Nat.lt_one_iff, if_pos, run_blank, hleft]
    cases cs with
    | nil => rfl
    | cons c cs =>
      rw [List.length_cons] at hlength
      have hmoved : (none : Option Nat) ≠ some (p.place + 1) := by simp
      simp only [iterate_blank (p := { p with place := p.place + 1 }) (drop_succ hleft)
        (show cs.length < fuel by omega) (Nat.le_refl 1) hmoved, longestStop]

theorem longestStop_some :
    longestStop some cs p =
      if (cs.takeWhile isBlank).isEmpty then none
      else some { p with place := p.place + (cs.takeWhile isBlank).length } := by
  induction cs generalizing p with
  | nil => rfl
  | cons c cs ih =>
    by_cases hc : isBlank c
    · cases hrun : cs.takeWhile isBlank <;>
        simp [longestStop, hc, ih, hrun, Nat.add_assoc, Nat.add_comm 1]
    · simp [longestStop, hc]

theorem matchAt?_eq : node.matchAt? whole.toArray start false =
    (node.run whole.toArray some { place := start }).map fun p => ⟨⟨start, p.place⟩, p.groups⟩ := by
  simp [Node.matchAt?]

/-- Behind a character the text ends, or only a line break is left. -/
theorem lineEnd_holds (hleft : whole.drop start = c :: cs) :
    Anchor.lineEnd.holds false false whole.toArray (start + 1) = true ↔ cs = [] ∨ cs = ['\n'] := by
  have hlength := length_of_drop_cons hleft
  have hnext : whole.toArray[start + 1]? = cs.head? := by rw [toArray_getElem?, drop_succ hleft]
  simp only [Anchor.holds, hnext, List.size_toArray]
  cases cs with
  | nil => simp [hlength]
  | cons d cs =>
    rw [List.length_cons] at hlength
    have inside : start + 1 ≠ whole.length := by omega
    have last : start + 1 + 1 = whole.length ↔ cs = [] := by
      rw [← List.length_eq_zero_iff]
      omega
    simp [inside, last]

/-- Blanks that are to reach the end of the text go all the way, or there is no match. -/
theorem longestStop_end (hleft : whole.drop p.place = cs) :
    longestStop (Node.run whole.toArray (.anchor .lineEnd false false) some) cs p =
      if !cs.isEmpty && cs.all isBlank then some { p with place := p.place + cs.length }
      else none := by
  induction cs generalizing p with
  | nil => rfl
  | cons c cs ih =>
    have hnext := ih (p := { p with place := p.place + 1 }) (drop_succ hleft)
    rw [longestStop, hnext, Node.run, List.all_cons]
    by_cases hc : isBlank c
    · cases hcs : cs.all isBlank with
      | true =>
        cases cs with
        | nil =>
          have hend := (lineEnd_holds hleft).mpr (.inl rfl)
          simp [hc, hend]
        | cons d cs => simp only [hc, List.isEmpty_cons, Bool.not_false, Bool.true_and, if_true,
            Option.some_or, List.length_cons, Nat.add_assoc, Nat.add_comm 1]
      | false =>
        have hend : ¬ Anchor.lineEnd.holds false false whole.toArray (p.place + 1) = true := by
          rw [lineEnd_holds hleft]
          rintro (rfl | rfl)
          · exact absurd hcs (by decide)
          · exact absurd hcs (by decide)
        simp [hc, hend]
    · simp [hc]

/-! ### Matches of the two patterns -/

theorem run_ending (hleft : whole.drop p.place = cs) :
    Node.ending.run whole.toArray some p =
      if !cs.isEmpty && cs.all isBlank then some { p with place := p.place + cs.length }
      else none := by
  rw [Node.ending, Node.run, run_blanks hleft, longestStop_end hleft]

theorem matchAt?_edges_first (whole : List Char) : Node.edges.matchAt? whole.toArray 0 false =
    if (whole.takeWhile isBlank).isEmpty then none
    else some ⟨⟨0, (whole.takeWhile isBlank).length⟩, []⟩ := by
  have hstart : Anchor.lineStart.holds false false whole.toArray 0 = true := rfl
  have hfront : Node.blanks.run whole.toArray some { place := 0 } =
      longestStop some whole { place := 0 } := run_blanks rfl
  have hback : Node.ending.run whole.toArray some { place := 0 } =
      if !whole.isEmpty && whole.all isBlank then some { place := 0 + whole.length } else none :=
    run_ending rfl
  rw [matchAt?_eq, Node.edges, Node.run, Node.run, Node.run, if_pos hstart, hfront, hback,
    longestStop_some]
  cases whole with
  | nil => rfl
  | cons c cs =>
    by_cases hc : isBlank c <;> simp [hc]

/-- Behind the beginning of the text only the blanks at its end match. -/
theorem matchAt?_edges (pos : 0 < start) (hleft : whole.drop start = cs) :
    Node.edges.matchAt? whole.toArray start false =
      if !cs.isEmpty && cs.all isBlank then some ⟨⟨start, start + cs.length⟩, []⟩ else none := by
  have hstart : Anchor.lineStart.holds false false whole.toArray start = false := by
    simp [Anchor.holds, Nat.ne_of_gt pos]
  have hback := run_ending (p := { place := start }) hleft
  rw [matchAt?_eq, Node.edges, Node.run, Node.run, Node.run, hstart, hback]
  cases !cs.isEmpty && cs.all isBlank <;> rfl

theorem matchAt?_gap (hleft : whole.drop start = cs) :
    Node.gap.matchAt? whole.toArray start false =
      if 2 ≤ (cs.takeWhile isBlank).length then
        some ⟨⟨start, start + (cs.takeWhile isBlank).length⟩, []⟩
      else none := by
  rw [matchAt?_eq, Node.gap, Node.run, run_blank]
  cases cs with
  | nil => simp [hleft]
  | cons c cs =>
    have hrun : Node.blanks.run whole.toArray some { place := start + 1 } =
        longestStop some cs { place := start + 1 } := run_blanks (drop_succ hleft)
    simp only [hleft, hrun, longestStop_some]
    by_cases hc : isBlank c
    · cases hmore : cs.takeWhile isBlank with
      | nil => simp [hc, hmore]
      | cons d run =>
        have two : 2 ≤ 1 + (run.length + 1) := by omega
        simp [hc, hmore, two, Nat.add_assoc, Nat.add_comm]
    · simp [hc]

/-! ### Trimming and squeezing -/

theorem replaced_ending (pos : 0 < start) (hleft : whole.drop start = cs) (fuel : Nat) :
    replacedFrom whole [] start (Node.edges.cutsFrom whole.toArray (fuel + 1) start false) =
      trimRight cs := by
  induction cs generalizing start with
  | nil => exact replaced_end hleft (matchAt?_edges pos hleft) (fuel + 1)
  | cons c cs ih =>
    have hmatch := matchAt?_edges pos hleft
    cases hall : (c :: cs).all isBlank with
    | true =>
      have hstop : whole.drop (start + (c :: cs).length) = [] := by
        rw [← List.drop_drop, hleft, List.drop_length]
      have hlater : 0 < start + (c :: cs).length := Nat.add_pos_left pos _
      rw [hall, List.isEmpty_cons, Bool.not_false, Bool.true_and, if_pos rfl] at hmatch
      rw [replaced_match hleft (by simp) hmatch, trimRight_blanks (List.all_eq_true.mp hall),
        List.nil_append]
      exact replaced_end hstop (matchAt?_edges hlater hstop) fuel
    | false =>
      have hsome : ¬ ∀ d ∈ c :: cs, isBlank d := by simpa using hall
      rw [hall, Bool.and_false, if_neg Bool.false_ne_true] at hmatch
      rw [replaced_skip hleft hmatch, ih (Nat.succ_pos start) (drop_succ hleft),
        trimRight_cons hsome]

/-- Without the matches at both ends a text is trimmed. -/
theorem replaced_edges (whole : List Char) (fuel : Nat) :
    replacedFrom whole [] 0 (Node.edges.cutsFrom whole.toArray (fuel + 2) 0 false) =
      trim whole := by
  have hmatch := matchAt?_edges_first whole
  cases whole with
  | nil => exact replaced_end rfl hmatch (fuel + 2)
  | cons c cs =>
    by_cases hc : isBlank c
    · have hrun : ((c :: cs).takeWhile isBlank).isEmpty = false := by simp [hc]
      have hpos : 0 < ((c :: cs).takeWhile isBlank).length := by simp [hc]
      have hrest : (c :: cs).drop ((c :: cs).takeWhile isBlank).length = trimLeft (c :: cs) :=
        drop_takeWhile (c :: cs)
      rw [hrun, if_neg Bool.false_ne_true] at hmatch
      rw [replaced_match rfl hpos hmatch, List.nil_append, replaced_ending hpos hrest, trim]
    · have hall : ¬ ∀ d ∈ c :: cs, isBlank d := fun all => hc (all c List.mem_cons_self)
      have hleft : trimLeft (c :: cs) = c :: cs := List.dropWhile_cons_of_neg hc
      have hnext : (c :: cs).drop 1 = cs := rfl
      rw [List.takeWhile_cons_of_neg hc, List.isEmpty_nil, if_pos rfl] at hmatch
      rw [replaced_skip rfl hmatch, replaced_ending Nat.one_pos hnext, trim, hleft,
        trimRight_cons hall]

/-- With a space for each match of the other pattern the runs of blanks of a text are squeezed. -/
theorem replaced_gap {fuel : Nat} (hleft : whole.drop start = cs) (enough : cs.length < fuel) :
    replacedFrom whole [' '] start (Node.gap.cutsFrom whole.toArray fuel start false) =
      squeeze cs := by
  induction cs using squeeze.induct generalizing start fuel with
  | case1 =>
    have hmatch := matchAt?_gap hleft
    rw [if_neg (by simp)] at hmatch
    rw [replaced_end hleft hmatch, squeeze_nil]
  | case2 c cs hc alone ih =>
    have hmatch := matchAt?_gap hleft
    have hone : ¬ 2 ≤ ((c :: cs).takeWhile isBlank).length := by
      simp [hc, List.isEmpty_iff.mp alone]
    rw [if_neg hone] at hmatch
    rw [replaced_skip hleft hmatch, ih (drop_succ hleft) (Nat.lt_of_succ_lt enough), squeeze_cons,
      if_pos hc, if_pos alone]
  | case3 c cs hc more ih =>
    have hmatch := matchAt?_gap hleft
    have hrun : (c :: cs).takeWhile isBlank = c :: cs.takeWhile isBlank :=
      List.takeWhile_cons_of_pos hc
    have htwo : 2 ≤ ((c :: cs).takeWhile isBlank).length := by
      rw [hrun, List.length_cons]
      exact Nat.succ_le_succ (List.length_pos_iff.mpr fun none => more (List.isEmpty_iff.mpr none))
    have hrest :
        whole.drop (start + ((c :: cs).takeWhile isBlank).length) = cs.dropWhile isBlank := by
      rw [← List.drop_drop, hleft, drop_takeWhile, List.dropWhile_cons_of_pos hc]
    have hshort : (cs.dropWhile isBlank).length ≤ cs.length :=
      (List.dropWhile_sublist isBlank).length_le
    obtain ⟨fuel, rfl⟩ := Nat.exists_eq_succ_of_ne_zero (Nat.ne_of_gt (Nat.zero_lt_of_lt enough))
    rw [if_pos htwo] at hmatch
    rw [replaced_match hleft (by omega) hmatch, squeeze_cons, if_pos hc, if_neg more,
      ih hrest (Nat.lt_of_le_of_lt hshort (Nat.lt_of_succ_lt_succ enough)), List.singleton_append]
  | case4 c cs hc ih =>
    have hmatch := matchAt?_gap hleft
    have hnone : ¬ 2 ≤ ((c :: cs).takeWhile isBlank).length := by
      simp [List.takeWhile_cons_of_neg hc]
    rw [if_neg hnone] at hmatch
    rw [replaced_skip hleft hmatch, ih (drop_succ hleft) (Nat.lt_of_succ_lt enough), squeeze_cons,
      if_neg hc]

end Replace

/-! ### The pattern for the ends and the one for runs -/

theorem compile_node {text : String} {node : Node}
    (h : (Pattern.compile text).toOption.map Pattern.node = some node) :
    ∃ pattern, Pattern.compile text = .ok pattern ∧ pattern.node = node := by
  obtain ⟨pattern, hcompile, hnode⟩ := Option.map_eq_some_iff.mp h
  exact ⟨pattern, eq_ok_of_toOption hcompile, hnode⟩

theorem compile_edges :
    ∃ edges, Pattern.compile "^\\s+|\\s+$" = .ok edges ∧ ∀ s, edges.replaced "" s = strip s := by
  obtain ⟨edges, compiled, hnode⟩ :
      ∃ edges, Pattern.compile "^\\s+|\\s+$" = .ok edges ∧ edges.node = .edges :=
    compile_node (by decide +kernel)
  refine ⟨edges, compiled, fun s => ?_⟩
  rw [replaced, hnode, strip]
  exact congrArg String.ofList (replaced_edges s.toList (2 * s.toList.length))

theorem compile_gap :
    ∃ gaps, Pattern.compile "\\s\\s+" = .ok gaps ∧
      ∀ s, gaps.replaced " " s = String.ofList (squeeze s.toList) := by
  obtain ⟨gaps, compiled, hnode⟩ :
      ∃ gaps, Pattern.compile "\\s\\s+" = .ok gaps ∧ gaps.node = .gap :=
    compile_node (by decide +kernel)
  refine ⟨gaps, compiled, fun s => ?_⟩
  have enough : s.toList.length < 2 * s.toList.length + 2 := by omega
  rw [replaced, hnode]
  exact congrArg String.ofList (replaced_gap List.drop_zero enough)

end Pattern

end RaggedTables
