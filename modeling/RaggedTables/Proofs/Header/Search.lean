import RaggedTables.Proofs.Header.Place
import RaggedTables.Proofs.Outcome
import RaggedTables.Proofs.Pattern.Shortest

/-! The brackets of a template as a pattern. The groups of its first match are a name and the text
in the brackets, each a short run on one line; the scanner of templates finds the same. -/

namespace RaggedTables.Header

open Pattern (Node Progress Rest Found Span firstStop)

/-- A short name, the opener, a short pattern and the closer. -/
def Brackets.node (b : Brackets) : Node :=
  .seq (.group 1 .shortLine)
    (.behindText b.opener (.seq (.group 2 .shortLine) (.lastText b.closer)))

/-! ### What the scanner cuts -/

theorem until?_eq_append {mark cs text : List Char} (h : until? mark cs = some text) :
    ∃ after, cs = text ++ mark ++ after := by
  obtain ⟨n, hends, -, rfl⟩ := until?_some h
  obtain ⟨after, hafter⟩ := hends.mark
  exact ⟨after, by rw [List.append_assoc, hafter, List.take_append_drop]⟩

theorem bracketed?_eq_append {b : Brackets} {cs name text : List Char}
    (h : bracketed? b cs = some (name, text)) :
    ∃ after, cs = name ++ b.opener ++ text ++ b.closer ++ after := by
  induction cs generalizing name with
  | nil => simp [bracketed?] at h
  | cons c cs ih =>
    obtain ⟨-, ⟨rfl, ⟨inside, rfl⟩, hhere⟩ | ⟨-, rest, hrest, rfl⟩⟩ := bracketed?_cons.mp h
    · obtain ⟨after, hafter⟩ := until?_eq_append hhere
      rw [List.drop_left] at hafter
      exact ⟨after, by simp [hafter]⟩
    · obtain ⟨after, rfl⟩ := ih hrest
      exact ⟨after, by simp⟩

/-! ### What the pattern matches -/

section Match

variable {whole cs : List Char} {p : Progress} {b : Brackets}

/-- The second group ends where the closer is found. -/
theorem firstStop_until? {mark : List Char} {start : Nat} (hleft : whole.drop p.place = cs) :
    firstStop (fun q => (Node.lastText mark).run whole.toArray some
        { q with groups := (2, ⟨start, q.place⟩) :: q.groups }) cs p =
      (until? mark cs).map fun text => ⟨p.place + text.length + mark.length,
        (2, ⟨start, p.place + text.length⟩) :: p.groups⟩ := by
  induction cs generalizing p with
  | nil => rfl
  | cons c cs ih =>
    have hnext := Pattern.drop_succ hleft
    have hrest := ih (p := { p with place := p.place + 1 }) hnext
    rw [firstStop, until?]
    by_cases hc : c = '\n'
    · simp [hc]
    · simp only [if_neg hc, Pattern.run_lastText, hnext] at hrest ⊢
      cases mark.isPrefixOf cs with
      | true => simp
      | false =>
        have hplace (text : List Char) :
            p.place + 1 + text.length = p.place + (c :: text).length := by
          rw [List.length_cons, Nat.add_assoc, Nat.add_comm 1]
        simp only [Bool.false_eq_true, if_false, hrest, hplace, Option.map_map, Function.comp_def]

theorem run_second {mark : List Char} :
    (Node.seq (.group 2 .shortLine) (.lastText mark)).run whole.toArray some p =
      (until? mark (whole.drop p.place)).map fun text => ⟨p.place + text.length + mark.length,
        (2, ⟨p.place, p.place + text.length⟩) :: p.groups⟩ := by
  rw [Node.run, Node.run, Pattern.run_shortLine rfl]
  exact firstStop_until? rfl

/-- The end of a match and its groups, when the first group starts at `start` and ends at `place`
and the second one is `text`. -/
def matched (b : Brackets) (start place : Nat) (text : List Char) : Progress :=
  let opened := place + b.opener.length
  ⟨opened + text.length + b.closer.length,
    [(2, ⟨opened, opened + text.length⟩), (1, ⟨start, place⟩)]⟩

/-- The first group ends where the brackets open. -/
theorem firstStop_bracketed? (start place : Nat) (hleft : whole.drop place = cs) :
    firstStop (fun q => (Node.behindText b.opener
        (.seq (.group 2 .shortLine) (.lastText b.closer))).run whole.toArray some
          { q with groups := (1, ⟨start, q.place⟩) :: q.groups }) cs ⟨place, []⟩ =
      (bracketed? b cs).map fun (name, text) => matched b start (place + name.length) text := by
  induction cs generalizing place with
  | nil => rfl
  | cons c cs ih =>
    have hnext := Pattern.drop_succ hleft
    have hrest := ih (place + 1) hnext
    have hopened : whole.drop (place + 1 + b.opener.length) = cs.drop b.opener.length := by
      rw [← List.drop_drop, hnext]
    rw [firstStop, bracketed?]
    by_cases hc : c = '\n'
    · simp [hc]
    · simp only [if_neg hc, Pattern.run_behindText, run_second, hnext, hopened] at hrest ⊢
      have hplace (name : List Char) : place + 1 + name.length = place + (c :: name).length := by
        rw [List.length_cons, Nat.add_assoc, Nat.add_comm 1]
      cases b.opener.isPrefixOf cs with
      | false =>
        simp only [Bool.false_eq_true, if_false, hrest, hplace, Option.map_map, Function.comp_def]
      | true =>
        cases until? b.closer (cs.drop b.opener.length) with
        | none =>
          simp only [if_true, Option.map_none, hrest, hplace, Option.map_map, Function.comp_def]
        | some text => simp [matched]

theorem matchAt?_node {start : Nat} : b.node.matchAt? whole.toArray start false =
    (bracketed? b (whole.drop start)).map fun (name, text) =>
      let p := matched b start (start + name.length) text
      ⟨⟨start, p.place⟩, p.groups⟩ := by
  have hrun := firstStop_bracketed? (b := b) start start (rfl : whole.drop start = _)
  rw [Node.matchAt?, Brackets.node, Node.run, Node.run, Pattern.run_shortLine rfl]
  simp only [Bool.false_and, Bool.false_eq_true, if_false]
  rw [hrun, Option.map_map]
  rfl

theorem extract_of_drop {start : Nat} (before text after : List Char)
    (h : whole.drop start = before ++ text ++ after) :
    Span.extract whole.toArray ⟨start + before.length, start + before.length + text.length⟩ =
      String.ofList text := by
  have hdrop : whole.drop (start + before.length) = text ++ after := by
    rw [← List.drop_drop, h, List.append_assoc, List.drop_left]
  simp [Span.extract, hdrop]

/-- The groups of a match are the name and the pattern that the scanner cuts. -/
theorem groups_node {start : Nat} {found : Found}
    (h : b.node.matchAt? whole.toArray start false = some found) :
    ∃ name text, bracketed? b (whole.drop start) = some (name, text) ∧
      found.group? whole.toArray 1 = some (String.ofList name) ∧
      found.group? whole.toArray 2 = some (String.ofList text) := by
  rw [matchAt?_node] at h
  obtain ⟨⟨name, text⟩, hcut, rfl⟩ := Option.map_eq_some_iff.mp h
  obtain ⟨after, hafter⟩ := bracketed?_eq_append hcut
  have hname := extract_of_drop [] name (b.opener ++ text ++ b.closer ++ after)
    (by simpa using hafter)
  have htext := extract_of_drop (name ++ b.opener) text (b.closer ++ after)
    (by simpa using hafter)
  refine ⟨name, text, hcut, congrArg some ?_, congrArg some ?_⟩
  · exact hname
  · rw [List.length_append, ← Nat.add_assoc] at htext
    exact htext

/-- The search goes on to where the scanner finds the first place. -/
theorem searchFrom_node (fuel start : Nat) (hleft : whole.drop start = cs)
    (enough : cs.length < fuel) :
    (b.node.searchFrom whole.toArray fuel start false).map
        (fun found => (found.group? whole.toArray 1, found.group? whole.toArray 2)) =
      (locate? b cs).map fun (name, text) =>
        (some (String.ofList name), some (String.ofList text)) := by
  induction cs generalizing fuel start with
  | nil =>
    obtain ⟨fuel, rfl⟩ := Nat.exists_eq_succ_of_ne_zero (Nat.ne_of_gt enough)
    have hend : ¬ start < whole.length := Nat.not_lt.mpr (List.drop_eq_nil_iff.mp hleft)
    rw [Node.searchFrom, matchAt?_node, hleft]
    simp [bracketed?, locate?, hend]
  | cons c cs ih =>
    obtain ⟨fuel, rfl⟩ := Nat.exists_eq_succ_of_ne_zero (Nat.ne_of_gt (Nat.zero_lt_of_lt enough))
    rw [Node.searchFrom, locate?]
    cases hmatch : b.node.matchAt? whole.toArray start false with
    | some found =>
      obtain ⟨name, text, hcut, hname, htext⟩ := groups_node hmatch
      rw [hleft] at hcut
      simp [hcut, hname, htext]
    | none =>
      have hcut : bracketed? b (c :: cs) = none := by
        simpa [matchAt?_node, hleft] using hmatch
      have hmore : start < whole.length := by
        have hlength := congrArg List.length hleft
        simp only [List.length_drop, List.length_cons] at hlength
        omega
      simp only [hcut, List.size_toArray, if_pos hmore]
      exact ih fuel (start + 1) (Pattern.drop_succ hleft) (by simpa using enough)

end Match

/-! ### Searching a template -/

/-- A pattern with the node of the brackets finds, as its groups, the name and the pattern that the
scanner finds. -/
theorem search_node {b : Brackets} {pattern : Pattern} (hnode : pattern.node = b.node)
    (template : String) :
    (pattern.search template).map (fun group => (group 1, group 2)) =
      (find? b template).map fun (name, text) => (some name, some text) := by
  have hsearch := searchFrom_node (b := b) (template.toList.length + 1) 0
    (rfl : template.toList.drop 0 = template.toList) (Nat.lt_succ_self _)
  simpa [Pattern.search, find?, hnode, Function.comp_def] using hsearch

/-- A text spells a pattern whose two groups are the name and the pattern at the first place of the
brackets; it matches in the templates that have such a place. -/
def Searches (text : String) (b : Brackets) : Prop :=
  ∃ pattern, Pattern.compile text = .ok pattern ∧ ∀ template,
    (∀ name rule, (pattern.search template).map (fun group => (group 1, group 2)) =
        some (some name, some rule) ↔ Holds b template name rule) ∧
      (pattern.search template = none ↔ Lacks b template)

theorem searches_of_compile {text : String} {b : Brackets} (closes : b.closer ≠ [])
    (h : (Pattern.compile text).toOption.map Pattern.node = some b.node) : Searches text b := by
  obtain ⟨pattern, hcompile, hnode⟩ := Option.map_eq_some_iff.mp h
  refine ⟨pattern, eq_ok_of_toOption hcompile, fun template => ⟨fun name rule => ?_, ?_⟩⟩
  · rw [search_node hnode, ← find?_eq_some closes]
    simp
  · rw [← find?_eq_none closes, ← Option.map_eq_none_iff, search_node hnode, Option.map_eq_none_iff]

/-- The four patterns that templates are searched with. -/
theorem searches_brackets :
    Searches "(.+?)//(.+?)\\\\\\\\" .transform ∧ Searches "(.+?)\\[\\[(.+?)\\]\\]" .multi ∧
    Searches "(.+?)\\\x7b\\\x7b(.+?)\\\x7d\\\x7d" .split ∧ Searches "(.+?)<<(.+?)>>" .mapping :=
  ⟨searches_of_compile (by decide) (by decide +kernel),
    searches_of_compile (by decide) (by decide +kernel),
    searches_of_compile (by decide) (by decide +kernel),
    searches_of_compile (by decide) (by decide +kernel)⟩

end RaggedTables.Header
