import Mathlib.Data.List.Forall2
import Mathlib.Data.List.Induction
import RaggedTables.Proofs.Selector.Compounds
import RaggedTables.Proofs.Selector.Tokens

/-! Reading chains that are joined by a `>`. A chain that a `>` and a compound follow reads as that
chain with one more link, so compounds that are joined by `>` read as the chain of them. -/

namespace RaggedTables.Selector

variable {inside : Bool} {fuel : Nat} {c : Compound} {rest after more ts : Rest}

/-! ### The scope -/

theorem nextCondition?_bare {found : Compound × Rest}
    (h : nextCondition? inside true fuel c rest = some found) :
    nextCondition? inside false fuel c rest = some found := by
  unfold nextCondition? at h ⊢
  split at h
  all_goals
    first
    | exact h
    | split at h
      · cases h
      · rename_i plain
        rw [if_neg (by simp_all)]
        exact h

theorem conditions?_bare {found : Compound × Rest}
    (h : conditions? inside true fuel c rest = some found) :
    conditions? inside false fuel c rest = some found := by
  cases fuel with
  | zero => simp [conditions?] at h
  | succ fuel =>
    rw [conditions?_succ] at h ⊢
    split at h
    · rename_i ends
      rw [if_pos ends, h]
    · rename_i ends
      rw [if_neg ends]
      obtain ⟨found', next, h⟩ := Option.bind_eq_some_iff.mp h
      rw [nextCondition?_bare next]
      exact h

/-- A compound that is read behind another one is read so in front as well. -/
theorem compound?_front {found : Compound × Rest}
    (h : compound? inside false fuel rest = some found) :
    compound? inside true fuel (skipSpace rest) = some found := by
  have starts : skipSpace (skipSpace rest) = skipSpace rest := by
    cases hstart : skipSpace rest with
    | nil => rfl
    | cons token behind =>
      cases token with
      | space =>
        rw [compound?_none (by rw [hstart]; exact .space behind)] at h
        cases h
      | _ => rfl
  cases fuel with
  | zero => simp [compound?] at h
  | succ fuel =>
    rw [compound?] at h ⊢
    rw [starts]
    dsimp only at h ⊢
    split at h
    · cases h
    · rename_i tag behind named
      split at h
      · cases h
      · rename_i c behind' read
        have read' :
          conditions? inside (tag.isNone && !(true && (skipSpace rest).length == behind.length))
            fuel ⟨tag, none, false⟩ behind = some (c, behind') := by
          cases tag with
          | some tag => exact read
          | none =>
            cases (skipSpace rest).length == behind.length with
            | false => exact read
            | true => exact conditions?_bare read
        rw [read']
        exact h

/-! ### Links -/

theorem combinator?_append {combinator : Combinator}
    (h : combinator? rest = some (combinator, after))
    (nonempty : after ≠ []) (more : Rest) :
    combinator? (rest ++ more) = some (combinator, after ++ more) := by
  have some_rest : rest ≠ [] := by
    rintro rfl
    cases h
  unfold combinator? at h ⊢
  rw [skipSpace_append some_rest]
  split at h
  · cases h
  · cases h
  · rename_i behind start
    cases h
    have some_behind : behind ≠ [] := by
      rintro rfl
      exact nonempty rfl
    simp [start, skipSpace_append some_behind]
  · rename_i behind start
    cases h
    have some_behind : behind ≠ [] := by
      rintro rfl
      exact nonempty rfl
    simp [start, skipSpace_append some_behind]
  · rename_i behind start
    cases h
    have some_behind : behind ≠ [] := by
      rintro rfl
      exact nonempty rfl
    simp [start, skipSpace_append some_behind]
  · cases h
    cases hstart : skipSpace rest with
    | nil => exact absurd hstart nonempty
    | cons token behind =>
      simp only [List.cons_append]
      split <;> simp_all

theorem length_links?_lt {links : List (Combinator × Compound)}
    (h : links? fuel rest = some (links, after)) : links.length < fuel := by
  induction fuel generalizing rest links with
  | zero => cases h
  | succ fuel ih =>
    rw [links?] at h
    split at h
    · cases h
      simp
    · split at h
      · cases h
      · obtain ⟨⟨links', after'⟩, later, same⟩ := Option.map_eq_some_iff.mp h
        cases same
        have := ih later
        simp
        omega

/-- The links of a whole chain are read first when more tokens follow them. -/
theorem links?_append {links : List (Combinator × Compound)}
    (h : links? fuel rest = some (links, []))
    (breaks : Breaks more) :
    ∃ stub, (stub = [] ∨ stub = [Token.space]) ∧ ∀ fuel',
      links? (links.length + fuel') (rest ++ more) =
        (links? fuel' (stub ++ more)).map fun (others, after) => (links ++ others, after) := by
  induction fuel generalizing rest links with
  | zero => cases h
  | succ fuel ih =>
    rw [links?] at h
    split at h
    · obtain ⟨rfl, last⟩ := Prod.mk.inj (Option.some.inj h)
      exact ⟨rest, skipSpace_eq_nil last, fun fuel' => by simp⟩
    · rename_i combinator behind joined
      split at h
      · cases h
      · rename_i c behind' read
        obtain ⟨⟨links', after'⟩, later, same⟩ := Option.map_eq_some_iff.mp h
        cases same
        obtain ⟨stub, hstub, others⟩ := ih later
        have nonempty : behind ≠ [] := by
          rintro rfl
          rw [compound?_nil] at read
          cases read
        refine ⟨stub, hstub, fun fuel' => ?_⟩
        have read' := (stable _).compound read
          (show 4 * behind.length + 4 ≤ 4 * (behind ++ more).length + 4 by
            rw [List.length_append]; omega) breaks
        rw [List.length_cons, Nat.add_right_comm, links?, combinator?_append joined nonempty more]
        dsimp only
        rw [read']
        dsimp only
        rw [others]
        cases links? fuel' (stub ++ more) <;> rfl

/-! ### Chains -/

theorem chains?_ne_nil {chains : List Chain} (h : chains? fuel rest = some chains) :
    chains ≠ [] := by
  rintro rfl
  cases fuel with
  | zero => cases h
  | succ fuel =>
    rw [chains?] at h
    split at h
    · cases h
    split at h
    · cases h
    dsimp only at h
    split at h
    · cases h
    · obtain ⟨_, _, same⟩ := Option.map_eq_some_iff.mp h
      cases same
    · cases h

theorem chains?_singleton {chain : Chain} (fuel : Nat) :
    chains? (fuel + 1) rest = some [chain] ↔
      ∃ head after, compound? false true (4 * rest.length + 4) rest = some (head, after) ∧
        links? (after.length + 1) after = some (chain.links, []) ∧ scopeOf head = chain.head := by
  rw [chains?]
  constructor
  · intro h
    split at h
    · cases h
    rename_i head after read
    split at h
    · cases h
    rename_i links behind joined
    dsimp only at h
    split at h
    · cases h
      exact ⟨head, after, read, joined, rfl⟩
    · obtain ⟨others, later, same⟩ := Option.map_eq_some_iff.mp h
      obtain ⟨-, rfl⟩ := List.cons.inj same
      exact absurd rfl (chains?_ne_nil later)
    · cases h
  · rintro ⟨head, after, read, joined, same⟩
    rw [read]
    dsimp only
    rw [joined]
    dsimp only
    rw [same]

/-- What is read as chains starts with a chain whose links are read. -/
theorem isSome_links? {head : Compound} (h : (chains? (fuel + 1) rest).isSome)
    (read : compound? false true (4 * rest.length + 4) rest = some (head, after)) :
    (links? (after.length + 1) after).isSome := by
  rw [chains?, read] at h
  dsimp only at h
  cases hlinks : links? (after.length + 1) after with
  | none => simp [hlinks] at h
  | some links => rfl

theorem links?_stub (hstub : rest = [] ∨ rest = [Token.space]) (fuel : Nat) :
    links? (fuel + 1) rest = some ([], []) := by
  obtain rfl | rfl := hstub <;> rfl

theorem links?_nil (h : links? fuel rest = some ([], [])) : rest = [] ∨ rest = [Token.space] := by
  cases fuel with
  | zero => cases h
  | succ fuel =>
    rw [links?] at h
    split at h
    · exact skipSpace_eq_nil (Prod.mk.inj (Option.some.inj h)).2
    · split at h
      · cases h
      · obtain ⟨_, _, same⟩ := Option.map_eq_some_iff.mp h
        cases same

/-- A `>` and a compound behind a chain are read as a link, if they are read. -/
theorem links?_last {last : Compound} {stub gap : Rest} (hstub : stub = [] ∨ stub = [Token.space])
    (hgap : gap = [] ∨ gap = [Token.space])
    (read : compound? false true (4 * (skipSpace ts).length + 4)
      (skipSpace ts) = some (last, after))
    (alone : links? (after.length + 1) after = some ([], []))
    (accepted : (links? (fuel + 2) (stub ++ (gap ++ .mark '>' :: .space :: ts))).isSome) :
    links? (fuel + 2) (stub ++ (gap ++ .mark '>' :: .space :: ts)) =
      some ([(.child, scopeOf last)], []) := by
  have joins : combinator? (stub ++ (gap ++ .mark '>' :: .space :: ts)) = some (.child, ts) ∨
      combinator? (stub ++ (gap ++ .mark '>' :: .space :: ts)) =
        some (.descendant, .space :: .mark '>' :: .space :: ts) := by
    obtain rfl | rfl := hstub <;> obtain rfl | rfl := hgap
    · exact .inl rfl
    · exact .inl rfl
    · exact .inl rfl
    · exact .inr rfl
  obtain joins | joins := joins
  · rw [links?, joins] at accepted ⊢
    dsimp only at accepted ⊢
    cases hread : compound? false false (4 * ts.length + 4) ts with
    | none => simp [hread] at accepted
    | some found =>
      have short : (skipSpace ts).length ≤ ts.length := by
        cases ts with
        | nil => simp [skipSpace]
        | cons token ts => cases token <;> simp [skipSpace]
      have same := (stable _).compound read
        (show 4 * (skipSpace ts).length + 4 ≤ 4 * ts.length + 4 by omega) .nil
      rw [List.append_nil, List.append_nil, compound?_front hread] at same
      obtain rfl := Option.some.inj same
      have ends : links? (fuel + 1) after = some ([], []) := links?_stub (links?_nil alone) fuel
      dsimp only
      rw [ends]
      rfl
  · have refused : Breaks (skipSpace (.space :: .mark '>' :: .space :: ts)) := .mark _
    rw [links?, joins] at accepted
    dsimp only at accepted
    rw [compound?_none refused] at accepted
    simp at accepted

theorem read?_eq {text : String} (h : tokens? text = some ts) :
    read? text = chains? (ts.length + 1) (skipSpace ts) := by
  rw [read?, h]

theorem exists_tokens? {text : String} (h : (read? text).isSome) :
    ∃ ts, tokens? text = some ts := by
  rw [read?] at h
  split at h
  · cases h
  · exact ⟨_, ‹_›⟩

/-- A chain that a `>` and a compound follow reads as that chain with one more link, if it reads. -/
theorem read?_joined {text part : String} {head last : Compound}
    {links : List (Combinator × Compound)}
    (htext : read? text = some [⟨head, links⟩]) (joins : Joins text)
    (hpart : read? part = some [⟨last, []⟩])
    (shown : ∀ c, part.toList.head? = some c → Markup.isSpace c = false)
    (accepted : (read? (text ++ " > " ++ part)).isSome) :
    read? (text ++ " > " ++ part) = some [⟨head, links ++ [(.child, last)]⟩] ∧
      (Joins part → Joins (text ++ " > " ++ part)) := by
  obtain ⟨ts, lexed⟩ := exists_tokens? (by rw [htext]; rfl : (read? text).isSome)
  obtain ⟨ts', lexed'⟩ := exists_tokens? (by rw [hpart]; rfl : (read? part).isSome)
  obtain ⟨gap, hgap, tokens, joins'⟩ := tokens?_joined lexed joins lexed' shown
  refine ⟨?_, joins'⟩
  rw [read?_eq tokens] at accepted ⊢
  rw [read?_eq lexed, chains?_singleton] at htext
  rw [read?_eq lexed', chains?_singleton] at hpart
  obtain ⟨first, after, read, joined, hfirst⟩ := htext
  obtain ⟨second, after', read', alone, hsecond⟩ := hpart
  dsimp only at joined hfirst alone hsecond
  subst hfirst hsecond
  have nonempty : ts ≠ [] := by
    rintro rfl
    rw [skipSpace_nil, compound?_nil] at read
    cases read
  rw [List.append_assoc, skipSpace_append nonempty] at accepted ⊢
  generalize hmore : gap ++ Token.mark '>' :: Token.space :: ts' = more at accepted ⊢
  have breaks : Breaks more := by
    obtain rfl | rfl := hgap <;> subst hmore
    · exact .mark _
    · exact .space _
  have long : 2 ≤ more.length := by
    subst hmore
    simp
    omega
  have read := (stable _).compound read
    (show 4 * (skipSpace ts).length + 4 ≤ 4 * (skipSpace ts ++ more).length + 4 by
      rw [List.length_append]; omega) breaks
  obtain ⟨stub, hstub, others⟩ := links?_append joined breaks
  obtain ⟨fuel, hfuel⟩ : ∃ fuel, (after ++ more).length + 1 = links.length + (fuel + 2) := by
    have := length_links?_lt joined
    exact ⟨(after ++ more).length + 1 - links.length - 2, by simp; omega⟩
  have read_links := isSome_links? accepted read
  rw [hfuel, others, Option.isSome_map] at read_links
  refine (chains?_singleton _).mpr ⟨first, after ++ more, read, ?_, rfl⟩
  subst hmore
  rw [hfuel, others, links?_last hstub hgap read' alone read_links]
  rfl

/-- The chain of compounds that are joined by `>`. -/
def childChain (c : Compound) (cs : List Compound) : Chain := ⟨c, cs.map (.child, ·)⟩

/-- A text that reads as one compound. -/
def Spells (text : String) (c : Compound) : Prop := read? text = some [⟨c, []⟩]

instance : DecidableRel Spells := fun text c =>
  inferInstanceAs (Decidable (read? text = some [⟨c, []⟩]))

/-- The texts of compounds, joined by `>`, read as the chain of them, if all beginnings are read. -/
theorem read?_intercalate {parts : List String} {c : Compound} {cs : List Compound}
    (spells : List.Forall₂ Spells parts (c :: cs))
    (shown : ∀ part ∈ parts, ∀ d, part.toList.head? = some d → Markup.isSpace d = false)
    (joins : ∀ part ∈ parts.dropLast, Joins part)
    (accepted : ∀ k < parts.length, (read? (" > ".intercalate (parts.take (k + 1)))).isSome) :
    read? (" > ".intercalate parts) = some [childChain c cs] ∧
      ((∀ part ∈ parts, Joins part) → Joins (" > ".intercalate parts)) := by
  induction parts using List.reverseRecOn generalizing cs with
  | nil => cases spells
  | append_singleton front part ih =>
    obtain rfl | nonempty := eq_or_ne front []
    · obtain ⟨c', cs', spell, rest, same⟩ := List.forall₂_cons_left_iff.mp spells
      cases same
      cases rest
      exact ⟨spell, fun joins => joins part (List.mem_cons_self ..)⟩
    have behind := List.forall₂_drop_append _ _ _ spells.flip
    have before := (List.forall₂_take_append _ _ _ spells.flip).flip
    obtain ⟨last, none, spell, same, drop⟩ := List.forall₂_cons_right_iff.mp behind
    cases same
    have split := List.take_append_drop front.length (c :: cs)
    rw [drop] at split
    obtain ⟨cs', hcs'⟩ : ∃ cs', (c :: cs).take front.length = c :: cs' := by
      obtain ⟨n, hn⟩ := Nat.exists_eq_succ_of_ne_zero (mt List.eq_nil_of_length_eq_zero nonempty)
      exact ⟨cs.take n, by rw [hn, List.take_succ_cons]⟩
    rw [hcs'] at before split
    obtain rfl : cs = cs' ++ [last] := (List.cons.inj split).2.symm
    have inside {k : Nat} (hk : k < front.length) :
        (front ++ [part]).take (k + 1) = front.take (k + 1) :=
      List.take_append_of_le_length hk
    obtain ⟨read, joined⟩ := ih before (fun part hpart => shown part (List.mem_append_left _ hpart))
      (fun part hpart => joins part (by
        rw [List.dropLast_concat]
        exact (List.dropLast_sublist front).subset hpart))
      fun k hk => by
        rw [← inside hk]
        exact accepted k (by rw [List.length_append]; omega)
    rw [List.dropLast_concat] at joins
    have all := accepted front.length (by simp)
    rw [List.take_of_length_le (by simp)] at all
    rw [String.intercalate_append_of_ne_nil nonempty (by simp),
      String.intercalate_singleton] at all ⊢
    obtain ⟨read', joined'⟩ := read?_joined read (joined joins) spell
      (shown part (List.mem_append_right _ (List.mem_cons_self ..))) all
    refine ⟨?_, fun joins => joined' (joins part (by simp))⟩
    rw [read', childChain, List.map_append]
    rfl

end RaggedTables.Selector
