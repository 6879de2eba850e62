import Mathlib.Data.List.Basic
import RaggedTables.Proofs.Pattern.Shortest

/-! What nodes leave of a text. A node that looks only at what is in front of it leaves one of
several remainders of that, and goes on with the first of them behind which the rest matches. Nodes
one after another leave what the second leaves of what the first does, and a greedy repetition of a
node that always takes something leaves what more rounds leave before what fewer do. -/

namespace RaggedTables.Pattern

/-- The same progress where `left` is what is left of the text. -/
def Progress.before (p : Progress) (whole left : List Char) : Progress :=
  { p with place := whole.length - left.length }

/-- A node leaves the remainders of a text that are listed, which are tried in that order. -/
structure Leaves (node : Node) (remainders : List Char → List (List Char)) : Prop where
  back : ∀ cs, ∀ left ∈ remainders cs, left <:+ cs
  run : ∀ {whole : List Char} {p : Progress}, p.place ≤ whole.length → ∀ rest : Rest,
    node.run whole.toArray rest p =
      (remainders (whole.drop p.place)).findSome? fun left => rest (p.before whole left)

/-- Of every text a node leaves only less. -/
def Shrinks (remainders : List Char → List (List Char)) : Prop :=
  ∀ cs, ∀ left ∈ remainders cs, left.length < cs.length

/-- What one character leaves. -/
def oneRemainder (accepts : Char → Bool) : List Char → List (List Char)
  | c :: rest => if accepts c then [rest] else []
  | [] => []

/-- What the rounds of a greedy repetition leave, when `count` of them have been taken. -/
def rounds (remainders : List Char → List (List Char)) (least : Nat) (most : Option Nat) :
    (fuel count : Nat) → List Char → List (List Char)
  | 0, _, _ => []
  | fuel + 1, count, cs =>
    let more := (remainders cs).flatMap (rounds remainders least most fuel (count + 1))
    if count < least then more else if below most count then more ++ [cs] else [cs]

/-- What a greedy repetition leaves. -/
def greedyRemainders (remainders : List Char → List (List Char)) (least : Nat) (most : Option Nat)
    (cs : List Char) : List (List Char) :=
  rounds remainders least most (least + cs.length + 2) 0 cs

section

variable {whole left cs : List Char} {p : Progress} {rest : Rest} {a b body : Node}
  {f g remainders : List Char → List (List Char)} {least fuel count : Nat} {most : Option Nat}

/-! ### Lists of remainders -/

theorem findSome?_flatMap {α β γ : Type} (l : List α) (f : α → List β) (g : β → Option γ) :
    (l.flatMap f).findSome? g = l.findSome? fun x => (f x).findSome? g := by
  induction l with
  | nil => rfl
  | cons x l ih =>
    rw [List.flatMap_cons, List.findSome?_append, ih, List.findSome?_cons]
    cases (f x).findSome? g <;> rfl

theorem findSome?_congr {α β : Type} {l : List α} {f g : α → Option β} (h : ∀ x ∈ l, f x = g x) :
    l.findSome? f = l.findSome? g := by
  induction l with
  | nil => rfl
  | cons x l ih =>
    obtain ⟨first, others⟩ := List.forall_mem_cons.mp h
    rw [List.findSome?_cons, List.findSome?_cons, first, ih others]

theorem findSome?_some {α β : Type} (l : List α) (f : α → β) :
    l.findSome? (fun x => some (f x)) = l.head?.map f := by
  cases l <;> rfl

/-! ### Nodes -/

theorem drop_before (back : left <:+ whole) (p : Progress) :
    whole.drop (p.before whole left).place = left :=
  (List.suffix_iff_eq_drop.mp back).symm

theorem before_le (p : Progress) (whole left : List Char) :
    (p.before whole left).place ≤ whole.length := Nat.sub_le _ _

theorem before_drop (inside : p.place ≤ whole.length) :
    p.before whole (whole.drop p.place) = p := by
  rw [Progress.before, List.length_drop, Nat.sub_sub_self inside]

theorem leaves_one (test : OneChar) : Leaves (.one test) (oneRemainder test.accepts) where
  back cs left h := by
    cases cs with
    | nil => cases h
    | cons c cs =>
      rw [oneRemainder] at h
      split at h
      · rw [List.mem_singleton.mp h]
        exact List.suffix_cons c cs
      · cases h
  run {whole p} inside rest := by
    rw [Node.run, toArray_getElem?]
    cases hleft : whole.drop p.place with
    | nil => rfl
    | cons c cs =>
      have there : p.before whole cs = { p with place := p.place + 1 } := by
        have length := congrArg List.length hleft
        rw [List.length_drop, List.length_cons] at length
        have place : whole.length - cs.length = p.place + 1 := by omega
        rw [Progress.before, place]
      rw [oneRemainder]
      dsimp only [List.head?_cons]
      split
      · rw [List.findSome?_singleton, there]
      · rfl

theorem shrinks_one (accepts : Char → Bool) : Shrinks (oneRemainder accepts) := by
  intro cs left h
  cases cs with
  | nil => cases h
  | cons c cs =>
    rw [oneRemainder] at h
    split at h
    · rw [List.mem_singleton.mp h]
      exact Nat.lt_succ_self _
    · cases h

theorem Leaves.seq (first : Leaves a f) (second : Leaves b g) :
    Leaves (.seq a b) fun cs => (f cs).flatMap g where
  back cs left h := by
    obtain ⟨between, there, h⟩ := List.mem_flatMap.mp h
    exact (second.back between left h).trans (first.back cs between there)
  run {whole p} inside rest := by
    rw [Node.run, first.run inside, findSome?_flatMap]
    refine findSome?_congr fun between there => ?_
    have back := (first.back _ between there).trans (List.drop_suffix _ _)
    rw [second.run (before_le p whole between), drop_before back]
    rfl

theorem Shrinks.seq (first : Shrinks f) (back : ∀ cs, ∀ left ∈ g cs, left <:+ cs) :
    Shrinks fun cs => (f cs).flatMap g := by
  intro cs left h
  obtain ⟨between, there, h⟩ := List.mem_flatMap.mp h
  exact Nat.lt_of_le_of_lt (back between left h).length_le (first cs between there)

theorem back_rounds (back : ∀ cs, ∀ left ∈ remainders cs, left <:+ cs)
    (h : left ∈ rounds remainders least most fuel count cs) : left <:+ cs := by
  induction fuel generalizing count cs with
  | zero => cases h
  | succ fuel ih =>
    have more (there : left ∈ (remainders cs).flatMap
        (rounds remainders least most fuel (count + 1))) : left <:+ cs := by
      obtain ⟨between, there, h⟩ := List.mem_flatMap.mp there
      exact (ih h).trans (back cs between there)
    rw [rounds] at h
    split at h
    · exact more h
    · split at h
      · obtain h | h := List.mem_append.mp h
        · exact more h
        · exact List.mem_singleton.mp h ▸ List.suffix_rfl
      · exact List.mem_singleton.mp h ▸ List.suffix_rfl

theorem Shrinks.repeated (shrinks : Shrinks remainders)
    (back : ∀ cs, ∀ left ∈ remainders cs, left <:+ cs) (required : 0 < least) :
    Shrinks (greedyRemainders remainders least most) := by
  intro cs left h
  rw [greedyRemainders, rounds, if_pos required] at h
  exact shrinks.seq (fun _ _ there => back_rounds back there) cs left h

/-- One more round goes on with what the rounds behind it leave. -/
theorem step_rounds (leaves : Leaves body remainders) (inside : p.place ≤ whole.length)
    {again : Rest} {later : List Char → List (List Char)}
    (next : ∀ left ∈ remainders (whole.drop p.place), again (p.before whole left) =
      (later left).findSome? fun left => rest (p.before whole left)) :
    body.run whole.toArray again p = ((remainders (whole.drop p.place)).flatMap later).findSome?
      fun left => rest (p.before whole left) := by
  rw [leaves.run inside, findSome?_flatMap]
  exact findSome?_congr next

theorem iterate_required {step : Rest → Rest} {last : Option Nat} (required : count < least) :
    iterate step least most .greedy rest (fuel + 1) count last p =
      step (iterate step least most .greedy rest fuel (count + 1) last) p := by
  simp [iterate, required]

theorem iterate_optional {step : Rest → Rest} {last : Option Nat} (enough : ¬ count < least)
    (moved : last ≠ some p.place) :
    iterate step least most .greedy rest (fuel + 1) count last p =
      if below most count then
        (step (iterate step least most .greedy rest fuel (count + 1) (some p.place)) p).or (rest p)
      else rest p := by
  simp only [iterate, if_neg enough, bne_iff_ne.mpr moved, Bool.and_true]
  split
  · cases step _ p <;> rfl
  · rfl

theorem iterate_rounds (leaves : Leaves body remainders) (shrinks : Shrinks remainders)
    {last : Option Nat} (inside : p.place ≤ whole.length) (moved : ∀ n ∈ last, n < p.place) :
    iterate (body.run whole.toArray) least most .greedy rest fuel count last p =
      (rounds remainders least most fuel count (whole.drop p.place)).findSome?
        fun left => rest (p.before whole left) := by
  induction fuel generalizing count last p with
  | zero => rfl
  | succ fuel ih =>
    have more (last : Option Nat) (moved : ∀ n ∈ last, n ≤ p.place) :
        body.run whole.toArray
            (iterate (body.run whole.toArray) least most .greedy rest fuel (count + 1) last) p =
          ((remainders (whole.drop p.place)).flatMap
            (rounds remainders least most fuel (count + 1))).findSome?
              fun left => rest (p.before whole left) := by
      refine step_rounds leaves inside fun left h => ?_
      have short := shrinks _ left h
      rw [List.length_drop] at short
      have further : p.place < (p.before whole left).place := by
        show p.place < whole.length - left.length
        omega
      rw [ih (before_le p whole left) fun n hn => Nat.lt_of_le_of_lt (moved n hn) further,
        drop_before ((leaves.back _ left h).trans (List.drop_suffix _ _))]
      rfl
    by_cases required : count < least
    · rw [iterate_required required, rounds, if_pos required]
      exact more last fun n hn => Nat.le_of_lt (moved n hn)
    · have apart : last ≠ some p.place := fun same => Nat.lt_irrefl _ (moved _ same)
      have here := before_drop inside
      rw [iterate_optional required apart, rounds, if_neg required,
        more (some p.place) fun n hn => Nat.le_of_eq (Option.some.inj hn).symm]
      split
      · rw [List.findSome?_append, List.findSome?_singleton, here]
      · rw [List.findSome?_singleton, here]

theorem Leaves.repeated (leaves : Leaves body remainders) (shrinks : Shrinks remainders) :
    Leaves (.repeated body least most .greedy) (greedyRemainders remainders least most) where
  back _ _ h := back_rounds leaves.back h
  run {whole p} inside rest := by
    have fuel : least + whole.toArray.size + 2 - p.place =
        least + (whole.drop p.place).length + 2 := by
      rw [List.size_toArray, List.length_drop]
      omega
    rw [Node.run, fuel, iterate_rounds leaves shrinks inside (by simp), greedyRemainders]

/-- A match ends where the first remainder begins. -/
theorem Leaves.matchAt? (leaves : Leaves body remainders) {start : Nat}
    (inside : start ≤ whole.length) : body.matchAt? whole.toArray start false =
      (remainders (whole.drop start)).head?.map fun left =>
        ⟨⟨start, whole.length - left.length⟩, []⟩ := by
  have run := leaves.run (p := { place := start }) inside some
  rw [findSome?_some] at run
  rw [Node.matchAt?, show (fun p : Progress => if (false && p.place == start) = true then none
    else some p) = some from rfl, run, Option.map_map]
  rfl

end

end RaggedTables.Pattern
