import RaggedTables.Pattern.Compiled

/-! Runs of a pattern that take as little as they can. A reluctant repetition of the dot takes
characters one by one and goes on with the rest of the pattern at the first place where that rest
matches; it never passes a line break. Literal text is a prefix of what is left. -/

namespace RaggedTables.Pattern

/-- One character or more, as few as possible, on one line. -/
def Node.shortLine : Node := .repeated (.any false) 1 none .reluctant

/-- One fixed character. -/
def Node.letter (c : Char) : Node := .one { items := [.code c.toNat] }

/-- A node behind literal text. -/
def Node.behindText (mark : List Char) (node : Node) : Node :=
  mark.foldr (fun c after => .seq (.letter c) after) node

/-- Literal text that ends a pattern. -/
def Node.lastText : List Char → Node
  | [] => .empty
  | [c] => .letter c
  | c :: mark => .seq (.letter c) (lastText mark)

theorem letter_accepts (c d : Char) :
    OneChar.accepts { items := [.code c.toNat] } d = (c == d) := by
  have hsame : (d.toNat == c.toNat) = (c == d) := by
    rw [Bool.eq_iff_iff, beq_iff_eq, beq_iff_eq, Char.toNat_inj, eq_comm]
  simpa [OneChar.accepts, ClassItem.holds, CaseRule.same] using hsame

/-- The first place where `rest` matches behind one character or more, before any line break. -/
def firstStop (rest : Rest) : List Char → Rest
  | [], _ => none
  | c :: cs, p =>
    if c = '\n' then none
    else
      match rest { p with place := p.place + 1 } with
      | some q => some q
      | none => firstStop rest cs { p with place := p.place + 1 }

section Run

variable {whole cs : List Char} {rest : Rest}

theorem toArray_getElem? {n : Nat} : whole.toArray[n]? = (whole.drop n).head? := by
  rw [List.head?_drop, List.getElem?_toArray]

theorem drop_succ {c : Char} {n : Nat} (hleft : whole.drop n = c :: cs) :
    whole.drop (n + 1) = cs := by
  rw [← List.drop_drop, hleft, List.drop_one, List.tail_cons]

/-! ### Literal text -/

theorem run_letter {c : Char} {p : Progress} : (Node.letter c).run whole.toArray rest p =
    if [c].isPrefixOf (whole.drop p.place) then rest { p with place := p.place + 1 } else none := by
  rw [Node.letter, Node.run, toArray_getElem?]
  cases whole.drop p.place with
  | nil => simp
  | cons d cs => simp [letter_accepts, List.isPrefixOf]

theorem isPrefixOf_cons_drop (c : Char) (mark : List Char) {n : Nat} :
    (c :: mark).isPrefixOf (whole.drop n) =
      ([c].isPrefixOf (whole.drop n) && mark.isPrefixOf (whole.drop (n + 1))) := by
  rw [← List.drop_drop]
  cases whole.drop n <;> simp [List.isPrefixOf]

theorem run_behindText (mark : List Char) (node : Node) (p : Progress) :
    (node.behindText mark).run whole.toArray rest p =
      if mark.isPrefixOf (whole.drop p.place) then
        node.run whole.toArray rest { p with place := p.place + mark.length }
      else none := by
  induction mark generalizing p with
  | nil => simp [Node.behindText]
  | cons c mark ih =>
    have hrun : (node.behindText (c :: mark)).run whole.toArray rest p =
        (Node.letter c).run whole.toArray ((node.behindText mark).run whole.toArray rest) p := rfl
    rw [hrun, run_letter, ih, isPrefixOf_cons_drop c mark]
    cases [c].isPrefixOf (whole.drop p.place) with
    | false => simp
    | true => simp [Nat.add_comm 1, Nat.add_assoc]

theorem run_lastText (mark : List Char) (p : Progress) :
    (Node.lastText mark).run whole.toArray rest p =
      if mark.isPrefixOf (whole.drop p.place) then rest { p with place := p.place + mark.length }
      else none := by
  induction mark generalizing p with
  | nil => simp [Node.lastText, Node.run]
  | cons c mark ih =>
    cases mark with
    | nil => rw [Node.lastText, run_letter]; rfl
    | cons d mark =>
      have hrun : (Node.lastText (c :: d :: mark)).run whole.toArray rest p =
          (Node.letter c).run whole.toArray
            ((Node.lastText (d :: mark)).run whole.toArray rest) p :=
        rfl
      rw [hrun, run_letter, ih, isPrefixOf_cons_drop c (d :: mark)]
      cases [c].isPrefixOf (whole.drop p.place) with
      | false => simp
      | true => simp [Nat.add_comm 1, Nat.add_assoc]

/-! ### Short runs -/

theorem run_any {p : Progress} : (Node.any false).run whole.toArray rest p =
    match whole.drop p.place with
    | [] => none
    | c :: _ => if c = '\n' then none else rest { p with place := p.place + 1 } := by
  rw [Node.run, toArray_getElem?]
  cases whole.drop p.place with
  | nil => rfl
  | cons c cs => by_cases hc : c = '\n' <;> simp [hc]

/-- After the first character each further one is taken only when the rest does not match. The round
before started one place earlier, so it never forbids this one. -/
theorem iterate_any {p : Progress} {fuel count : Nat} {last : Option Nat}
    (hleft : whole.drop p.place = cs) (enough : cs.length < fuel) (started : 1 ≤ count)
    (moved : last ≠ some p.place) :
    iterate ((Node.any false).run whole.toArray) 1 none .reluctant rest fuel count last p =
      match rest p with
      | some q => some q
      | none => firstStop rest cs p := by
  induction cs generalizing p fuel count last with
  | nil =>
    obtain ⟨fuel, rfl⟩ := Nat.exists_eq_succ_of_ne_zero (Nat.ne_of_gt enough)
    simp only [iterate, Nat.not_lt.mpr started, run_any, hleft, firstStop]
    cases rest p <;> simp
  | cons c cs ih =>
    obtain ⟨fuel, rfl⟩ := Nat.exists_eq_succ_of_ne_zero (Nat.ne_of_gt (Nat.zero_lt_of_lt enough))
    have hmoved : some p.place ≠ some (p.place + 1) := by simp
    have hnext := ih (p := { p with place := p.place + 1 }) (drop_succ hleft)
      (Nat.lt_of_succ_lt_succ enough) (Nat.le_add_left 1 count) hmoved
    simp only [iterate, Nat.not_lt.mpr started, run_any, hleft, firstStop]
    cases rest p <;> simp [below, moved, hnext]

theorem run_shortLine {p : Progress} (hleft : whole.drop p.place = cs) :
    Node.shortLine.run whole.toArray rest p = firstStop rest cs p := by
  have hlength : cs.length = whole.length - p.place := by rw [← hleft, List.length_drop]
  rw [Node.shortLine, Node.run, List.size_toArray]
  generalize hfuel : 1 + whole.length + 2 - p.place = fuel
  cases fuel with
  | zero =>
    obtain rfl : cs = [] := List.eq_nil_of_length_eq_zero (by omega)
    rfl
  | succ fuel =>
    simp only [iterate, Nat.lt_one_iff, if_pos, run_any, hleft]
    cases cs with
    | nil => rfl
    | cons c cs =>
      rw [List.length_cons] at hlength
      have hmoved : (none : Option Nat) ≠ some (p.place + 1) := by simp
      simp only [iterate_any (p := { p with place := p.place + 1 }) (drop_succ hleft)
        (show cs.length < fuel by omega) (Nat.le_refl 1) hmoved, firstStop]

end Run

end RaggedTables.Pattern
