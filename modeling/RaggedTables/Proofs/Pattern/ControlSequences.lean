import RaggedTables.Proofs.Pattern.Remainders
import RaggedTables.Proofs.Pattern.Replacing
import RaggedTables.Proofs.Text.Sequences

/-! The pattern for control sequences. What it leaves of a text first is what the scanner leaves of
it: marks give no character back, since neither a number nor a final character can start with one,
and where numbers run into nothing that can end a sequence their last digit ends it. So a text
without the matches of the pattern is what is visible of it. -/

namespace RaggedTables

open Pattern Text

namespace Pattern

/-! ### The pattern -/

/-- The pattern for a control sequence. -/
def controlSequence : String :=
  "[\\u001b\\u009b][\\[()#;?]*(?:[0-9]\x7b1,4\x7d(?:;[0-9]\x7b0,4\x7d)*)?" ++
    "[0-9A-ORZcf-nqry=><]"

def OneChar.introducer : OneChar := { items := [.code 27, .code 155] }

def OneChar.mark : OneChar :=
  { items := [.code 91, .code 40, .code 41, .code 35, .code 59, .code 63] }

def OneChar.digit : OneChar := { items := [.range 48 57] }

def OneChar.semicolon : OneChar := { items := [.code 59] }

def OneChar.final : OneChar where
  items := [.range 48 57, .range 65 79, .code 82, .code 90, .code 99, .range 102 110, .code 113,
    .code 114, .code 121, .code 61, .code 62, .code 60]

/-- At most four digits. -/
def Node.digits (least : Nat) : Node := .repeated (.one .digit) least (some 4) .greedy

/-- A semicolon with a number behind it, which may be empty. -/
def Node.furtherNumber : Node := .seq (.one .semicolon) (.digits 0)

/-- Numbers between semicolons. -/
def Node.numbers : Node := .seq (.digits 1) (.repeated .furtherNumber 0 none .greedy)

/-- A control sequence. -/
def Node.sequence : Node :=
  .seq (.one .introducer) (.seq (.repeated (.one .mark) 0 none .greedy)
    (.seq (.repeated .numbers 0 (some 1) .greedy) (.one .final)))

theorem accepts_introducer : OneChar.introducer.accepts = isIntroducer := by
  funext c
  rw [Bool.eq_iff_iff]
  simp [OneChar.accepts, OneChar.introducer, ClassItem.holds, CaseRule.same, isIntroducer,
    ← Char.toNat_inj]

theorem accepts_mark : OneChar.mark.accepts = isMark := by
  funext c
  rw [Bool.eq_iff_iff]
  simp [OneChar.accepts, OneChar.mark, ClassItem.holds, CaseRule.same, isMark, ← Char.toNat_inj]

theorem accepts_digit : OneChar.digit.accepts = isAsciiDigit := by
  funext c
  rw [Bool.eq_iff_iff]
  simp [OneChar.accepts, OneChar.digit, ClassItem.holds, CaseRule.inRange, isAsciiDigit,
    Char.le_def, UInt32.le_iff_toNat_le]

theorem accepts_semicolon : OneChar.semicolon.accepts = (· == ';') := by
  funext c
  exact letter_accepts ';' c |>.trans (Bool.beq_comm ..)

theorem accepts_final : OneChar.final.accepts = isFinal := by
  funext c
  rw [Bool.eq_iff_iff]
  simp [OneChar.accepts, OneChar.final, ClassItem.holds, CaseRule.inRange, CaseRule.same, isFinal,
    isAsciiDigit, Char.le_def, UInt32.le_iff_toNat_le, ← Char.toNat_inj, or_assoc, or_left_comm]

/-! ### What it leaves -/

/-- What digits leave, at least as many as given and four at most. -/
def digitRemainders (least : Nat) : List Char → List (List Char) :=
  greedyRemainders (oneRemainder isAsciiDigit) least (some 4)

def furtherRemainders (cs : List Char) : List (List Char) :=
  (oneRemainder (· == ';') cs).flatMap (digitRemainders 0)

def numberRemainders (cs : List Char) : List (List Char) :=
  (digitRemainders 1 cs).flatMap (greedyRemainders furtherRemainders 0 none)

/-- What numbers, if there are any, and a final character leave. -/
def endingRemainders (cs : List Char) : List (List Char) :=
  (greedyRemainders numberRemainders 0 (some 1) cs).flatMap (oneRemainder isFinal)

def sequenceRemainders (cs : List Char) : List (List Char) :=
  (oneRemainder isIntroducer cs).flatMap fun cs =>
    (greedyRemainders (oneRemainder isMark) 0 none cs).flatMap endingRemainders

theorem leaves_digits (least : Nat) : Leaves (.digits least) (digitRemainders least) := by
  rw [digitRemainders, ← accepts_digit]
  exact (leaves_one .digit).repeated (shrinks_one _)

theorem leaves_furtherNumber : Leaves .furtherNumber furtherRemainders := by
  have one := leaves_one .semicolon
  rw [accepts_semicolon] at one
  exact one.seq (leaves_digits 0)

theorem shrinks_furtherRemainders : Shrinks furtherRemainders :=
  (shrinks_one _).seq (leaves_digits 0).back

theorem leaves_numbers : Leaves .numbers numberRemainders :=
  (leaves_digits 1).seq (leaves_furtherNumber.repeated shrinks_furtherRemainders)

theorem shrinks_digitRemainders : Shrinks (digitRemainders 1) := by
  rw [digitRemainders, ← accepts_digit]
  exact (shrinks_one _).repeated (leaves_one .digit).back Nat.one_pos

theorem shrinks_numberRemainders : Shrinks numberRemainders :=
  shrinks_digitRemainders.seq (leaves_furtherNumber.repeated shrinks_furtherRemainders).back

theorem leaves_sequence : Leaves .sequence sequenceRemainders := by
  have introducer := leaves_one .introducer
  have mark := leaves_one .mark
  have final := leaves_one .final
  rw [accepts_introducer] at introducer
  rw [accepts_mark] at mark
  rw [accepts_final] at final
  exact introducer.seq ((mark.repeated (shrinks_one _)).seq
    ((leaves_numbers.repeated shrinks_numberRemainders).seq final))

/-! ### What it leaves first -/

section

variable {k : List Char → Option (List Char)} {c : Char} {cs rest fallback : List Char}
  {least fuel fuel' count : Nat}

theorem afterDigits_of_not {n : Nat} (stop : isAsciiDigit c = false) :
    afterDigits n (c :: cs) = c :: cs := by
  cases n with
  | zero => rfl
  | succ n => rw [afterDigits, if_neg (Bool.eq_false_iff.mp stop)]

/-- What a greedy repetition of digits leaves first where the rest, if it matches a digit at all,
leaves what is behind it. -/
def afterLast? (k : List Char → Option (List Char)) (after cs : List Char) : Option (List Char) :=
  (k after).or (if after.length < cs.length then some after else none)

theorem afterLast?_cons (n : Nat) (cs : List Char) :
    (afterLast? k (afterDigits n cs) cs).or (some cs) =
      (k (afterDigits n cs)).or (some (afterDigits n cs)) := by
  rw [afterLast?]
  have back := afterDigits_suffix n cs
  split
  · rw [Option.or_assoc, Option.some_or]
  · rw [back.eq_of_length_le (by omega), Option.or_none]

theorem findSome?_digits (digit : ∀ c rest, isAsciiDigit c = true → k (c :: rest) = some rest)
    (enough : cs.length < fuel) (started : least ≤ count) (most : count ≤ 4) :
    (rounds (oneRemainder isAsciiDigit) least (some 4) fuel count cs).findSome? k =
      afterLast? k (afterDigits (4 - count) cs) cs := by
  induction fuel generalizing count cs with
  | zero => omega
  | succ fuel ih =>
    rw [rounds, if_neg (Nat.not_lt.mpr started)]
    cases cs with
    | nil =>
      have none : afterDigits (4 - count) [] = [] := by cases 4 - count <;> rfl
      simp [none, oneRemainder, afterLast?]
    | cons c cs =>
      cases hc : isAsciiDigit c with
      | false =>
        simp [oneRemainder, hc, afterDigits_of_not hc, afterLast?]
      | true =>
        cases Nat.lt_or_ge count 4 with
        | inl more =>
          obtain ⟨n, hn⟩ : ∃ n, 4 - count = n + 1 := ⟨3 - count, by omega⟩
          have later : (rounds (oneRemainder isAsciiDigit) least (some 4) fuel (count + 1)
              cs).findSome? k = afterLast? k (afterDigits n cs) cs := by
            rw [ih (by simpa using enough) (by omega) more, show 4 - (count + 1) = n by omega]
          simp only [oneRemainder, hc, if_true, List.flatMap_singleton, below, more, decide_true,
            List.findSome?_append, later, List.findSome?_singleton, digit c cs hc, hn, afterDigits]
          rw [afterLast?_cons, afterLast?, if_pos]
          exact Nat.lt_succ_of_le (length_afterDigits_le n cs)
        | inr full =>
          obtain rfl : count = 4 := Nat.le_antisymm most full
          simp [below, afterDigits, afterLast?]

theorem findSome?_someDigits
    (digit : ∀ c rest, isAsciiDigit c = true → k (c :: rest) = some rest) :
    (digitRemainders 1 (c :: cs)).findSome? k =
      if isAsciiDigit c then afterLast? k (afterDigits 3 cs) cs else none := by
  rw [digitRemainders, greedyRemainders, rounds, if_pos Nat.one_pos, oneRemainder]
  split
  · rw [List.flatMap_singleton]
    exact findSome?_digits digit (by simp; omega) (Nat.le_refl 1) (by decide)
  · rfl

/-- What is left behind a final character. -/
def afterFinal? : List Char → Option (List Char)
  | c :: rest => if isFinal c then some rest else none
  | [] => none

/-- What further numbers and a final character leave first. -/
def afterFurther? (fuel count : Nat) (cs : List Char) : Option (List Char) :=
  (rounds furtherRemainders 0 none fuel count cs).findSome? afterFinal?

theorem afterFurther?_of_ne (apart : c ≠ ';') :
    afterFurther? (fuel + 1) count (c :: cs) = afterFinal? (c :: cs) := by
  simp [afterFurther?, rounds, furtherRemainders, oneRemainder, apart, below]

theorem afterFurther?_digit (digit : isAsciiDigit c = true) :
    afterFurther? (fuel + 1) count (c :: cs) = some cs := by
  have apart : c ≠ ';' := by
    rintro rfl
    cases digit
  rw [afterFurther?_of_ne apart, afterFinal?, if_pos (isFinal_of_digit digit)]

theorem afterFurther?_semicolon (enough : cs.length < fuel) :
    afterFurther? (fuel + 1) count (';' :: cs) =
      afterLast? (afterFurther? fuel (count + 1)) (afterDigits 4 cs) cs := by
  obtain ⟨fuel, rfl⟩ := Nat.exists_eq_succ_of_ne_zero (Nat.ne_of_gt (Nat.zero_lt_of_lt enough))
  have further : furtherRemainders (';' :: cs) = digitRemainders 0 cs := by
    simp [furtherRemainders, oneRemainder]
  have none : afterFinal? (';' :: cs) = none := rfl
  rw [afterFurther?, rounds, further, if_neg (Nat.not_lt_zero _), below, if_pos rfl,
    List.findSome?_append, findSome?_flatMap, List.findSome?_singleton, none, Option.or_none]
  exact findSome?_digits (fun _ _ => afterFurther?_digit) (by omega) (Nat.le_refl 0) (by decide)

theorem afterFurther?_getD (enough : cs.length < fuel) (enough' : cs.length ≤ fuel')
    (count : Nat) :
    (afterFurther? fuel count cs).getD fallback = afterNumbers fuel' fallback cs := by
  induction fuel generalizing count cs fuel' fallback with
  | zero => omega
  | succ fuel ih =>
    cases cs with
    | nil =>
      have none : afterNumbers fuel' fallback [] = fallback := by cases fuel' <;> rfl
      rw [none]
      rfl
    | cons c cs =>
      simp only [List.length_cons] at enough enough'
      by_cases hc : c = ';'
      · obtain ⟨fuel', rfl⟩ := Nat.exists_eq_succ_of_ne_zero (n := fuel') (by omega)
        have shorter := length_afterDigits_le 4 cs
        rw [hc, afterFurther?_semicolon (by omega), afterNumbers_semicolon, afterLast?,
          ← ih (by omega) (by omega) (count + 1)]
        cases afterFurther? fuel (count + 1) (afterDigits 4 cs) with
        | some after => rfl
        | none => split <;> rfl
      · rw [afterFurther?_of_ne hc, afterNumbers_of_ne hc, afterFinal?]
        split <;> rfl

/-- A repetition that takes one round at most takes it before none. -/
theorem greedyRemainders_optional (f : List Char → List (List Char)) (cs : List Char) :
    greedyRemainders f 0 (some 1) cs = f cs ++ [cs] := by
  rw [greedyRemainders, rounds]
  simp [rounds, below]

theorem head?_final (cs : List Char) : (oneRemainder isFinal cs).head? = afterFinal? cs := by
  cases cs with
  | nil => rfl
  | cons c cs =>
    rw [oneRemainder, afterFinal?]
    split <;> rfl

/-- Where nothing that can end a sequence follows its numbers, their last digit does. -/
theorem head?_ending (c : Char) (cs : List Char) : (endingRemainders (c :: cs)).head? =
    if isAsciiDigit c then
      some (afterNumbers (afterDigits 3 cs).length (afterDigits 3 cs) (afterDigits 3 cs))
    else if isFinal c then some cs else none := by
  have numbers : (numberRemainders (c :: cs)).findSome? afterFinal? =
      if isAsciiDigit c then
        afterLast? (fun left => afterFurther? (0 + left.length + 2) 0 left) (afterDigits 3 cs) cs
      else none := by
    rw [numberRemainders, findSome?_flatMap]
    exact findSome?_someDigits fun _ _ digit => afterFurther?_digit digit
  rw [endingRemainders, greedyRemainders_optional, List.head?_flatMap]
  simp only [head?_final, List.findSome?_append, numbers, List.findSome?_singleton]
  split
  · rename_i digit
    rw [afterFinal?, if_pos (isFinal_of_digit digit), afterLast?_cons]
    generalize afterDigits 3 cs = after
    have further : (afterFurther? (0 + after.length + 2) 0 after).getD after =
        afterNumbers after.length after after :=
      afterFurther?_getD (by omega) (Nat.le_refl after.length) 0
    rw [← further]
    cases afterFurther? (0 + after.length + 2) 0 after <;> rfl
  · rfl

/-- Of marks none is given back to a rest that does not start with one. -/
theorem findSome?_marks (apart : ∀ c rest, isMark c = true → k (c :: rest) = none)
    (enough : cs.length < fuel) :
    (rounds (oneRemainder isMark) 0 none fuel count cs).findSome? k = k (cs.dropWhile isMark) := by
  induction fuel generalizing count cs with
  | zero => omega
  | succ fuel ih =>
    rw [rounds, if_neg (Nat.not_lt_zero _), below, if_pos rfl]
    cases cs with
    | nil => simp [oneRemainder]
    | cons c cs =>
      cases hc : isMark c with
      | false => simp [oneRemainder, hc]
      | true =>
        have later : (rounds (oneRemainder isMark) 0 none fuel (count + 1) cs).findSome? k =
            k (cs.dropWhile isMark) := ih (by simpa using enough)
        simp [oneRemainder, hc, later, apart c cs hc]

theorem head?_sequence (c : Char) (cs : List Char) :
    (sequenceRemainders (c :: cs)).head? = if isIntroducer c then afterSequence? cs else none := by
  rw [sequenceRemainders, oneRemainder]
  split
  · have ending : (greedyRemainders (oneRemainder isMark) 0 none cs).findSome?
        (fun left => (endingRemainders left).head?) =
          (endingRemainders (cs.dropWhile isMark)).head? := by
      refine findSome?_marks (fun c rest mark => ?_) (by omega)
      obtain ⟨digit, final⟩ := notEnding_of_mark mark
      rw [head?_ending, digit, final]
      rfl
    rw [List.flatMap_singleton, List.head?_flatMap, ending, afterSequence?]
    cases cs.dropWhile isMark with
    | nil => rfl
    | cons c cs => exact head?_ending c cs
  · rfl

/-- A sequence matches where the scanner finds one. -/
theorem matchAt?_sequence {whole : List Char} {start : Nat} (hleft : whole.drop start = c :: cs) :
    Node.sequence.matchAt? whole.toArray start false =
      (if isIntroducer c then afterSequence? cs else none).map fun after =>
        ⟨⟨start, whole.length - after.length⟩, []⟩ := by
  have inside := length_of_drop_cons hleft
  rw [leaves_sequence.matchAt? (by omega), hleft, head?_sequence]

theorem matchAt?_sequence_nil {whole : List Char} {start : Nat} (inside : start ≤ whole.length)
    (hleft : whole.drop start = []) : Node.sequence.matchAt? whole.toArray start false = none := by
  rw [leaves_sequence.matchAt? inside, hleft]
  rfl

theorem suffix_of_opened {after : List Char}
    (h : (if isIntroducer c then afterSequence? cs else none) = some after) :
    after <:+ c :: cs := by
  rw [← head?_sequence] at h
  exact leaves_sequence.back _ _ (List.mem_of_mem_head? h)

/-- Without the matches of the pattern a text is what is visible of it. -/
theorem replaced_sequences {whole : List Char} {start : Nat} (inside : start ≤ whole.length)
    (hleft : whole.drop start = cs) (enough : cs.length < fuel) :
    replacedFrom whole [] start (Node.sequence.cutsFrom whole.toArray fuel start false) =
      visible cs := by
  induction hn : cs.length using Nat.strong_induction_on generalizing start cs fuel with
  | _ n ih =>
    cases cs with
    | nil => exact replaced_end hleft (matchAt?_sequence_nil inside hleft) fuel
    | cons c cs =>
      have hmatch := matchAt?_sequence hleft
      have hlength := length_of_drop_cons hleft
      rw [List.length_cons] at hn enough
      rw [visible_cons]
      cases found : if isIntroducer c then afterSequence? cs else none with
      | none =>
        rw [found] at hmatch
        rw [replaced_skip hleft hmatch]
        exact congrArg (c :: ·)
          (ih cs.length (by omega) (by omega) (drop_succ hleft) (by omega) rfl)
      | some after =>
        have shorter := length_opened_le found
        have back : after <:+ whole :=
          (suffix_of_opened found).trans (hleft ▸ List.drop_suffix start whole)
        obtain ⟨fuel, rfl⟩ := Nat.exists_eq_succ_of_ne_zero (n := fuel) (by omega)
        rw [found] at hmatch
        rw [replaced_match hleft (by omega) hmatch, List.nil_append]
        exact ih after.length (by omega) (Nat.sub_le _ _)
          (List.suffix_iff_eq_drop.mp back).symm (by omega) rfl

end

/-- Without the matches of the pattern a text is what is visible of it, and without the blanks at
the ends of that it is the plain text. -/
theorem compile_sequences : ∃ sequences, Pattern.compile controlSequence = .ok sequences ∧ ∀ s,
    sequences.replaced "" s = String.ofList (visible s.toList) ∧
      strip (sequences.replaced "" s) = stripAnsi s := by
  obtain ⟨sequences, compiled, hnode⟩ :
      ∃ sequences, Pattern.compile controlSequence = .ok sequences ∧ sequences.node = .sequence :=
    compile_node (by decide +kernel)
  refine ⟨sequences, compiled, fun s => ?_⟩
  have enough : s.toList.length < 2 * s.toList.length + 2 := by omega
  have seen : sequences.replaced "" s = String.ofList (visible s.toList) := by
    rw [replaced, hnode]
    exact congrArg String.ofList (replaced_sequences (Nat.zero_le _) List.drop_zero enough)
  exact ⟨seen, by rw [seen, strip, String.toList_ofList, stripAnsi]⟩

end Pattern

end RaggedTables
