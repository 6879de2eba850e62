import RaggedTables.Json.Reader
import RaggedTables.Json.Writer
import RaggedTables.Proofs.Number.Digits
import RaggedTables.Proofs.Outcome

/-! Reading back what was written for texts, integers and the words for other values. Every
character of a text is found again behind its escape, and the digits of an integer are read up to
the first character that is no part of a number. -/

namespace RaggedTables.Json

open Text (isAsciiDigit)

/-! ### Texts -/

section

variable {start more rest found : List Char} {fuel : Nat} {c : Char}

theorem unit?_hexDigits {n : Nat} (h : n < 0x20) : unit? (Text.hexDigits 4 n) = some n := by
  revert n
  decide

theorem length_hexDigits (width n : Nat) : (Text.hexDigits width n).length = width := by
  induction width generalizing n with
  | zero => rfl
  | succ width ih => simp [Text.hexDigits, ih]

theorem readText_quote : readText start (fuel + 1) found ('"' :: rest) =
    .ok (String.ofList found.reverse, rest) := by
  unfold readText
  rw [if_pos rfl]

theorem readText_plain (noQuote : c ≠ '"') (noEscape : c ≠ '\\') (shown : ¬ c.toNat < 0x20) :
    readText start (fuel + 1) found (c :: more) = readText start fuel (c :: found) more := by
  simp only [readText, noQuote, noEscape, shown, ↓reduceIte]

theorem readText_simple {e : Char} (simple : simpleEscape? e = some c) :
    readText start (fuel + 1) found ('\\' :: e :: more) =
      readText start fuel (c :: found) more := by
  have opens : '\\' ≠ '"' := by decide
  have apart : e ≠ 'u' := by
    rintro rfl
    cases simple
  simp only [readText, simple, opens, ↓reduceIte]

/-- A spelled unit that is no half of a pair is the character of its number. -/
theorem readText_unit {digits : List Char} {n : Nat} (four : digits.length = 4)
    (number : unit? digits = some n) (whole : n < 0xd800) (goesOn : more ≠ []) :
    readText start (fuel + 1) found ('\\' :: 'u' :: (digits ++ more)) =
      readText start fuel (Char.ofNat n :: found) more := by
  have opens : '\\' ≠ '"' := by decide
  have enough : ¬ (digits ++ more).length ≤ 4 := by
    have := List.length_pos_iff.mpr goesOn
    rw [List.length_append]
    omega
  have front : (digits ++ more).take 4 = digits := by rw [← four, List.take_left]
  have back : (digits ++ more).drop 4 = more := by rw [← four, List.drop_left]
  have alone : (decide (0xd800 ≤ n) && decide (n ≤ 0xdbff)) = false := by simp; omega
  simp only [readText, if_neg opens, if_neg enough, front, back, number, alone, Bool.false_eq_true,
    ↓reduceIte]

/-- A character is read from its escape. -/
theorem readText_escaped (c : Char) (goesOn : more ≠ []) :
    readText start (fuel + 1) found (escaped false c ++ more) =
      readText start fuel (c :: found) more := by
  unfold escaped
  split
  iterate 7 · exact readText_simple rfl
  rename_i noQuote noEscape _ _ _ _ _
  split
  · rename_i control
    have read : readText start (fuel + 1) found (unitEscape c.toNat ++ more) =
        readText start fuel (Char.ofNat c.toNat :: found) more :=
      readText_unit (length_hexDigits 4 c.toNat) (unit?_hexDigits control) (by omega) goesOn
    rwa [Char.ofNat_toNat] at read
  · rename_i shown
    exact readText_plain noQuote noEscape shown

theorem readText_chars (cs : List Char) (enough : cs.length < fuel) :
    readText start fuel found (cs.flatMap (escaped false) ++ '"' :: rest) =
      .ok (String.ofList (found.reverse ++ cs), rest) := by
  induction cs generalizing fuel found with
  | nil =>
    cases fuel with
    | zero => simp at enough
    | succ fuel => rw [List.flatMap_nil, List.nil_append, readText_quote, List.append_nil]
  | cons c cs ih =>
    cases fuel with
    | zero => simp at enough
    | succ fuel =>
      rw [List.flatMap_cons, List.append_assoc, readText_escaped c (by simp),
        ih (by simpa using enough), List.reverse_cons, List.append_assoc, List.singleton_append]

theorem escaped_ne_nil (asciiOnly : Bool) (c : Char) : escaped asciiOnly c ≠ [] := by
  unfold escaped
  split
  iterate 7 · simp
  split
  · simp [unitEscape]
  split
  · unfold codeEscape
    split <;> simp [unitEscape]
  · simp

theorem length_le_flatMap_escaped (asciiOnly : Bool) (cs : List Char) :
    cs.length ≤ (cs.flatMap (escaped asciiOnly)).length := by
  induction cs with
  | nil => simp
  | cons c cs ih =>
    have first := List.length_pos_iff.mpr (escaped_ne_nil asciiOnly c)
    rw [List.flatMap_cons, List.length_append, List.length_cons]
    omega

/-- The text behind an opening quote is read up to its closing quote. -/
theorem readText_quoted (s : String) :
    readText start ((s.toList.flatMap (escaped false) ++ '"' :: rest).length + 1) []
      (s.toList.flatMap (escaped false) ++ '"' :: rest) = .ok (s, rest) := by
  have short := length_le_flatMap_escaped false s.toList
  rw [readText_chars s.toList (by rw [List.length_append]; omega), List.reverse_nil,
    List.nil_append, String.ofList_toList]

/-- No carriage return is written for a character. -/
theorem not_mem_escaped (c : Char) : '\r' ∉ escaped false c := by
  have controls : ∀ n < 0x20, '\r' ∉ unitEscape n := by decide
  unfold escaped
  split
  iterate 7 · decide
  rename_i _ _ _ apart _ _ _
  split
  · rename_i control
    exact controls _ control
  · simpa using Ne.symm apart

end

/-! ### Numbers and words -/

section

variable {c d : Char} {start cs rest : List Char} {negative : Bool}

/-- No character that a number could go on with comes first. -/
def EndsNumber (rest : List Char) : Prop :=
  ∀ c ∈ rest.head?, isAsciiDigit c = false ∧ c ≠ '.' ∧ c ≠ 'e' ∧ c ≠ 'E'

theorem decimalsFrom_of_endsNumber (ends : EndsNumber rest) : decimalsFrom rest = ([], rest) := by
  unfold decimalsFrom
  split
  · exact absurd rfl (ends '.' rfl).2.1
  · rfl

theorem powerFrom_of_endsNumber (ends : EndsNumber rest) : powerFrom rest = ([], rest) := by
  cases rest with
  | nil => rfl
  | cons c rest =>
    obtain ⟨-, -, lower, upper⟩ := ends c rfl
    unfold powerFrom
    exact if_neg (by simp [lower, upper])

theorem digitsFrom_toDigits (ends : EndsNumber rest) (n : Nat) :
    digitsFrom (Nat.toDigits 10 n ++ rest) = (Nat.toDigits 10 n, rest) := by
  have digits : ∀ c ∈ Nat.toDigits 10 n, isAsciiDigit c = true :=
    fun c => Text.isAsciiDigit_of_mem_toDigits
  rw [digitsFrom, List.takeWhile_append_of_pos digits, List.dropWhile_append_of_pos digits]
  cases rest with
  | nil => simp
  | cons c rest => simp [(ends c rfl).1]

/-- The digits of a number are read as that number. -/
theorem readNumber_toDigits {n : Nat} (short : (Nat.toDigits 10 n).length ≤ Text.digitLimit)
    (ends : EndsNumber rest) :
    readNumber start negative (Nat.toDigits 10 n ++ rest) =
      .ok (.int (if negative then -n else n), rest) := by
  have value := Number.digitsValue_toDigits n
  have fits := Nat.not_lt.mpr short
  rcases Nat.eq_zero_or_pos n with rfl | positive
  · rw [Nat.toDigits_zero] at value fits ⊢
    simp only [readNumber, List.singleton_append, decimalsFrom_of_endsNumber ends,
      powerFrom_of_endsNumber ends, fits, value, List.isEmpty_cons, List.isEmpty_nil, Bool.and_self,
      Bool.false_eq_true, ↓reduceIte]
  · obtain ⟨d, ds, front, apart⟩ := Number.head_toDigits positive
    have whole := digitsFrom_toDigits ends n
    rw [front] at whole value fits ⊢
    rw [List.cons_append] at whole ⊢
    have noZero : ∀ more, d :: (ds ++ rest) = '0' :: more → False :=
      fun _ h => apart (List.cons.inj h).1
    simp only [readNumber, whole, decimalsFrom_of_endsNumber ends, powerFrom_of_endsNumber ends,
      fits, value, List.isEmpty_cons, List.isEmpty_nil, Bool.and_self,
      Bool.false_eq_true, ↓reduceIte]

/-- A number is not taken for a word. -/
theorem findSome?_words (digit : isAsciiDigit d = true) (cs : List Char) :
    (words.findSome? fun (word, v) => (after? word (d :: cs)).map fun rest => (v, rest)) = none ∧
      (words.findSome? fun (word, v) => (after? word ('-' :: d :: cs)).map fun rest => (v, rest)) =
        none := by
  have apart : ∀ w ∈ "ntfNI-".toList, w ≠ d := by
    rintro w hw rfl
    have noDigit : ∀ w ∈ "ntfNI-".toList, isAsciiDigit w = false := by simp [isAsciiDigit]
    rw [noDigit w hw] at digit
    cases digit
  have heads : 'n' ≠ d ∧ 't' ≠ d ∧ 'f' ≠ d ∧ 'N' ≠ d ∧ 'I' ≠ d ∧ '-' ≠ d := by simpa using apart
  constructor <;> simp [words, after?, heads]

theorem readScalar_toDigits {n : Nat} (short : (Nat.toDigits 10 n).length ≤ Text.digitLimit)
    (ends : EndsNumber rest) :
    readScalar (Nat.toDigits 10 n ++ rest) = .ok (.int n, rest) ∧
      readScalar ('-' :: (Nat.toDigits 10 n ++ rest)) = .ok (.int (-n), rest) := by
  have number (start : List Char) (negative : Bool) :=
    @readNumber_toDigits start rest negative n short ends
  obtain ⟨d, ds, front⟩ := List.exists_cons_of_ne_nil (Nat.toDigits_ne_nil (n := n) (b := 10))
  have digit : isAsciiDigit d = true :=
    Text.isAsciiDigit_of_mem_toDigits (front ▸ List.mem_cons_self)
  have noSign : ∀ more, d :: (ds ++ rest) = '-' :: more → False := by
    rintro more h
    rw [(List.cons.inj h).1] at digit
    cases digit
  obtain ⟨noWord, noWord'⟩ := findSome?_words digit (ds ++ rest)
  rw [front, List.cons_append] at number ⊢
  constructor
  · simp only [readScalar, noWord, number, Bool.false_eq_true, ↓reduceIte]
  · simp only [readScalar, noWord', number, ↓reduceIte]

theorem toList_toString_int (n : Int) :
    (toString n).toList = (if n < 0 then ['-'] else []) ++ Nat.toDigits 10 n.natAbs := by
  cases n with
  | ofNat m => simp [Int.toString_eq_repr, Int.repr, Nat.repr_eq_ofList_toDigits]
  | negSucc m => simp [Int.toString_eq_repr, Int.repr, Nat.repr_eq_ofList_toDigits]

/-- An integer is read from its digits. -/
theorem readScalar_int {n : Int} (short : (Nat.toDigits 10 n.natAbs).length ≤ Text.digitLimit)
    (ends : EndsNumber rest) : readScalar ((toString n).toList ++ rest) = .ok (.int n, rest) := by
  obtain ⟨positive, negative⟩ := readScalar_toDigits short ends
  rw [toList_toString_int]
  split
  · rw [List.singleton_append, List.cons_append, negative, show -(n.natAbs : Int) = n by omega]
  · rw [List.nil_append, positive, show (n.natAbs : Int) = n by omega]

theorem readScalar_null (rest : List Char) :
    readScalar ("null".toList ++ rest) = .ok (.null, rest) := rfl

theorem readScalar_bool (b : Bool) (rest : List Char) :
    readScalar ((if b then "true" else "false").toList ++ rest) = .ok (.bool b, rest) := by
  cases b <;> rfl

end

end RaggedTables.Json
