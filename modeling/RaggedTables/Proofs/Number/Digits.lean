import Mathlib.Data.List.Basic
import RaggedTables.Number.Decimal

/-! The decimal digits of a number: they are ASCII digits, spell the number, and do not begin with a
zero unless the number is zero. -/

namespace RaggedTables

open Text (isAsciiDigit)

theorem Text.isAsciiDigit_eq (c : Char) : isAsciiDigit c = c.isDigit := by
  simp [isAsciiDigit, Char.isDigit, Char.le_def]

theorem Text.isAsciiDigit_of_mem_toDigits {n : Nat} {c : Char} (h : c ∈ Nat.toDigits 10 n) :
    isAsciiDigit c = true := by
  rw [isAsciiDigit_eq]
  exact Nat.isDigit_of_mem_toDigits (by decide) (by decide) h

namespace Number

theorem digitValue_of_isAsciiDigit {c : Char} (digit : isAsciiDigit c = true) :
    Text.digitValue? c = some (c.toNat - '0'.toNat) := by
  have small : c.toNat < 128 := by
    have last : c ≤ '9' := of_decide_eq_true (Bool.and_eq_true_iff.mp digit).2
    exact Nat.lt_of_le_of_lt (Char.le_def.mp last) (by decide)
  rw [Text.digitValue?, if_pos small, if_pos digit]

theorem digitsValue_toDigits (n : Nat) : digitsValue (Nat.toDigits 10 n) = n := by
  have spelled : digitsValue (Nat.toDigits 10 n) = Nat.ofDigitChars 10 (Nat.toDigits 10 n) 0 := by
    rw [digitsValue, Nat.ofDigitChars_eq_foldl]
    refine List.foldl_ext _ _ 0 fun _ c hc => ?_
    rw [digitValue_of_isAsciiDigit (Text.isAsciiDigit_of_mem_toDigits hc), Option.getD_some]
  rw [spelled, Nat.ofDigitChars_ten_toDigits]

theorem head_toDigits {n : Nat} (positive : 0 < n) :
    ∃ d ds, Nat.toDigits 10 n = d :: ds ∧ d ≠ '0' := by
  induction n using Nat.strongRecOn with
  | _ n ih =>
    rcases Nat.lt_or_ge n 10 with small | large
    · have apart : ∀ m < 10, 0 < m → m.digitChar ≠ '0' := by decide
      exact ⟨n.digitChar, [], Nat.toDigits_of_lt_base small, apart n small positive⟩
    · obtain ⟨d, ds, front, apart⟩ := ih (n / 10) (by omega) (by omega)
      exact ⟨d, ds ++ [(n % 10).digitChar],
        by rw [Nat.toDigits_of_base_le (by decide) large, front, List.cons_append], apart⟩

end Number

end RaggedTables
