import SpanSearch.Number.Digit

/-! # Decimal digits of natural numbers

The digits that a natural number is written with give the number back, and have no zero in front
except for zero itself.
-/

namespace SpanSearch.Number

theorem isDigit_of_mem_toDigits {n : Nat} {c : Char} (mem : c ∈ Nat.toDigits 10 n) :
    isDigit c = true := by
  have digit := Nat.isDigit_of_mem_toDigits (by decide) (by decide) mem
  simpa [Char.isDigit, isDigit, Char.le_def] using digit

theorem ofDigits_toDigits (n : Nat) : ofDigits (Nat.toDigits 10 n) = n :=
  Nat.ofDigitChars_ten_toDigits

/-- A number starts with a zero only if it is zero. -/
theorem toDigits_cases (n : Nat) :
    n = 0 ∧ Nat.toDigits 10 n = ['0'] ∨ ∃ c cs, Nat.toDigits 10 n = c :: cs ∧ c ≠ '0' := by
  induction n using Nat.strongRecOn with
  | _ n ih =>
    rcases Nat.lt_or_ge n 10 with small | large
    · rw [Nat.toDigits_of_lt_base small]
      have digits : ∀ n < 10, n = 0 ∨ n.digitChar ≠ '0' := by decide
      rcases digits n small with rfl | other
      · exact .inl ⟨rfl, rfl⟩
      · exact .inr ⟨_, [], rfl, other⟩
    · rw [Nat.toDigits_of_base_le (by decide) large]
      rcases ih (n / 10) (by omega) with ⟨none, -⟩ | ⟨c, cs, digits, other⟩
      · omega
      · exact .inr ⟨c, cs ++ [(n % 10).digitChar], by rw [digits]; rfl, other⟩

end SpanSearch.Number
