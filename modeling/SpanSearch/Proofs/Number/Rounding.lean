import Mathlib.Algebra.Order.Round
import Mathlib.Data.Rat.Floor
import Mathlib.Tactic.Linarith
import Mathlib.Tactic.FieldSimp
import SpanSearch.Number.Binary64

/-! # Rounding to integers

A finite number is a rational number. What it becomes as an integer of 64 bits is told by that
rational number: the integer nearest to it, with halves going away from zero, or the bound of the
integers that it exceeds.
-/

namespace SpanSearch.Number

/-- The integer nearest to a number. A half goes away from zero. -/
def roundAway (q : ℚ) : ℤ := if q < 0 then -round (-q) else round q

section

variable {q : ℚ}

theorem roundAway_neg (pos : 0 < q) : roundAway (-q) = -round q := by
  rw [roundAway, if_pos (neg_lt_zero.2 pos), neg_neg]

theorem roundAway_of_nonneg (nonneg : 0 ≤ q) : roundAway q = round q := if_neg (not_lt.2 nonneg)

theorem round_spec (nonneg : 0 ≤ q) :
    |q - round q| < 1 / 2 ∨ |q - round q| = 1 / 2 ∧ |q| < |(round q : ℚ)| := by
  have below := Int.lt_floor_add_one (q + 1 / 2)
  have above := Int.floor_le (q + 1 / 2)
  rw [← round_eq] at below above
  rcases above.lt_or_eq with above | tie
  · left
    rw [abs_lt]
    constructor <;> linarith
  · right
    have farther : 0 ≤ q + 1 / 2 := by linarith
    rw [tie, sub_add_cancel_left, abs_neg, abs_of_nonneg nonneg, abs_of_nonneg farther]
    constructor
    · norm_num
    · linarith

/-- The integer is less than a half away, or a half and farther from zero. -/
theorem roundAway_spec (q : ℚ) :
    |q - roundAway q| < 1 / 2 ∨ |q - roundAway q| = 1 / 2 ∧ |q| < |(roundAway q : ℚ)| := by
  rcases lt_or_ge q 0 with neg | nonneg
  · have spec := round_spec (neg_nonneg.2 neg.le)
    have flipped : -q - round (-q) = -(q - roundAway q) := by
      rw [roundAway, if_pos neg]
      push_cast
      ring
    have magnitude : |(round (-q) : ℚ)| = |(roundAway q : ℚ)| := by
      rw [roundAway, if_pos neg, Int.cast_neg, abs_neg]
    rwa [flipped, abs_neg, abs_neg, magnitude] at spec
  · rw [roundAway_of_nonneg nonneg]
    exact round_spec nonneg

end

namespace Binary64

/-- The rational number that a finite number is. -/
def rational? : Binary64 → Option ℚ
  | finite negative m e => some (if negative then -(m * 2 ^ e) else m * 2 ^ e)
  | _ => none

variable {x : Binary64} {q : ℚ} {m : Nat} {e : Int}

theorem nearestNat_eq (m : Nat) (e : Int) : (nearestNat m e : ℤ) = round ((m : ℚ) * 2 ^ e) := by
  rw [nearestNat]
  split
  · next nonneg =>
    obtain ⟨k, rfl⟩ := Int.eq_ofNat_of_zero_le nonneg
    have whole : (m : ℚ) * 2 ^ (k : Int) = ((m * 2 ^ k : Nat) : ℤ) := by push_cast; rfl
    rw [whole, round_intCast]
    rfl
  · next negative =>
    obtain ⟨k, eq⟩ := Int.eq_ofNat_of_zero_le (show 0 ≤ -e - 1 by omega)
    obtain rfl : e = -(k + 1) := by omega
    have power : (-(-((k : Int) + 1))).toNat - 1 = k := by omega
    have half : (m : ℚ) * 2 ^ (-((k : Int) + 1)) + 1 / 2
        = ((m + 2 ^ k : Nat) : ℚ) / ((2 * 2 ^ k : Nat) : ℚ) := by
      rw [zpow_neg, zpow_add_one₀ two_ne_zero, zpow_natCast]
      push_cast
      field_simp
    rw [power, round_eq, half, Rat.floor_natCast_div_natCast]
    rfl

theorem roundAway_rational (m : Nat) (e : Int) (negative : Bool) :
    roundAway (if negative then -(m * 2 ^ e) else m * 2 ^ e)
      = if negative then -(nearestNat m e : ℤ) else nearestNat m e := by
  have nonneg : 0 ≤ (m : ℚ) * 2 ^ e := mul_nonneg m.cast_nonneg (zpow_nonneg zero_le_two e)
  rw [nearestNat_eq]
  cases negative with
  | false => exact roundAway_of_nonneg nonneg
  | true =>
    rw [if_pos rfl, if_pos rfl]
    rcases nonneg.lt_or_eq with pos | zero
    · exact roundAway_neg pos
    · rw [← zero, neg_zero, roundAway_of_nonneg le_rfl, round_zero, neg_zero]

/-- A finite number becomes the nearest integer, or the bound that this exceeds. -/
theorem toInt64_eq (finite : x.rational? = some q) :
    x.toInt64 = max leastInt64 (min greatestInt64 (roundAway q)) := by
  cases x with
  | nan | infinite => cases finite
  | finite negative m e =>
    obtain rfl := Option.some.inj finite
    rw [roundAway_rational, toInt64]
    simp only [leastInt64, greatestInt64]
    split <;> omega

/-- A finite number becomes the nearest natural number, or the bound that this exceeds. -/
theorem toNat64_eq (finite : x.rational? = some q) :
    x.toNat64 = min (Nat.pow 2 64 - 1) (roundAway q).toNat := by
  cases x with
  | nan | infinite => cases finite
  | finite negative m e =>
    obtain rfl := Option.some.inj finite
    rw [roundAway_rational, toNat64]
    split
    · rw [Int.toNat_eq_zero.2 (by omega), Nat.min_zero]
    · rw [Int.toNat_natCast]

/-- Only what is the least integer or less becomes the least integer. -/
theorem toInt64_eq_leastInt64_iff :
    x.toInt64 = leastInt64
      ↔ x = .infinite true ∨ ∃ q, x.rational? = some q ∧ roundAway q ≤ leastInt64 := by
  cases x with
  | nan => simp [toInt64, rational?, leastInt64]
  | infinite negative => cases negative <;> simp [toInt64, rational?, leastInt64, greatestInt64]
  | finite negative m e =>
    rw [toInt64_eq rfl]
    simp only [reduceCtorEq, false_or, rational?, Option.some.injEq, exists_eq_left',
      leastInt64, greatestInt64]
    omega

end Binary64

end SpanSearch.Number
