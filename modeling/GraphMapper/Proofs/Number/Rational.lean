import GraphMapper.Number.Binary64
import Mathlib.Algebra.Order.Field.Power
import Mathlib.Data.Rat.Floor
import Mathlib.Tactic.Linarith

/-!
# Binary64 numbers as rational numbers

A finite binary64 number is its significand, scaled by a power of two, with its sign. Its integer
part is that number, rounded toward zero.

## Main definitions

* `Binary64.value?` — the rational number that a finite number is
* `Binary64.towardZero` — the nearest integer that is not farther away from zero

## Main results

* `Binary64.truncate?_eq_map` — the integer part rounds toward zero
* `Binary64.value?_eq_none_iff` — which numbers are not finite
-/

namespace GraphMapper.Binary64

/-- The rational number that a finite number is. -/
def value? : Binary64 → Option ℚ
  | .nan => none
  | .signed negative rank =>
    if rank.val = infinityRank then none
    else
      let size : ℚ := significand rank * 2 ^ scale rank
      some (if negative then -size else size)

/-- The nearest integer that is not farther away from zero. -/
def towardZero (q : ℚ) : Int := if q < 0 then ⌈q⌉ else ⌊q⌋

variable {x : Binary64} {q : ℚ}

/-! ### Rounding toward zero -/

@[simp] theorem towardZero_intCast (n : Int) : towardZero n = n := by
  simp [towardZero]

theorem towardZero_neg (q : ℚ) : towardZero (-q) = -towardZero q := by
  rcases lt_trichotomy q 0 with below | rfl | above
  · rw [towardZero, towardZero, if_neg (by linarith), if_pos below, Int.floor_neg]
  · rfl
  · rw [towardZero, towardZero, if_pos (by linarith), if_neg (by linarith), Int.ceil_neg]

/-- What is rounded toward zero is not negative exactly if it is greater than minus one. -/
theorem towardZero_nonneg_iff : 0 ≤ towardZero q ↔ -1 < q := by
  rw [towardZero]
  split
  · rw [← Int.sub_one_lt_iff, Int.lt_ceil]
    norm_num
  · next above =>
    have low : 0 ≤ q := not_lt.mp above
    exact iff_of_true (Int.floor_nonneg.mpr low) (by linarith)

/-- What is rounded to zero is closer to zero than one. -/
theorem towardZero_eq_zero_iff : towardZero q = 0 ↔ |q| < 1 := by
  have both : towardZero q = 0 ↔ 0 ≤ towardZero q ∧ 0 ≤ towardZero (-q) := by
    rw [towardZero_neg]
    omega
  rw [both, towardZero_nonneg_iff, towardZero_nonneg_iff, abs_lt, neg_lt_neg_iff]

/-! ### Finite numbers -/

/-- The number of a rank is the quotient by which it is computed with. -/
theorem numerator_div_denominator (rank : Nat) :
    (numerator rank / denominator rank : ℚ) = significand rank * 2 ^ scale rank := by
  have powers : scale rank = (scale rank).toNat - ((-scale rank).toNat : ℤ) := by omega
  have natPow (k : Nat) : ((Nat.pow 2 k : ℕ) : ℚ) = 2 ^ (k : ℤ) := by simp [Nat.pow_eq]
  rw [numerator, denominator, Nat.cast_mul, natPow, natPow, mul_div_assoc,
    ← zpow_sub₀ two_ne_zero, ← powers]

/-- The integer part of a finite number is that number, rounded toward zero. -/
theorem truncate?_eq_map (x : Binary64) : x.truncate? = x.value?.map towardZero := by
  cases x with
  | nan => rfl
  | signed negative rank =>
    rw [truncate?, value?]
    split
    · rfl
    · -- the sign is kept apart, and the size is rounded down
      have part : ((numerator rank / denominator rank : ℕ) : ℤ) =
          towardZero (significand rank * 2 ^ scale rank) := by
        have size : (0 : ℚ) ≤ significand rank * 2 ^ scale rank := by positivity
        rw [towardZero, if_neg (not_lt.mpr size), ← numerator_div_denominator,
          Rat.floor_natCast_div_natCast, Int.natCast_div]
      simp only [Option.map_some, part]
      cases negative
      · rfl
      · rw [if_pos rfl, if_pos rfl, towardZero_neg]

/-- Only the infinities and the value that is no number have no rational value. -/
theorem value?_eq_none_iff : x.value? = none ↔ x = .nan ∨ ∃ negative, x = infinity negative := by
  cases x with
  | nan => simp [value?]
  | signed negative rank =>
    simp [value?, infinity, Fin.ext_iff]

end GraphMapper.Binary64
