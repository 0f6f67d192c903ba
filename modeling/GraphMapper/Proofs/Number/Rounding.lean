import GraphMapper.Proofs.Number.Rank
import GraphMapper.Proofs.Number.Rational
import Mathlib.Data.Int.Log

/-!
# Rounding quotients

The rank nearest to a quotient depends on the quotient alone, not on how it is written, and a
quotient that is a binary64 number is rounded to that number.

## Main results

* `Binary64.log2Ratio_eq_log` — the exponent of a quotient is its logarithm, rounded down
* `Binary64.rankOfRatio_mul` — a common factor does not matter
* `Binary64.rankOfRatio_numerator` — the number of a rank is rounded to that rank
-/

namespace GraphMapper.Binary64

variable {num den rank : Nat}

/-! ### The exponent of a quotient -/

/-- A power of two as the quotient by which it is computed with. -/
theorem two_zpow_eq_div (e : ℤ) : (2 : ℚ) ^ e = 2 ^ e.toNat / 2 ^ (-e).toNat := by
  have parts : e = e.toNat - ((-e).toNat : ℤ) := by omega
  conv_lhs => rw [parts]
  rw [zpow_sub₀ two_ne_zero, zpow_natCast, zpow_natCast]

/-- Comparing a quotient with a power of two. -/
theorem scaled_lt_iff (positive : 0 < den) (e : ℤ) :
    num * Nat.pow 2 (-e).toNat < den * Nat.pow 2 e.toNat ↔ (num / den : ℚ) < 2 ^ e := by
  have below : (0 : ℚ) < den := Nat.cast_pos.2 positive
  have power : (0 : ℚ) < 2 ^ (-e).toNat := by positivity
  rw [two_zpow_eq_div, div_lt_div_iff₀ below power, mul_comm (2 ^ e.toNat : ℚ)]
  exact_mod_cast Iff.rfl

theorem log_eq_iff {r : ℚ} (positive : 0 < r) {z : ℤ} :
    Int.log 2 r = z ↔ (2 : ℚ) ^ z ≤ r ∧ r < 2 ^ (z + 1) := by
  have low := Int.zpow_le_iff_le_log (b := 2) one_lt_two (x := z) positive
  have high := Int.lt_zpow_iff_log_lt (b := 2) one_lt_two (x := z + 1) positive
  push_cast at low high
  rw [low, high]
  omega

/-- The exponent of a quotient is its logarithm, rounded down. -/
theorem log2Ratio_eq_log (some : 0 < num) (positive : 0 < den) :
    log2Ratio num den = Int.log 2 (num / den : ℚ) := by
  have quotient : (0 : ℚ) < num / den := by positivity
  -- the numerator and the denominator lie between powers of two
  have num_low : ((2 : ℚ) ^ num.log2) ≤ num := by exact_mod_cast Nat.log2_self_le some.ne'
  have num_high : (num : ℚ) < 2 ^ (num.log2 + 1) := by exact_mod_cast Nat.lt_log2_self
  have den_low : ((2 : ℚ) ^ den.log2) ≤ den := by exact_mod_cast Nat.log2_self_le positive.ne'
  have den_high : (den : ℚ) < 2 ^ (den.log2 + 1) := by exact_mod_cast Nat.lt_log2_self
  let e : ℤ := num.log2 - den.log2
  have below : (2 : ℚ) ^ (e - 1) ≤ num / den := by
    have split : (2 : ℚ) ^ (e - 1) = 2 ^ num.log2 / 2 ^ (den.log2 + 1) := by
      rw [← zpow_natCast, ← zpow_natCast, ← zpow_sub₀ two_ne_zero]
      congr 1
      push_cast
      omega
    rw [split]
    exact div_le_div₀ (by positivity) num_low (by positivity) den_high.le
  have above : (num / den : ℚ) < 2 ^ (e + 1) := by
    have split : (2 : ℚ) ^ (e + 1) = 2 ^ (num.log2 + 1) / 2 ^ den.log2 := by
      rw [← zpow_natCast, ← zpow_natCast, ← zpow_sub₀ two_ne_zero]
      congr 1
      push_cast
      omega
    rw [split]
    exact div_lt_div₀ num_high den_low (by positivity) (by positivity)
  symm
  rw [log_eq_iff quotient]
  change (2 : ℚ) ^ (if num * Nat.pow 2 (-e).toNat < den * Nat.pow 2 e.toNat then e - 1 else e) ≤ _ ∧
    _ < (2 : ℚ) ^ ((if num * Nat.pow 2 (-e).toNat < den * Nat.pow 2 e.toNat then e - 1 else e) + 1)
  split
  · next small =>
    rw [sub_add_cancel]
    exact ⟨below, (scaled_lt_iff positive e).1 small⟩
  · next large =>
    rw [scaled_lt_iff positive, not_lt] at large
    exact ⟨large, above⟩

/-! ### The nearest rank -/

theorem roundQuotient_mul {c : Nat} (factor : 0 < c) (num den : Nat) :
    roundQuotient (c * num) (c * den) = roundQuotient num den := by
  have compare : 2 * (c * (num % den)) = c * (2 * (num % den)) := by ring
  simp only [roundQuotient, Nat.mul_div_mul_left num den factor, Nat.mul_mod_mul_left, compare,
    Nat.mul_lt_mul_left factor, beq_eq_decide, Nat.mul_right_inj factor.ne']

/-- A common factor of numerator and denominator does not matter. -/
theorem rankOfRatio_mul {c : Nat} (factor : 0 < c) (positive : 0 < den) :
    rankOfRatio (c * num) (c * den) = rankOfRatio num den := by
  rcases Nat.eq_zero_or_pos num with rfl | some
  · rw [Nat.mul_zero, rankOfRatio, rankOfRatio, if_pos rfl, if_pos rfl]
  · have same : log2Ratio (c * num) (c * den) = log2Ratio num den := by
      rw [log2Ratio_eq_log (Nat.mul_pos factor some) (Nat.mul_pos factor positive),
        log2Ratio_eq_log some positive, Nat.cast_mul, Nat.cast_mul,
        mul_div_mul_left _ _ (Nat.cast_ne_zero.2 factor.ne')]
    rw [rankOfRatio, rankOfRatio, if_neg (Nat.mul_pos factor some).ne', if_neg some.ne']
    simp only [same, Nat.mul_assoc, roundQuotient_mul factor]

theorem roundQuotient_exact {n d : Nat} (positive : 0 < d) : roundQuotient (n * d) d = n := by
  simp [roundQuotient, Nat.mul_div_cancel n positive, positive]

theorem denominator_pos (rank : Nat) : 0 < denominator rank := Nat.two_pow_pos _

theorem significand_pos (some : 0 < rank) : 0 < significand rank := by
  rw [significand, pow_two_52]
  split <;> omega

theorem scale_ge (rank : Nat) : -1074 ≤ scale rank := by
  rw [scale, pow_two_52]
  split <;> omega

/-- Numbers that are not close to zero have significands of full length. -/
theorem significand_or_scale (rank : Nat) : 2 ^ 52 ≤ significand rank ∨ scale rank = -1074 := by
  rw [significand, scale, pow_two_52]
  split <;> omega

/-- The step between neighbours of a number is its scale. -/
theorem max_log2Ratio (some : 0 < rank) :
    max (-1074) (log2Ratio (numerator rank) (denominator rank) - 52) = scale rank := by
  have significant : 0 < significand rank := significand_pos some
  have positive : 0 < numerator rank := Nat.mul_pos significant (Nat.two_pow_pos _)
  have value : (0 : ℚ) < significand rank * 2 ^ scale rank := by positivity
  rw [log2Ratio_eq_log positive (denominator_pos rank), numerator_div_denominator]
  have high : (significand rank : ℚ) < 2 ^ (53 : ℤ) := by exact_mod_cast significand_lt rank
  have step : (0 : ℚ) < 2 ^ scale rank := by positivity
  have below : Int.log 2 (significand rank * 2 ^ scale rank : ℚ) < 53 + scale rank := by
    have bound : (significand rank * 2 ^ scale rank : ℚ) < 2 ^ (53 + scale rank) := by
      rw [zpow_add₀ two_ne_zero]
      exact mul_lt_mul_of_pos_right high step
    exact (Int.lt_zpow_iff_log_lt (b := 2) one_lt_two value).1 (by exact_mod_cast bound)
  have least := scale_ge rank
  rcases significand_or_scale rank with full | subnormal
  · have above : 52 + scale rank ≤ Int.log 2 (significand rank * 2 ^ scale rank : ℚ) := by
      have low : (2 : ℚ) ^ (52 : ℤ) ≤ significand rank := by exact_mod_cast full
      have bound : (2 : ℚ) ^ (52 + scale rank) ≤ significand rank * 2 ^ scale rank := by
        rw [zpow_add₀ two_ne_zero]
        exact mul_le_mul_of_nonneg_right low step.le
      exact (Int.zpow_le_iff_le_log (b := 2) one_lt_two value).1 (by exact_mod_cast bound)
    omega
  · omega

/-- The number of a rank is rounded to that rank. -/
theorem rankOfRatio_numerator (within : rank ≤ infinityRank) :
    rankOfRatio (numerator rank) (denominator rank) = rank := by
  rcases Nat.eq_zero_or_pos rank with rfl | some
  · have none : numerator 0 = 0 := by
      rw [numerator, significand, pow_two_52]
      simp
    rw [none, rankOfRatio, if_pos rfl]
  · have positive : 0 < numerator rank := Nat.mul_pos (significand_pos some) (Nat.two_pow_pos _)
    have exact' : roundQuotient (numerator rank * Nat.pow 2 (-scale rank).toNat)
        (denominator rank * Nat.pow 2 (scale rank).toNat) = significand rank := by
      have power : 0 < denominator rank * Nat.pow 2 (scale rank).toNat :=
        Nat.mul_pos (denominator_pos rank) (Nat.two_pow_pos _)
      have grouped : numerator rank * Nat.pow 2 (-scale rank).toNat =
          significand rank * (denominator rank * Nat.pow 2 (scale rank).toNat) := by
        rw [numerator, denominator]
        ring
      rw [grouped, roundQuotient_exact power]
    rw [rankOfRatio, if_neg positive.ne']
    simp only [max_log2Ratio some, exact', ← rank_eq]
    exact min_eq_left within

end GraphMapper.Binary64
