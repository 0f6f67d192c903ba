import GraphMapper.Number.Binary64
import Mathlib.Tactic.Ring

/-!
# Ranks of binary64 numbers

A rank is made of its significand and its scale, and no two ranks stand for the same integer. So
numbers that equal the same integer are equal, and equality of numbers is transitive. It is not
reflexive, as what is not a number equals nothing.

## Main results

* `Binary64.rank_eq` — a rank is known from its significand and its scale
* `Binary64.rank_eq_of_exact` — no two ranks stand for the same integer
* `Binary64.equals_trans` — a number that equals one that equals a third one equals the third one
-/

namespace GraphMapper.Binary64

theorem pow_two_52 : Nat.pow 2 52 = 4503599627370496 := rfl

/-- A rank is known from its significand and its scale. -/
theorem rank_eq (rank : Nat) :
    rank = (scale rank + 1074).toNat * Nat.pow 2 52 + significand rank := by
  rw [scale, significand, pow_two_52]
  split <;> omega

theorem significand_lt (rank : Nat) : significand rank < 2 ^ 53 := by
  rw [significand, pow_two_52]
  split <;> omega

theorem eq_zero_of_significand_eq_zero {rank : Nat} (zero : significand rank = 0) : rank = 0 := by
  rw [significand, pow_two_52] at zero
  split at zero <;> omega

/-- What equals a positive integer is so large that its significand has all its digits. -/
theorem le_significand {rank k : Nat} (positive : 0 < k)
    (exact : numerator rank = k * denominator rank) : 2 ^ 52 ≤ significand rank := by
  by_cases small : rank < Nat.pow 2 52
  · have subnormal : scale rank = -1074 := if_pos small
    -- the least positive integer is far above the numbers of this scale
    have down : (scale rank).toNat = 0 := by omega
    have up : 52 ≤ (-scale rank).toNat := by omega
    change significand rank * 2 ^ (scale rank).toNat = k * 2 ^ (-scale rank).toNat at exact
    rw [down, pow_zero, mul_one] at exact
    calc 2 ^ 52 ≤ 2 ^ (-scale rank).toNat := Nat.pow_le_pow_right (by decide) up
      _ ≤ k * 2 ^ (-scale rank).toNat := Nat.le_mul_of_pos_left _ positive
      _ = significand rank := exact.symm
  · rw [significand, if_neg small]
    exact Nat.le_add_right _ _

/-- Of two numbers that equal the same positive integer none has the larger scale. -/
theorem scale_le {rank rank' k : Nat} (positive : 0 < k)
    (exact : numerator rank = k * denominator rank)
    (exact' : numerator rank' = k * denominator rank') : scale rank ≤ scale rank' := by
  have low := le_significand positive exact
  have high := significand_lt rank'
  change significand rank * 2 ^ (scale rank).toNat = k * 2 ^ (-scale rank).toNat at exact
  change significand rank' * 2 ^ (scale rank').toNat = k * 2 ^ (-scale rank').toNat at exact'
  have crossed : significand rank * 2 ^ ((scale rank).toNat + (-scale rank').toNat) =
      significand rank' * 2 ^ ((scale rank').toNat + (-scale rank).toNat) := by
    calc significand rank * 2 ^ ((scale rank).toNat + (-scale rank').toNat)
        = significand rank * 2 ^ (scale rank).toNat * 2 ^ (-scale rank').toNat := by ring
      _ = significand rank' * 2 ^ (scale rank').toNat * 2 ^ (-scale rank).toNat := by
          rw [exact, exact']; ring
      _ = significand rank' * 2 ^ ((scale rank').toNat + (-scale rank).toNat) := by ring
  have below : 2 ^ (52 + ((scale rank).toNat + (-scale rank').toNat)) <
      2 ^ (53 + ((scale rank').toNat + (-scale rank).toNat)) := by
    calc 2 ^ (52 + ((scale rank).toNat + (-scale rank').toNat))
        = 2 ^ 52 * 2 ^ ((scale rank).toNat + (-scale rank').toNat) := Nat.pow_add ..
      _ ≤ significand rank * 2 ^ ((scale rank).toNat + (-scale rank').toNat) :=
          Nat.mul_le_mul_right _ low
      _ = significand rank' * 2 ^ ((scale rank').toNat + (-scale rank).toNat) := crossed
      _ < 2 ^ 53 * 2 ^ ((scale rank').toNat + (-scale rank).toNat) :=
          Nat.mul_lt_mul_of_pos_right high (Nat.two_pow_pos _)
      _ = 2 ^ (53 + ((scale rank').toNat + (-scale rank).toNat)) := (Nat.pow_add ..).symm
  have exponents := (Nat.pow_lt_pow_iff_right (by decide)).1 below
  omega

/-- No two ranks stand for the same integer. -/
theorem rank_eq_of_exact {rank rank' k : Nat} (exact : numerator rank = k * denominator rank)
    (exact' : numerator rank' = k * denominator rank') : rank = rank' := by
  rcases Nat.eq_zero_or_pos k with rfl | positive
  · have none {rank : Nat} (exact : numerator rank = 0 * denominator rank) : rank = 0 := by
      rw [Nat.zero_mul, numerator, Nat.mul_eq_zero] at exact
      have power : Nat.pow 2 (scale rank).toNat ≠ 0 := (Nat.two_pow_pos _).ne'
      exact eq_zero_of_significand_eq_zero (exact.resolve_right power)
    rw [none exact, none exact']
  · have scales : scale rank = scale rank' :=
      le_antisymm (scale_le positive exact exact') (scale_le positive exact' exact)
    have significands : significand rank = significand rank' := by
      rw [numerator, denominator] at exact exact'
      rw [scales, ← exact'] at exact
      exact Nat.eq_of_mul_eq_mul_right (Nat.two_pow_pos _) exact
    rw [rank_eq rank, rank_eq rank', scales, significands]

theorem exists_of_integer? {x : Binary64} {n : Int} (known : x.integer? = some n) :
    ∃ negative rank, ∃ k : Nat, x = signed negative rank ∧
      numerator rank = k * denominator rank ∧ n = if negative then -(k : Int) else k := by
  cases x with
  | nan => cases known
  | signed negative rank =>
    rw [integer?] at known
    split at known
    · next whole =>
      rw [truncate?] at known
      split at known
      · cases known
      · refine ⟨negative, rank, numerator rank / denominator rank, rfl, ?_, ?_⟩
        · exact (Nat.div_mul_cancel (Nat.dvd_of_mod_eq_zero whole)).symm
        · exact (Option.some.inj known).symm
    · cases known

/-- Two numbers that equal the same integer are equal. -/
theorem equals_of_integer? {x y : Binary64} {n : Int} (known : x.integer? = some n)
    (known' : y.integer? = some n) : x.equals y = true := by
  obtain ⟨negative, rank, k, rfl, exact, rfl⟩ := exists_of_integer? known
  obtain ⟨negative', rank', k', rfl, exact', same⟩ := exists_of_integer? known'
  have size : k = k' := by
    cases negative <;> cases negative' <;> simp at same <;> omega
  subst size
  have ranks : rank = rank' := Fin.ext (rank_eq_of_exact exact exact')
  subst ranks
  rw [equals, beq_self_eq_true, Bool.true_and, Bool.or_eq_true]
  by_cases signs : negative = negative'
  · exact .inl (beq_iff_eq.2 signs)
  · -- only zero is an integer with both signs
    have zero : k = 0 := by
      cases negative <;> cases negative' <;> simp at same signs <;> omega
    subst zero
    have zeroExact : numerator 0 = 0 * denominator 0 := by
      rw [numerator, significand, pow_two_52]
      simp
    exact .inr (beq_iff_eq.2 (rank_eq_of_exact exact zeroExact))

/-- Equal numbers equal the same integers. -/
theorem integer?_eq_of_equals {x y : Binary64} (same : x.equals y = true) :
    x.integer? = y.integer? := by
  cases x with
  | nan => cases same
  | signed negative rank =>
    cases y with
    | nan => cases same
    | signed negative' rank' =>
      simp only [equals, Bool.and_eq_true, Bool.or_eq_true, beq_iff_eq] at same
      obtain ⟨rfl, rfl | zero⟩ := same
      · rfl
      · have none : numerator rank = 0 := by
          rw [zero, numerator, significand, pow_two_52]
          simp
        cases negative <;> cases negative' <;> simp [integer?, truncate?, none]

theorem equals_trans {x y z : Binary64} (first : x.equals y = true) (second : y.equals z = true) :
    x.equals z = true := by
  cases x <;> cases y <;> cases z <;>
    simp only [equals, Bool.and_eq_true, Bool.or_eq_true, beq_iff_eq, reduceCtorEq]
      at first second ⊢
  grind

end GraphMapper.Binary64
