import GraphMapper.Number.Decimal
import GraphMapper.Proofs.Number.Rounding

/-!
# Shortest decimals

The rank nearest to a decimal depends on its value alone, so trailing zeros do not matter. The
decimal that is written for a number reads back to that number: it is one of the candidates that
do, or else the exact value.

## Main results

* `Decimal.rank_scaled` — zeros at the end of the digits do not matter
* `Decimal.rank_exact` — the exact value of a rank reads back to it
* `Decimal.rank_shortest` — so does the decimal that is written
-/

namespace GraphMapper.Decimal

open Binary64 (rankOfRatio significand scale numerator denominator infinityRank)

variable {n rank : Nat}

/-! ### Zeros at the end -/

theorem digitCount_mul_ten (some : 0 < n) : digitCount (n * 10) = digitCount n + 1 := by
  have appended := Nat.toDigits_append_toDigits (b := 10) (by decide) some (d := 0) (by decide)
  rw [Nat.add_zero, Nat.mul_comm] at appended
  rw [digitCount, ← appended, List.length_append, digitCount]
  rfl

theorem rankOfRatio_shift (n : Nat) (e : Int) :
    rankOfRatio (n * 10 * Nat.pow 10 (e - 1).toNat) (Nat.pow 10 (-(e - 1)).toNat) =
      rankOfRatio (n * Nat.pow 10 e.toNat) (Nat.pow 10 (-e).toNat) := by
  rcases lt_or_ge 0 e with positive | negative
  · have up : e.toNat = (e - 1).toNat + 1 := by omega
    have down : (-(e - 1)).toNat = (-e).toNat := by omega
    have num : n * 10 * Nat.pow 10 (e - 1).toNat = n * Nat.pow 10 ((e - 1).toNat + 1) := by
      change n * 10 * 10 ^ _ = n * 10 ^ _
      ring
    rw [up, down, num]
  · have up : (e - 1).toNat = e.toNat := by omega
    have down : (-(e - 1)).toNat = (-e).toNat + 1 := by omega
    have num : n * 10 * Nat.pow 10 e.toNat = 10 * (n * Nat.pow 10 e.toNat) := by ring
    have den : Nat.pow 10 ((-e).toNat + 1) = 10 * Nat.pow 10 (-e).toNat := by
      change 10 ^ _ = 10 * 10 ^ _
      ring
    have positive : 0 < Nat.pow 10 (-e).toNat := Nat.pow_pos (by decide)
    rw [up, down, num, den, Binary64.rankOfRatio_mul (by decide) positive]

/-- A zero at the end of the digits does not matter. -/
theorem rank_shift (n : Nat) (e : Int) : Decimal.rank ⟨n * 10, e - 1⟩ = Decimal.rank ⟨n, e⟩ := by
  rcases Nat.eq_zero_or_pos n with rfl | some
  · simp [Decimal.rank]
  · have size : (digitCount (n * 10) : Int) + (e - 1) = digitCount n + e := by
      rw [digitCount_mul_ten some]
      push_cast
      ring
    have nonzero : n * 10 ≠ 0 := by omega
    unfold Decimal.rank
    dsimp only
    rw [size, rankOfRatio_shift, decide_eq_false nonzero, decide_eq_false some.ne']

/-- Zeros at the end of the digits do not matter. -/
theorem rank_scaled (n k : Nat) (e : Int) :
    Decimal.rank ⟨n * 10 ^ k, e - k⟩ = Decimal.rank ⟨n, e⟩ := by
  induction k with
  | zero => simp
  | succ k ih =>
    have exponent : e - (k + 1 : Nat) = e - k - 1 := by omega
    rw [pow_succ, ← Nat.mul_assoc, exponent, rank_shift, ih]

theorem rank_normalize (fuel : Nat) (d : Decimal) : (normalize fuel d).rank = d.rank := by
  induction fuel generalizing d with
  | zero => rfl
  | succ fuel ih =>
    rw [normalize]
    split
    · next zero =>
      have whole : d.digits = d.digits / 10 * 10 := by omega
      have exponent : d.exponent = d.exponent + 1 - 1 := by omega
      rw [ih, ← rank_shift, ← whole, ← exponent]
    · rfl

/-! ### Reading back -/

theorem lt_pow_digitCount (n : Nat) : n < 10 ^ digitCount n :=
  (Nat.length_toDigits_le_iff (by decide) Nat.length_toDigits_pos).1 le_rfl

theorem digitCount_le {k : Nat} (some : 0 < k) (bound : n < 10 ^ k) : digitCount n ≤ k :=
  (Nat.length_toDigits_le_iff (by decide) some).2 bound

theorem lt_digitCount {k : Nat} (bound : 10 ^ k ≤ n) : k < digitCount n :=
  (Nat.pow_lt_pow_iff_right (by decide)).1 (bound.trans_lt (lt_pow_digitCount n))

/-- A decimal of moderate size is rounded as the quotient that it is. -/
theorem rank_eq_rankOfRatio {d : Decimal} (some : d.digits ≠ 0)
    (low : -400 ≤ (digitCount d.digits : Int) + d.exponent)
    (high : (digitCount d.digits : Int) + d.exponent ≤ 400) :
    d.rank = rankOfRatio (d.digits * Nat.pow 10 d.exponent.toNat)
      (Nat.pow 10 (-d.exponent).toNat) := by
  have notLow : ¬ (digitCount d.digits : Int) + d.exponent < -400 := by omega
  have notHigh : ¬ 400 < (digitCount d.digits : Int) + d.exponent := by omega
  simp [Decimal.rank, some, notLow, notHigh]

theorem scale_lt (finite : rank < infinityRank) : scale rank ≤ 971 := by
  rw [infinityRank, Binary64.pow_two_52] at finite
  rw [scale, Binary64.pow_two_52]
  split <;> omega

theorem ten_pow_le_five_pow {i j : Nat} (bound : j ≤ 2 * i) : 10 ^ j ≤ 5 ^ (i + j) := by
  have powers : 2 ^ (2 * i) ≤ 5 ^ i := by
    rw [Nat.pow_mul]
    exact Nat.pow_le_pow_left (by decide) i
  calc 10 ^ j = 2 ^ j * 5 ^ j := by rw [← Nat.mul_pow]
    _ ≤ 2 ^ (2 * i) * 5 ^ j :=
        Nat.mul_le_mul_right _ (Nat.pow_le_pow_right (by decide) bound)
    _ ≤ 5 ^ i * 5 ^ j := Nat.mul_le_mul_right _ powers
    _ = 5 ^ (i + j) := (Nat.pow_add ..).symm

theorem two_pow_le_ten_pow {j k : Nat} (bound : j ≤ 16 * k) : 2 ^ j ≤ 10 ^ (5 * k) := by
  calc 2 ^ j ≤ 2 ^ (16 * k) := Nat.pow_le_pow_right (by decide) bound
    _ = (2 ^ 16) ^ k := Nat.pow_mul ..
    _ ≤ (10 ^ 5) ^ k := Nat.pow_le_pow_left (by decide) k
    _ = 10 ^ (5 * k) := (Nat.pow_mul ..).symm

/-- The exact value of a number whose scale is negative: the denominator is a power of two, which
the digits make one of ten. -/
theorem rank_exact_of_neg (some : 0 < rank) (finite : rank < infinityRank)
    (small : scale rank < 0) : (exact rank).rank = rank := by
  have significant := Binary64.significand_pos some
  have short := Binary64.significand_lt rank
  have least := Binary64.scale_ge rank
  have round := Binary64.rankOfRatio_numerator finite.le
  obtain ⟨k, power⟩ : ∃ k : Nat, scale rank = -(k : Int) := ⟨(-scale rank).toNat, by omega⟩
  have up : (-(k : Int)).toNat = 0 := by omega
  have down : (- -(k : Int)).toNat = k := by omega
  have whole : exact rank = ⟨significand rank * 5 ^ k, -(k : Int)⟩ := by
    simp only [exact, power, up, down]
    simp
  have digits : 0 < significand rank * 5 ^ k := Nat.mul_pos significant (Nat.pow_pos (by decide))
  have few : digitCount (significand rank * 5 ^ k) ≤ 16 + k := by
    refine digitCount_le (by omega) ?_
    calc significand rank * 5 ^ k < 10 ^ 16 * 5 ^ k :=
          Nat.mul_lt_mul_of_pos_right (short.trans (by decide)) (Nat.pow_pos (by decide))
      _ ≤ 10 ^ 16 * 10 ^ k := Nat.mul_le_mul_left _ (Nat.pow_le_pow_left (by decide) k)
      _ = 10 ^ (16 + k) := (Nat.pow_add ..).symm
  have many : k < 400 + digitCount (significand rank * 5 ^ k) := by
    rcases lt_or_ge k 400 with little | much
    · omega
    · obtain ⟨j, rfl⟩ := Nat.exists_eq_add_of_le much
      have bound : 10 ^ j ≤ significand rank * 5 ^ (400 + j) :=
        (ten_pow_le_five_pow (by omega)).trans (Nat.le_mul_of_pos_left _ significant)
      have := lt_digitCount bound
      omega
  rw [whole, rank_eq_rankOfRatio digits.ne' (by dsimp only; omega) (by dsimp only; omega)]
  dsimp only
  rw [up, down]
  rw [numerator, denominator, power, up, down] at round
  have num : significand rank * 5 ^ k * Nat.pow 10 0 =
      5 ^ k * (significand rank * Nat.pow 2 0) := by
    change _ * 10 ^ 0 = _ * (_ * 2 ^ 0)
    ring
  have den : Nat.pow 10 k = 5 ^ k * Nat.pow 2 k := by
    change 10 ^ k = 5 ^ k * 2 ^ k
    rw [← Nat.mul_pow]
  have factor : 0 < 5 ^ k := Nat.pow_pos (by decide)
  have positive : 0 < Nat.pow 2 k := Nat.two_pow_pos k
  rw [num, den, Binary64.rankOfRatio_mul factor positive, round]

/-- The exact value of a number whose scale is not negative: an integer. -/
theorem rank_exact_of_nonneg (some : 0 < rank) (finite : rank < infinityRank)
    (large : 0 ≤ scale rank) : (exact rank).rank = rank := by
  have significant := Binary64.significand_pos some
  have short := Binary64.significand_lt rank
  have most := scale_lt finite
  have round := Binary64.rankOfRatio_numerator finite.le
  obtain ⟨k, power⟩ : ∃ k : Nat, scale rank = k := ⟨(scale rank).toNat, by omega⟩
  have up : (k : Int).toNat = k := by omega
  have down : (-(k : Int)).toNat = 0 := by omega
  have whole : exact rank = ⟨significand rank * 2 ^ k, 0⟩ := by
    simp only [exact, power, up, down]
    simp
  have digits : 0 < significand rank * 2 ^ k := Nat.mul_pos significant (Nat.two_pow_pos k)
  have few : digitCount (significand rank * 2 ^ k) ≤ 5 * 64 := by
    refine digitCount_le (by decide) ?_
    calc significand rank * 2 ^ k < 2 ^ 53 * 2 ^ k :=
          Nat.mul_lt_mul_of_pos_right short (Nat.two_pow_pos k)
      _ = 2 ^ (53 + k) := (Nat.pow_add ..).symm
      _ ≤ 10 ^ (5 * 64) := two_pow_le_ten_pow (by omega)
  rw [whole, rank_eq_rankOfRatio digits.ne' (by dsimp only; omega) (by dsimp only; omega)]
  rw [numerator, denominator, power, up, down] at round
  simpa using round

/-- The exact value of a rank reads back to it. -/
theorem rank_exact (some : 0 < rank) (finite : rank < infinityRank) : (exact rank).rank = rank := by
  rcases lt_or_ge (scale rank) 0 with small | large
  · exact rank_exact_of_neg some finite small
  · exact rank_exact_of_nonneg some finite large

theorem rank_of_readingBack {num den : Nat} {g : Int} {d : Decimal}
    (hit : readingBack? num den rank g = some d) : d.rank = rank := by
  have accepted := List.find?_some hit
  exact beq_iff_eq.1 accepted

/-- The decimal that is written for a finite number reads back to it. -/
theorem rank_shortest (finite : rank < infinityRank) : (shortest rank).rank = rank := by
  rw [shortest]
  split
  · next zero =>
    subst zero
    rfl
  · next some =>
    rw [rank_normalize]
    let candidate (i : Nat) : Option Decimal :=
      readingBack? (numerator rank) (denominator rank) rank
        (scaleOf (numerator rank) (denominator rank) - (i : Int) - 1)
    change (((List.range 17).findSome? candidate).getD (exact rank)).rank = rank
    cases found : (List.range 17).findSome? candidate with
    | none => exact rank_exact (Nat.pos_of_ne_zero some) finite
    | some d =>
      obtain ⟨i, -, hit⟩ := List.exists_of_findSome?_eq_some found
      exact rank_of_readingBack hit

end GraphMapper.Decimal
