import GraphMapper.Number.Binary64

/-!
# Decimal notation of binary64 numbers

A number is written with the fewest significant digits that read back to it; of several such
decimals the nearest is taken. It is written positionally if its leading digit stands between the
fourth decimal place and the sixteenth place before the point, and with a signed exponent of at
least two digits otherwise.

## Main definitions

* `Decimal` — a natural number scaled by a power of ten
* `Decimal.rank` — the rank nearest to a decimal
* `Decimal.shortest` — the shortest decimal that reads back to a rank
* `Binary64.ofDecimal` — reading a decimal
* `Binary64.write` — writing a number
-/

namespace GraphMapper

/-- The number `digits · 10 ^ exponent`. -/
structure Decimal where
  /-- The significant digits, read as a natural number. -/
  digits : Nat
  /-- The power of ten. -/
  exponent : Int
  deriving DecidableEq, Repr

namespace Decimal

/-- The number of decimal digits of a natural number. -/
def digitCount (n : Nat) : Nat := (Nat.toDigits 10 n).length

/-- The rank nearest to a decimal. Decimals far outside the range are settled by their size. -/
def rank (d : Decimal) : Nat :=
  let size := (digitCount d.digits : Int) + d.exponent
  if d.digits = 0 || size < -400 then 0
  else if 400 < size then Binary64.infinityRank
  else
    Binary64.rankOfRatio (d.digits * Nat.pow 10 d.exponent.toNat) (Nat.pow 10 (-d.exponent).toNat)

theorem rank_lt (d : Decimal) : d.rank < Binary64.infinityRank + 1 := by
  unfold rank
  dsimp only
  split
  · exact Nat.succ_pos _
  · split
    · exact Nat.lt_succ_self _
    · exact Binary64.rankOfRatio_lt _ _

/-- The decimal with `d.digits` rounded down to the grid `10 ^ g`, for the quotient `num / den`. -/
def floorAt (num den : Nat) (g : Int) : Nat :=
  num * Nat.pow 10 (-g).toNat / (den * Nat.pow 10 g.toNat)

/-- The first power of ten above `num / den`, sought from the exponent `k` on. -/
def scaleFrom (num den : Nat) : (fuel : Nat) → (k : Int) → Int
  | 0, k => k
  | fuel + 1, k =>
    if num * Nat.pow 10 (-k).toNat < den * Nat.pow 10 k.toNat then k
    else scaleFrom num den fuel (k + 1)

/-- The least `k` with `num / den < 10 ^ k`, for positive `num` and `den`. -/
def scaleOf (num den : Nat) : Int :=
  -- The decimal logarithm of two is 0.30103, so the search starts at most a few steps too low.
  scaleFrom num den 4 (Int.fdiv (Binary64.log2Ratio num den * 30103) 100000)

/-- The neighbours of `num / den` on the grid `10 ^ g` that read back to `rank`, the nearest first
and on a tie the even one. -/
def readingBack? (num den rank : Nat) (g : Int) : Option Decimal :=
  let low : Decimal := ⟨floorAt num den g, g⟩
  let high : Decimal := ⟨low.digits + 1, g⟩
  let twice := 2 * num * Nat.pow 10 (-g).toNat
  let middle := (2 * low.digits + 1) * den * Nat.pow 10 g.toNat
  let lowFirst := twice < middle || (twice == middle && low.digits % 2 == 0)
  (if lowFirst then [low, high] else [high, low]).find? fun d => d.rank == rank

/-- A decimal without trailing zeros among its digits. -/
def normalize : (fuel : Nat) → Decimal → Decimal
  | 0, d => d
  | fuel + 1, d =>
    if d.digits ≠ 0 ∧ d.digits % 10 = 0 then normalize fuel ⟨d.digits / 10, d.exponent + 1⟩ else d

/-- The exact value of a rank as a decimal. -/
def exact (rank : Nat) : Decimal :=
  let q := Binary64.scale rank
  ⟨Binary64.significand rank * Nat.pow 2 q.toNat * Nat.pow 5 (-q).toNat, -((-q).toNat : Int)⟩

/-- The decimal with the fewest digits that reads back to a finite rank. -/
def shortest (rank : Nat) : Decimal :=
  if rank = 0 then ⟨0, 0⟩
  else
    let num := Binary64.numerator rank
    let den := Binary64.denominator rank
    let k := scaleOf num den
    -- Seventeen digits tell any two numbers apart, so one of the grids has a hit.
    let found := (List.range 17).findSome? fun i : Nat =>
      readingBack? num den rank (k - (i : Int) - 1)
    normalize 800 (found.getD (exact rank))

/-- Digits with the point after the first `places` of them. -/
def positional (digits : List Char) (exponent : Int) : List Char :=
  let whole := (digits.length : Int) + exponent
  if 0 ≤ exponent then digits ++ List.replicate exponent.toNat '0' ++ ['.', '0']
  else if 0 < whole then digits.take whole.toNat ++ ['.'] ++ digits.drop whole.toNat
  else ['0', '.'] ++ List.replicate (-whole).toNat '0' ++ digits

/-- An exponent with its sign and at least two digits. -/
def exponentText (e : Int) : List Char :=
  let digits := Nat.toDigits 10 e.natAbs
  ['e', if e < 0 then '-' else '+'] ++ (if digits.length < 2 then '0' :: digits else digits)

/-- One digit before the point and the others behind it, with an exponent. -/
def scientific (digits : List Char) (leading : Int) : List Char :=
  match digits with
  | [] => []
  | [d] => d :: exponentText leading
  | d :: ds => d :: '.' :: ds ++ exponentText leading

/-- A decimal written positionally or with an exponent, by the place of its leading digit. -/
def write (d : Decimal) : List Char :=
  let digits := Nat.toDigits 10 d.digits
  let leading := (digits.length : Int) + d.exponent - 1
  if d.digits = 0 then ['0', '.', '0']
  else if -4 ≤ leading ∧ leading < 16 then positional digits d.exponent
  else scientific digits leading

end Decimal

namespace Binary64

/-- The number nearest to a decimal, with the given sign. -/
def ofDecimal (negative : Bool) (d : Decimal) : Binary64 := .signed negative ⟨d.rank, d.rank_lt⟩

/-- The names under which what is not a finite number is written. -/
structure SpecialNames where
  /-- The name of what is not a number. -/
  nan : String
  /-- The name of infinity. -/
  infinity : String

/-- A number in decimal notation. -/
def write (names : SpecialNames) : Binary64 → String
  | .nan => names.nan
  | .signed negative rank =>
    let sign := if negative then "-" else ""
    if rank.val = infinityRank then sign ++ names.infinity
    else sign ++ String.ofList (Decimal.shortest rank).write

end Binary64

end GraphMapper
