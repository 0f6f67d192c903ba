/-!
# Binary64 numbers

The non-negative binary64 numbers, in increasing order from zero to infinity, are numbered by a
*rank*. A number is its sign and its rank, or the one value that is not a number, so two numbers
are the same value of the type exactly if they are the same number with the same sign.

Operations compute the exact rational result and round it once, to the nearest number, a tie going
to the even rank.

## Main definitions

* `Binary64` — a binary64 number
* `Binary64.significand`, `Binary64.scale` — the number of a rank is `significand · 2 ^ scale`
* `Binary64.rankOfRatio` — the rank nearest to a quotient of naturals
* `Binary64.ofRatio` — rounding a quotient
* `Binary64.truncate?` — the integer part of a finite number
-/

namespace GraphMapper

/-- The rank of infinity. -/
def Binary64.infinityRank : Nat := 2047 * Nat.pow 2 52

/-- A binary64 number. -/
inductive Binary64 where
  /-- The value that is not a number. -/
  | nan
  /-- A number given by its sign and its rank among the non-negative numbers. -/
  | signed (negative : Bool) (rank : Fin (Binary64.infinityRank + 1))
  deriving DecidableEq, Repr

namespace Binary64

/-- The significand of the number with the given rank. -/
def significand (rank : Nat) : Nat :=
  if rank < Nat.pow 2 52 then rank else Nat.pow 2 52 + rank % Nat.pow 2 52

/-- The power of two by which the significand of a rank is scaled. -/
def scale (rank : Nat) : Int :=
  if rank < Nat.pow 2 52 then -1074 else ((rank / Nat.pow 2 52 : Nat) : Int) - 1075

/-- The numerator of the number with the given rank. -/
def numerator (rank : Nat) : Nat := significand rank * Nat.pow 2 (scale rank).toNat

/-- The denominator of the number with the given rank. -/
def denominator (rank : Nat) : Nat := Nat.pow 2 (-scale rank).toNat

/-- The quotient rounded to the nearest natural, a tie going to the even one. -/
def roundQuotient (num den : Nat) : Nat :=
  let q := num / den
  let r := num % den
  if 2 * r < den || (2 * r == den && q % 2 == 0) then q else q + 1

/-- The exponent of the greatest power of two that is at most `num / den`, both positive. -/
def log2Ratio (num den : Nat) : Int :=
  let e := (num.log2 : Int) - den.log2
  if num * Nat.pow 2 (-e).toNat < den * Nat.pow 2 e.toNat then e - 1 else e

/-- The rank nearest to `num / den`. -/
def rankOfRatio (num den : Nat) : Nat :=
  if num = 0 then 0
  else
    -- Neighbours of this size are `2 ^ q` apart; near zero the step no longer shrinks.
    let q := max (-1074) (log2Ratio num den - 52)
    let m := roundQuotient (num * Nat.pow 2 (-q).toNat) (den * Nat.pow 2 q.toNat)
    -- A significand that rounds up to the next power of two lands on the right rank by itself.
    min ((q + 1074).toNat * Nat.pow 2 52 + m) infinityRank

theorem rankOfRatio_lt (num den : Nat) : rankOfRatio num den < infinityRank + 1 := by
  unfold rankOfRatio
  split
  · omega
  · exact Nat.lt_succ_of_le (Nat.min_le_right _ _)

/-- The number nearest to `num / den` with the given sign. -/
def ofRatio (negative : Bool) (num den : Nat) : Binary64 :=
  .signed negative ⟨rankOfRatio num den, rankOfRatio_lt num den⟩

/-- Zero without a sign. -/
def zero : Binary64 := .signed false 0

/-- Infinity with the given sign. -/
def infinity (negative : Bool) : Binary64 := .signed negative ⟨infinityRank, Nat.lt_succ_self _⟩

/-- The integer part of a finite number. -/
def truncate? : Binary64 → Option Int
  | .nan => none
  | .signed negative rank =>
    if rank.val = infinityRank then none
    else
      let n : Int := (numerator rank / denominator rank : Nat)
      some (if negative then -n else n)

/-- The integer that a finite number equals. -/
def integer? : Binary64 → Option Int
  | .nan => none
  | x@(.signed _ rank) =>
    if numerator rank % denominator rank = 0 then x.truncate? else none

/-- The number is zero, of either sign. -/
def isZero : Binary64 → Bool
  | .nan => false
  | .signed _ rank => rank.val == 0

/-- Numeric equality: the two zeros are equal, and what is not a number equals nothing. -/
def equals : Binary64 → Binary64 → Bool
  | .signed n r, .signed n' r' => r == r' && (n == n' || r.val == 0)
  | _, _ => false

/-- The product with a natural number, rounded once. -/
def mulNat (x : Binary64) (n : Nat) : Binary64 :=
  match x with
  | .nan => .nan
  | .signed negative rank =>
    if rank.val = infinityRank then (if n = 0 then .nan else x)
    else ofRatio negative (numerator rank * n) (denominator rank)

/-- The sum with a natural number, for a number that is not negative, rounded once. -/
def addNat (x : Binary64) (n : Nat) : Binary64 :=
  match x with
  | .nan => .nan
  | .signed negative rank =>
    if rank.val = infinityRank then x
    else ofRatio negative (numerator rank + n * denominator rank) (denominator rank)

/-- The opposite number. -/
def negate : Binary64 → Binary64
  | .nan => .nan
  | .signed negative rank => .signed (!negative) rank

end Binary64

end GraphMapper
