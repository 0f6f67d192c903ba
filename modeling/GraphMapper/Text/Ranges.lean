/-!
# Ranges of code points

Properties of characters are given as lists of closed ranges of code points.

## Main definitions

* `Text.inRanges` — membership of a code point in a list of ranges
-/

namespace GraphMapper.Text

/-- The code point `n` lies in one of the closed ranges. -/
def inRanges (ranges : List (Nat × Nat)) (n : Nat) : Bool :=
  ranges.any fun r => r.1 ≤ n && n ≤ r.2

theorem inRanges_iff {ranges : List (Nat × Nat)} {n : Nat} :
    inRanges ranges n = true ↔ ∃ r ∈ ranges, r.1 ≤ n ∧ n ≤ r.2 := by
  simp [inRanges]

end GraphMapper.Text
