/-!
# Halves of surrogate pairs

An escape in JSON or YAML can put half of a surrogate pair into a text. No character is half of a
pair, so the code points from U+DD800 to U+DDFFF, to which no character is assigned, stand for the
halves, and a text holds them for nothing else. A text with a half in it cannot be encoded.

## Main definitions

* `Text.halfChar` — the character that stands for half of a pair
* `Text.half?` — the half that a character stands for
* `Text.hasHalf` — a text that cannot be encoded
-/

namespace GraphMapper.Text

/-- The 16-bit unit is half of a pair. -/
def isHalf (unit : Nat) : Bool := 0xD800 ≤ unit && unit ≤ 0xDFFF

/-- The character that stands for half of a pair. -/
def halfChar (unit : Nat) : Char := Char.ofNat (0xD0000 + unit)

/-- The half of a pair that a character stands for. -/
def half? (c : Char) : Option Nat :=
  if 0xDD800 ≤ c.toNat && c.toNat ≤ 0xDDFFF then some (c.toNat - 0xD0000) else none

/-- The text holds half of a pair. -/
def hasHalf (s : String) : Bool := s.toList.any fun c => (half? c).isSome

/-- Halves are told apart by the characters that stand for them. -/
theorem half?_halfChar {unit : Nat} (half : isHalf unit = true) :
    half? (halfChar unit) = some unit := by
  simp only [isHalf, Bool.and_eq_true, decide_eq_true_eq] at half
  have valid : (0xD0000 + unit).isValidChar := .inr ⟨by omega, by omega⟩
  have value : (halfChar unit).toNat = 0xD0000 + unit := by
    rw [halfChar, Char.ofNat, dif_pos valid]
    rfl
  rw [half?, value, if_pos, Nat.add_sub_cancel_left]
  simp only [Bool.and_eq_true, decide_eq_true_eq]
  omega

theorem half?_of_lt {c : Char} (low : c.toNat < 0xDD800) : half? c = none := by
  rw [half?, if_neg]
  simp only [Bool.and_eq_true, decide_eq_true_eq]
  omega

end GraphMapper.Text
