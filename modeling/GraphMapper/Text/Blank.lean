import GraphMapper.Text.Ranges

/-!
# Blanks and trimming

Blank characters are Unicode white space together with the four separator controls U+001C to
U+001F. Names, sort tokens and log lines are trimmed of them on both sides.

## Main definitions

* `Text.isBlank` — the blank characters
* `Text.trim` — a text without its leading and trailing blanks
-/

namespace GraphMapper.Text

/-- The blank code points, as closed ranges in ascending order. -/
def blankRanges : List (Nat × Nat) :=
  [(0x9, 0xD), (0x1C, 0x20), (0x85, 0x85), (0xA0, 0xA0), (0x1680, 0x1680), (0x2000, 0x200A),
   (0x2028, 0x2029), (0x202F, 0x202F), (0x205F, 0x205F), (0x3000, 0x3000)]

/-- A character that separates words. -/
def isBlank (c : Char) : Bool := inRanges blankRanges c.toNat

/-- The characters without the blanks at either end. -/
def trimChars (cs : List Char) : List Char :=
  ((cs.dropWhile isBlank).reverse.dropWhile isBlank).reverse

/-- The text without the blanks at either end. -/
def trim (s : String) : String := String.ofList (trimChars s.toList)

@[simp] theorem toList_trim (s : String) : (trim s).toList = trimChars s.toList := by
  simp [trim]

end GraphMapper.Text
