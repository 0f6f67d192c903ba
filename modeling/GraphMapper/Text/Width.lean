import GraphMapper.Text.Ranges
import GraphMapper.Text.WidthTable

/-!
# Display width

The number of terminal cells that a text takes. Most characters take one cell, some two or none. A
joiner merges the character behind it into the one before, and an emoji selector makes some narrow
characters wide.

## Main definitions

* `Text.charWidth` — the number of cells of a character on its own
* `Text.width` — the number of cells of a text
* `Text.Glyph`, `Text.glyphs` — the parts of a text that cannot be taken apart
* `Text.cropGlyphs` — as many of them as fit
-/

namespace GraphMapper.Text

/-- The number of cells of a character on its own. -/
def charWidth (c : Char) : Nat :=
  if c.toNat < 0x20 then 0
  else if c.toNat < 0x7F then 1
  else if c.toNat < 0xA0 || inRanges zeroWidthRanges c.toNat then 0
  else if inRanges wideRanges c.toNat then 2
  else 1

/-- The zero-width joiner. -/
def joiner : Char := '\u200d'

/-- The selector that asks for the form of a character as emoji. -/
def emojiSelector : Char := '\ufe0f'

/-- A selector makes the character wide. -/
def growsWide (c : Char) : Bool := inRanges growingRanges c.toNat

/-- The number of cells of some characters, `last?` being the character before them that took cells
and may still grow. -/
def cellsFrom (last? : Option Char) : List Char → Nat
  | [] => 0
  | [c] =>
    if c == joiner then 0
    else if c == emojiSelector then (if last?.any growsWide then 1 else 0)
    else charWidth c
  | c :: d :: cs =>
    if c == joiner then cellsFrom last? cs
    else if c == emojiSelector then
      (if last?.any growsWide then 1 else 0) + cellsFrom none (d :: cs)
    else charWidth c + cellsFrom (if charWidth c = 0 then last? else some c) (d :: cs)

/-- The number of cells of a text. -/
def width (s : String) : Nat := cellsFrom none s.toList

@[simp] theorem cellsFrom_nil (last? : Option Char) : cellsFrom last? [] = 0 := rfl

@[simp] theorem width_empty : width "" = 0 := rfl

/-! ### Glyphs -/

/-- Characters that are shown as one, with the number of cells that they take. -/
structure Glyph where
  /-- The characters. -/
  chars : List Char
  /-- The number of cells. -/
  cells : Nat

/-- The glyphs of some characters, `open?` being the glyph that they may still belong to and `last?`
the character in it that may grow. -/
def glyphsFrom (open? : Option Glyph) (last? : Option Char) : List Char → List Glyph
  | [] => open?.toList
  | c :: cs =>
    match open? with
    | none => glyphsFrom (some ⟨[c], charWidth c⟩) (if charWidth c = 0 then none else some c) cs
    | some g =>
      if c == joiner then
        match cs with
        | [] => [⟨g.chars ++ [c], g.cells⟩]
        | d :: cs => glyphsFrom (some ⟨g.chars ++ [c, d], g.cells⟩) last? cs
      else if c == emojiSelector then
        if last?.any growsWide then glyphsFrom (some ⟨g.chars ++ [c], g.cells + 1⟩) none cs
        else glyphsFrom (some ⟨g.chars ++ [c], g.cells⟩) last? cs
      else if charWidth c = 0 then glyphsFrom (some ⟨g.chars ++ [c], g.cells⟩) last? cs
      else g :: glyphsFrom (some ⟨[c], charWidth c⟩) (some c) cs

/-- The glyphs of a text. -/
def glyphs (cs : List Char) : List Glyph := glyphsFrom none none cs

/-- The first glyphs of a text, as many as fill the given number of cells. Of a glyph that would
stand out a space is left. -/
def cropGlyphs : (cells : Nat) → List Glyph → List Char
  | _, [] => []
  | cells, g :: gs =>
    if cells = 0 then []
    else if g.cells ≤ cells then g.chars ++ cropGlyphs (cells - g.cells) gs
    else [' ']

end GraphMapper.Text
