import GraphMapper.Text.Blank
import GraphMapper.Text.Parts
import GraphMapper.Text.Width

/-!
# Layout in lines

A text is shown in lines of a given number of cells. Tabs reach to the next multiple of eight cells.
A line is broken between words; a word that is too long for any line is either cut into pieces or
stands on a line of its own.

## Main definitions

* `Text.visible` — the characters that are shown at all
* `Text.dropEscapes` — a text without escape sequences
* `Text.expandTabs` — a line with spaces for its tabs
* `Text.measure` — the number of cells of the longest line
* `Text.wrap` — a line broken into lines of a width
* `Text.fitLeft`, `Text.fitCentre` — a line in exactly the given width
-/

namespace GraphMapper.Text

/-- A control that is not shown: the bell, the backspace, and the vertical moves but the line
feed. -/
def isHidden (c : Char) : Bool := [0x07, 0x08, 0x0B, 0x0C, 0x0D].contains c.toNat

/-- A text without the controls that are not shown. -/
def visible (s : String) : String := String.ofList (s.toList.filter (!isHidden ·))

/-- A character between the start of an escape sequence and the letter that ends it. -/
def isEscapeParameter (c : Char) : Bool := c.isDigit || c == ';' || c == '?'

/-- The characters without the escape sequences in them, of which there are fewer than `fuel`. -/
def dropEscapesFrom : (fuel : Nat) → List Char → List Char
  | 0, cs => cs
  | _, [] => []
  | fuel + 1, '\x1b' :: '[' :: cs =>
    match cs.dropWhile isEscapeParameter with
    | c :: rest =>
      if c.isAlpha then dropEscapesFrom fuel rest else '\x1b' :: dropEscapesFrom fuel ('[' :: cs)
    | [] => '\x1b' :: '[' :: cs
  | fuel + 1, c :: cs => c :: dropEscapesFrom fuel cs

/-- A text without the escape sequences that set colours and move the cursor. -/
def dropEscapes (s : String) : String := String.ofList (dropEscapesFrom (s.length + 1) s.toList)

/-- The number of cells of some characters. -/
def cells (cs : List Char) : Nat := cellsFrom none cs

/-- The number of cells between tab stops. -/
def tabSize : Nat := 8

/-- Parts of a line with tabs between them, from a column on, with spaces for the tabs. -/
def spreadParts (column : Nat) : List String → String
  | [] => ""
  | [last] => last
  | part :: parts =>
    let column := column + width (part ++ " ")
    let fill := (tabSize - column % tabSize) % tabSize
    part ++ " " ++ "".pushn ' ' fill ++ spreadParts (column + fill) parts

/-- A line with spaces for its tabs. -/
def expandTabs (line : String) : String := spreadParts 0 (parts '\t' line)

/-- A character at which a line ends. -/
def endsLine (c : Char) : Bool :=
  [0x0A, 0x0B, 0x0C, 0x0D, 0x1C, 0x1D, 0x1E, 0x85, 0x2028, 0x2029].contains c.toNat

/-- The number of cells of the longest line, behind a line that is read so far in reverse. -/
def measureFrom (line : List Char) : List Char → Nat
  | [] => cells line.reverse
  | c :: cs =>
    if endsLine c then max (cells line.reverse) (measureFrom [] cs) else measureFrom (c :: line) cs

/-- The number of cells of the longest line. Tabs count for nothing. -/
def measure (s : String) : Nat := measureFrom [] s.toList

/-! ### Words -/

/-- The characters without the blanks at the end. -/
def trimEnd (cs : List Char) : List Char := (cs.reverse.dropWhile isBlank).reverse

/-- The words of a line with the blanks behind them, and the first also with those in front of it.
A line of blanks has none. -/
def spacedWords : (fuel : Nat) → List Char → List (List Char)
  | 0, _ => []
  | fuel + 1, cs =>
    let lead := cs.takeWhile isBlank
    let rest := cs.drop lead.length
    let body := rest.takeWhile (!isBlank ·)
    let after := rest.drop body.length
    let trail := after.takeWhile isBlank
    if body.isEmpty then []
    else (lead ++ body ++ trail) :: spacedWords fuel (after.drop trail.length)

/-- Glyphs in pieces of at most the given number of cells, the first piece being under way. -/
def chopGlyphs (width : Nat) (piece : List Char) (size : Nat) : List Glyph → List (List Char)
  | [] => if size = 0 then [] else [piece]
  | g :: gs =>
    if width < size + g.cells then piece :: chopGlyphs width g.chars g.cells gs
    else chopGlyphs width (piece ++ g.chars) (size + g.cells) gs

/-- Lines in the course of being filled. -/
structure Filling where
  /-- The full lines, the last one first. -/
  full : List (List Char) := []
  /-- The line under way. -/
  line : List Char := []
  /-- The number of its cells. -/
  size : Nat := 0

namespace Filling

/-- The full lines once the line under way is ended, if there is anything on it. -/
def ended (f : Filling) : List (List Char) := if f.line.isEmpty then f.full else f.line :: f.full

/-- Puts a word on a line of its own. -/
def startLine (f : Filling) (word : List Char) : Filling := ⟨f.ended, word, cells word⟩

/-- Adds a word: to the line under way if it fits, otherwise to a new one. Only if words may be cut
is a word too long for any line cut into pieces. -/
def add (width : Nat) (cuts : Bool) (f : Filling) (word : List Char) : Filling :=
  let size := cells (trimEnd word)
  if f.size + size ≤ width then { f with line := f.line ++ word, size := f.size + cells word }
  else if cuts && width < size then (chopGlyphs width [] 0 (glyphs word)).foldl startLine f
  else f.startLine word

/-- The lines. -/
def lines (f : Filling) : List (List Char) := f.ended.reverse

end Filling

/-- A line without as many of the blanks at its end as stand out of a width. -/
def dropExcess (width : Nat) (cs : List Char) : List Char :=
  let blanks := cs.length - (trimEnd cs).length
  cs.take (cs.length - min blanks (cs.length - width))

/-- A line broken into lines of a width. -/
def wrap (width : Nat) (cuts : Bool) (line : String) : List (List Char) :=
  let cs := line.toList
  let lines :=
    match spacedWords (cs.length + 1) cs with
    | [] => [cs]
    | words => (words.foldl (Filling.add width cuts) {}).lines
  lines.map (dropExcess width)

/-! ### Fitting -/

/-- A line to the left of a width. If it is too long, three points stand for what is cut off. -/
def fitLeft (width : Nat) (cs : List Char) : List Char :=
  if width < cells cs then cropGlyphs (width - 1) (glyphs cs) ++ ['…']
  else cs ++ List.replicate (width - cells cs) ' '

/-- A line in the middle of a width, an odd space to the right. Blanks at its end do not count, and
what is too long is cut off. -/
def fitCentre (width : Nat) (cs : List Char) : List Char :=
  let cs := trimEnd cs
  let cs := if width < cells cs then cropGlyphs width (glyphs cs) else cs
  let left := List.replicate ((width - cells cs) / 2) ' ' ++ cs
  left ++ List.replicate (width - cells left) ' '

/-- The lines of a text, with spaces for their tabs. -/
def shownLines (s : String) : List String := (parts '\n' (visible s)).map expandTabs

@[simp] theorem spreadParts_nil (column : Nat) : spreadParts column [] = "" := rfl

@[simp] theorem spreadParts_singleton (column : Nat) (part : String) :
    spreadParts column [part] = part := rfl

end GraphMapper.Text
