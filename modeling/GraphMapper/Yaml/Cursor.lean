/-!
# Reading positions

A position in a text: the characters ahead, and the line and column reached. Lines end at a line
feed, a next-line control, a line separator or a paragraph separator.

## Main definitions

* `Yaml.Cursor` — a position in a text
* `Yaml.Cursor.forward` — moving on by some characters
* `Yaml.Cursor.takeWhile`, `Yaml.Cursor.lineBreak` — reading on
-/

namespace GraphMapper.Yaml

/-- A character that ends a line. -/
def isBreak (c : Char) : Bool := c == '\n' || c == '\x85' || c == '\u2028' || c == '\u2029'

/-- The end of the text, or a character that ends a line. -/
def endsLine : Option Char → Bool
  | none => true
  | some c => isBreak c

/-- The end of the text, a blank, or a character that ends a line. -/
def isGap : Option Char → Bool
  | none => true
  | some c => c == ' ' || c == '\t' || isBreak c

/-- A position in a text. -/
structure Cursor where
  /-- The characters ahead. -/
  rest : List Char
  /-- The number of lines above. -/
  line : Nat
  /-- The number of characters to the left. -/
  column : Nat
  /-- The number of characters before the position. -/
  index : Nat

namespace Cursor

/-- The start of a text. -/
def start (cs : List Char) : Cursor := ⟨cs, 0, 0, 0⟩

/-- The character that lies some places ahead. -/
def peek (c : Cursor) (n : Nat) : Option Char := c.rest[n]?

/-- The next character. -/
def next (c : Cursor) : Option Char := c.rest.head?

/-- The position behind the next character. A byte order mark has no width. -/
def step (c : Cursor) : Cursor :=
  match c.rest with
  | [] => c
  | ch :: rest =>
    if isBreak ch then ⟨rest, c.line + 1, 0, c.index + 1⟩
    else if ch == '\ufeff' then ⟨rest, c.line, c.column, c.index + 1⟩
    else ⟨rest, c.line, c.column + 1, c.index + 1⟩

/-- The position some characters ahead. -/
def forward : Nat → Cursor → Cursor
  | 0, c => c
  | n + 1, c => forward n c.step

/-- The characters up to the first that fails a test, and the position behind them. -/
def takeWhile (p : Char → Bool) (c : Cursor) : List Char × Cursor :=
  let cs := c.rest.takeWhile p
  (cs, c.forward cs.length)

/-- The position behind the characters that pass a test. -/
def skipWhile (p : Char → Bool) (c : Cursor) : Cursor := (c.takeWhile p).2

/-- The line break at the position, and the position behind it. A break that is no separator counts
as a line feed. -/
def lineBreak (c : Cursor) : List Char × Cursor :=
  match c.next with
  | some ch =>
    if ch == '\n' || ch == '\x85' then (['\n'], c.step)
    else if isBreak ch then ([ch], c.step) else ([], c)
  | none => ([], c)

/-- Three given characters stand ahead, and behind them a gap. -/
def atMark (mark : Char) (c : Cursor) : Bool :=
  c.peek 0 == some mark && c.peek 1 == some mark && c.peek 2 == some mark && isGap (c.peek 3)

/-- A mark between documents stands ahead. -/
def atDocumentMark (c : Cursor) : Bool := c.atMark '-' || c.atMark '.'

end Cursor

end GraphMapper.Yaml
