/-!
# Lines

A line ends with a line feed, a carriage return, or both in that order.

## Main definitions

* `Text.lines` — the lines of a text
-/

namespace GraphMapper.Text

/-- The lines of a text, where `line` holds the characters of the first line read so far in reverse.
The last line is the one that no line end follows. -/
def linesFrom (line : List Char) : List Char → List (List Char)
  | [] => [line.reverse]
  | '\r' :: '\n' :: cs => line.reverse :: linesFrom [] cs
  | '\r' :: cs => line.reverse :: linesFrom [] cs
  | '\n' :: cs => line.reverse :: linesFrom [] cs
  | c :: cs => linesFrom (c :: line) cs

/-- The lines of a text. -/
def lines (s : String) : List String := (linesFrom [] s.toList).map String.ofList

end GraphMapper.Text
