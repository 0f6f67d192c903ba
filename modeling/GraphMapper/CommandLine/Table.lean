import GraphMapper.Markup.Basic
import GraphMapper.Text.Layout

/-!
# Tables

A table has a title over it, which may hold markup, heads of its columns and rows. How it is laid
out depends on the width of the console: where a table does not fit, cells are folded or cut. So a
table is drawn by a given layout. One layout is defined here, for a console on which every table
fits: a heavy frame around the heads and a light frame around the rows, columns as wide as their
widest cells, with one space on either side, and the title broken into lines as wide as the table.

## Main definitions

* `CommandLine.shown` — a text as it is shown outside of tables
* `CommandLine.Table` — a table
* `CommandLine.Table.draw` — its text in a given layout
* `CommandLine.Table.unbounded` — the layout on a console on which it fits
-/

namespace GraphMapper.CommandLine

/-- A text as it is shown outside of tables: with emoji for the shortcodes and spaces for tabs. -/
def shown (s : String) : String := "\n".intercalate (Text.shownLines (Text.expandShortcodes s))

/-- A table. -/
structure Table where
  /-- The title. -/
  title : String
  /-- The heads of the columns. -/
  heads : List String
  /-- The rows, with one cell for each column. -/
  rows : List (List String)

namespace Table

/-- The widths of the cells of a row. -/
def rowWidths (row : List String) : List Nat := row.map fun cell => Text.measure (Text.visible cell)

/-- The widths of two rows of cells, column by column. -/
def maxWidths : List Nat → List Nat → List Nat := List.zipWith max

/-- The widths of the columns. -/
def widths (t : Table) : List Nat :=
  t.rows.foldl (fun ws row => maxWidths ws (rowWidths row)) (rowWidths t.heads)

/-- The lines of a cell in a column of the given width. -/
def cellLines (width : Nat) (cell : String) : List String :=
  (Text.shownLines cell).flatMap fun line =>
    (Text.wrap width false line).map fun cs => String.ofList (Text.fitLeft width cs)

/-- The lines of a title over a table of the given width. -/
def titleLines (width : Nat) (title : String) : List String :=
  (Text.shownLines title).flatMap fun line =>
    (Text.wrap width true line).map fun cs => String.ofList (Text.fitCentre width cs)

/-- A line of the frame. -/
def rule (left fill cross right : String) (widths : List Nat) : String :=
  left ++ cross.intercalate (widths.map fun w => String.join (List.replicate (w + 2) fill)) ++ right

/-- A line of a row, given by what stands on it in each column. -/
def rowLine (bar : String) (cells : List String) : String :=
  bar ++ String.join (cells.map fun cell => " " ++ cell ++ " " ++ bar)

/-- The lines of a row. A cell with fewer lines than others is filled up with blank ones. -/
def rowLines (bar : String) (widths : List Nat) (row : List String) : List String :=
  let cells := List.zipWith (fun w cell => (w, cellLines w cell)) widths row
  let height := (cells.map (·.2.length)).foldl max 0
  (List.range height).map fun i =>
    rowLine bar (cells.map fun (w, lines) => lines.getD i ("".pushn ' ' w))

/-- The lines of a table with the given visible title. -/
def lines (t : Table) (title : String) : List String :=
  let ws := t.widths
  let width := ws.foldl (fun n w => n + w + 3) 1
  titleLines width title ++ [rule "┏" "━" "┳" "┓" ws] ++ rowLines "┃" ws t.heads
    ++ [rule "┡" "━" "╇" "┩" ws] ++ t.rows.flatMap (rowLines "│" ws) ++ [rule "└" "─" "┴" "┘" ws]

/-- The text of a table with the given visible title on a console on which it fits. -/
def unbounded (t : Table) (title : String) : String :=
  String.join ((t.lines title).map (· ++ "\n"))

/-- The text of a table in a layout of tables and their visible titles, unless the tags in the title
do not match. -/
def draw (layout : Table → String → String) (t : Table) : Except Markup.Fault String :=
  (Markup.visibleText t.title).map (layout t)

end Table

end GraphMapper.CommandLine
