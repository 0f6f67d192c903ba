import GraphMapper.Fault
import GraphMapper.Yaml.Cursor

/-!
# Texts in a document

A text stands plainly, between quotes, or as an indented block. Line breaks inside a plain or quoted
text are folded: a single break is a space, and of several the first is dropped. In a block they are
kept, or folded between lines that do not start with a blank.

## Main definitions

* `Yaml.quotedText` — the text between quotes
* `Yaml.blockText` — the text of an indented block
* `Yaml.plainText` — a text without quotes
-/

namespace GraphMapper.Yaml

/-- A document that cannot be read. -/
def unreadable {α : Type} : Except Fault α := .error .document

/-- A blank that may stand between words of a quoted text. -/
def isInnerBlank (c : Char) : Bool := c == ' ' || c == '\t'

/-! ### Quoted texts -/

/-- The character that a letter stands for behind a backslash. -/
def unescape? : Char → Option Char
  | '0' => some '\x00'
  | 'a' => some '\x07'
  | 'b' => some '\x08'
  | 't' => some '\t'
  | '\t' => some '\t'
  | 'n' => some '\n'
  | 'v' => some '\x0b'
  | 'f' => some '\x0c'
  | 'r' => some '\r'
  | 'e' => some '\x1b'
  | ' ' => some ' '
  | '"' => some '"'
  | '\\' => some '\\'
  | '/' => some '/'
  | 'N' => some '\x85'
  | '_' => some '\xa0'
  | 'L' => some '\u2028'
  | 'P' => some '\u2029'
  | _ => none

/-- The number of hexadecimal digits that follow a letter behind a backslash. -/
def escapeLength? : Char → Option Nat
  | 'x' => some 2
  | 'u' => some 4
  | 'U' => some 8
  | _ => none

/-- The value of hexadecimal digits. -/
def hexNumber? (cs : List Char) : Option Nat :=
  cs.foldlM (fun n c => (Json.hexValue? c).map (n * 16 + ·)) 0

/-- The character of a code point, or the one that stands for half a pair. -/
def codeChar (n : Nat) : Except Fault Char :=
  if 0x10FFFF < n then .error (.shape .outOfRange)
  else .ok (if Text.isHalf n then Text.halfChar n else Char.ofNat n)

/-- The line breaks of empty lines inside a quoted text. A mark between documents may not stand
there. -/
def quotedBreaks : (fuel : Nat) → Cursor → Except Fault (List Char × Cursor)
  | 0, _ => unreadable
  | fuel + 1, c =>
    if c.atDocumentMark then unreadable
    else
      let c := c.skipWhile isInnerBlank
      match c.lineBreak with
      | ([], _) => .ok ([], c)
      | (br, c) => do
        let (more, c) ← quotedBreaks fuel c
        .ok (br ++ more, c)

/-- What line breaks between two lines leave of themselves. -/
def foldBreaks (br more : List Char) : List Char :=
  if br != ['\n'] then br ++ more else if more.isEmpty then [' '] else more

/-- The blanks and line breaks inside a quoted text. -/
def quotedSpaces (c : Cursor) : Except Fault (List Char × Cursor) :=
  let (blanks, c) := c.takeWhile isInnerBlank
  match c.next with
  | none => unreadable
  | some ch =>
    if isBreak ch then do
      let (br, c) := c.lineBreak
      let (more, c) ← quotedBreaks (c.rest.length + 1) c
      .ok (foldBreaks br more, c)
    else .ok (blanks, c)

/-- The character behind a backslash, or the end of the line that it hides. -/
def escaped (c : Cursor) : Except Fault (List Char × Cursor) :=
  match c.next with
  | none => unreadable
  | some ch =>
    match unescape? ch with
    | some u => .ok ([u], c.step)
    | none =>
      match escapeLength? ch with
      | some n =>
        let c := c.step
        let digits := c.rest.take n
        match hexNumber? digits with
        | some code =>
          if digits.length = n then do
            let u ← codeChar code
            .ok ([u], c.forward n)
          else unreadable
        | none => unreadable
      | none =>
        if isBreak ch then quotedBreaks (c.rest.length + 1) c.step else unreadable

/-- A character that stands for itself inside quotes. -/
def standsForItself (c : Char) : Bool :=
  c != '\'' && c != '"' && c != '\\' && !isInnerBlank c && !isBreak c

/-- The words of a quoted text up to the next blank, line break or closing quote. -/
def quotedWords (double : Bool) : (fuel : Nat) → Cursor → Except Fault (List Char × Cursor)
  | 0, _ => unreadable
  | fuel + 1, c => do
    let (word, c) := c.takeWhile standsForItself
    match c.next with
    | some '\'' =>
      if double then
        let (more, c) ← quotedWords double fuel c.step
        .ok (word ++ '\'' :: more, c)
      else if c.peek 1 == some '\'' then
        let (more, c) ← quotedWords double fuel (c.forward 2)
        .ok (word ++ '\'' :: more, c)
      else .ok (word, c)
    | some '"' =>
      if double then .ok (word, c)
      else
        let (more, c) ← quotedWords double fuel c.step
        .ok (word ++ '"' :: more, c)
    | some '\\' =>
      if double then
        let (one, c) ← escaped c.step
        let (more, c) ← quotedWords double fuel c
        .ok (word ++ one ++ more, c)
      else
        let (more, c) ← quotedWords double fuel c.step
        .ok (word ++ '\\' :: more, c)
    | _ => .ok (word, c)

/-- The rest of a quoted text, and the position behind its closing quote. -/
def quotedRest (double : Bool) : (fuel : Nat) → Cursor → Except Fault (List Char × Cursor)
  | 0, _ => unreadable
  | fuel + 1, c => do
    let (words, c) ← quotedWords double (c.rest.length + 1) c
    if c.next == some (if double then '"' else '\'') then .ok (words, c.step)
    else
      let (spaces, c) ← quotedSpaces c
      let (more, c) ← quotedRest double fuel c
      .ok (words ++ spaces ++ more, c)

/-- The text between quotes, of which the first stands at the position. -/
def quotedText (double : Bool) (c : Cursor) : Except Fault (List Char × Cursor) :=
  quotedRest double (c.rest.length + 1) c.step

/-! ### Blocks -/

/-- What becomes of the line breaks at the end of a block. -/
inductive Chomping where
  /-- The last one is kept. -/
  | clip
  /-- None is kept. -/
  | strip
  /-- All are kept. -/
  | keep
  deriving DecidableEq, Repr

/-- The chomping that a character asks for. -/
def chomping? : Option Char → Option Chomping
  | some '+' => some .keep
  | some '-' => some .strip
  | _ => none

/-- The indentation that a digit asks for. -/
def increment? (c : Option Char) : Option Nat :=
  c.bind fun ch => if ch.isDigit then some (ch.toNat - 48) else none

/-- The chomping and the indentation in the head of a block. -/
def blockHead (c : Cursor) : Except Fault ((Chomping × Option Nat) × Cursor) := do
  let (chomping, increment, c) := match chomping? c.next with
    | some ch =>
      let c := c.step
      match increment? c.next with
      | some n => (ch, some n, c.step)
      | none => (ch, none, c)
    | none =>
      match increment? c.next with
      | some n =>
        let c := c.step
        match chomping? c.next with
        | some ch => (ch, some n, c.step)
        | none => (.clip, some n, c)
      | none => (.clip, none, c)
  if increment = some 0 then unreadable
  else if endsLine c.next || c.next == some ' ' then
    let c := c.skipWhile (· == ' ')
    let c := if c.next == some '#' then c.skipWhile (!isBreak ·) else c
    if endsLine c.next then .ok ((chomping, increment), c.lineBreak.2) else unreadable
  else unreadable

/-- The empty lines at the start of a block and the greatest column that a space among them
reaches. -/
def leadingBreaks : (fuel : Nat) → (widest : Nat) → Cursor → List Char × Nat × Cursor
  | 0, widest, c => ([], widest, c)
  | fuel + 1, widest, c =>
    match c.next with
    | some ' ' =>
      let c := c.step
      leadingBreaks fuel (max widest c.column) c
    | _ =>
      match c.lineBreak with
      | ([], _) => ([], widest, c)
      | (br, c) =>
        let (more, widest, c) := leadingBreaks fuel widest c
        (br ++ more, widest, c)

/-- The position behind the spaces of an indentation. -/
def skipIndent (indent : Nat) (c : Cursor) : Cursor :=
  let spaces := c.rest.takeWhile (· == ' ')
  c.forward (min spaces.length (indent - c.column))

/-- The empty lines between two lines of a block. -/
def blockBreaks (indent : Nat) : (fuel : Nat) → Cursor → List Char × Cursor
  | 0, c => ([], c)
  | fuel + 1, c =>
    let c := skipIndent indent c
    match c.lineBreak with
    | ([], _) => ([], c)
    | (br, c) =>
      let (more, c) := blockBreaks indent fuel c
      (br ++ more, c)

/-- The lines of a block from the position on, behind the given empty lines, with the last line
break and the empty lines after it. -/
def blockLines (folded : Bool) (indent : Nat) :
    (fuel : Nat) → (breaks : List Char) → Cursor → List Char × List Char × List Char × Cursor
  | 0, breaks, c => ([], [], breaks, c)
  | fuel + 1, breaks, c =>
    if c.column = indent ∧ c.next ≠ none then
      let leading := (c.next).any isInnerBlank
      let (line, c) := c.takeWhile (!isBreak ·)
      let (br, c) := c.lineBreak
      let (after, c) := blockBreaks indent (c.rest.length + 1) c
      if c.column = indent ∧ c.next ≠ none then
        -- One break between two lines that start with no blank is a space, or nothing if empty
        -- lines stand between them.
        let joint :=
          if folded && br == ['\n'] && !leading && !(c.next).any isInnerBlank then
            (if after.isEmpty then [' '] else [])
          else br
        let (more, last, trailing, c) := blockLines folded indent fuel after c
        (breaks ++ line ++ joint ++ more, last, trailing, c)
      else (breaks ++ line, br, after, c)
    else ([], [], breaks, c)

/-- The text of a block whose mark stands at the position, inside the given indentation. -/
def blockText (folded : Bool) (outer : Int) (c : Cursor) : Except Fault (List Char × Cursor) := do
  let ((chomping, increment), c) ← blockHead c.step
  -- A block stands deeper than what it belongs to, also at the top of a document.
  let least := (max 1 (outer + 1)).toNat
  let (breaks, indent, c) := match increment with
    | some n =>
      let indent := least + n - 1
      let (breaks, c) := blockBreaks indent (c.rest.length + 1) c
      (breaks, indent, c)
    | none =>
      let (breaks, widest, c) := leadingBreaks (c.rest.length + 1) 0 c
      (breaks, max least widest, c)
  let (body, last, trailing, c) := blockLines folded indent (c.rest.length + 1) breaks c
  let ending := match chomping with
    | .clip => last
    | .strip => []
    | .keep => last ++ trailing
  .ok (body ++ ending, c)

/-! ### Plain texts -/

/-- A character that separates items and brackets them inside brackets. -/
def isFlowMark (c : Char) : Bool := c == ',' || c == '[' || c == ']' || c == '\x7b' || c == '\x7d'

/-- The length of the word at the head of some characters that may stand in a plain text. -/
def plainWord (inFlow : Bool) : List Char → Nat
  | [] => 0
  | ch :: rest =>
    if isGap (some ch) then 0
    else if ch == ':' && (isGap rest.head? || (inFlow && rest.head?.any isFlowMark)) then 0
    else if inFlow && (isFlowMark ch || ch == '?') then 0
    else plainWord inFlow rest + 1

/-- The line breaks between two lines of a plain text; none if a mark between documents follows. -/
def plainBreaks : (fuel : Nat) → Cursor → Option (List Char) × Cursor
  | 0, c => (none, c)
  | fuel + 1, c =>
    match c.next with
    | some ' ' => plainBreaks fuel c.step
    | _ =>
      match c.lineBreak with
      | ([], _) => (some [], c)
      | (br, c) =>
        if c.atDocumentMark then (none, c)
        else
          let (more, c) := plainBreaks fuel c
          (more.map (br ++ ·), c)

/-- The blanks behind a word of a plain text: what they leave of themselves (nothing if the text
ends there), and whether a line ends in them. -/
def plainSpaces (c : Cursor) : List Char × Bool × Cursor :=
  let (blanks, c) := c.takeWhile (· == ' ')
  if (c.next).any isBreak then
    let (br, c) := c.lineBreak
    if c.atDocumentMark then ([], true, c)
    else
      let (more, c) := plainBreaks (c.rest.length + 1) c
      match more with
      | some more => (foldBreaks br more, true, c)
      | none => ([], true, c)
  else (blanks, false, c)

/-- A plain text from a word on that stands behind the given blanks: the text, whether it ends at
the end of a line, and the position behind it. -/
def plainRest (inFlow : Bool) (indent : Int) :
    (fuel : Nat) → (spaces : List Char) → (broken : Bool) → Cursor → List Char × Bool × Cursor
  | 0, _, broken, c => ([], broken, c)
  | fuel + 1, spaces, broken, c =>
    let n := plainWord inFlow c.rest
    if c.next == some '#' || n = 0 then ([], broken, c)
    else
      let word := c.rest.take n
      let (after, ended, c) := plainSpaces (c.forward n)
      if after.isEmpty || c.next == some '#' || (!inFlow && (c.column : Int) < indent) then
        (spaces ++ word, ended, c)
      else
        let (more, ended, c) := plainRest inFlow indent fuel after ended c
        (spaces ++ word ++ more, ended, c)

/-- A plain text inside the given indentation, whether it ends at the end of a line, and the
position behind it. -/
def plainText (inFlow : Bool) (outer : Int) (c : Cursor) : List Char × Bool × Cursor :=
  plainRest inFlow (outer + 1) (c.rest.length + 1) [] false c

end GraphMapper.Yaml
