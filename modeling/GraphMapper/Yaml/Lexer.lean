import GraphMapper.Yaml.Text
import GraphMapper.Yaml.Token

/-!
# From text to tokens

Indentation becomes brackets: a deeper column opens a sequence or a mapping, a lesser one closes it.
A key is only known to be one when the colon behind it is reached, so the place of every text that
could be a key is remembered, for each level of brackets, until its line ends.

## Main definitions

* `Yaml.Lexer` — the state of reading
* `Yaml.Lexer.advance` — reading one more token
* `Yaml.tokens` — the tokens of a text
-/

namespace GraphMapper.Yaml

/-- A place at which a key may have started. -/
structure KeyPlace where
  /-- The number of tokens before the place. -/
  number : Nat
  /-- Nothing but a key can stand there. -/
  required : Bool
  /-- The position in the text. -/
  index : Nat
  /-- The line. -/
  line : Nat
  /-- The column. -/
  column : Nat

/-- The state of reading. -/
structure Lexer where
  /-- The position reached. -/
  cursor : Cursor
  /-- The tokens read. -/
  tokens : Array Token
  /-- The column of the innermost indented sequence or mapping; -1 outside all of them. -/
  indent : Int
  /-- The columns of the outer ones. -/
  indents : List Int
  /-- The number of open brackets. -/
  flow : Nat
  /-- A key may start at the position. -/
  keyAllowed : Bool
  /-- The places at which keys may have started, by the number of brackets around them. -/
  places : List (Nat × KeyPlace)

namespace Lexer

/-- The state before the first character. -/
def start (cs : List Char) : Lexer := ⟨Cursor.start cs, #[], -1, [], 0, true, []⟩

/-- Reads a token. -/
def push (l : Lexer) (t : Token) : Lexer := { l with tokens := l.tokens.push t }

/-- Puts a token in front of those read from a place on. -/
def insertAt (l : Lexer) (n : Nat) (t : Token) : Lexer :=
  { l with tokens := (l.tokens.extract 0 n).push t ++ l.tokens.extract n l.tokens.size }

/-- The position behind some characters. -/
def skip (l : Lexer) (n : Nat) : Lexer := { l with cursor := l.cursor.forward n }

/-- The column reached. -/
def column (l : Lexer) : Int := l.cursor.column

/-- The place where a key on the current level may have started. -/
def place? (l : Lexer) : Option KeyPlace := l.places.lookup l.flow

/-- Forgets where a key on the current level may have started, unless there has to be one. -/
def forgetPlace (l : Lexer) : Except Fault Lexer :=
  if l.place?.any (·.required) then unreadable
  else .ok { l with places := l.places.filter (·.1 != l.flow) }

/-- Forgets the places that are too far back for a key. -/
def forgetStale (l : Lexer) : Except Fault Lexer :=
  let stale (p : Nat × KeyPlace) : Bool :=
    p.2.line != l.cursor.line || 1024 < l.cursor.index - p.2.index
  if l.places.any fun p => stale p && p.2.required then unreadable
  else .ok { l with places := l.places.filter (!stale ·) }

/-- Remembers that a key may start at the position. -/
def markPlace (l : Lexer) : Except Fault Lexer :=
  if l.keyAllowed then do
    -- At the column of an open mapping nothing but its next key can start.
    let required := l.flow == 0 && l.indent == l.column
    let l ← l.forgetPlace
    let c := l.cursor
    .ok { l with places := (l.flow, ⟨l.tokens.size, required, c.index, c.line, c.column⟩) ::
      l.places }
  else .ok l

/-- Closes what is indented deeper than a column. -/
def unwind (column : Int) : List Int → Lexer → Lexer
  | [], l => l
  | outer :: rest, l =>
    if column < l.indent then
      unwind column rest { l.push .blockEnd with indent := outer, indents := rest }
    else l

/-- Closes what is indented deeper than a column, outside brackets. -/
def unwindTo (l : Lexer) (column : Int) : Lexer :=
  if l.flow == 0 then unwind column l.indents l else l

/-- Opens an indented sequence or mapping at a column, if it is deeper than the innermost one: the
token goes in front of those read from a place on. -/
def openAt (l : Lexer) (column : Int) (n : Nat) (t : Token) : Lexer :=
  if l.indent < column then
    { l.insertAt n t with indent := column, indents := l.indent :: l.indents }
  else l

/-- The position of the next token. Outside brackets, a key may start on a new line. -/
def toToken : (fuel : Nat) → Lexer → Lexer
  | 0, l => l
  | fuel + 1, l =>
    let c := l.cursor.skipWhile (· == ' ')
    let c := if c.next == some '#' then c.skipWhile (!isBreak ·) else c
    match c.lineBreak with
    | ([], _) => { l with cursor := c }
    | (_, c) => toToken fuel { l with cursor := c, keyAllowed := l.keyAllowed || l.flow == 0 }

/-! ### Names and tags -/

/-- A character of a name. -/
def isNameChar (c : Char) : Bool := c.isAlphanum || c == '-' || c == '_'

/-- A character of a tag. -/
def isTagChar (c : Char) : Bool := c.isAlphanum || "-;/?:@&=+$,_.!~*'()[]%".toList.contains c

/-- The bytes in escaped and plain characters of a tag. -/
def tagBytes : List Char → Option (List UInt8)
  | [] => some []
  | '%' :: a :: b :: rest =>
    match Json.hexValue? a, Json.hexValue? b with
    | some x, some y => (tagBytes rest).map (UInt8.ofNat (x * 16 + y) :: ·)
    | _, _ => none
  | '%' :: _ => none
  | c :: rest => (tagBytes rest).map (c.toString.toUTF8.toList ++ ·)

/-- The text of a tag, in which bytes may be written as escapes. -/
def tagText (c : Cursor) : Except Fault (String × Cursor) :=
  let (cs, c) := c.takeWhile isTagChar
  if cs.isEmpty then unreadable
  else
    match (tagBytes cs).bind fun bytes => String.fromUTF8? ⟨bytes.toArray⟩ with
    | some s => .ok (s, c)
    | none => unreadable

/-- The handle of a tag: an exclamation mark, or a name between two of them. -/
def tagHandle (c : Cursor) : Except Fault (String × Cursor) :=
  if c.next == some '!' then
    let d := c.step
    if d.next == some ' ' then .ok ("!", d)
    else
      let (cs, d) := d.takeWhile isNameChar
      if d.next == some '!' then .ok (String.ofList ('!' :: cs ++ ['!']), d.step)
      else unreadable
  else unreadable

/-- The tag has a handle with a name. -/
def hasHandle (c : Cursor) : Bool :=
  ((c.rest.drop 1).takeWhile fun ch => ch != ' ' && !isBreak ch).contains '!'

/-- A tag whose exclamation mark stands at the position. -/
def tagToken (c : Cursor) : Except Fault (Token × Cursor) := do
  let (t, c) ←
    if c.peek 1 == some '<' then do
      let (s, c) ← tagText (c.forward 2)
      if c.next == some '>' then .ok (Token.tag none s, c.step) else unreadable
    else if isGap (c.peek 1) then .ok (Token.tag none "!", c.step)
    else do
      let (handle, c) ← if hasHandle c then tagHandle c else .ok ("!", c.step)
      let (s, c) ← tagText c
      .ok (Token.tag (some handle) s, c)
  if endsLine c.next || c.next == some ' ' then .ok (t, c) else unreadable

/-- The name behind a mark. -/
def nameToken (make : String → Token) (c : Cursor) : Except Fault (Token × Cursor) :=
  let (cs, c) := c.step.takeWhile isNameChar
  let ends := isGap c.next || (c.next).any fun ch => "?:,]\x7d%@`".toList.contains ch
  if cs.isEmpty || !ends then unreadable else .ok (make (String.ofList cs), c)

/-! ### Directives -/

/-- The position behind the end of a line that holds nothing more than a comment. -/
def endOfLine (c : Cursor) : Except Fault Cursor :=
  let c := c.skipWhile (· == ' ')
  let c := if c.next == some '#' then c.skipWhile (!isBreak ·) else c
  if endsLine c.next then .ok c.lineBreak.2 else unreadable

/-- A number and the position behind it. -/
def numberAt (c : Cursor) : Except Fault (Nat × Cursor) :=
  let (cs, c) := c.takeWhile Char.isDigit
  if cs.isEmpty then unreadable
  else .ok (cs.foldl (fun n ch => n * 10 + (ch.toNat - 48)) 0, c)

/-- A blank or the end of a line follows. -/
def atWordEnd (c : Cursor) : Bool := endsLine c.next || c.next == some ' '

/-- A directive whose mark stands at the position. -/
def directiveToken (c : Cursor) : Except Fault (Token × Cursor) := do
  let (name, c) := c.step.takeWhile isNameChar
  if name.isEmpty || !atWordEnd c then unreadable
  else
    let (t, c) ← match String.ofList name with
      | "YAML" => do
        let (major, c) ← numberAt (c.skipWhile (· == ' '))
        if c.next == some '.' then
          let (_, c) ← numberAt c.step
          if atWordEnd c then .ok (Token.version major, c) else unreadable
        else unreadable
      | "TAG" => do
        let (handle, c) ← tagHandle (c.skipWhile (· == ' '))
        if c.next == some ' ' then
          let (uri, c) ← tagText (c.skipWhile (· == ' '))
          if atWordEnd c then .ok (Token.tagHandle handle uri, c) else unreadable
        else unreadable
      | _ => .ok (Token.otherDirective, c.skipWhile (!isBreak ·))
    let c ← endOfLine c
    .ok (t, c)

/-! ### Single tokens -/

/-- Ends everything that is open outside brackets. -/
def endDocument (l : Lexer) : Except Fault Lexer := do
  let l ← (l.unwindTo (-1)).forgetPlace
  .ok { l with keyAllowed := false }

/-- A mark between documents. -/
def documentMark (l : Lexer) (t : Token) : Except Fault Lexer := do
  let l ← l.endDocument
  .ok ((l.skip 3).push t)

/-- An opening bracket. -/
def openFlow (l : Lexer) (t : Token) : Except Fault Lexer := do
  let l ← l.markPlace
  .ok ({ l.skip 1 with flow := l.flow + 1, keyAllowed := true }.push t)

/-- A closing bracket. -/
def closeFlow (l : Lexer) (t : Token) : Except Fault Lexer := do
  let l ← l.forgetPlace
  .ok ({ l.skip 1 with flow := l.flow - 1, keyAllowed := false }.push t)

/-- A comma between items. -/
def flowEntry (l : Lexer) : Except Fault Lexer := do
  let l ← l.forgetPlace
  .ok ({ l.skip 1 with keyAllowed := true }.push .flowEntry)

/-- The hyphen before an item. -/
def blockEntry (l : Lexer) : Except Fault Lexer := do
  if l.flow == 0 && !l.keyAllowed then unreadable
  else
    let l := if l.flow == 0 then l.openAt l.column l.tokens.size .blockSequence else l
    let l ← l.forgetPlace
    .ok ({ l.skip 1 with keyAllowed := true }.push .blockEntry)

/-- The question mark before a key. -/
def explicitKey (l : Lexer) : Except Fault Lexer := do
  if l.flow == 0 && !l.keyAllowed then unreadable
  else
    let l := if l.flow == 0 then l.openAt l.column l.tokens.size .blockMapping else l
    let l ← l.forgetPlace
    .ok ({ l.skip 1 with keyAllowed := l.flow == 0 }.push .key)

/-- The colon before a value. It turns what stands at the remembered place into a key. -/
def valueMark (l : Lexer) : Except Fault Lexer :=
  match l.place? with
  | some p =>
    let l := { l with places := l.places.filter (·.1 != l.flow) }
    -- The mapping opens in front of the key, so its token goes to the same place later.
    let l := l.insertAt p.number .key
    let l := if l.flow == 0 then l.openAt p.column p.number .blockMapping else l
    .ok ({ l.skip 1 with keyAllowed := false }.push .value)
  | none =>
    if l.flow == 0 && !l.keyAllowed then unreadable
    else do
      let l := if l.flow == 0 then l.openAt l.column l.tokens.size .blockMapping else l
      let l ← ({ l with keyAllowed := l.flow == 0 } : Lexer).forgetPlace
      .ok ((l.skip 1).push .value)

/-- A token that may start a key, read by a function of the position. -/
def readKeyToken (l : Lexer) (read : Cursor → Except Fault (Token × Cursor)) :
    Except Fault Lexer := do
  let l ← l.markPlace
  let (t, c) ← read l.cursor
  .ok ({ l with keyAllowed := false, cursor := c }.push t)

/-- A text between quotes. -/
def quoted (l : Lexer) (double : Bool) : Except Fault Lexer :=
  l.readKeyToken fun c => do
    let (cs, c) ← quotedText double c
    .ok (.scalar false (String.ofList cs), c)

/-- An indented block of text. -/
def block (l : Lexer) (folded : Bool) : Except Fault Lexer := do
  let l ← ({ l with keyAllowed := true } : Lexer).forgetPlace
  let (cs, c) ← blockText folded l.indent l.cursor
  .ok ({ l with cursor := c }.push (.scalar false (String.ofList cs)))

/-- A text without quotes. -/
def plain (l : Lexer) : Except Fault Lexer := do
  let l ← l.markPlace
  let (cs, ended, c) := plainText (l.flow != 0) l.indent l.cursor
  .ok ({ l with keyAllowed := ended, cursor := c }.push (.scalar true (String.ofList cs)))

/-- A character with which no plain text starts, unless something stands close behind it. -/
def isMark (c : Char) : Bool := "-?:,[]\x7b\x7d#&*!|>'\"%@`".toList.contains c

/-- A plain text starts at the position. -/
def startsPlain (l : Lexer) (ch : Char) : Bool :=
  if isGap (some ch) then false
  else if isMark ch then
    !isGap (l.cursor.peek 1) && (ch == '-' || (l.flow == 0 && (ch == '?' || ch == ':')))
  else true

/-- Reads the token that starts with a character at the position. -/
def readToken (l : Lexer) (ch : Char) : Except Fault Lexer :=
  let inBlock := l.flow == 0
  let apart := isGap (l.cursor.peek 1)
  let lineStart := l.cursor.column == 0
  -- Directives and the marks between documents stand at the start of a line.
  if ch == '%' && lineStart then do
    let l ← l.endDocument
    let (t, c) ← directiveToken l.cursor
    .ok ({ l with cursor := c }.push t)
  else if lineStart && l.cursor.atMark '-' then l.documentMark .documentStart
  else if lineStart && l.cursor.atMark '.' then l.documentMark .documentEnd
  else if ch == '[' then l.openFlow .flowSequence
  else if ch == '\x7b' then l.openFlow .flowMapping
  else if ch == ']' then l.closeFlow .flowSequenceEnd
  else if ch == '\x7d' then l.closeFlow .flowMappingEnd
  else if ch == ',' then l.flowEntry
  -- These need a blank behind them, except that brackets set a key and a value apart.
  else if ch == '-' && apart then l.blockEntry
  else if ch == '?' && (apart || !inBlock) then l.explicitKey
  else if ch == ':' && (apart || !inBlock) then l.valueMark
  else if ch == '*' then l.readKeyToken (nameToken .reference)
  else if ch == '&' then l.readKeyToken (nameToken .anchor)
  else if ch == '!' then l.readKeyToken tagToken
  -- Texts: blocks, quoted ones, and whatever else may start a plain one.
  else if ch == '|' && inBlock then l.block false
  else if ch == '>' && inBlock then l.block true
  else if ch == '\'' then l.quoted false
  else if ch == '"' then l.quoted true
  else if l.startsPlain ch then l.plain
  else unreadable

/-- Reads one more token; the flag tells that it is the last. -/
def advance (l : Lexer) : Except Fault (Lexer × Bool) := do
  let l ← (l.toToken (l.cursor.rest.length + 1)).forgetStale
  let l := l.unwindTo l.column
  match l.cursor.next with
  | none =>
    let l ← l.endDocument
    .ok (l.push .streamEnd, true)
  | some ch =>
    let l ← l.readToken ch
    .ok (l, false)

/-- Reads tokens to the end of the text. -/
def run : (fuel : Nat) → Lexer → Except Fault Lexer
  | 0, _ => unreadable
  | fuel + 1, l => do
    let (l, done) ← l.advance
    if done then .ok l else run fuel l

end Lexer

/-- A character that may stand in a document. -/
def isAllowed (c : Char) : Bool :=
  let n := c.toNat
  n == 0x9 || n == 0xA || n == 0xD || (0x20 ≤ n && n ≤ 0x7E) || n == 0x85
    || (0xA0 ≤ n && n ≤ 0xFFFD) || 0x10000 ≤ n

/-- The characters with every line break in the form of a line feed. -/
def unifyBreaks : List Char → List Char
  | [] => []
  | '\r' :: '\n' :: rest => '\n' :: unifyBreaks rest
  | '\r' :: rest => '\n' :: unifyBreaks rest
  | c :: rest => c :: unifyBreaks rest

/-- The tokens of a text. -/
def tokens (s : String) : Except Fault (List Token) := do
  let cs := unifyBreaks s.toList
  if cs.all isAllowed then
    -- A byte order mark in front of the text is no part of it.
    let cs := if cs.head? == some '\ufeff' then cs.drop 1 else cs
    let l ← Lexer.run (cs.length + 2) (Lexer.start cs)
    .ok l.tokens.toList
  else unreadable

end GraphMapper.Yaml
