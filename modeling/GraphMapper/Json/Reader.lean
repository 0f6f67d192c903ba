import GraphMapper.Number.Numeral
import GraphMapper.Number.Decimal
import GraphMapper.Value.Shape

/-!
# Reading JSON

A JSON text is read into a value: a number without fraction and exponent is an integer of any size,
any other number is a binary64 number, and an object keeps its keys in order, a repeated key keeping
its first place and its last value. `NaN`, `Infinity` and `-Infinity` are numbers. Half of a
surrogate pair that is escaped on its own is kept as the character that stands for it.

A text that cannot be read is refused with what was expected and where. Where an integer must not
be longer than those that are read elsewhere, its length is asked for besides. Values may be nested
to any depth, while an interpreter may refuse those that are nested deeper than it follows.

## Main definitions

* `Json.Issue`, `Json.Fault` — what is wrong with a text and at which position
* `Json.read` — the value of a JSON text
* `Json.hasLongInteger` — whether reading a text comes upon an integer that is too long
-/

namespace GraphMapper.Json

/-- What is wrong with a JSON text. -/
inductive Issue where
  /-- A value is missing. -/
  | value
  /-- A key in double quotes is missing. -/
  | propertyName
  /-- The colon behind a key is missing. -/
  | colon
  /-- The comma between items is missing. -/
  | comma
  /-- A text does not end. -/
  | unterminated
  /-- A text holds a control character. -/
  | controlCharacter
  /-- A backslash is followed by a character that it does not escape. -/
  | badEscape
  /-- An escape of a 16-bit unit lacks its four hexadecimal digits. -/
  | unitEscape
  /-- Something follows the value. -/
  | extraData
  /-- The text starts with a byte order mark. -/
  | byteOrderMark
  deriving DecidableEq, Repr

/-- The text of an issue. -/
def Issue.message : Issue → String
  | .value => "Expecting value"
  | .propertyName => "Expecting property name enclosed in double quotes"
  | .colon => "Expecting ':' delimiter"
  | .comma => "Expecting ',' delimiter"
  | .unterminated => "Unterminated string starting at"
  | .controlCharacter => "Invalid control character at"
  | .badEscape => "Invalid \\escape"
  | .unitEscape => "Invalid \\uXXXX escape"
  | .extraData => "Extra data"
  | .byteOrderMark => "Unexpected UTF-8 BOM (decode using utf-8-sig)"

/-- An issue and its position, counted in characters from 0. -/
structure Fault where
  /-- What is wrong. -/
  issue : Issue
  /-- The characters in front of the position. -/
  before : List Char
  deriving DecidableEq, Repr

/-- The text of a fault: the issue with line, column and position. -/
def Fault.message (f : Fault) : String :=
  let line := (f.before.filter (· == '\n')).length + 1
  let column := (f.before.reverse.takeWhile (· != '\n')).length + 1
  f.issue.message ++ ": line " ++ toString line ++ " column " ++ toString column
    ++ " (char " ++ toString f.before.length ++ ")"

/-- What a reading step yields: a result and the characters after it, or an issue and the number
of characters from its position to the end. -/
abbrev Step (α : Type) := Except (Issue × Nat) (α × List Char)

/-- A blank between tokens. -/
def isSpace (c : Char) : Bool := c == ' ' || c == '\t' || c == '\n' || c == '\r'

/-- The characters from the next token on. -/
def skipSpace (cs : List Char) : List Char := cs.dropWhile isSpace

/-! ### Texts -/

/-- The value of a hexadecimal digit. -/
def hexValue? (c : Char) : Option Nat :=
  if c.isDigit then some (c.toNat - 48)
  else if 'a' ≤ c && c ≤ 'f' then some (c.toNat - 87)
  else if 'A' ≤ c && c ≤ 'F' then some (c.toNat - 55)
  else none

/-- The 16-bit unit that four hexadecimal digits denote. -/
def unit? (a b c d : Char) : Option Nat := do
  let a ← hexValue? a
  let b ← hexValue? b
  let c ← hexValue? c
  let d ← hexValue? d
  pure (((a * 16 + b) * 16 + c) * 16 + d)

/-- The unit is the first half of a pair. -/
def isHighUnit (n : Nat) : Bool := 0xD800 ≤ n && n ≤ 0xDBFF

/-- The unit is the second half of a pair. -/
def isLowUnit (n : Nat) : Bool := 0xDC00 ≤ n && n ≤ 0xDFFF

/-- The character of a unit, or the one that stands for half a pair. -/
def unitChar (n : Nat) : Char :=
  if isHighUnit n || isLowUnit n then Text.halfChar n else Char.ofNat n

/-- The character of a pair of units. -/
def pairChar (high low : Nat) : Char :=
  Char.ofNat (0x10000 + (high - 0xD800) * 0x400 + (low - 0xDC00))

/-- The character that a letter stands for behind a backslash. -/
def unescape? : Char → Option Char
  | '"' => some '"'
  | '\\' => some '\\'
  | '/' => some '/'
  | 'b' => some '\x08'
  | 'f' => some '\x0c'
  | 'n' => some '\n'
  | 'r' => some '\r'
  | 't' => some '\t'
  | _ => none

/-- One escaped unit and what follows it. `cs` are the characters behind `\u`; a fifth character
has to follow the four digits. -/
def readUnit (cs : List Char) : Step Nat :=
  match cs with
  | a :: b :: c :: d :: e :: rest =>
    match unit? a b c d with
    | some n => .ok (n, e :: rest)
    | none => .error (.unitEscape, cs.length + 1)
  | _ => .error (.unitEscape, cs.length + 1)

/-- The character that starts with an escaped unit, and what follows it. A first half of a pair is
joined with a second half directly behind it. -/
def readEscapedUnit (cs : List Char) : Step Char :=
  match readUnit cs with
  | .error e => .error e
  | .ok (n, rest) =>
    if isHighUnit n then
      match rest with
      | '\\' :: 'u' :: more =>
        if more.length < 5 then .ok (unitChar n, rest)
        else match readUnit more with
          | .error e => .error e
          | .ok (n', rest') =>
            if isLowUnit n' then .ok (pairChar n n', rest') else .ok (unitChar n, rest)
      | _ => .ok (unitChar n, rest)
    else .ok (unitChar n, rest)

/-- The characters of a text up to its closing quote, and what follows it. `start` is the number of
characters from the opening quote to the end. -/
def readChars (start : Nat) : (fuel : Nat) → List Char → Step (List Char)
  | 0, _ => .error (.unterminated, start)
  | _ + 1, [] => .error (.unterminated, start)
  | _ + 1, '"' :: rest => .ok ([], rest)
  | _ + 1, ['\\'] => .error (.unterminated, start)
  | fuel + 1, '\\' :: 'u' :: rest =>
    match readEscapedUnit rest with
    | .error e => .error e
    | .ok (c, rest') =>
      match readChars start fuel rest' with
      | .error e => .error e
      | .ok (more, left) => .ok (c :: more, left)
  | fuel + 1, '\\' :: l :: rest =>
    match unescape? l with
    | none => .error (.badEscape, rest.length + 2)
    | some c =>
      match readChars start fuel rest with
      | .error e => .error e
      | .ok (more, left) => .ok (c :: more, left)
  | fuel + 1, c :: rest =>
    if c.toNat < 0x20 then .error (.controlCharacter, rest.length + 1)
    else
      match readChars start fuel rest with
      | .error e => .error e
      | .ok (more, left) => .ok (c :: more, left)

/-- The text behind an opening quote, and what follows it. -/
def readText (cs : List Char) : Step String :=
  match readChars (cs.length + 1) (cs.length + 1) cs with
  | .error e => .error e
  | .ok (chars, left) => .ok (String.ofList chars, left)

/-! ### Numbers -/

/-- The digits at the front and what follows them. -/
def spanDigits (cs : List Char) : List Char × List Char :=
  (cs.takeWhile Char.isDigit, cs.dropWhile Char.isDigit)

/-- The natural number that digits denote. -/
def naturalOf (digits : List Char) : Nat :=
  digits.foldl (fun n c => n * 10 + (c.toNat - 48)) 0

/-- The digits of a whole part: a zero alone, or digits that do not start with zero. -/
def wholePart? : List Char → Option (List Char × List Char)
  | '0' :: rest => some (['0'], rest)
  | cs =>
    match spanDigits cs with
    | ([], _) => none
    | parts => some parts

/-- The digits of a fraction, if a point and a digit stand at the front. -/
def fractionPart (cs : List Char) : List Char × List Char :=
  match cs with
  | '.' :: rest =>
    match spanDigits rest with
    | ([], _) => ([], cs)
    | parts => parts
  | _ => ([], cs)

/-- The exponent, if a mark, an optional sign and a digit stand at the front. -/
def exponentPart (cs : List Char) : Option Int × List Char :=
  match cs with
  | mark :: rest =>
    if mark == 'e' || mark == 'E' then
      let (negative, digits) := Numeral.splitSign rest
      match spanDigits digits with
      | ([], _) => (none, cs)
      | (ds, left) => (some (if negative then -(naturalOf ds : Int) else naturalOf ds), left)
    else (none, cs)
  | [] => (none, cs)

/-- The number that digits, a fraction and an exponent denote. -/
def numberOf (negative : Bool) (whole fraction : List Char) (exponent : Option Int) : Value :=
  if fraction.isEmpty && exponent.isNone then
    .int (if negative then -(naturalOf whole : Int) else naturalOf whole)
  else
    .float (.ofDecimal negative ⟨naturalOf (whole ++ fraction),
      exponent.getD 0 - (fraction.length : Int)⟩)

/-- A number and what follows it. -/
def readNumber (cs : List Char) : Step Value :=
  let negative := cs.head? == some '-'
  match wholePart? (if negative then cs.drop 1 else cs) with
  | none => .error (.value, cs.length)
  | some (whole, rest) =>
    let (fraction, rest) := fractionPart rest
    let (exponent, rest) := exponentPart rest
    .ok (numberOf negative whole fraction exponent, rest)

/-! ### Values -/

/-- The words that stand for a value. -/
def literals : List (List Char × Value) :=
  [("null".toList, .null), ("true".toList, .bool true), ("false".toList, .bool false),
   ("NaN".toList, .float .nan), ("Infinity".toList, .float (.infinity false)),
   ("-Infinity".toList, .float (.infinity true))]

/-- A word that stands for a value, at the front, and what follows it. -/
def literal? (cs : List Char) : Option (Value × List Char) :=
  (literals.find? fun l => l.1.isPrefixOf cs).map fun l => (l.2, cs.drop l.1.length)

mutual

/-- A value and what follows it. -/
def readValue : (fuel : Nat) → List Char → Step Value
  | 0, cs => .error (.value, cs.length)
  | fuel + 1, cs =>
    match cs with
    | '"' :: rest =>
      match readText rest with
      | .error e => .error e
      | .ok (s, left) => .ok (.text s, left)
    | '[' :: rest =>
      match skipSpace rest with
      | ']' :: left => .ok (.list [], left)
      | inside =>
        match readItems fuel inside with
        | .error e => .error e
        | .ok (items, left) => .ok (.list items, left)
    | '{' :: rest =>
      match skipSpace rest with
      | '}' :: left => .ok (.map [], left)
      | inside =>
        match readEntries fuel [] inside with
        | .error e => .error e
        | .ok (entries, left) => .ok (.map entries, left)
    | cs =>
      match literal? cs with
      | some found => .ok found
      | none => readNumber cs

/-- The items of a list up to its closing bracket, and what follows it. -/
def readItems : (fuel : Nat) → List Char → Step (List Value)
  | 0, cs => .error (.value, cs.length)
  | fuel + 1, cs =>
    match readValue fuel cs with
    | .error e => .error e
    | .ok (v, rest) =>
      match skipSpace rest with
      | ']' :: left => .ok ([v], left)
      | ',' :: more =>
        match readItems fuel (skipSpace more) with
        | .error e => .error e
        | .ok (vs, left) => .ok (v :: vs, left)
      | other => .error (.comma, other.length)

/-- The entries of an object up to its closing brace, stored over `acc`, and what follows it. -/
def readEntries : (fuel : Nat) → Value.Entries → List Char → Step Value.Entries
  | 0, _, cs => .error (.value, cs.length)
  | fuel + 1, acc, cs =>
    match cs with
    | '"' :: rest =>
      match readText rest with
      | .error e => .error e
      | .ok (key, rest) =>
        match skipSpace rest with
        | ':' :: rest =>
          match readValue fuel (skipSpace rest) with
          | .error e => .error e
          | .ok (v, rest) =>
            let acc := Value.insert acc (.text key) v
            match skipSpace rest with
            | '}' :: left => .ok (acc, left)
            | ',' :: more => readEntries fuel acc (skipSpace more)
            | other => .error (.comma, other.length)
        | other => .error (.colon, other.length)
    | other => .error (.propertyName, other.length)

end

/-- The value of a JSON text given by its characters, or the issue and the number of characters
from its position to the end. -/
def readAll (cs : List Char) : Except (Issue × Nat) Value :=
  if cs.head? == some '\ufeff' then .error (.byteOrderMark, cs.length)
  else
    match readValue (2 * cs.length + 2) (skipSpace cs) with
    | .error e => .error e
    | .ok (v, rest) =>
      match skipSpace rest with
      | [] => .ok v
      | left => .error (.extraData, left.length)

/-- The value of a JSON text. -/
def read (s : String) : Except Fault Value :=
  let cs := s.toList
  match readAll cs with
  | .ok v => .ok v
  | .error (issue, left) => .error ⟨issue, cs.take (cs.length - left)⟩

/-! ### Long integers -/

/-- The number of digits of an integer at the front; none if there is no integer. -/
def integerLength (cs : List Char) : Nat :=
  match wholePart? (if cs.head? == some '-' then cs.drop 1 else cs) with
  | none => 0
  | some (whole, rest) =>
    if (fractionPart rest).1.isEmpty && (exponentPart rest).1.isNone then whole.length else 0

/-- Nothing is wrong with the characters but that a value is missing behind them. -/
def awaitsValue (cs : List Char) : Bool :=
  match readAll cs with
  | .error (.value, 0) => true
  | _ => false

/-- Reading the text comes upon an integer with more digits than an integer is read from. -/
def hasLongInteger (s : String) : Bool :=
  let cs := s.toList
  (List.range cs.length).any fun i =>
    Numeral.maxDigits < integerLength (cs.drop i) && awaitsValue (cs.take i)

end GraphMapper.Json
