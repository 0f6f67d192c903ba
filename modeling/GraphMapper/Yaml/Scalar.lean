import GraphMapper.Calendar.DateTime
import GraphMapper.Number.Decimal
import GraphMapper.Number.Numeral
import GraphMapper.Text.Case
import GraphMapper.Yaml.Node

/-!
# What a text stands for

A plain text is taken for a truth value, a number, a date or nothing at all if it has the form of
one, and for itself otherwise. Numbers may hold underscores, be written in bases 2, 8 and 16, or as
groups of sixty separated by colons.

## Main definitions

* `Yaml.tagOfPlain` — what a plain text stands for
* `Yaml.valueOfText` — the value of a text with a tag
-/

namespace GraphMapper.Yaml

/-! ### Forms -/

/-- A digit, or an underscore between digits. -/
def isLoose (digit : Char → Bool) (c : Char) : Bool := digit c || c == '_'

/-- A binary digit. -/
def isBinary (c : Char) : Bool := c == '0' || c == '1'

/-- An octal digit. -/
def isOctal (c : Char) : Bool := '0' ≤ c && c ≤ '7'

/-- A hexadecimal digit. -/
def isHex (c : Char) : Bool := (Json.hexValue? c).isSome

/-- The characters behind an optional sign. -/
def unsigned : List Char → List Char
  | '-' :: rest => rest
  | '+' :: rest => rest
  | cs => cs

/-- One or more digits or underscores, and nothing else. -/
def allLoose (digit : Char → Bool) (cs : List Char) : Bool :=
  !cs.isEmpty && cs.all (isLoose digit)

/-- Groups of one or two digits below sixty, each behind a colon, and at least one of them; yields
what follows them. -/
def sixties? : (fuel : Nat) → List Char → Option (List Char)
  | 0, _ => none
  | fuel + 1, cs =>
    let again (rest : List Char) : Option (List Char) := some ((sixties? fuel rest).getD rest)
    match cs with
    | ':' :: a :: b :: rest =>
      if '0' ≤ a && a ≤ '5' && b.isDigit then again rest
      else if a.isDigit then again (b :: rest) else none
    | [':', a] => if a.isDigit then some [] else none
    | _ => none

/-- The form of an integer. -/
def isInteger (cs : List Char) : Bool :=
  match unsigned cs with
  | '0' :: 'b' :: rest => allLoose isBinary rest
  | '0' :: 'x' :: rest => allLoose isHex rest
  | ['0'] => true
  | '0' :: rest => allLoose isOctal rest
  | c :: rest =>
    c.isDigit &&
      match rest.dropWhile (isLoose Char.isDigit) with
      | [] => true
      | more => sixties? (more.length + 1) more == some []
  | [] => false

/-- An optional exponent, which has a sign. -/
def isExponent : List Char → Bool
  | [] => true
  | e :: s :: rest =>
    (e == 'e' || e == 'E') && (s == '-' || s == '+') && !rest.isEmpty && rest.all Char.isDigit
  | _ => false

/-- The form of a number with a point. -/
def isPointed (cs : List Char) : Bool :=
  let bare := unsigned cs
  match cs, bare with
  | '.' :: c :: rest, _ =>
    (c.isDigit && isExponent (rest.dropWhile (isLoose Char.isDigit)))
      || [".inf", ".Inf", ".INF", ".nan", ".NaN", ".NAN"].contains (String.ofList cs)
  | _, '.' :: _ => [".inf", ".Inf", ".INF"].contains (String.ofList bare)
  | _, c :: rest =>
    c.isDigit &&
      match rest.dropWhile (isLoose Char.isDigit) with
      | '.' :: more => isExponent (more.dropWhile (isLoose Char.isDigit))
      | more =>
        match sixties? (more.length + 1) more with
        | some ('.' :: last) => last.all (isLoose Char.isDigit)
        | _ => false
  | _, [] => false

/-- The value of a run of ASCII digits. -/
def digitsValue (cs : List Char) : Nat := cs.foldl (fun n c => n * 10 + (c.toNat - 48)) 0

/-- The next digits, between `least` and `most` of them, and what follows. -/
def someDigits? (least most : Nat) (cs : List Char) : Option (Nat × List Char) :=
  let ds := (cs.take most).takeWhile Char.isDigit
  if ds.length < least then none else some (digitsValue ds, cs.drop ds.length)

/-- What follows a given character. -/
def after? (c : Char) (cs : List Char) : Option (List Char) :=
  if cs.head? = some c then some (cs.drop 1) else none

/-- The parts of a date, and a time of day if there is one. -/
structure Stamp where
  /-- The year. -/
  year : Nat
  /-- The month. -/
  month : Nat
  /-- The day. -/
  day : Nat
  /-- Hour, minute, second and microsecond. -/
  clock : Option (Nat × Nat × Nat × Nat)
  /-- The distance from universal time in minutes. -/
  offset : Option Int

/-- The distance from universal time at the end of a point in time. -/
def zone? (cs : List Char) : Option (Option Int) :=
  match cs.dropWhile isInnerBlank with
  | [] => if cs.isEmpty then some none else none
  | ['Z'] => some (some 0)
  | s :: rest =>
    if s == '+' || s == '-' then do
      let (h, rest) ← someDigits? 1 2 rest
      let m ← match rest with
        | [] => some 0
        | rest => do
          let rest ← after? ':' rest
          let (m, rest) ← someDigits? 2 2 rest
          if rest.isEmpty then some m else none
      let n : Int := (h * 60 + m : Nat)
      some (some (if s == '-' then -n else n))
    else none

/-- The fraction of a second in microseconds, of which six digits count. -/
def micros (ds : List Char) : Nat := digitsValue ((ds ++ List.replicate 6 '0').take 6)

/-- The parts of a text that has the form of a date or a point in time. The month and the day of a
point in time may have a single digit. -/
def stamp? (cs : List Char) : Option Stamp := do
  let (year, rest) ← someDigits? 4 4 cs
  let rest ← after? '-' rest
  let (month, rest) ← someDigits? 1 2 rest
  let rest ← after? '-' rest
  let (day, rest) ← someDigits? 1 2 rest
  if rest.isEmpty then some ⟨year, month, day, none, none⟩
  else
    let blanks := rest.takeWhile isInnerBlank
    let rest := if blanks.isEmpty then
        (if rest.head? = some 'T' || rest.head? = some 't' then some (rest.drop 1) else none)
      else some (rest.drop blanks.length)
    let (hour, rest) ← someDigits? 1 2 (← rest)
    let rest ← after? ':' rest
    let (minute, rest) ← someDigits? 2 2 rest
    let rest ← after? ':' rest
    let (second, rest) ← someDigits? 2 2 rest
    let (fraction, rest) := match after? '.' rest with
      | some more => (more.takeWhile Char.isDigit, more.dropWhile Char.isDigit)
      | none => ([], rest)
    let zone ← zone? rest
    some ⟨year, month, day, some (hour, minute, second, micros fraction), zone⟩

/-- The form of a date or a point in time. A date alone has ten characters. -/
def isStamp (cs : List Char) : Bool :=
  match stamp? cs with
  | some s => s.clock.isSome || cs.length == 10
  | none => false

/-- The texts that stand for nothing. -/
def nullWords : List String := ["", "~", "null", "Null", "NULL"]

/-- The words for truth values, which may be written in lower case, with a capital, or in upper
case. -/
def truthWords : List (String × Bool) :=
  [("yes", true), ("no", false), ("true", true), ("false", false), ("on", true), ("off", false)]

/-- A word with its first letter as a capital. -/
def capitalized (word : String) : String :=
  match word.toList with
  | [] => ""
  | c :: rest => String.ofList (c.toUpper :: rest)

/-- The text is one of the forms of a word for a truth value. -/
def isTruthWord (s : String) : Bool :=
  truthWords.any fun w => s == w.1 || s == capitalized w.1 || s == w.1.toUpper

/-- What a plain text stands for. -/
def tagOfPlain (s : String) : Tag :=
  let cs := s.toList
  -- The forms exclude each other, so their order does not matter.
  if isTruthWord s then .bool
  else if isPointed cs then .float
  else if isInteger cs then .int
  else if s == "<<" then .merge
  else if nullWords.contains s then .null
  else if isStamp cs then .timestamp
  else if s == "=" then .default
  else if s == "!" || s == "&" || s == "*" then .other (Tag.coreUri ++ "yaml")
  else .text

/-! ### Values -/

/-- The value of digits in a base up to 16; nothing if there are none or others. -/
def baseValue? (base : Nat) (cs : List Char) : Option Nat :=
  if cs.isEmpty then none
  else cs.foldlM (fun n c => (Json.hexValue? c).bind fun d =>
    if d < base then some (n * base + d) else none) 0

/-- The parts of a text between colons. -/
def colonParts : List Char → List (List Char)
  | [] => [[]]
  | c :: cs =>
    if c = ':' then [] :: colonParts cs
    else
      match colonParts cs with
      | [] => [[c]]
      | part :: parts => (c :: part) :: parts

/-- A text that is outside the range of what it should denote. -/
def outOfRange {α : Type} : Except Fault α := .error (.shape .outOfRange)

/-- The integer of an unsigned text without underscores. -/
def naturalOf (cs : List Char) : Option Int :=
  match cs with
  | ['0'] => some 0
  | '0' :: 'b' :: rest => (baseValue? 2 rest).map Int.ofNat
  | '0' :: 'x' :: rest => (baseValue? 16 rest).map Int.ofNat
  | '0' :: _ => (baseValue? 8 cs).map Int.ofNat
  | _ =>
    if cs.contains ':' then
      (colonParts cs).foldlM (fun n part =>
        (Numeral.integer? (String.ofList part)).map (n * 60 + ·)) 0
    else Numeral.integer? (String.ofList cs)

/-- The integer that a text stands for. -/
def integerOf (s : String) : Except Fault Value :=
  let cs := s.toList.filter (· != '_')
  let bare := unsigned cs
  if bare.isEmpty then .error (.shape .noCharacter)
  else
    match naturalOf bare with
    | some n => .ok (.int (if cs.head? = some '-' then -n else n))
    | none => outOfRange

/-- The decimal of digits with an optional point and exponent. -/
def decimalOf? (cs : List Char) : Option Decimal := do
  let whole := cs.takeWhile Char.isDigit
  let rest := cs.dropWhile Char.isDigit
  let (fraction, rest) := match after? '.' rest with
    | some more => (more.takeWhile Char.isDigit, more.dropWhile Char.isDigit)
    | none => ([], rest)
  if whole.isEmpty && fraction.isEmpty then none
  else
    let exponent ← match rest with
      | [] => some 0
      | e :: rest =>
        if e == 'e' then
          let digits := unsigned rest
          if digits.isEmpty || !digits.all Char.isDigit then none
          else
            let n : Int := digitsValue digits
            some (if rest.head? = some '-' then -n else n)
        else none
    some ⟨digitsValue (whole ++ fraction), exponent - fraction.length⟩

/-- The number of groups of sixty, of which the last may have a fraction. -/
def sixtiesValue? (parts : List (List Char)) : Option Binary64 := do
  match parts.reverse with
  | [] => none
  | last :: rest =>
    let d ← decimalOf? last
    let x := Binary64.ofDecimal false d
    let groups ← rest.mapM decimalOf?
    -- From the last group up, so that each sum is rounded once, smallest terms first.
    let (sum, _) := groups.foldl (fun (acc, base) g =>
      (acc.addNat (g.digits * base), base * 60)) (x, 60)
    some sum

/-- The number that a text stands for. -/
def numberOf (s : String) : Except Fault Value :=
  let cs := (Text.lower s).toList.filter (· != '_')
  let negative := cs.head? = some '-'
  let bare := unsigned cs
  let signed (x : Binary64) : Value := .float (if negative then x.negate else x)
  if cs.isEmpty then .error (.shape .noCharacter)
  else if bare == ".inf".toList then .ok (signed (Binary64.infinity false))
  else if bare == ".nan".toList then .ok (.float .nan)
  else if bare.contains ':' then
    match sixtiesValue? (colonParts bare) with
    | some x => .ok (signed x)
    | none => outOfRange
  else
    match decimalOf? bare with
    | some d => .ok (.float (Binary64.ofDecimal negative d))
    | none => outOfRange

/-- The date or the point in time that a text stands for. -/
def timeOf (s : String) : Except Fault Value :=
  match stamp? s.toList with
  | none => .error (.shape (.noMember "NoneType" "groupdict"))
  | some t =>
    match Date.ofParts? t.year t.month t.day, t.clock with
    | some d, none => .ok (.date d)
    | some d, some (h, m, sec, us) =>
      match DateTime.ofParts? d h m sec us (t.offset.map (· * 60000000)) with
      | some time => .ok (.datetime time)
      | none => outOfRange
    | none, _ => outOfRange

/-- The truth value that a text stands for. -/
def truthOf (s : String) : Except Fault Value :=
  match truthWords.lookup (Text.lower s) with
  | some b => .ok (.bool b)
  | none => .error (.shape (.missingKey (.text (Text.lower s))))

/-- The value of a text with a tag. -/
def valueOfText (tag : Tag) (s : String) : Except Fault Value :=
  match tag with
  | .null => .ok .null
  | .bool => truthOf s
  | .int => integerOf s
  | .float => numberOf s
  | .timestamp => timeOf s
  | .text => .ok (.text s)
  | _ => unreadable

end GraphMapper.Yaml
