import GraphMapper.Calendar.DateTime
import GraphMapper.Text.Digit

/-!
# Reading ISO 8601 texts

A date is written as `YYYY-MM-DD`, `YYYYMMDD`, `YYYY-Www`, `YYYYWww`, `YYYY-Www-D` or `YYYYWwwD`.
One character of any kind separates it from the time of day, which is `HH`, `HH:MM`, `HH:MM:SS` or
the same without colons, with an optional fraction of which six digits count. An offset starts with
`+` or `-` and is written like a time of day; `Z` stands for universal time.

## Main definitions

* `DateTime.ofIso?` — the point in time that a text denotes
-/

namespace GraphMapper.DateTime

/-- The value of the next `count` digits and the characters after them. -/
def takeDigits : (count : Nat) → (acc : Nat) → List Char → Option (Nat × List Char)
  | 0, acc, cs => some (acc, cs)
  | _ + 1, _, [] => none
  | count + 1, acc, c :: cs =>
    (Text.asciiDigit? c).bind fun d => takeDigits count (acc * 10 + d) cs

/-- The number of characters that belong to the date. -/
def dateLength (cs : List Char) : Nat :=
  let digitAt (i : Nat) : Bool := (cs[i]?).any Char.isDigit
  if cs.length = 7 then 7
  else if cs[4]? = some '-' then
    if cs[5]? = some 'W' then
      if cs[8]? = some '-' then (if digitAt 10 then 8 else 10) else 8
    else 10
  else if cs[4]? = some 'W' then
    -- Without hyphens only the number of digits tells whether the week is followed by a day.
    let stop := 7 + ((cs.drop 7).takeWhile Char.isDigit).length
    if stop < 9 then stop else if stop % 2 = 0 then 7 else 8
  else 8

/-- The characters after a separator, which is a hyphen if the date uses hyphens. -/
def skipHyphen (hyphens : Bool) (cs : List Char) : Option (List Char) :=
  if hyphens then
    match cs with
    | '-' :: rest => some rest
    | _ => none
  else some cs

/-- The date that the given characters denote. -/
def dateOf? (cs : List Char) : Option Date := do
  let (year, cs) ← takeDigits 4 0 cs
  let hyphens := cs.head? == some '-'
  let cs := if hyphens then cs.drop 1 else cs
  match cs with
  | 'W' :: cs =>
    let (week, cs) ← takeDigits 2 0 cs
    if cs.isEmpty then Date.ofWeek? year week 1
    else
      let cs ← skipHyphen hyphens cs
      let (day, _) ← takeDigits 1 0 cs
      Date.ofWeek? year week day
  | cs =>
    let (month, cs) ← takeDigits 2 0 cs
    let cs ← skipHyphen hyphens cs
    let (day, _) ← takeDigits 2 0 cs
    Date.ofParts? year month day

/-- The microseconds of a fraction of a second: its first six digits count, and nothing but digits
may follow. The flag tells that characters are left over. -/
def fraction? (cs : List Char) : Option (Nat × Bool) := do
  let count := min 6 cs.length
  let (value, rest) ← takeDigits count 0 cs
  pure (value * Nat.pow 10 (6 - count), !(rest.dropWhile Char.isDigit).isEmpty)

/-- The parts of a time of day (hour, minute, second, microsecond) after those in the list, and
whether a single ASCII character or digits of a fraction are left over. `colons` tells that the
parts are separated by colons. -/
def clockFrom? (colons : Bool) : (parts : Nat) → List Nat → List Char → Option (List Nat × Bool)
  | 0, acc, cs => do
    let (micro, left) ← fraction? cs
    pure (acc ++ [micro], left)
  | parts + 1, acc, cs => do
    let (value, rest) ← takeDigits 2 0 cs
    let colons := if acc.isEmpty then rest.head? == some ':' else colons
    let acc := acc ++ [value]
    match rest with
    | [] => pure (acc, false)
    -- A lone character is left over; it matters only if no offset follows.
    | [c] => if c.toNat < 0x80 then pure (acc, true) else none
    | c :: rest' =>
      if colons && c == ':' then clockFrom? colons parts acc rest'
      else if c == '.' || c == ',' then do
        let (micro, left) ← fraction? rest'
        pure (acc ++ List.replicate (3 - acc.length) 0 ++ [micro], left)
      else if colons then none
      else clockFrom? colons parts acc rest

/-- The time of day that the given characters denote, and whether characters are left over. -/
def clock? (cs : List Char) : Option ((Nat × Nat × Nat × Nat) × Bool) := do
  let (parts, left) ← clockFrom? true 3 [] cs
  let part (i : Nat) : Nat := parts[i]?.getD 0
  pure ((part 0, part 1, part 2, part 3), left)

/-- A character that starts an offset. -/
def startsOffset (c : Char) : Bool := c == '+' || c == '-' || c == 'Z'

/-- The offset that the given characters denote; an offset below a second counts as none. -/
def offset? (cs : List Char) : Option (Option Int) :=
  match cs with
  | [] => some none
  | 'Z' :: rest => if rest.isEmpty then some (some 0) else none
  | sign :: rest => do
    let ((h, m, s, u), left) ← clock? rest
    if left then none
    else
      let seconds := (h * 60 + m) * 60 + s
      let micros : Int := if seconds = 0 then 0 else (seconds * 1000000 + u : Nat)
      pure (some (if sign == '-' then -micros else micros))

/-- The point in time that an ISO 8601 text denotes. -/
def ofIso? (s : String) : Option DateTime := do
  let cs := s.toList
  if cs.length < 7 then none
  else
    let n := dateLength cs
    let date ← dateOf? (cs.take n)
    match cs.drop n with
    | [] => ofParts? date 0 0 0 0 none
    | _ :: time =>
      let clock := time.takeWhile (!startsOffset ·)
      let rest := time.dropWhile (!startsOffset ·)
      let ((h, m, s, u), left) ← clock? clock
      if left && rest.isEmpty then none
      else
        let offset ← offset? rest
        ofParts? date h m s u offset

end GraphMapper.DateTime
