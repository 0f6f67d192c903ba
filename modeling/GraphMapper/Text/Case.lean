import GraphMapper.Text.CaseTable
import GraphMapper.Text.Ranges

/-!
# Upper and lower case

Full case mapping: one character may become several (`ß` in upper case is `SS`), and a capital
sigma becomes a final sigma at the end of a word.

## Main definitions

* `Text.lower`, `Text.upper` — the text in lower and in upper case
* `Text.eqIgnoringCase` — case-insensitive equality with an ASCII word
-/

namespace GraphMapper.Text

/-- The shift that a list of runs assigns to a code point. -/
def shiftIn (runs : List (Nat × Nat × Nat × Int)) (n : Nat) : Int :=
  let holds : Nat × Nat × Nat × Int → Bool := fun (first, last, step, _) =>
    first ≤ n && n ≤ last && (n - first) % step == 0
  match runs.find? holds with
  | some (_, _, _, shift) => shift
  | none => 0

/-- The character moved by the shift of its run. -/
def shifted (runs : List (Nat × Nat × Nat × Int)) (c : Char) : Char :=
  Char.ofNat ((c.toNat : Int) + shiftIn runs c.toNat).toNat

/-- Going away from a sigma, the first character that is not case-ignorable is a cased letter. -/
def nextIsCased (cs : List Char) : Bool :=
  match cs.dropWhile fun c => inRanges caseIgnorableRanges c.toNat with
  | c :: _ => inRanges casedRanges c.toNat
  | [] => false

/-- The lower-case form of `c`, standing between the reversed `before` and `after`. -/
def lowerChar (before : List Char) (c : Char) (after : List Char) : List Char :=
  if c.toNat < 0x80 then [c.toLower]
  else if c == 'Σ' then
    if nextIsCased before && !nextIsCased after then ['ς'] else ['σ']
  else if c == 'İ' then ['i', '\u0307']
  else [shifted lowerRuns c]

/-- The lower-case form of a list of characters that follows the reversed `before`. -/
def lowerFrom (before : List Char) : List Char → List Char
  | [] => []
  | c :: rest => lowerChar before c rest ++ lowerFrom (c :: before) rest

/-- The text in lower case. -/
def lower (s : String) : String := String.ofList (lowerFrom [] s.toList)

/-- The upper-case form of one character. -/
def upperChar (c : Char) : List Char :=
  if c.toNat < 0x80 then [c.toUpper]
  else match upperExpansions.find? fun e => e.1 == c.toNat with
    | some (_, codes) => codes.map Char.ofNat
    | none => [shifted upperRuns c]

/-- The text in upper case. -/
def upper (s : String) : String := String.ofList (s.toList.flatMap upperChar)

/-- The character matches the ASCII letter `u`, given in upper case, in either case. The long s
counts as an `S` and the Kelvin sign as a `K`. -/
def matchesLetter (u c : Char) : Bool :=
  c == u || c == u.toLower || (u == 'S' && c == 'ſ') || (u == 'K' && c == '\u212A')

/-- Case-insensitive equality with a word given in ASCII upper case. -/
def eqIgnoringCase (word cs : List Char) : Bool :=
  word.length == cs.length && (word.zip cs).all fun (u, c) => matchesLetter u c

end GraphMapper.Text
