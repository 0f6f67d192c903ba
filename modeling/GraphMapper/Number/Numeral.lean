import GraphMapper.Text.Blank
import GraphMapper.Text.Digit

/-!
# Reading integers

An integer is written with an optional sign and decimal digits of any script, between which single
underscores may stand; white space around it is ignored.

## Main definitions

* `Numeral.digits?` — the value of a run of digits
* `Numeral.integer?` — the value of a signed run of digits
-/

namespace GraphMapper.Numeral

/-- The value of digits that continue a number of value `acc`. An underscore is read only between
two digits. -/
def digitsFrom (digit? : Char → Option Nat) (acc : Nat) : List Char → Option Nat
  | [] => some acc
  | '_' :: c :: rest => (digit? c).bind fun d => digitsFrom digit? (acc * 10 + d) rest
  | c :: rest => (digit? c).bind fun d => digitsFrom digit? (acc * 10 + d) rest

/-- The value of a non-empty run of digits. -/
def digits? (digit? : Char → Option Nat) : List Char → Option Nat
  | [] => none
  | c :: rest => (digit? c).bind fun d => digitsFrom digit? d rest

/-- The sign in front of a number and what follows it. -/
def splitSign : List Char → Bool × List Char
  | '-' :: rest => (true, rest)
  | '+' :: rest => (false, rest)
  | cs => (false, cs)

/-- An integer is read from at most this many digits. -/
def maxDigits : Nat := 4300

/-- A character that may stand around a number: the separator controls may not. -/
def isPadding (c : Char) : Bool := Text.isBlank c && !(0x1C ≤ c.toNat && c.toNat ≤ 0x1F)

/-- The characters without the padding at either end. -/
def trimPadding (cs : List Char) : List Char :=
  ((cs.dropWhile isPadding).reverse.dropWhile isPadding).reverse

/-- The integer that a text denotes. -/
def integer? (s : String) : Option Int :=
  let (negative, cs) := splitSign (trimPadding s.toList)
  if maxDigits < (cs.filter (· != '_')).length then none
  else (digits? Text.digitValue? cs).map fun n => if negative then -(n : Int) else n

end GraphMapper.Numeral
