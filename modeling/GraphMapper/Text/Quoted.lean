import GraphMapper.Text.Half
import GraphMapper.Text.Printable

/-!
# Quoted text

How a text is shown inside a message. It stands between single quotes, or between double quotes
when it holds a single quote and no double quote. The quote, the backslash and the characters that
are not printable are escaped. Halves of surrogate pairs are escaped as what they are.

## Main definitions

* `Text.quoted` — the quoted form of a text
* `Text.hexDigits` — a number in lower-case hexadecimal, padded with zeros
* `Text.escapeHalves` — a text that can be encoded whatever it holds
-/

namespace GraphMapper.Text

/-- The lower-case hexadecimal digit of a number below sixteen. -/
def hexDigit (n : Nat) : Char := Char.ofNat (if n < 10 then 48 + n else 87 + n)

/-- The last `width` hexadecimal digits of a number. -/
def hexDigits : (width : Nat) → Nat → List Char
  | 0, _ => []
  | width + 1, n => hexDigits width (n / 16) ++ [hexDigit (n % 16)]

@[simp] theorem length_hexDigits (width n : Nat) : (hexDigits width n).length = width := by
  induction width generalizing n with
  | zero => rfl
  | succ width ih => simp [hexDigits, ih]

/-- The escape of a 16-bit unit. -/
def unitEscape (unit : Nat) : List Char := '\\' :: 'u' :: hexDigits 4 unit

/-- The text with the halves of pairs in it escaped. -/
def escapeHalves (s : String) : String :=
  String.ofList (s.toList.flatMap fun c => ((half? c).map unitEscape).getD [c])

/-- The quote that surrounds a text. -/
def quoteFor (cs : List Char) : Char :=
  if cs.contains '\'' && !cs.contains '"' then '"' else '\''

/-- One character inside a text quoted by `quote`. -/
def escapeChar (quote c : Char) : List Char :=
  if c == '\\' then ['\\', '\\']
  else if c == quote then ['\\', quote]
  else if c == '\n' then ['\\', 'n']
  else if c == '\r' then ['\\', 'r']
  else if c == '\t' then ['\\', 't']
  else if isPrintable c then [c]
  else
    match half? c with
    | some unit => unitEscape unit
    | none =>
      if c.toNat < 0x100 then ['\\', 'x'] ++ hexDigits 2 c.toNat
      else if c.toNat < 0x10000 then unitEscape c.toNat
      else ['\\', 'U'] ++ hexDigits 8 c.toNat

/-- The quoted form of a text. -/
def quoted (s : String) : String :=
  let quote := quoteFor s.toList
  String.ofList (quote :: s.toList.flatMap (escapeChar quote) ++ [quote])

end GraphMapper.Text
