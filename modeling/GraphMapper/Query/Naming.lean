import GraphMapper.Text.Quoted

/-!
# Unique identifiers and parameter names

Every bound value of a statement gets a parameter of its own. Its name is the name of the field,
with `_` for each character outside the ASCII letters, digits and the underscore, followed by the
thirty-two hexadecimal digits of a fresh identifier.

## Main definitions

* `Supply` — an unending source of identifiers
* `Query.Namer` — a supply with the names made from it
* `Query.Namer.name` — making a fresh name
-/

namespace GraphMapper

/-- A source of identifiers, given by their hexadecimal digits, and how many have been drawn. -/
structure Supply where
  /-- The hexadecimal digits of each identifier. -/
  hex : Nat → String
  /-- The number of identifiers drawn. -/
  drawn : Nat

namespace Supply

/-- The next identifier. -/
def current (s : Supply) : String := s.hex s.drawn

/-- The supply after its next identifier has been drawn. -/
def advance (s : Supply) : Supply := ⟨s.hex, s.drawn + 1⟩

@[simp] theorem hex_advance (s : Supply) : s.advance.hex = s.hex := rfl

@[simp] theorem drawn_advance (s : Supply) : s.advance.drawn = s.drawn + 1 := rfl

/-- Thirty-two hexadecimal digits in groups of 8, 4, 4, 4 and 12, joined by hyphens. -/
def grouped (hex : String) : String :=
  let cs := hex.toList
  let part (first count : Nat) : String := String.ofList ((cs.drop first).take count)
  "-".intercalate [part 0 8, part 8 4, part 12 4, part 16 4, part 20 12]

/-- The supply whose `k`-th identifier, from 1, repeats the eight digits of `k` four times. -/
def counting : Supply where
  hex n :=
    let digits := Text.hexDigits 8 (n + 1)
    String.ofList (digits ++ digits ++ digits ++ digits)
  drawn := 0

end Supply

namespace Query

/-- A character that may occur in a parameter name. -/
def isNameChar (c : Char) : Bool := c.isAlphanum || c == '_'

/-- The characters of a text with `_` for those that may not occur in a name. -/
def nameChars (cs : List Char) : List Char := cs.map fun c => if isNameChar c then c else '_'

/-- The part of a parameter name that comes from the field: never empty, and never starting with a
digit. -/
def nameBase (field : String) : List Char :=
  match nameChars field.toList with
  | [] => ['p']
  | c :: cs => if c.isDigit then 'p' :: c :: cs else c :: cs

/-- A supply of identifiers and the parameter names made from it. -/
structure Namer where
  /-- The supply. -/
  supply : Supply
  /-- The names in the order in which they were made. -/
  issued : List String

namespace Namer

/-- The namer that has made no name yet. -/
def start (supply : Supply) : Namer := ⟨supply, []⟩

/-- The next name for a field. -/
def fresh (n : Namer) (field : String) : String :=
  String.ofList (nameBase field) ++ n.supply.current

/-- A fresh name for a field, and the namer that has issued it. -/
def name (n : Namer) (field : String) : String × Namer :=
  (n.fresh field, ⟨n.supply.advance, n.issued ++ [n.fresh field]⟩)

@[simp] theorem issued_start (supply : Supply) : (start supply).issued = [] := rfl

@[simp] theorem issued_name (n : Namer) (field : String) :
    (n.name field).2.issued = n.issued ++ [(n.name field).1] := rfl

@[simp] theorem supply_name (n : Namer) (field : String) :
    (n.name field).2.supply = n.supply.advance := rfl

end Namer

end Query

end GraphMapper
