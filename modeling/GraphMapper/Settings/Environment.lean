import GraphMapper.Number.Numeral
import GraphMapper.Settings.VariableFile
import GraphMapper.Validation.Check
import GraphMapper.Value.Shape

/-!
# Environments

Settings are read from variables, which come from the surroundings of the program and from a file.
The case of their names does not matter, and the surroundings go before the file. A setting that is
given directly goes before both.

## Main definitions

* `Settings.Environment` — the variables
* `Settings.Environment.value?` — the value of a variable
* `Settings.Source.read` — reading a setting
-/

namespace GraphMapper.Settings

open Validation

/-- Variables of the surroundings and of a file. -/
structure Environment where
  /-- The variables of the surroundings. -/
  surroundings : List (String × String) := []
  /-- The variables of the file. -/
  file : List (String × Option String) := []

namespace Environment

/-- The environment with the variables of a file, if there is one. -/
def ofFile (surroundings : List (String × String)) (text? : Option String) : Environment :=
  ⟨surroundings, match text? with
    | some text => readVariables surroundings text
    | none => []⟩

/-- The last value under a name, whatever its case. -/
def lastUnder {α : Type} (name : String) (pairs : List (String × α)) : Option α :=
  (pairs.reverse.find? fun v => Text.lower v.1 == Text.lower name).map (·.2)

/-- The value of a variable. -/
def value? (e : Environment) (name : String) : Option String :=
  (lastUnder name e.surroundings).or (lastUnder name e.file).join

end Environment

/-- Where the settings of one kind are read from. -/
structure Source where
  /-- What stands before the names of the variables. -/
  front : String
  /-- The variables. -/
  environment : Environment
  /-- The settings that are given directly. -/
  given : Value.Entries := []

namespace Source

/-- The value of a setting, if it has one. -/
def value? (s : Source) (name : String) : Option Value :=
  (Value.get? s.given name).or ((s.environment.value? (s.front ++ name)).map .text)

/-- A setting as it is read, or what it is if it has no value. -/
def read {α : Type} (s : Source) (name : String) (default : α) (check : Value → Checked α) :
    Checked α :=
  match s.value? name with
  | some v => (check v).under name
  | none => .ok default

end Source

/-! ### Integers -/

/-- The characters without a tail of a point and zeros. -/
def dropZeroFraction (cs : List Char) : List Char :=
  match cs.dropWhile (· != '.') with
  | '.' :: '0' :: zeros => if zeros.all (· == '0') then cs.takeWhile (· != '.') else cs
  | _ => cs

/-- The integer that a text denotes: ASCII digits with single underscores between them, a sign in
front, a point and zeros behind, and blanks around. -/
def integerText (s : String) : Checked Int :=
  let (negative, cs) := Numeral.splitSign (Numeral.trimPadding s.toList)
  let cs := dropZeroFraction cs
  match Numeral.digits? Text.asciiDigit? cs with
  | none => .fails .integerText
  | some n =>
    if Numeral.maxDigits < cs.length then .fails .integerLength
    else .ok (if negative then -(n : Int) else n)

/-- The integer that a number equals. -/
def integerNumber (x : Binary64) : Checked Int :=
  match x.truncate?, x.integer? with
  | none, _ => .fails .finite
  | _, none => .fails .integerValue
  | _, some n => if n.natAbs < Nat.pow 2 63 then .ok n else .fails .integerLength

/-- The integer that a value stands for. -/
def integer : Value → Checked Int
  | .int n => .ok n
  | .bool b => .ok (if b then 1 else 0)
  | .float x => integerNumber x
  | .text s => integerText s
  | _ => .fails .integerType

end GraphMapper.Settings
