import GraphMapper.Number.Decimal
import GraphMapper.Text.Quoted
import GraphMapper.Value.Basic

/-!
# Values in messages

A value is shown in two ways: *inspected*, as it appears inside a list, with texts quoted, and
*displayed*, as it is written into a text.

Every value is shown. The limits that an interpreter sets to showing are left out: it may refuse an
integer of more than 4300 digits, a limit that is kept for reading (`Numeral.maxDigits`), and a
value that is nested deeper than it follows.

## Main definitions

* `Value.inspect` — the value with texts quoted
* `Value.display` — the value where a text stands for itself
-/

namespace GraphMapper.Value

/-- The names of the special numbers in messages. -/
def specialNames : Binary64.SpecialNames := ⟨"nan", "inf"⟩

/-- The parts of a duration that are not zero: days, seconds and microseconds. -/
def durationText (microseconds : Int) : String :=
  let days := Int.fdiv microseconds DateTime.dayLength
  let rest := (Int.fmod microseconds DateTime.dayLength).toNat
  let part (name : String) (n : Int) : List String :=
    if n = 0 then [] else [name ++ "=" ++ toString n]
  let parts := part "days" days ++ part "seconds" (rest / 1000000 : Nat)
    ++ part "microseconds" (rest % 1000000 : Nat)
  "datetime.timedelta(" ++ ", ".intercalate parts ++ ")"

/-- A point in time, inspected. Seconds and microseconds are left out from the end if zero. -/
def inspectTime (t : DateTime) : String :=
  let always := [t.date.year, t.date.month, t.date.day, t.hour, t.minute]
  let fields :=
    if t.microsecond ≠ 0 then always ++ [t.second, t.microsecond]
    else if t.second ≠ 0 then always ++ [t.second] else always
  let zone := match t.offset with
    | none => []
    | some 0 => ["tzinfo=datetime.timezone.utc"]
    | some o => ["tzinfo=datetime.timezone(" ++ durationText o ++ ")"]
  "datetime.datetime(" ++ ", ".intercalate (fields.map toString ++ zone) ++ ")"

/-- A date, inspected. -/
def inspectDate (d : Date) : String :=
  "datetime.date(" ++ ", ".intercalate ([d.year, d.month, d.day].map toString) ++ ")"

mutual

/-- The value as it appears inside a list. -/
def inspect : Value → String
  | .null => "None"
  | .bool b => if b then "True" else "False"
  | .int n => toString n
  | .float x => x.write specialNames
  | .text s => Text.quoted s
  | .list items => "[" ++ ", ".intercalate (inspectItems items) ++ "]"
  | .tuple items =>
    match inspectItems items with
    | [one] => "(" ++ one ++ ",)"
    | shown => "(" ++ ", ".intercalate shown ++ ")"
  | .set items =>
    match inspectItems items with
    | [] => "set()"
    | shown => "\x7b" ++ ", ".intercalate shown ++ "\x7d"
  | .map entries => "\x7b" ++ ", ".intercalate (inspectEntries entries) ++ "\x7d"
  | .datetime t => inspectTime t
  | .date d => inspectDate d

/-- The items of a list, inspected one by one. -/
def inspectItems : List Value → List String
  | [] => []
  | v :: vs => inspect v :: inspectItems vs

/-- The entries of a mapping, inspected one by one. -/
def inspectEntries : List (Value × Value) → List String
  | [] => []
  | (k, v) :: rest => (inspect k ++ ": " ++ inspect v) :: inspectEntries rest

end

/-- The value as it is written into a text. -/
def display : Value → String
  | .text s => s
  | .datetime t => t.spaced
  | .date d => d.iso
  | v => v.inspect

@[simp] theorem display_text (s : String) : (Value.text s).display = s := rfl

end GraphMapper.Value
