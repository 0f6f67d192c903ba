import GraphMapper.Calendar.Date

/-!
# Points in time

A date with a time of day to the microsecond, and optionally its distance from universal time.

## Main definitions

* `DateTime` — a point in time
* `DateTime.ofParts?` — the point with the given parts, if there is one
* `DateTime.iso`, `DateTime.spaced` — its text with a `T` or a space between date and time
* `DateTime.ofMicroseconds` — the point at a distance from the start of the year 1
-/

namespace GraphMapper

/-- A date with a time of day. -/
structure DateTime where
  /-- The date. -/
  date : Date
  /-- The hour, below 24. -/
  hour : Nat
  /-- The minute, below 60. -/
  minute : Nat
  /-- The second, below 60. -/
  second : Nat
  /-- The microsecond, below a million. -/
  microsecond : Nat
  /-- The distance from universal time in microseconds, if it is known. -/
  offset : Option Int
  deriving DecidableEq, Repr

namespace DateTime

/-- The microseconds of a day. -/
def dayLength : Nat := 86400000000

/-- The point in time with the given parts, if there is one. The offset is less than a day. -/
def ofParts? (date : Date) (hour minute second microsecond : Nat) (offset : Option Int) :
    Option DateTime :=
  let offsetFits := offset.all fun o => o.natAbs < dayLength
  if hour < 24 ∧ minute < 60 ∧ second < 60 ∧ microsecond < 1000000 ∧ offsetFits = true then
    some ⟨date, hour, minute, second, microsecond, offset⟩
  else none

/-- Hours, minutes, seconds and microseconds of a duration below a day. -/
def clockParts (microseconds : Nat) : Nat × Nat × Nat × Nat :=
  let seconds := microseconds / 1000000
  (seconds / 3600, seconds / 60 % 60, seconds % 60, microseconds % 1000000)

/-- An offset written as `+HH:MM`, with seconds and microseconds where they are not zero. -/
def offsetText (offset : Int) : String :=
  let (h, m, s, u) := clockParts offset.natAbs
  (if offset < 0 then "-" else "+") ++ Date.padded 2 h ++ ":" ++ Date.padded 2 m
    ++ (if s = 0 ∧ u = 0 then "" else ":" ++ Date.padded 2 s)
    ++ (if u = 0 then "" else "." ++ Date.padded 6 u)

/-- The point in time with the given text between date and time of day. -/
def withSeparator (separator : String) (t : DateTime) : String :=
  t.date.iso ++ separator ++ Date.padded 2 t.hour ++ ":" ++ Date.padded 2 t.minute ++ ":"
    ++ Date.padded 2 t.second
    ++ (if t.microsecond = 0 then "" else "." ++ Date.padded 6 t.microsecond)
    ++ (match t.offset with
      | none => ""
      | some o => offsetText o)

/-- The point in time in ISO 8601 form. -/
def iso (t : DateTime) : String := t.withSeparator "T"

/-- The point in time with a space between date and time of day. -/
def spaced (t : DateTime) : String := t.withSeparator " "

/-- The point at a number of microseconds after the start of the year 1, without an offset. -/
def ofMicroseconds (n : Nat) : DateTime :=
  let (h, m, s, u) := clockParts (n % dayLength)
  ⟨Date.ofOrdinal (n / dayLength + 1), h, m, s, u, none⟩

/-- The number of microseconds since the start of the year 1, ignoring the offset. -/
def microseconds (t : DateTime) : Nat :=
  (t.date.ordinal - 1) * dayLength
    + ((t.hour * 60 + t.minute) * 60 + t.second) * 1000000 + t.microsecond

end DateTime

end GraphMapper
