import GraphMapper.Calendar.DateTime
import GraphMapper.Number.Binary64

/-!
# Instants

An instant is the number of microseconds since the start of the year 1.

## Main definitions

* `Instant.iso`, `Instant.stamp` — an instant as a text
* `Instant.elapsed` — the milliseconds between two instants
-/

namespace GraphMapper

/-- A number of microseconds since the start of the year 1. -/
abbrev Instant := Int

namespace Instant

/-- The date and time of day of an instant. -/
def dateTime (t : Instant) : DateTime := DateTime.ofMicroseconds t.toNat

/-- An instant in ISO 8601 form. -/
def iso (t : Instant) : String := t.dateTime.iso

/-- An instant as `YYYYMMDD_HHMMSS`. -/
def stamp (t : Instant) : String :=
  let d := t.dateTime
  Date.padded 4 d.date.year ++ Date.padded 2 d.date.month ++ Date.padded 2 d.date.day ++ "_"
    ++ Date.padded 2 d.hour ++ Date.padded 2 d.minute ++ Date.padded 2 d.second

/-- The seconds of a number of microseconds. -/
def seconds (microseconds : Int) : Binary64 :=
  Binary64.ofRatio (microseconds < 0) microseconds.natAbs 1000000

/-- The whole milliseconds from one instant to another. The seconds between them are rounded to a
binary64 number, so are the milliseconds, and what is below a millisecond is cut off. -/
def elapsed (start stop : Instant) : Int :=
  (((seconds (stop - start)).mulNat 1000).truncate?).getD 0

@[simp] theorem elapsed_self (t : Instant) : elapsed t t = 0 := by
  simp only [elapsed, Int.sub_self]
  decide +kernel

end Instant

end GraphMapper
