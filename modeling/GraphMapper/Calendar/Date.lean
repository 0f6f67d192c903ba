/-!
# Calendar dates

Dates of the proleptic Gregorian calendar, in the years 1 to 9999.

## Main definitions

* `Date` — a year, a month and a day
* `Date.ofParts?` — the date with the given parts, if there is one
* `Date.ordinal`, `Date.ofOrdinal` — counting days from 0001-01-01, which has number 1
* `Date.ofWeek?` — the date of a day in a numbered week
* `Date.iso` — the date written as `YYYY-MM-DD`
-/

namespace GraphMapper

/-- A calendar date. -/
structure Date where
  /-- The year. -/
  year : Nat
  /-- The month, from 1. -/
  month : Nat
  /-- The day of the month, from 1. -/
  day : Nat
  deriving DecidableEq, Repr

namespace Date

/-- Every fourth year is a leap year, except the centuries that are no multiple of 400. -/
def isLeap (year : Nat) : Bool := year % 4 == 0 && (year % 100 != 0 || year % 400 == 0)

/-- The number of days in a month. -/
def daysInMonth (year month : Nat) : Nat :=
  if month = 2 then (if isLeap year then 29 else 28)
  else if month = 4 ∨ month = 6 ∨ month = 9 ∨ month = 11 then 30 else 31

/-- The date with the given parts, if there is one. -/
def ofParts? (year month day : Nat) : Option Date :=
  if 1 ≤ year ∧ year ≤ 9999 ∧ 1 ≤ month ∧ month ≤ 12 ∧ 1 ≤ day ∧ day ≤ daysInMonth year month then
    some ⟨year, month, day⟩
  else none

/-- The number of days before the first of January of a year. -/
def daysBeforeYear (year : Nat) : Nat :=
  let y := year - 1
  y * 365 + y / 4 - y / 100 + y / 400

/-- The number of days in a year before the first of a month. -/
def daysBeforeMonth (year month : Nat) : Nat :=
  (List.range (month - 1)).foldl (fun days m => days + daysInMonth year (m + 1)) 0

/-- The number of the date when 0001-01-01 has number 1. -/
def ordinal (d : Date) : Nat := daysBeforeYear d.year + daysBeforeMonth d.year d.month + d.day

/-- The last year from `year` on that starts before day `n`. -/
def yearFrom (n : Nat) : (fuel : Nat) → (year : Nat) → Nat
  | 0, year => year
  | fuel + 1, year => if daysBeforeYear (year + 1) < n then yearFrom n fuel (year + 1) else year

/-- The last month from `month` on that starts before day `n` of the year. -/
def monthFrom (year n : Nat) : (fuel : Nat) → (month : Nat) → Nat
  | 0, month => month
  | fuel + 1, month =>
    if daysBeforeMonth year (month + 1) < n then monthFrom year n fuel (month + 1) else month

/-- The date with the given number, which is positive. -/
def ofOrdinal (n : Nat) : Date :=
  let year := yearFrom n 40 ((n - 1) / 366 + 1)
  let inYear := n - daysBeforeYear year
  let month := monthFrom year inYear 11 1
  ⟨year, month, inYear - daysBeforeMonth year month⟩

/-- The weekday of a day number, Monday being 0. -/
def weekdayOf (n : Nat) : Nat := (n + 6) % 7

/-- The number of the Monday that starts the first week of a year: the week with its first
Thursday. The result is shifted by 7 so that it is never negative. -/
def firstMonday (year : Nat) : Nat :=
  let first := daysBeforeYear year + 1
  let weekday := weekdayOf first
  let monday := first + 7 - weekday
  if 3 < weekday then monday + 7 else monday

/-- A year has 53 weeks if it starts on a Thursday, or on a Wednesday and is a leap year. -/
def hasWeek53 (year : Nat) : Bool :=
  let weekday := weekdayOf (daysBeforeYear year + 1)
  weekday == 3 || (weekday == 2 && isLeap year)

/-- The date of day `day` in week `week` of a year, both counted from 1. -/
def ofWeek? (year week day : Nat) : Option Date :=
  if year = 0 ∨ week = 0 ∨ 53 < week ∨ (week = 53 ∧ !hasWeek53 year) ∨ day = 0 ∨ 7 < day then none
  else
    let n := firstMonday year + (week - 1) * 7 + (day - 1)
    if n ≤ 7 then none
    else
      let d := ofOrdinal (n - 7)
      ofParts? d.year d.month d.day

/-- A number with at least `width` digits. -/
def padded (width n : Nat) : String :=
  let digits := Nat.toDigits 10 n
  String.ofList (List.replicate (width - digits.length) '0' ++ digits)

/-- The date written as `YYYY-MM-DD`. -/
def iso (d : Date) : String := padded 4 d.year ++ "-" ++ padded 2 d.month ++ "-" ++ padded 2 d.day

end Date

end GraphMapper
