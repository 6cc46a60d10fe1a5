/-
# `EventSearch.Calendar.Date` — dates of the proleptic Gregorian calendar

A date is a year, a month and a day; a *day number* counts days from 1970-01-01.  The calendar
repeats every 400 years of 146097 days, which is how both conversions go: a year is taken to begin
in March, so that the leap day is its last.
-/
namespace EventSearch.Calendar

/-- Leap years: every fourth, of the hundredth years only every fourth. -/
def isLeapYear (y : Int) : Bool := y % 4 = 0 && (y % 100 ≠ 0 || y % 400 = 0)

/-- The number of days of a month. -/
def monthLength (y : Int) (m : Nat) : Nat :=
  if m = 2 then (if isLeapYear y then 29 else 28)
  else if m = 4 ∨ m = 6 ∨ m = 9 ∨ m = 11 then 30
  else 31

/-- The first year in use. -/
def minYear : Int := -262143

/-- The last year in use. -/
def maxYear : Int := 262142

structure Date where
  year : Int
  month : Nat
  day : Nat
  deriving DecidableEq

namespace Date

/-- A day of the calendar. -/
def isValid (d : Date) : Bool :=
  1 ≤ d.month && d.month ≤ 12 && 1 ≤ d.day && d.day ≤ monthLength d.year d.month

/-- A year in use. -/
def inRange (d : Date) : Bool := minYear ≤ d.year && d.year ≤ maxYear

/-- The date of a year, month and day, when there is one. -/
def ofYmd? (y : Int) (m d : Nat) : Option Date :=
  let date : Date := ⟨y, m, d⟩
  if date.isValid && date.inRange then some date else none

/-! ## Day numbers -/

/-- Days from 0000-03-01 to 1970-01-01. -/
def epochShift : Int := 719468

/-- The day number of a date. -/
def toDays (d : Date) : Int :=
  let y := if d.month ≤ 2 then d.year - 1 else d.year
  let era := y / 400
  let yearOfEra := y % 400
  let month : Int := if d.month ≤ 2 then d.month + 9 else d.month - 3
  let dayOfYear := (153 * month + 2) / 5 + d.day - 1
  let dayOfEra := yearOfEra * 365 + yearOfEra / 4 - yearOfEra / 100 + dayOfYear
  era * 146097 + dayOfEra - epochShift

/-- The date of a day number. -/
def ofDays (n : Int) : Date :=
  let z := n + epochShift
  let era := z / 146097
  let dayOfEra := z % 146097
  let yearOfEra := (dayOfEra - dayOfEra / 1460 + dayOfEra / 36524 - dayOfEra / 146096) / 365
  let dayOfYear := dayOfEra - (365 * yearOfEra + yearOfEra / 4 - yearOfEra / 100)
  let month := (5 * dayOfYear + 2) / 153
  let day := dayOfYear - (153 * month + 2) / 5 + 1
  let y := yearOfEra + era * 400
  if month < 10 then ⟨y, (month + 3).toNat, day.toNat⟩
  else ⟨y + 1, (month - 9).toNat, day.toNat⟩

/-- The weekday of a day number, from Sunday 0 to Saturday 6. -/
def weekday (n : Int) : Int := (n + 4) % 7

/-- The date some months later; a day past the end of the month becomes its last. -/
def addMonths? (d : Date) (count : Nat) : Option Date :=
  let months := d.year * 12 + (d.month - 1 : Nat) + count
  let y := months / 12
  let m := (months % 12).toNat + 1
  ofYmd? y m (min d.day (monthLength y m))

end Date

end EventSearch.Calendar
