/-
# `EventSearch.Calendar.Clock` — readings of a clock

A reading is a date and a time of day without a zone, kept as the seconds since
1970-01-01 00:00:00 on the same clock and the nanoseconds of that second.  During a leap second
the seconds stand still and the nanoseconds run on past 10⁹.
-/
import EventSearch.Calendar.Date
import EventSearch.Text.Pieces

namespace EventSearch.Calendar

open EventSearch.Text

/-- A reading of a clock. -/
structure Clock where
  seconds : Int
  nanos : Nat
  deriving DecidableEq

namespace Clock

def billion : Nat := 1000000000

/-! ## Parts -/

def dayNumber (t : Clock) : Int := t.seconds / 86400

def secondOfDay (t : Clock) : Nat := (t.seconds % 86400).toNat

def date (t : Clock) : Date := Date.ofDays t.dayNumber

def hour (t : Clock) : Nat := t.secondOfDay / 3600

def minute (t : Clock) : Nat := t.secondOfDay / 60 % 60

def second (t : Clock) : Nat := t.secondOfDay % 60

/-- A reading whose year is in use. -/
def inRange (t : Clock) : Bool := t.date.inRange

/-- The reading at a second of a date. -/
def ofDate (d : Date) (secondOfDay nanos : Nat) : Clock :=
  ⟨d.toDays * 86400 + secondOfDay, nanos⟩

/-- The reading at an hour, minute and second of a date. -/
def ofHms? (d : Date) (h m s : Nat) : Option Clock :=
  if h < 24 ∧ m < 60 ∧ s < 60 then some (ofDate d (h * 3600 + m * 60 + s) 0) else none

/-! ## Moving -/

/-- The reading `n` seconds later; leaving a leap second ends it. -/
def addSeconds (t : Clock) (n : Int) : Clock :=
  if n = 0 then t
  else if t.nanos < billion then ⟨t.seconds + n, t.nanos⟩
  else if n > 0 then ⟨t.seconds + n, t.nanos - billion⟩
  else ⟨t.seconds + 1 + n, t.nanos - billion⟩

/-- `addSeconds` within the years in use. -/
def addSeconds? (t : Clock) (n : Int) : Option Clock :=
  let moved := t.addSeconds n
  if moved.inRange then some moved else none

/-- The same time of day some months later. -/
def addMonths? (t : Clock) (count : Nat) : Option Clock :=
  (t.date.addMonths? count).map fun d => ofDate d t.secondOfDay t.nanos

/-- The reading of another clock that is `offset` seconds ahead. -/
def shift (t : Clock) (offset : Int) : Clock := ⟨t.seconds + offset, t.nanos⟩

/-! ## Order -/

/-- Earlier or later, by seconds and then nanoseconds. -/
def order (a b : Clock) : Ordering := (compare a.seconds b.seconds).then (compare a.nanos b.nanos)

/-! ## Text -/

/-- A year: four digits, or a sign and at least four. -/
def yearText (y : Int) : String :=
  if 0 ≤ y ∧ y ≤ 9999 then zeroPadded 4 y.toNat
  else (if y < 0 then "-" else "+") ++ zeroPadded 4 y.natAbs

/-- The second as it is shown: a leap second is one more than the second it extends. -/
def shownSecond (t : Clock) : Nat := t.second + t.nanos / billion

/-- `2024-03-01` -/
def dateText (t : Clock) : String :=
  let d := t.date
  yearText d.year ++ "-" ++ zeroPadded 2 d.month ++ "-" ++ zeroPadded 2 d.day

/-- `10:00:00` -/
def timeText (t : Clock) : String :=
  zeroPadded 2 t.hour ++ ":" ++ zeroPadded 2 t.minute ++ ":" ++ zeroPadded 2 t.shownSecond

/-- Nothing for a whole second, else a point and three, six or nine digits. -/
def fractionText (t : Clock) : String :=
  let n := t.nanos % billion
  if n = 0 then ""
  else if n % 1000000 = 0 then "." ++ zeroPadded 3 (n / 1000000)
  else if n % 1000 = 0 then "." ++ zeroPadded 6 (n / 1000)
  else "." ++ zeroPadded 9 n

end Clock

end EventSearch.Calendar
