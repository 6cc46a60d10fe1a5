/-
# `EventSearch.Calendar.Timestamp` — instants with an offset

A timestamp is an instant, kept as the reading of a UTC clock, and the offset in seconds at which
it is shown.  Order and equality of instants look at the first part only (`Timestamp.order`).
-/
import EventSearch.Calendar.Clock

namespace EventSearch.Calendar

open EventSearch.Text

structure Timestamp where
  utc : Clock
  offset : Int
  deriving DecidableEq

namespace Timestamp

/-- What a clock at the offset of the timestamp shows. -/
def clock (t : Timestamp) : Clock := t.utc.shift t.offset

/-- The order of instants, whatever their offsets. -/
def order (a b : Timestamp) : Ordering := a.utc.order b.utc

/-- The same instant. -/
def same (a b : Timestamp) : Bool := a.order b = .eq

/-- Whole seconds since 1970-01-01T00:00:00Z. -/
def unixSeconds (t : Timestamp) : Int := t.utc.seconds

/-- Whole milliseconds since 1970-01-01T00:00:00Z. -/
def unixMillis (t : Timestamp) : Int := t.utc.seconds * 1000 + (t.utc.nanos / 1000000 : Nat)

/-- The timestamp `n` seconds later, at the same offset. -/
def addSeconds? (t : Timestamp) (n : Int) : Option Timestamp :=
  (t.utc.addSeconds? n).map fun utc => ⟨utc, t.offset⟩

/-! ## Offsets as text -/

def signText (offset : Int) : String := if offset < 0 then "-" else "+"

/-- Hours and minutes, and seconds when there are any. -/
def offsetText (offset : Int) : String :=
  let n := offset.natAbs
  signText offset ++ zeroPadded 2 (n / 3600) ++ ":" ++ zeroPadded 2 (n / 60 % 60) ++
    (if n % 60 = 0 then "" else ":" ++ zeroPadded 2 (n % 60))

/-- Hours and minutes, rounded to the nearest minute. -/
def roundedOffsetText (offset : Int) : String :=
  let minutes := (offset.natAbs + 30) / 60
  signText offset ++ zeroPadded 2 (minutes / 60) ++ ":" ++ zeroPadded 2 (minutes % 60)

/-! ## Timestamps as text -/

/-- Date, `T`, time and fraction on the clock of the timestamp. -/
def clockText (t : Timestamp) : String :=
  t.clock.dateText ++ "T" ++ t.clock.timeText ++ t.clock.fractionText

/-- RFC 3339 with a numeric offset. -/
def rfc3339 (t : Timestamp) : String := t.clockText ++ roundedOffsetText t.offset

/-- RFC 3339 with `Z` for a zero offset. -/
def rfc3339Zulu (t : Timestamp) : String :=
  t.clockText ++ (if t.offset = 0 then "Z" else roundedOffsetText t.offset)

/-- Everything a timestamp consists of: two timestamps with one such text are equal. -/
def fullText (t : Timestamp) : String := t.clockText ++ offsetText t.offset

/-- Date and time of day, without fraction and offset. -/
def plainText (t : Timestamp) : String := t.clock.dateText ++ " " ++ t.clock.timeText

end Timestamp

end EventSearch.Calendar
