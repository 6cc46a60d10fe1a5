/-
# `EventSearch.Calendar.Zone` — time zones

A zone is a fixed offset or a named table of offset changes.  The table is all that is known of a
named zone: an offset before the first change and, for each change, the instant from which the new
offset holds.  From an instant to the local clock there is always one answer, `offsetAt`.  Back
from the local clock there may be two instants, of which the earlier is taken, or none, in which
case the reading one hour later is taken (`ofClock?`).
-/
import EventSearch.Calendar.Timestamp

namespace EventSearch.Calendar

/-- A named zone: its offset at first, and the changes in order of time, each with the second from
which its offset holds. -/
structure ZoneTable where
  name : String
  initial : Int
  changes : List (Int × Int)
  deriving DecidableEq

namespace ZoneTable

/-- The offset after the changes up to a second, starting from `offset`. -/
def offsetAfter (offset : Int) : List (Int × Int) → Int → Int
  | [], _ => offset
  | (start, next) :: rest, second =>
    if start ≤ second then offsetAfter next rest second else offset

/-- The offset in force at a UTC second. -/
def offsetAt (z : ZoneTable) (second : Int) : Int := offsetAfter z.initial z.changes second

/-- The offset of the first span of time whose local readings include `local`: a span begins at
`start`, or has no beginning, and ends at the next change. -/
def spanHolding? (reading : Int) : Option Int → Int → List (Int × Int) → Option Int
  | start, offset, [] => if start.all (· + offset ≤ reading) then some offset else none
  | start, offset, (next, nextOffset) :: rest =>
    if start.all (· + offset ≤ reading) && reading < next + offset then some offset
    else spanHolding? reading (some next) nextOffset rest

/-- The offset that gives a local reading its earliest instant; none when clocks skip it. -/
def offsetOfReading? (z : ZoneTable) (reading : Int) : Option Int :=
  spanHolding? reading none z.initial z.changes

end ZoneTable

/-- The zone a user sees times in. -/
inductive Zone where
  | fixed (offset : Int)
  | named (table : ZoneTable)
  deriving DecidableEq

namespace Zone

/-- Universal time under its name. -/
def utc : Zone := .named ⟨"UTC", 0, []⟩

/-- The offset in force at an instant. -/
def offsetAt (z : Zone) (utc : Clock) : Int :=
  match z with
  | .fixed offset => offset
  | .named table => table.offsetAt utc.seconds

/-- An instant as it is shown in the zone. -/
def shown (z : Zone) (utc : Clock) : Timestamp := ⟨utc, z.offsetAt utc⟩

/-- A timestamp moved into the zone. -/
def toLocal (z : Zone) (t : Timestamp) : Timestamp := z.shown t.utc

/-- The earliest instant at which clocks of a named zone show a reading. -/
def earliest? (table : ZoneTable) (reading : Clock) : Option Clock :=
  (table.offsetOfReading? reading.seconds).bind fun offset =>
    let utc := reading.shift (-offset)
    if utc.inRange then some utc else none

/-- The instant of a local reading.  A reading that occurs twice takes its earlier instant, one
that is skipped resolves one hour later. -/
def ofClock? (z : Zone) (reading : Clock) : Option Timestamp :=
  match z with
  | .fixed offset =>
    let utc := reading.shift (-offset)
    if utc.inRange then some ⟨utc, offset⟩ else none
  | .named table =>
    ((earliest? table reading).or (earliest? table (reading.addSeconds 3600))).map z.shown

/-- The instant of a number of milliseconds since 1970-01-01T00:00:00Z. -/
def ofMillis? (z : Zone) (millis : Int) : Option Timestamp :=
  let utc : Clock := ⟨millis / 1000, (millis % 1000).toNat * 1000000⟩
  if utc.inRange then some (z.shown utc) else none

/-- The instant of a local date and time of day. -/
def ofYmdHms? (z : Zone) (year : Int) (month day hour minute second : Nat) : Option Timestamp := do
  let date ← Date.ofYmd? year month day
  let reading ← Clock.ofHms? date hour minute second
  z.ofClock? reading

/-- The offset of a fixed zone, or the name of a named one. -/
def text : Zone → String
  | .fixed offset => Timestamp.offsetText offset
  | .named table => table.name

end Zone

end EventSearch.Calendar
