/-
# `EventSearch.Calendar.TimeUnit` — units of time, buckets and steps

A bucket is the stretch of local time in which the calendar components from the year down to some
unit stay the same.  `truncate` finds the start of the bucket of an instant, `advance?` moves on
by whole units: years, months and days by the local clock, hours and minutes as durations.  A
`Step` is a number of units, the width of a bar in a chart.
-/
import EventSearch.Calendar.Zone

namespace EventSearch.Calendar

/-- The units by which events are grouped in time, coarsest first. -/
inductive TimeUnit where
  | year
  | month
  | day
  | hour
  | minute
  deriving DecidableEq

namespace TimeUnit

/-- All units, coarsest first. -/
def all : List TimeUnit := [.year, .month, .day, .hour, .minute]

def name : TimeUnit → String
  | .year => "year"
  | .month => "month"
  | .day => "day"
  | .hour => "hour"
  | .minute => "minute"

/-- The unit of a grouping name, which must be spelled exactly. -/
def ofName? (s : String) : Option TimeUnit := all.find? (·.name = s)

/-- A grouping name that denotes a unit. -/
def isTemporal (s : String) : Bool := (ofName? s).isSome

/-- The name of the calendar component in retrieval paths. -/
def componentName : TimeUnit → String
  | .year => "year"
  | .month => "month"
  | .day => "mday"
  | .hour => "hour"
  | .minute => "min"

def ofComponentName? (s : String) : Option TimeUnit := all.find? (·.componentName = s)

/-- The number of calendar components that tell one bucket from another. -/
def precision : TimeUnit → Nat
  | .year => 1
  | .month => 2
  | .day => 3
  | .hour => 4
  | .minute => 5

/-- The units from the year down to this one. -/
def cascade (u : TimeUnit) : List TimeUnit := all.take u.precision

/-- The calendar component of a reading. -/
def component (u : TimeUnit) (t : Clock) : Int :=
  match u with
  | .year => t.date.year
  | .month => t.date.month
  | .day => t.date.day
  | .hour => t.hour
  | .minute => t.minute

/-- The width of a bucket in seconds; months count 30 days and years 365. -/
def approxSeconds : TimeUnit → Int
  | .year => 365 * 24 * 3600
  | .month => 30 * 24 * 3600
  | .day => 24 * 3600
  | .hour => 3600
  | .minute => 60

/-- The pattern of a chart label. -/
def labelPattern : TimeUnit → String
  | .year => "%Y"
  | .month => "%Y-%m"
  | .day => "%Y-%m-%d"
  | .hour => "%Y-%m-%d %H:00"
  | .minute => "%Y-%m-%d %H:%M"

/-- The label of a bucket: the components of its start down to the unit. -/
def label (u : TimeUnit) (t : Timestamp) : String :=
  let c := t.clock
  let year := Clock.yearText c.date.year
  let month := year ++ "-" ++ Text.zeroPadded 2 c.date.month
  match u with
  | .year => year
  | .month => month
  | .day => c.dateText
  | .hour => c.dateText ++ " " ++ Text.zeroPadded 2 c.hour ++ ":00"
  | .minute => c.dateText ++ " " ++ Text.zeroPadded 2 c.hour ++ ":" ++ Text.zeroPadded 2 c.minute

/-! ## Buckets -/

/-- The first reading with the same components down to the unit. -/
def floor (u : TimeUnit) (t : Clock) : Clock :=
  let d := t.date
  match u with
  | .year => Clock.ofDate ⟨d.year, 1, 1⟩ 0 0
  | .month => Clock.ofDate ⟨d.year, d.month, 1⟩ 0 0
  | .day => Clock.ofDate d 0 0
  | .hour => Clock.ofDate d (t.hour * 3600) 0
  | .minute => Clock.ofDate d (t.hour * 3600 + t.minute * 60) 0

/-- The start of the bucket of an instant, with the offset in force there.  An instant whose
bucket has no start in the years in use is its own bucket. -/
def truncate (u : TimeUnit) (t : Timestamp) (z : Zone) : Timestamp :=
  (z.ofClock? (u.floor (z.toLocal t).clock)).getD t

/-- The instant `count` units later. -/
def advance? (u : TimeUnit) (t : Timestamp) (count : Nat) (z : Zone) : Option Timestamp :=
  let reading := (z.toLocal t).clock
  match u with
  | .year => (reading.addMonths? (count * 12)).bind z.ofClock?
  | .month => (reading.addMonths? count).bind z.ofClock?
  | .day => (reading.addSeconds? (count * 86400)).bind z.ofClock?
  | .hour => t.addSeconds? (count * 3600)
  | .minute => t.addSeconds? (count * 60)

end TimeUnit

/-! ## Steps -/

/-- A width in time: a number of units. -/
structure Step where
  unit : TimeUnit
  count : Nat
  deriving DecidableEq

/-- The last second of the bucket of this width that starts at an instant. -/
def Step.bucketEnd? (s : Step) (start : Timestamp) (z : Zone) : Option Timestamp :=
  (s.unit.advance? start s.count z).bind (·.addSeconds? (-1))

end EventSearch.Calendar
