/-
# `EventSearch.Calendar.Window` — windows of time

A window runs from its start up to but not including its end, both in milliseconds since
1970-01-01T00:00:00Z.
-/
import EventSearch.Calendar.TimeUnit
import EventSearch.Number.Whole

namespace EventSearch.Calendar

open EventSearch.Number

/-- A window of time.  Nothing forces the start before the end: a window given that way around
holds no instant. -/
structure Window where
  start : Int
  stop : Int
  deriving DecidableEq

namespace Window

/-- A window that holds at least one instant. -/
def ofBounds? (start stop : Int) : Option Window :=
  if start < stop then some ⟨start, stop⟩ else none

/-- The window between two instants. -/
def between? (first last : Timestamp) : Option Window :=
  ofBounds? first.unixMillis last.unixMillis

/-- The window of the last hours before `now`; spans beyond 64 bits are cut off there. -/
def lastHours (now hours : Int) : Window :=
  ⟨clampInt64 (now - clampInt64 (hours * 3600000)), now⟩

def lastDays (now days : Int) : Window := lastHours now (clampInt64 (days * 24))

def contains (w : Window) (millis : Int) : Bool := w.start ≤ millis && millis < w.stop

/-- The length in whole seconds, fractions dropped. -/
def durationSeconds (w : Window) : Int := (w.stop - w.start).tdiv 1000

def startIn? (w : Window) (z : Zone) : Option Timestamp := z.ofMillis? w.start

def stopIn? (w : Window) (z : Zone) : Option Timestamp := z.ofMillis? w.stop

end Window

/-- The finest unit that splits a window into no more than `most` buckets; years when none does. -/
def Step.forWindow (w : Window) (most : Int) : Step :=
  let seconds := max w.durationSeconds 1
  let fits (u : TimeUnit) : Bool := seconds / u.approxSeconds ≤ most
  ⟨(TimeUnit.all.reverse.find? fits).getD .year, 1⟩

end EventSearch.Calendar
