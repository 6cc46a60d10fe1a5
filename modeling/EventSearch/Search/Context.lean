/-
# `EventSearch.Search.Context` — what a request brings besides its query

The zone times are seen in, the window of time and the parameters of the caller's page.  The
window restricts every search by criteria of its own, which it writes as text in the zone.
-/
import EventSearch.Calendar.Window
import EventSearch.Query.Criteria

namespace EventSearch.Search

open EventSearch.Calendar EventSearch.Query

/-- Named parameters in order. -/
abbrev Params := List (String × String)

structure Context where
  zone : Zone
  window : Option Window
  /-- The caller's own parameters, carried over to links. -/
  menu : Params
  deriving DecidableEq

namespace Context

/-- The most buckets a chart is split into when no unit is asked for. -/
def maxBuckets : Int := 100

/-- One bound of a window; a bound beyond the years in use sets no condition. -/
def boundCriteria (path operator : String) (bound : Option Timestamp) : List Criteria :=
  bound.toList.map fun t => .test path operator t.rfc3339

/-- Criteria that restrict a time field to the window. -/
def ambient (c : Context) (timePath : String) : Criteria :=
  match c.window with
  | none => .empty
  | some w => .allOf
      (boundCriteria timePath ">=" (w.startIn? c.zone) ++
        boundCriteria timePath "<" (w.stopIn? c.zone))

/-- The width of the bars of a chart of the window. -/
def step (c : Context) : Step :=
  match c.window with
  | none => ⟨.day, 1⟩
  | some w => .forWindow w maxBuckets

/-- The parameters of a window, in seconds. -/
def windowParams (start stop : Int) : Params :=
  [("timeline_mode", "custom"), ("timeline_start", toString start), ("timeline_end", toString stop)]

/-- The context as parameters of a URL; milliseconds are cut off towards zero. -/
def urlParams (c : Context) : Params :=
  match c.window with
  | none => c.menu
  | some w => c.menu ++ windowParams (w.start.tdiv 1000) (w.stop.tdiv 1000)

end Context

end EventSearch.Search
