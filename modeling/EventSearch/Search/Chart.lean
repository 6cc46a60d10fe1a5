/-
# `EventSearch.Search.Chart` — grouped results as bars

A bar is the count of a row with a label made of its other cells and the link to its events.  A
listing has no bars.
-/
import EventSearch.Search.Link
import EventSearch.Search.Session

namespace EventSearch.Search

open EventSearch.Calendar EventSearch.Data

structure Bar where
  count : Value
  label : String
  link : Link
  deriving DecidableEq

namespace Plan

variable {σ : Type}

/-- A cell in a label: times are cut to the unit of the search. -/
def cellLabel (unit : Option TimeUnit) (cell : Value) : String :=
  match cell, unit with
  | .timestamp t, some u => u.label t
  | cell, _ => cell.display

/-- The bar of a row. -/
def bar? (p : Plan σ) (step : Step) : Row → Option Bar
  | [] => none
  | count :: cells =>
    some ⟨count, ", ".intercalate (cells.map (cellLabel p.grouping.unit)), p.link cells step⟩

end Plan

namespace Session

variable {σ : Type}

/-- The bars of all remaining rows. -/
def chart (s : Session σ) (step : Step) : Except QueryError (List Bar) × Session σ :=
  if s.plan.isAggregate then
    let (rows, s) := s.collect
    (rows.map fun rows => rows.filterMap (s.plan.bar? step), s)
  else (.ok [], s)

end Session

end EventSearch.Search
