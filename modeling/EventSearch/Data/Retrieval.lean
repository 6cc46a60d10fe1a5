/-
# `EventSearch.Data.Retrieval` — what a search retrieves

A retrieval path names one column of a result: the count of a group, a field, or one calendar
component of a time field.  It may be a grouping key, and it may order the rows.
-/
import EventSearch.Calendar.TimeUnit

namespace EventSearch.Data

open EventSearch.Calendar

/-- The direction in which a path orders the rows. -/
inductive Direction where
  | asc
  | desc
  deriving DecidableEq

namespace Direction

def name : Direction → String
  | .asc => "asc"
  | .desc => "desc"

def ofName? (s : String) : Option Direction := [Direction.asc, .desc].find? (·.name = s)

/-- An order, or the reverse of it. -/
def apply (d : Direction) (o : Ordering) : Ordering :=
  match d with
  | .asc => o
  | .desc => o.swap

end Direction

/-- Where the cells of a column come from. -/
inductive Source where
  /-- The number of records of a group. -/
  | count
  /-- A qualified field. -/
  | field (path : String)
  /-- A calendar component of a time field, on the clocks of a zone. -/
  | component (path : String) (zone : Zone) (unit : TimeUnit)
  deriving DecidableEq

/-- A retrieval path. -/
structure Retrieval where
  source : Source
  grouped : Bool
  order : Option Direction
  deriving DecidableEq

namespace Retrieval

def count : Retrieval := ⟨.count, false, none⟩

def field (path : String) : Retrieval := ⟨.field path, false, none⟩

def component (path : String) (zone : Zone) (unit : TimeUnit) : Retrieval :=
  ⟨.component path zone unit, false, none⟩

/-- The path as a grouping key. -/
def asGroup (r : Retrieval) : Retrieval := { r with grouped := true }

/-- The path with an order. -/
def ordered (r : Retrieval) (d : Direction) : Retrieval := { r with order := some d }

/-- The field that a path reads. -/
def fieldPath? (r : Retrieval) : Option String :=
  match r.source with
  | .count => none
  | .field path | .component path _ _ => some path

/-! ## Text -/

def Source.toText : Source → String
  | .count => "count(1)"
  | .field path => path
  | .component path zone unit =>
    "timezone(" ++ path ++ ", '" ++ zone.text ++ "'):" ++ unit.componentName

/-- The annotations of a path. -/
def annotations (r : Retrieval) : List String :=
  (r.order.toList.map fun d => "order_" ++ d.name) ++ (if r.grouped then ["group_by"] else [])

def toText (r : Retrieval) : String :=
  Source.toText r.source ++
    (if r.annotations.isEmpty then "" else "/" ++ ",".intercalate r.annotations)

end Retrieval

end EventSearch.Data
