/-
# `EventSearch.Provider.Grouping` — rows from records

A retrieval path becomes a column of cells.  A search lists one row for each record, or counts
records that agree in all columns but the counts: groups come in the order in which their first
records do.  Rows are then sorted by the columns that have an order.
-/
import EventSearch.Data.Retrieval
import EventSearch.Data.Sorting
import EventSearch.Provider.Filter

namespace EventSearch.Provider

open EventSearch.Calendar EventSearch.Data

/-! ## Columns -/

/-- A retrieval path whose field is known. -/
inductive Column where
  | count
  | field (name : String)
  | component (name : String) (zone : Zone) (unit : TimeUnit)
  deriving DecidableEq

namespace Column

def isCount : Column → Bool
  | .count => true
  | _ => false

/-- The column of a retrieval path. -/
def ofSource (scope : Scope) : Source → Except Error Column
  | .count => .ok .count
  | .field path => (scope.field path).map .field
  | .component path zone unit => (scope.field path).map fun name => .component name zone unit

/-- The columns of some retrieval paths, or the first field that is not known. -/
def ofRetrievals (scope : Scope) : List Retrieval → Except Error (List Column)
  | [] => .ok []
  | r :: rs =>
    match ofSource scope r.source with
    | .error e => .error e
    | .ok c => (ofRetrievals scope rs).map (c :: ·)

/-- The calendar component of a cell, when it is a time. -/
def componentOf (zone : Zone) (unit : TimeUnit) (cell : Value) : Value :=
  match cell.asTimestamp? with
  | none => .null
  | some t => .integer (unit.component (zone.toLocal t).clock)

/-- The cell of a record in a column. -/
def cell (record : Record) : Column → Value
  | .count => .integer 1
  | .field name => (find? name record).getD .null
  | .component name zone unit => ((find? name record).map (componentOf zone unit)).getD .null

end Column

/-- The row of a record. -/
def rowOf (columns : List Column) (record : Record) : Row := columns.map (Column.cell record)

/-! ## Groups -/

/-- The cells by which a record is grouped. -/
def keyOf (columns : List Column) (record : Record) : Row :=
  (columns.filter fun c => !c.isCount).map (Column.cell record)

/-- A key as it is compared: one text that shows kind and content of all its cells. -/
def keyText (key : Row) : String := "[" ++ ", ".intercalate (key.map (·.inspect)) ++ "]"

/-- Count one more record with a key. -/
def addToGroup (key : Row) : List (Row × Nat) → List (Row × Nat)
  | [] => [(key, 1)]
  | (k, n) :: rest =>
    if keyText k = keyText key then (k, n + 1) :: rest else (k, n) :: addToGroup key rest

/-- The keys of some records and how many records have each. -/
def groupsOf (columns : List Column) (records : List Record) : List (Row × Nat) :=
  records.foldl (fun groups record => addToGroup (keyOf columns record) groups) []

/-- The row of a group: counts and key cells, each in its place. -/
def groupRow (count : Nat) : List Column → Row → Row
  | [], _ => []
  | .count :: columns, key => .integer count :: groupRow count columns key
  | _ :: columns, [] => .null :: groupRow count columns []
  | _ :: columns, cell :: key => cell :: groupRow count columns key

/-- One row for each group. -/
def groupRows (columns : List Column) (records : List Record) : List Row :=
  (groupsOf columns records).map fun (key, count) => groupRow count columns key

/-! ## Order -/

/-- The order of two rows by the first ordered column in which they differ.  A cell that is
missing from a row is tied with every cell. -/
def orderRows : List Retrieval → Row → Row → Ordering
  | r :: rs, a :: as, b :: bs =>
    (r.order.elim .eq fun d => d.apply (a.order b)).then (orderRows rs as bs)
  | _, _, _ => .eq

/-- Rows in the order of the retrieval paths. -/
def sortRows (retrievals : List Retrieval) (rows : List Row) : List Row :=
  if retrievals.any (·.order.isSome) then sortBy (orderRows retrievals) rows else rows

end EventSearch.Provider
