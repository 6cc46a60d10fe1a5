/-
# `EventSearch.Search.Rebuild` — timestamps from calendar components

A search grouped by time retrieves one column for each calendar component.  Here the trailing
columns of a row are put together again to one timestamp, read as local time.  Components that are
left out are the first month, the first day and midnight.
-/
import EventSearch.Calendar.Zone
import EventSearch.Provider.Basic

namespace EventSearch.Search

open EventSearch.Calendar EventSearch.Data EventSearch.Provider

/-- The components year, month, day, hour, minute and second, the missing ones filled in. -/
def padComponents? : List Int → Option (Int × Int × Int × Int × Int × Int)
  | [y] => some (y, 1, 1, 0, 0, 0)
  | [y, mo] => some (y, mo, 1, 0, 0, 0)
  | [y, mo, d] => some (y, mo, d, 0, 0, 0)
  | [y, mo, d, h] => some (y, mo, d, h, 0, 0)
  | [y, mo, d, h, mi] => some (y, mo, d, h, mi, 0)
  | [y, mo, d, h, mi, s] => some (y, mo, d, h, mi, s)
  | _ => none

/-- A component that must not be negative. -/
def natural? (n : Int) : Option Nat := if 0 ≤ n then some n.toNat else none

/-- The timestamp at which local clocks show one to six components. -/
def timestampOf? (components : List Int) (zone : Zone) : Option Timestamp := do
  let (y, mo, d, h, mi, s) ← padComponents? components
  zone.ofYmdHms? y (← natural? mo) (← natural? d) (← natural? h) (← natural? mi) (← natural? s)

def timestampOf (components : List Int) (zone : Zone) : Except Error Timestamp :=
  match timestampOf? components zone with
  | some t => .ok t
  | none => .error (.malformedRow (.noDate components))

/-- The whole numbers of some cells, or the first cell that is none. -/
def wholeCells : List Value → Except Error (List Int)
  | [] => .ok []
  | v :: vs =>
    match v.asInteger? with
    | none => .error (.malformedRow (.notWhole v))
    | some n => (wholeCells vs).map (n :: ·)

/-- A row whose cells from `index` on are replaced by the timestamp they describe. -/
def rebuildRow (index : Nat) (zone : Zone) (row : Row) : Except Error Row :=
  if row.length ≤ index then .error (.malformedRow (.noComponents index row.length))
  else do
    let components ← wholeCells (row.drop index)
    let t ← timestampOf components zone
    return row.take index ++ [.timestamp t]

/-- A result whose good rows are rebuilt; the total stays. -/
def rebuildRows (index : Nat) (zone : Zone) (r : ResultSet) : ResultSet :=
  ⟨r.rows.map fun row => row.bind (rebuildRow index zone), r.total⟩

end EventSearch.Search
