/-
# `EventSearch.Search.Session` — a plan in use

A session executes its plan when a result is first asked for, and keeps that result; its rows are
handed out once.  A failed execution leaves nothing behind and is tried again the next time.
Sorting has no effect any more once there is a result.
-/
import EventSearch.Search.Plan
import EventSearch.Search.Rebuild

namespace EventSearch.Search

open EventSearch.Data EventSearch.Provider

/-- A plan, its result if it was executed, and the state of the provider. -/
structure Session (σ : Type) where
  plan : Plan σ
  result : Option ResultSet
  state : σ

namespace Session

variable {σ : Type}

/-- A plan that was not executed yet. -/
def start (plan : Plan σ) (state : σ) : Session σ := ⟨plan, none, state⟩

/-- Order the rows by a field. -/
def sortBy (s : Session σ) (field : String) (d : Direction) : Session σ :=
  match s.result with
  | some _ => s
  | none => { s with plan := s.plan.sortedBy field d }

/-- Order the rows by a field in a direction given by its name; other names do nothing. -/
def orderBy (s : Session σ) (field direction : String) : Session σ :=
  match Direction.ofName? direction with
  | some d => s.sortBy field d
  | none => s

/-- The rows as the provider returned them, calendar components put together. -/
def finish (plan : Plan σ) (r : ResultSet) : ResultSet :=
  match plan.grouping.timeIndex with
  | none => r
  | some index => rebuildRows index plan.context.zone r

/-- The result, and the session that keeps it. -/
def run (s : Session σ) : Except QueryError ResultSet × Session σ :=
  match s.result with
  | some r => (.ok r, s)
  | none =>
    match s.plan.surface.provider.execute s.plan.request s.state with
    | (.error e, state) => (.error (.provider e), { s with state })
    | (.ok r, state) =>
      let r := finish s.plan r
      (.ok r, { s with result := some r, state })

/-- The number of matches before paging. -/
def total (s : Session σ) : Except QueryError Nat × Session σ :=
  let (r, s) := s.run
  (r.map (·.total), s)

/-- The session after some rows were read. -/
def leaving (s : Session σ) (rows : List (Except Error Row)) (r : ResultSet) : Session σ :=
  { s with result := some { r with rows } }

/-- The next `n` rows. -/
def take (s : Session σ) (n : Nat) : Except QueryError (List (Except Error Row)) × Session σ :=
  match s.run with
  | (.error e, s) => (.error e, s)
  | (.ok r, s) => (.ok (r.rows.take n), s.leaving (r.rows.drop n) r)

/-- All rows that were not read yet. -/
def rest (s : Session σ) : Except QueryError (List (Except Error Row)) × Session σ :=
  match s.run with
  | (.error e, s) => (.error e, s)
  | (.ok r, s) => (.ok r.rows, s.leaving [] r)

/-- The rows up to the first bad one, which decides the answer, and what follows it. -/
def goodRows : List (Except Error Row) → Except Error (List Row) × List (Except Error Row)
  | [] => (.ok [], [])
  | .error e :: rows => (.error e, rows)
  | .ok row :: rows =>
    let (good, unread) := goodRows rows
    (good.map (row :: ·), unread)

/-- All remaining rows, if every one of them is good. -/
def collect (s : Session σ) : Except QueryError (List Row) × Session σ :=
  match s.run with
  | (.error e, s) => (.error e, s)
  | (.ok r, s) =>
    match goodRows r.rows with
    | (.error e, unread) => (.error (.provider e), s.leaving unread r)
    | (.ok rows, unread) => (.ok rows, s.leaving unread r)

end Session

end EventSearch.Search
