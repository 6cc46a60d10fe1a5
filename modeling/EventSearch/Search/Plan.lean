/-
# `EventSearch.Search.Plan` — a search, planned

A plan joins a query with its context: criteria, retrieval paths, grouping and paging.  A search
without groups lists all fields.  A grouped search retrieves a count, the paths of each field it
is grouped by, and for a time unit the calendar components from the year down to it.
-/
import EventSearch.Search.Context
import EventSearch.Search.Surface

namespace EventSearch.Search

open EventSearch.Calendar EventSearch.Data EventSearch.Query EventSearch.Number

/-- What a user asks for. -/
structure SearchParams where
  query : String
  /-- The mode of the surface when absent. -/
  mode : Option Mode
  /-- Fields to group by, and time units. -/
  groupby : List String
  offset : Nat
  /-- No limit when absent. -/
  limit : Option Nat
  deriving DecidableEq

/-- How a search is grouped. -/
structure Grouping where
  /-- Names, those of fields first. -/
  names : List String
  /-- How many columns of a result each name takes. -/
  widths : List Nat
  unit : Option TimeUnit
  retrievals : List Retrieval
  /-- Where the calendar components begin. -/
  timeIndex : Option Nat
  deriving DecidableEq

namespace Grouping

/-- A list without its repetitions. -/
def distinct (names : List String) : List String :=
  names.foldl (fun kept name => if kept.contains name then kept else kept ++ [name]) []

/-- The grouped paths of each field. -/
def fieldPaths {σ : Type} (s : Surface σ) : List String → Except QueryError (List (List Retrieval))
  | [] => .ok []
  | name :: names =>
    match s.groupPaths name with
    | .error e => .error e
    | .ok paths => (fieldPaths s names).map (paths :: ·)

/-- The calendar components down to a unit, each grouped and ascending. -/
def components (timePath : String) (zone : Zone) (unit : TimeUnit) : List Retrieval :=
  unit.cascade.map fun u => ((Retrieval.component timePath zone u).asGroup).ordered .asc

/-- The retrieval of groups: without a time unit the largest groups come first. -/
def ofPaths (timePath : String) (zone : Zone) (fields : List String)
    (paths : List (List Retrieval)) : Option TimeUnit → Grouping
  | none => ⟨fields, paths.map (·.length), none, Retrieval.count.ordered .desc :: paths.flatten, none⟩
  | some unit =>
    let before := Retrieval.count :: paths.flatten
    ⟨fields ++ [unit.name], paths.map (·.length) ++ [1], some unit,
      before ++ components timePath zone unit, some before.length⟩

/-- The grouping by some names, each name once. -/
def ofNames {σ : Type} (s : Surface σ) (zone : Zone) (names : List String) :
    Except QueryError Grouping :=
  let units := names.filter TimeUnit.isTemporal
  let fields := names.filter fun name => !TimeUnit.isTemporal name
  if units.length > 1 then .error (.manyUnits units)
  else (fieldPaths s fields).map fun paths =>
    ofPaths s.timePath zone fields paths (units.head?.bind TimeUnit.ofName?)

end Grouping

/-- A planned search. -/
structure Plan (σ : Type) where
  surface : Surface σ
  context : Context
  query : String
  mode : Mode
  /-- The criteria of the query. -/
  criteria : Criteria
  /-- The criteria of the query and of the window. -/
  allCriteria : Criteria
  grouping : Grouping
  retrievals : List Retrieval
  offset : Nat
  limit : Option Nat

namespace Plan

variable {σ : Type}

/-- The retrieval of all fields. -/
def listing (s : Surface σ) : List Retrieval := s.fields.map fun f => .field (s.qualify f.name)

/-- The criteria of a query text. -/
def compileQuery (s : Surface σ) (mode : Mode) (query : String) : Except QueryError Criteria :=
  match compile s.datatype s.translations mode query with
  | .ok c => .ok c
  | .error near => .error (.unreadable near)

/-- Plan a search.  The query is judged before the grouping. -/
def make (s : Surface σ) (context : Context) (p : SearchParams) : Except QueryError (Plan σ) := do
  let mode := p.mode.getD s.defaultMode
  let criteria ← compileQuery s mode p.query
  let all := criteria.and (context.ambient s.timePath)
  let names := Grouping.distinct p.groupby
  if names.isEmpty then
    return ⟨s, context, p.query, mode, criteria, all, ⟨[], [], none, [], none⟩, listing s, p.offset,
      p.limit⟩
  else
    let grouping ← Grouping.ofNames s context.zone names
    return ⟨s, context, p.query, mode, criteria, all, grouping, grouping.retrievals, p.offset,
      p.limit⟩

/-- A search that counts groups. -/
def isAggregate (p : Plan σ) : Bool := !p.grouping.names.isEmpty

/-- Order the first retrieval of a field. -/
def orderField (path : String) (d : Direction) : List Retrieval → List Retrieval
  | [] => []
  | r :: rs => if r.source = .field path then r.ordered d :: rs else r :: orderField path d rs

/-- The plan with its rows ordered by a field; a field that is not retrieved changes nothing. -/
def sortedBy (p : Plan σ) (field : String) (d : Direction) : Plan σ :=
  { p with retrievals := orderField (p.surface.qualify field) d p.retrievals }

/-- The number of rows before a page; pages count from 1, and page 0 is the first as well. -/
def pageOffset (page rows : Nat) : Nat := min ((page - 1) * rows) maxSize

/-- The order of a page: the one asked for when its field is declared, else the default field,
latest first.  A direction that is no direction sorts nothing. -/
def sortedPage (p : Plan σ) (sort : Option (String × String)) : Plan σ :=
  match sort with
  | some (field, direction) =>
    if (p.surface.fieldInfo? field).isSome then
      match Direction.ofName? direction with
      | some d => p.sortedBy field d
      | none => p
    else p.sortedBy p.surface.defaultSort .desc
  | none => p.sortedBy p.surface.defaultSort .desc

/-- Plan one page of a search. -/
def prepare (s : Surface σ) (context : Context) (p : SearchParams) (page rows : Nat)
    (sort : Option (String × String)) : Except QueryError (Plan σ) :=
  (make s context { p with offset := pageOffset page rows, limit := some rows }).map
    (·.sortedPage sort)

/-- The width of the bars of the chart of a plan. -/
def step (p : Plan σ) : Step :=
  match p.grouping.unit with
  | some unit => ⟨unit, 1⟩
  | none => p.context.step

/-- The request that a plan sends.  Matches are marked in listings that search for something. -/
def request (p : Plan σ) : Provider.Request :=
  ⟨p.surface.datatype, p.retrievals, p.allCriteria, p.limit, p.offset, p.isAggregate,
    if p.isAggregate || p.criteria.isEmpty then none else some p.surface.highlight⟩

end Plan

end EventSearch.Search
