/-
# `EventSearch.Search.Link` — links to the events behind a row

A link is a search as the parameters of a URL.  For a row of a grouped search it is the query of
the search narrowed by one criterion for each group, and by a window of its own for a time bucket.
-/
import EventSearch.Search.Plan
import EventSearch.Text.Percent

namespace EventSearch.Search

open EventSearch.Text EventSearch.Calendar EventSearch.Data EventSearch.Query

/-! ## Parameters -/

structure Link where
  query : String
  mode : Mode
  params : Params
  deriving DecidableEq

namespace Link

/-- The value of a parameter. -/
def get? (l : Link) (key : String) : Option String := find? key l.params

/-- Replace a parameter, or add it at the end. -/
def set (l : Link) (key value : String) : Link := { l with params := upsert key value l.params }

/-- Query, mode and parameters as pairs. -/
def pairs (l : Link) : Params := ("query", l.query) :: ("query_mode", l.mode.name) :: l.params

/-- A key and a value for a URL. -/
def pairText (p : String × String) : String := Percent.encode p.1 ++ "=" ++ Percent.encode p.2

/-- The link as a URL. -/
def toUrl (l : Link) (base : String) : String := base ++ "?" ++ "&".intercalate (l.pairs.map pairText)

end Link

/-- Criteria as parameters of a search in `criterion`. -/
def criteriaParams (c : Criteria) (datatype : String) : Params :=
  [("query", c.toQuery .criterion (some datatype)), ("query_mode", Mode.criterion.name)]

/-! ## Criteria of groups -/

/-- A test of a field for a value, or for absence. -/
def formatCriterion (path : String) (value : Option String) (mode : Mode) : String :=
  match mode, value with
  | .lucene, some v => path ++ ":" ++ luceneValue v
  | .lucene, none => "-" ++ path ++ ":[* TO *]"
  | .criterion, some v => path ++ " = " ++ criterionValue v
  | .criterion, none => "!" ++ path

/-- The fields of some columns without their datatype, and the texts of their cells. -/
def namedCells (datatype : String) (retrievals : List Retrieval) (cells : List Value) :
    List (String × Option String) :=
  (retrievals.zip cells).filterMap fun (r, cell) =>
    match r.source with
    | .field path => some (stripDatatype datatype path, cell.criterionText?)
    | _ => none

/-- A test of the physical columns of a translated field, for `lucene` does not translate: any of
the columns that have a value, or the absence of all. -/
def physicalCriterion (datatype : String) (retrievals : List Retrieval) (cells : List Value) :
    String :=
  let named := namedCells datatype retrievals cells
  let present := named.filterMap fun (field, text) =>
    text.map fun t => formatCriterion field (some t) .lucene
  match present with
  | [] => " AND ".intercalate (named.map fun (field, _) => formatCriterion field none .lucene)
  | [one] => one
  | several => "(" ++ " OR ".intercalate several ++ ")"

namespace Plan

variable {σ : Type}

/-! ## Links of rows -/

/-- The query of the plan as the first part of a longer one; alternatives need parentheses. -/
def queryPart (p : Plan σ) : List String :=
  let text := trimmed p.query
  if text.isEmpty then []
  else match p.criteria with
    | .disj _ => ["(" ++ text ++ ")"]
    | _ => [text]

/-- `width` elements from `start` on, or none when there are fewer. -/
def slice {α : Type} (start width : Nat) (xs : List α) : List α :=
  if start + width ≤ xs.length then (xs.drop start).take width else []

/-- The first cell that is not empty. -/
def firstCell (cells : List Value) : Value := (cells.find? fun v => !v.isNull).getD .null

/-- Parameters with the window of the bucket that starts at an instant. -/
def bucketParams (p : Plan σ) (step : Step) (start : Timestamp) (params : Params) : Params :=
  let stop := (step.bucketEnd? start p.context.zone).getD start
  (Context.windowParams start.unixSeconds stop.unixSeconds).foldl
    (fun ps param => upsert param.1 param.2 ps) params

/-- The criterion of a group that is no time unit. -/
def groupCriterion (p : Plan σ) (name : String) (retrievals : List Retrieval)
    (cells : List Value) : String :=
  if p.mode = .lucene && p.surface.translations.contains name then
    physicalCriterion p.surface.datatype retrievals cells
  else formatCriterion name (firstCell cells).criterionText? p.mode

/-- The query parts and parameters of a row: `cursor` counts the cells that earlier groups took. -/
def narrow (p : Plan σ) (step : Step) (values : List Value) (cursor : Nat) (params : Params) :
    List (String × Nat) → List String × Params
  | [] => ([], params)
  | (name, width) :: groups =>
    let cells := slice cursor width values
    if TimeUnit.isTemporal name then
      let params := match (firstCell cells).asTimestamp? with
        | some start => p.bucketParams step start params
        | none => params
      narrow p step values (cursor + width) params groups
    else
      let part := p.groupCriterion name (slice (cursor + 1) width p.retrievals) cells
      let (parts, params) := narrow p step values (cursor + width) params groups
      (part :: parts, params)

/-- The link to the events behind a row, given its cells without the count. -/
def link (p : Plan σ) (values : List Value) (step : Step) : Link :=
  let (parts, params) :=
    p.narrow step values 0 p.context.urlParams (p.grouping.names.zip p.grouping.widths)
  let params := match p.limit with
    | some n => upsert "limit" (toString n) params
    | none => params
  ⟨p.mode.operators.joiner.intercalate (p.queryPart ++ parts), p.mode, params⟩

end Plan

end EventSearch.Search
