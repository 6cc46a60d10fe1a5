/-
# `EventSearch.Provider.Memory` — searches over datasets in memory

A provider without state over datasets that are held under the names of their datatypes.  A search
is checked in the order datatype, criteria, retrieval paths; then records are filtered, turned
into rows, sorted and paged.  The total counts the rows before paging.
-/
import EventSearch.Provider.Basic
import EventSearch.Provider.Grouping
import EventSearch.Provider.Marking

namespace EventSearch.Provider

open EventSearch.Text EventSearch.Data

/-- Datasets by datatype. -/
abbrev Store := List (String × Dataset)

namespace Store

/-- The datasets of a list of pairs; the last one of a name counts. -/
def ofList (pairs : List (String × Dataset)) : Store :=
  pairs.foldl (fun store p => upsert p.1 p.2 store) []

/-- The dataset of a datatype. -/
def dataset (store : Store) (datatype : String) : Except Error Dataset :=
  match find? datatype store with
  | some d => .ok d
  | none => .error (.unknownDatatype datatype)

/-! ## Searching -/

/-- The rows of the records that pass a filter, sorted. -/
def allRows (request : Request) (filter : Filter) (columns : List Column) (records : List Record) :
    List Row :=
  let found := records.filter fun record => filter.accepts record
  let rows := if request.aggregate then groupRows columns found else found.map (rowOf columns)
  sortRows request.retrievals rows

/-- One page of rows. -/
def page (offset : Nat) (limit : Option Nat) (rows : List Row) : List Row :=
  match limit with
  | none => rows.drop offset
  | some n => (rows.drop offset).take n

/-- Rows with the matches of free text marked, when that is asked for. -/
def markRows (highlight : Option Highlight) (terms : List String) (rows : List Row) :
    Except Error (List Row) :=
  match highlight with
  | none => .ok rows
  | some h =>
    if Highlight.termsFit terms then .ok (rows.map fun row => row.map (h.markCell terms))
    else .error (.invalidCriteria .tooManyTerms)

/-- The result of a search. -/
def execute (store : Store) (request : Request) : Except Error ResultSet := do
  let dataset ← store.dataset request.datatype
  let scope : Scope := ⟨request.datatype, dataset⟩
  let filter ← Filter.compile scope request.criteria
  let columns ← Column.ofRetrievals scope request.retrievals
  let rows := allRows request filter columns dataset.records
  let shown ← markRows request.highlight filter.freeTexts (page request.offset request.limit rows)
  return .ofRows shown rows.length

/-! ## Fields -/

/-- The qualified fields of a datatype. -/
def paths (store : Store) (datatype : String) : Except Error (List String) :=
  (store.dataset datatype).map fun d => d.fields.map fun f => datatype ++ "." ++ f.1

/-- What is known of a qualified field; its datatype ends at the first point. -/
def pathInfo (store : Store) (path : String) : Except Error PathInfo :=
  match splitOnce? '.' path with
  | none => .error (.unknownPath path)
  | some (datatype, field) => do
    let dataset ← store.dataset datatype
    match dataset.fieldType? field with
    | some type => .ok (.ofType path type)
    | none => .error (.unknownPath path)

/-- The provider of a store. -/
def provider (store : Store) : Provider Unit where
  execute request state := (store.execute request, state)
  paths := store.paths
  pathInfo := store.pathInfo
  label datatype := datatype

end Store

end EventSearch.Provider
