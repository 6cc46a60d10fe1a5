/-
# `EventSearch.Provider.Basic` — what a search asks of its data

A provider runs requests and describes its fields.  It may keep a state of its own, so that a
request may be answered differently when it is asked again; a provider without state has the
state `Unit`.  A result is a list of rows to be read once, some of which may be failures, and the
number of matches before paging.
-/
import EventSearch.Data.Dataset
import EventSearch.Data.Retrieval
import EventSearch.Highlight
import EventSearch.Provider.Error
import EventSearch.Query.Criteria

namespace EventSearch.Provider

open EventSearch.Data EventSearch.Query

/-- Everything a provider needs to run a search. -/
structure Request where
  datatype : String
  retrievals : List Retrieval
  criteria : Criteria
  /-- No limit when absent. -/
  limit : Option Nat
  offset : Nat
  /-- Count the records of each group instead of listing them. -/
  aggregate : Bool
  highlight : Option Highlight
  deriving DecidableEq

/-- The rows not read yet and the number of matches before paging. -/
structure ResultSet where
  rows : List (Except Error Row)
  total : Nat

/-- A result whose rows are all good. -/
def ResultSet.ofRows (rows : List Row) (total : Nat) : ResultSet := ⟨rows.map .ok, total⟩

/-- What is known of a field. -/
structure PathInfo where
  path : String
  fieldType : FieldType
  /-- Times are filtered by the window and not by the query. -/
  filterable : Bool
  /-- Structured values make no groups. -/
  groupable : Bool
  deriving DecidableEq

def PathInfo.ofType (path : String) (type : FieldType) : PathInfo :=
  ⟨path, type, type ≠ .datetime, type ≠ .object⟩

end EventSearch.Provider

namespace EventSearch

open EventSearch.Provider

/-- A backend with states in `σ`. -/
structure Provider (σ : Type) where
  execute : Request → σ → Except Error ResultSet × σ
  /-- The qualified fields of a datatype. -/
  paths : String → Except Error (List String)
  pathInfo : String → Except Error PathInfo
  /-- The name of a datatype as it is shown. -/
  label : String → String

end EventSearch
