/-
# `EventSearch.Search.Error` — why a search fails

A search may fail while its query is read, while it is planned, or in the provider.
-/
import EventSearch.Provider.Error

namespace EventSearch.Search

open EventSearch.Provider (Error)

inductive QueryError where
  /-- The part of the query that could not be read. -/
  | unreadable (near : String)
  /-- Several time units to group by. -/
  | manyUnits (names : List String)
  /-- A field whose values make no groups. -/
  | notGroupable (field : String)
  | unknownPath (path : String)
  | provider (error : Error)
  deriving DecidableEq

def QueryError.message : QueryError → String
  | .unreadable near => "Syntax error near '" ++ near ++ "'"
  | .manyUnits names =>
    "Validation error: only one time unit can be used for grouping, got: " ++
      ", ".intercalate names
  | .notGroupable field => "Validation error: field '" ++ field ++ "' cannot be grouped"
  | .unknownPath path => "Unknown path: " ++ path
  | .provider error => "Provider error: " ++ error.message

end EventSearch.Search
