/-
# `EventSearch.Pattern.Property.NamedSet` — sets of characters with names

The tables of character properties follow version 16 of the Unicode character database.  An entry
stands under every name of its property or value.
-/
import EventSearch.Text.CharSet

namespace EventSearch.Pattern

open EventSearch.Text

/-- A table of characters under its names, which are in lower case and without separators. -/
structure NamedSet where
  names : List String
  table : List String

/-- The set of a name. -/
def NamedSet.find? (entries : List NamedSet) (name : String) : Option CharSet :=
  (entries.find? (·.names.contains name)).map fun e => .ofLines e.table

end EventSearch.Pattern
