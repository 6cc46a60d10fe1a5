/-
# `EventSearch.Provider.Error` — why a provider fails

The causes of failure while criteria are checked, rows are rebuilt and data is loaded, and the one
place where they are put into words.
-/
import EventSearch.Data.Value
import EventSearch.Pattern.Reading

namespace EventSearch.Provider

open EventSearch.Data

/-- Criteria that cannot be evaluated. -/
inductive CriteriaFault where
  | unsupportedOperator (operator : String)
  | invalidPattern (pattern : String) (cause : Pattern.Refusal)
  /-- Terms to be marked that take too much space together. -/
  | tooManyTerms
  deriving DecidableEq

/-- A row from which no timestamp can be rebuilt. -/
inductive RowFault where
  /-- The row ends before the first component. -/
  | noComponents (index width : Nat)
  | notWhole (cell : Value)
  /-- Components that are no date and time of day. -/
  | noDate (components : List Int)
  deriving DecidableEq

inductive Error where
  | unknownDatatype (datatype : String)
  | unknownPath (path : String)
  | invalidCriteria (fault : CriteriaFault)
  | malformedRow (fault : RowFault)
  /-- Data of a wrong form; the text shows what was found. -/
  | notARecord (found : String)
  /-- A file that cannot be read. -/
  | unreadable
  /-- Content that is no JSON. -/
  | invalidJson
  /-- Content that is no CSV. -/
  | invalidCsv
  deriving DecidableEq

def CriteriaFault.message : CriteriaFault → String
  | .unsupportedOperator operator => "unsupported operator '" ++ operator ++ "'"
  | .invalidPattern pattern _ => "invalid regex '" ++ pattern ++ "'"
  | .tooManyTerms => Pattern.Refusal.message .tooLarge

def RowFault.message : RowFault → String
  | .noComponents index width =>
    "expected date components from column " ++ toString index ++ ", row has " ++ toString width ++
      " columns"
  | .notWhole cell => "date component is not an integer: " ++ cell.inspect
  | .noDate components =>
    "invalid date components: [" ++ ", ".intercalate (components.map toString) ++ "]"

def Error.message : Error → String
  | .unknownDatatype datatype => "Unknown datatype: " ++ datatype
  | .unknownPath path => "Unknown path: " ++ path
  | .invalidCriteria fault => "Invalid criteria: " ++ fault.message
  | .malformedRow fault => "Malformed row: " ++ fault.message
  | .notARecord found => "Dataset error: expected a JSON object, got: " ++ found
  | .unreadable => "IO error"
  | .invalidJson => "JSON error"
  | .invalidCsv => "CSV error"

end EventSearch.Provider
