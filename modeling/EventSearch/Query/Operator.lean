/-
# `EventSearch.Query.Operator` — operators and their negations

An operator is a short text such as `==`, `<>*` or `!~`.  One that starts with `!` is the negation
of the rest.  The order operators negate each other.
-/
import EventSearch.Text.Pieces

namespace EventSearch.Query

open EventSearch.Text

/-- An operator that starts with `!`. -/
def isNegated (operator : String) : Bool := operator.toList.head? = some '!'

/-- An operator without the `!` it starts with. -/
def baseOperator (operator : String) : String := (dropLead? "!" operator).getD operator

/-- The operator that holds where `operator` fails. -/
def negate (operator : String) : String :=
  if operator = "==" ∨ operator = "=" then "!="
  else if operator = "!=" then "=="
  else if operator = ">=" then "<"
  else if operator = ">" then "<="
  else if operator = "<=" then ">"
  else if operator = "<" then ">="
  else if operator = "<>" then "!<>"
  else match dropLead? "!" operator with
    | some positive => positive
    | none => "!" ++ operator

end EventSearch.Query
