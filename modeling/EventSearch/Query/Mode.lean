/-
# `EventSearch.Query.Mode` — the two query languages

A search is written in one of two languages, `lucene` or `criterion`.  This module holds their
names and the table of how each spells its operators.
-/
import EventSearch.Text.Casing

namespace EventSearch.Query

open EventSearch.Text

/-- A query language. -/
inductive Mode where
  /-- `field:value AND other:[1 TO 5]` -/
  | lucene
  /-- `field = "value" && !other` -/
  | criterion
  deriving DecidableEq

namespace Mode

def name : Mode → String
  | .lucene => "lucene"
  | .criterion => "criterion"

/-- The language of a name, in any case. -/
def ofName? (s : String) : Option Mode :=
  let s := lower s
  if s = "lucene" then some .lucene
  else if s = "criterion" then some .criterion
  else none

/-- The language of a name in lower case. -/
def ofExactName? (s : String) : Option Mode := [Mode.lucene, .criterion].find? (·.name = s)

end Mode

/-- How a language spells its operators; the connectives may have several spellings. -/
structure OperatorTable where
  equal : String
  notEqual : String
  substring : String
  notSubstring : Option String
  conjunctions : List String
  disjunctions : List String

def Mode.operators : Mode → OperatorTable
  | .lucene => ⟨"", "-", "", none, ["", "AND"], ["OR"]⟩
  | .criterion => ⟨"=", "!=", "<>", some "!<>", ["&&"], ["||"]⟩

/-- What stands between criteria that must all hold: the first spelling of the conjunction between
spaces, or one space when that spelling is empty. -/
def OperatorTable.joiner (t : OperatorTable) : String :=
  match t.conjunctions.head? with
  | none | some "" => " "
  | some word => " " ++ word ++ " "

end EventSearch.Query
