/-
# `EventSearch.Query.CriteriaText` — criteria as query text

Compiled criteria written in either language.  `lucene` has fewer operators than `criterion`: a
search for a part of a text and every search by pattern become patterns between slashes, and an
order test becomes a range with one open end.
-/
import EventSearch.Query.Criteria
import EventSearch.Query.Quoting

namespace EventSearch.Query

open EventSearch.Text

/-- The field searched by terms that name none. -/
def anyField : String := "_raw_query"

/-- A path without a datatype in front of it. -/
def stripDatatype (datatype : Option String) (path : String) : String :=
  match datatype with
  | none => path
  | some d => (dropLead? (d ++ ".") path).getD path

namespace Leaf

/-- The operators that match a search pattern. -/
def patternOperators : List String := ["~", "!~", "~*", "!~*"]

/-- The operators that look for a part of a text. -/
def partOperators : List String := ["<>", "!<>", "<>*", "!<>*"]

/-- A leaf in `lucene`. -/
def toLucene (path operator : String) (value : Option String) : String :=
  let field := if path = anyField then "" else path ++ ":"
  let sign := if isNegated operator then "-" else ""
  match value with
  | none => sign ++ field ++ "[* TO *]"
  | some v =>
    if operator = ">=" then field ++ "[" ++ luceneValue v ++ " TO *]"
    else if operator = ">" then field ++ "\x7b" ++ luceneValue v ++ " TO *\x7d"
    else if operator = "<=" then field ++ "[* TO " ++ luceneValue v ++ "]"
    else if operator = "<" then field ++ "\x7b* TO " ++ luceneValue v ++ "\x7d"
    else if patternOperators.contains operator then sign ++ field ++ slashed v.toList
    else if partOperators.contains operator then
      sign ++ field ++ slashed (['.', '*'] ++ escapePattern v.toList ++ ['.', '*'])
    else sign ++ field ++ luceneValue v

/-- A leaf in `criterion`. -/
def toCriterion (path operator : String) (value : Option String) : String :=
  match value with
  | none => if isNegated operator then "!" ++ path else path
  | some v => path ++ " " ++ operator ++ " " ++ criterionValue v

/-- A leaf in either language. -/
def toText (mode : Mode) (datatype : Option String) (l : Leaf) : String :=
  let path := stripDatatype datatype l.path
  match mode with
  | .lucene => toLucene path l.operator l.value
  | .criterion => toCriterion path l.operator l.value

end Leaf

namespace Criteria

/-- What stands between criteria that must all hold. -/
def conjText : Mode → String
  | .lucene => " AND "
  | .criterion => " && "

/-- What stands between alternatives. -/
def disjText : Mode → String
  | .lucene => " OR "
  | .criterion => " || "

/-- Several parts as one; inside a larger tree they need parentheses. -/
def joined (nested : Bool) (between : String) (parts : List String) : String :=
  if nested && parts.length > 1 then "(" ++ between.intercalate parts ++ ")"
  else between.intercalate parts

mutual

/-- The text of a tree, on its own or nested in a larger one. -/
def render (mode : Mode) (datatype : Option String) (nested : Bool) : Criteria → String
  | .empty => ""
  | .leaf test => test.toText mode datatype
  | .conj children => joined nested (conjText mode) (renderParts mode datatype children)
  | .disj children => joined nested (disjText mode) (renderParts mode datatype children)

/-- The texts of the children; those without condition are left out. -/
def renderParts (mode : Mode) (datatype : Option String) : List Criteria → List String
  | [] => []
  | .empty :: cs => renderParts mode datatype cs
  | c :: cs => render mode datatype true c :: renderParts mode datatype cs

end

/-- The text of criteria in a language, paths without the given datatype. -/
def toQuery (mode : Mode) (datatype : Option String) (c : Criteria) : String :=
  render mode datatype false c

/-- The text of criteria, with qualified paths. -/
def toText (c : Criteria) : String := c.toQuery .criterion none

end Criteria

end EventSearch.Query
