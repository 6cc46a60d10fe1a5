/-
# `EventSearch.Query.Compiler` — from queries to criteria

Both languages compile to criteria over qualified paths.  `lucene` fields are qualified as they
are written.  `criterion` fields go through the translation table: a logical field becomes one
leaf for each physical path, any of which may pass a positive test and all of which must pass a
negated one.
-/
import EventSearch.Query.CriteriaText
import EventSearch.Query.CriterionTree
import EventSearch.Query.Translation

namespace EventSearch.Query

open EventSearch.Text

/-! ## `lucene` -/

namespace Term

/-- The path a term tests. -/
def path (datatype : String) (t : Term) : String :=
  match t.field with
  | some field => datatype ++ "." ++ field.toText
  | none => datatype ++ "." ++ anyField

/-- The operator and value by which an operand is compared. -/
def comparison : Operand → String × String
  | .pattern p => ("~", p)
  | o => if o.hasWildcard then ("~", o.globPattern) else ("==", o.text)

/-- An operator, or its negation. -/
def signedOperator (negated : Bool) (operator : String) : String :=
  if negated then negate operator else operator

/-- The leaf of one end of a range; an open end has none. -/
def boundLeaves (path : String) (negated : Bool) (operator : String) (bound : Operand) :
    List Criteria :=
  if bound.isOpenBound then []
  else [.test path (signedOperator negated operator) bound.text]

/-- The criteria of a range.  With both ends open it tests presence; negated, any end that is
missed suffices. -/
def compileRange (path : String) (lowOperator highOperator : String) (low high : Operand)
    (negated : Bool) : Criteria :=
  match boundLeaves path negated lowOperator low ++ boundLeaves path negated highOperator high with
  | [] => if negated then .absent path else .present path
  | leaves => if negated then .anyOf leaves else .allOf leaves

/-- The criteria of a term.  A negated empty value tests absence. -/
def compile (datatype : String) (negated : Bool) (t : Term) : Criteria :=
  let path := t.path datatype
  match t with
  | .value _ operand _ =>
    if negated && operand.isEmptyText then .absent path
    else
      let (operator, wanted) := comparison operand
      .test path (signedOperator negated operator) wanted
  | .inclusive _ low high => compileRange path ">=" "<=" low high negated
  | .exclusive _ low high => compileRange path ">" "<" low high negated

end Term

/-- The criteria of a `lucene` query. -/
def LuceneTree.compile (datatype : String) : LuceneTree → Criteria
  | .combine left .and right => (left.compile datatype).and (right.compile datatype)
  | .combine left .or right => (left.compile datatype).or (right.compile datatype)
  | .group inner => inner.compile datatype
  | .signed sign term => term.compile datatype (sign.any Sign.isNegation)

/-! ## `criterion` -/

/-- The criteria of a test of a field. -/
def compileTest (datatype : String) (table : TranslationTable) (field operator : String)
    (value : Option String) : Criteria :=
  match table.get? field with
  | none => .leaf ⟨datatype ++ "." ++ field, operator, value⟩
  | some translation =>
    let leaves : List Criteria :=
      translation.paths.map fun path => .leaf ⟨path, operator, value.map translation.applyTo⟩
    if isNegated operator then .allOf leaves else .anyOf leaves

/-- The criteria of a `criterion` query. -/
def CriterionTree.compile (datatype : String) (table : TranslationTable) :
    CriterionTree → Criteria
  | .compare path operator value => compileTest datatype table path operator value
  | .and left right => (left.compile datatype table).and (right.compile datatype table)
  | .or left right => (left.compile datatype table).or (right.compile datatype table)

/-! ## Text -/

/-- The criteria of a query text, or the part of it that could not be read.  A blank text sets no
condition. -/
def compile (datatype : String) (table : TranslationTable) (mode : Mode) (query : String) :
    Except String Criteria :=
  if allBlank query.toList then .ok .empty
  else match mode with
    | .lucene => (LuceneTree.read query).map (·.compile datatype)
    | .criterion => (CriterionTree.read query).map (·.compile datatype table)

end EventSearch.Query
