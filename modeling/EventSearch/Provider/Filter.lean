/-
# `EventSearch.Provider.Filter` — criteria that test records

Criteria are checked against the declared fields and turned into a filter, once for each search;
the filter then tests records.  The first leaf that cannot be tested, in the order of the tree,
decides the error, and of one leaf the path comes before the operator and the pattern.

A leaf tests one field, or, as free text, every value of a record.  Free text is found anywhere
in a value and without regard to case.  A negated leaf accepts exactly the records that the same
leaf without negation rejects, records without the field included.
-/
import EventSearch.Data.Dataset
import EventSearch.Pattern.Matching
import EventSearch.Pattern.Reading
import EventSearch.Provider.Error
import EventSearch.Query.CriteriaText

namespace EventSearch.Provider

open EventSearch.Text EventSearch.Number EventSearch.Calendar EventSearch.Data EventSearch.Query

/-! ## Conditions on values -/

/-- An order test. -/
inductive OrderTest where
  | greater
  | atLeast
  | less
  | atMost
  deriving DecidableEq

def OrderTest.accepts : OrderTest → Ordering → Bool
  | .greater, o => o = .gt
  | .atLeast, o => o ≠ .lt
  | .less, o => o = .lt
  | .atMost, o => o ≠ .gt

/-- A condition on a value. -/
inductive Predicate where
  | present
  | equal (wanted : String)
  | holdsPart (part : String)
  /-- The part is in lower case, and so is the text it is looked for in. -/
  | holdsLowered (part : String)
  | matchesPattern (pattern : Pattern)
  | compares (test : OrderTest) (operand : String)

/-- Whether a value is what a text stands for, read by the kind of the value. -/
def valueEquals (value : Value) (wanted : String) : Bool :=
  match value with
  | .null => false
  | .bool b => wanted = (if b then "true" else "false")
  | .integer _ | .float _ =>
    match value.asDouble?, Double.read? (trim wanted.toList) with
    | some x, some y => x.same y
    | _, _ => false
  | .timestamp t => (readTimestamp? wanted).any t.same
  | .text s => s = wanted

/-- The order of a value and an operand, read by the kind of the value. -/
def compareValue? (value : Value) (operand : String) : Option Ordering :=
  match value with
  | .integer _ | .float _ =>
    (Double.read? (trim operand.toList)).bind fun y => value.asDouble?.bind (·.compare? y)
  | .timestamp t => (readTimestamp? operand).map t.order
  | .text s => some (Value.orderText s operand)
  | .null | .bool _ => none

/-- Whether a part occurs in a text. -/
def textHolds (s part : String) : Bool := hasPart part.toList s.toList

namespace Predicate

/-- Whether the value of a field meets a condition. -/
def test (p : Predicate) (value : Value) : Bool :=
  match p with
  | .present => true
  | .equal wanted => valueEquals value wanted
  | .holdsPart part => textHolds value.display part
  | .holdsLowered part => textHolds (lower value.display) part
  | .matchesPattern pattern => pattern.foundIn value.display.toList
  | .compares test operand => (compareValue? value operand).any test.accepts

/-- Whether a value meets a condition as free text. -/
def testFreeText (p : Predicate) (value : Value) : Bool :=
  match p with
  | .equal wanted => textHolds (lower value.display) (lower wanted)
  | p => p.test value

/-- The condition of an operator without negation and a value. -/
def ofOperator (operator base value : String) : Except Error Predicate :=
  let pattern (ignoreCase : Bool) : Except Error Predicate :=
    match Pattern.read ignoreCase value with
    | .ok p => .ok (.matchesPattern p)
    | .error cause => .error (.invalidCriteria (.invalidPattern value cause))
  if base = "==" ∨ base = "=" then .ok (.equal value)
  else if base = "<>" then .ok (.holdsPart value)
  else if base = "<>*" then .ok (.holdsLowered (lower value))
  else if base = "~" then pattern false
  else if base = "~*" then pattern true
  else if base = ">" then .ok (.compares .greater value)
  else if base = ">=" then .ok (.compares .atLeast value)
  else if base = "<" then .ok (.compares .less value)
  else if base = "<=" then .ok (.compares .atMost value)
  else .error (.invalidCriteria (.unsupportedOperator operator))

end Predicate

/-! ## Fields -/

/-- The declared fields of a datatype. -/
structure Scope where
  datatype : String
  dataset : Dataset

namespace Scope

/-- The declared field of a qualified path. -/
def field (scope : Scope) (path : String) : Except Error String :=
  match dropLead? (scope.datatype ++ ".") path with
  | some name =>
    if (scope.dataset.fieldType? name).isSome then .ok name else .error (.unknownPath path)
  | none => .error (.unknownPath path)

end Scope

/-- What a leaf looks at. -/
inductive Target where
  | field (name : String)
  /-- Every value of a record. -/
  | anywhere
  deriving DecidableEq

/-- What a path of the criteria means. -/
def Scope.target (scope : Scope) (path : String) : Except Error Target :=
  if dropLead? (scope.datatype ++ ".") path = some anyField then .ok .anywhere
  else (scope.field path).map .field

/-! ## Filters -/

/-- A leaf that can be tested. -/
structure LeafFilter where
  target : Target
  predicate : Predicate
  negated : Bool

namespace LeafFilter

/-- The filter of a leaf. -/
def compile (scope : Scope) (leaf : Leaf) : Except Error LeafFilter := do
  let target ← scope.target leaf.path
  let negated := isNegated leaf.operator
  match leaf.value with
  | none => return ⟨target, .present, negated⟩
  | some value =>
    let predicate ← Predicate.ofOperator leaf.operator (baseOperator leaf.operator) value
    return ⟨target, predicate, negated⟩

/-- Whether a record has what the leaf looks for, negation aside. -/
def hits (f : LeafFilter) (record : Record) : Bool :=
  match f.target with
  | .field name => (find? name record).any f.predicate.test
  | .anywhere => record.any fun cell => f.predicate.testFreeText cell.2

def accepts (f : LeafFilter) (record : Record) : Bool := f.hits record != f.negated

/-- The text that a leaf of free text looks for. -/
def freeText? (f : LeafFilter) : Option String :=
  if f.target = .anywhere && !f.negated then
    match f.predicate with
    | .equal wanted => some wanted
    | .holdsPart part | .holdsLowered part => some part
    | _ => none
  else none

end LeafFilter

inductive Filter where
  | all
  | leaf (test : LeafFilter)
  | conj (children : List Filter)
  | disj (children : List Filter)

namespace Filter

mutual

/-- The filter of criteria, or the first thing in them that cannot be tested. -/
def compile (scope : Scope) : Criteria → Except Error Filter
  | .empty => .ok .all
  | .leaf test => (LeafFilter.compile scope test).map .leaf
  | .conj children => (compileAll scope children).map .conj
  | .disj children => (compileAll scope children).map .disj

/-- The filters of a list of criteria. -/
def compileAll (scope : Scope) : List Criteria → Except Error (List Filter)
  | [] => .ok []
  | c :: cs =>
    match compile scope c with
    | .error e => .error e
    | .ok f => (compileAll scope cs).map (f :: ·)

end

mutual

/-- Whether a record passes. -/
def accepts (record : Record) : Filter → Bool
  | .all => true
  | .leaf test => test.accepts record
  | .conj children => acceptsAll record children
  | .disj children => acceptsAny record children

def acceptsAll (record : Record) : List Filter → Bool
  | [] => true
  | f :: fs => accepts record f && acceptsAll record fs

def acceptsAny (record : Record) : List Filter → Bool
  | [] => false
  | f :: fs => accepts record f || acceptsAny record fs

end

mutual

/-- The texts that free text looks for, in the order of the tree. -/
def freeTexts : Filter → List String
  | .all => []
  | .leaf test => test.freeText?.toList
  | .conj children | .disj children => freeTextsOfAll children

def freeTextsOfAll : List Filter → List String
  | [] => []
  | f :: fs => freeTexts f ++ freeTextsOfAll fs

end

end Filter

end EventSearch.Provider
