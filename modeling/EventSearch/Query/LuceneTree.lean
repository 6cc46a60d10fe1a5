/-
# `EventSearch.Query.LuceneTree` — queries of the `lucene` language

The tree of a query, as it is read and before anything is compiled, and its text.  Values keep the
form they were typed in, so that the text of a tree reads back as the same tree.
-/
import EventSearch.Query.BareText

namespace EventSearch.Query

open EventSearch.Text

/-! ## Trees -/

/-- A connective between two criteria. -/
inductive Connective where
  | and
  | or
  deriving DecidableEq

/-- What may stand before a term. -/
inductive Sign where
  /-- `NOT ` -/
  | not
  /-- `!` -/
  | bang
  /-- `-` -/
  | minus
  /-- `+` -/
  | plus
  deriving DecidableEq

def Sign.isNegation : Sign → Bool
  | .plus => false
  | _ => true

/-- One part of a field path, with an index in parentheses or without. -/
structure PathSegment where
  name : String
  index : Option String
  deriving DecidableEq

/-- A dotted field path such as `http.headers(0).name`. -/
structure FieldPath where
  segments : List PathSegment
  deriving DecidableEq

/-- A value as it was typed. -/
inductive Operand where
  /-- In single quotes; escapes are resolved. -/
  | single (text : String)
  /-- In double quotes; escapes are resolved. -/
  | double (text : String)
  /-- A search pattern between slashes; escaped slashes are resolved. -/
  | pattern (text : String)
  /-- Without quotes, escapes and wildcards included. -/
  | bare (raw : String)
  deriving DecidableEq

/-- A suffix of a value.  It is read and kept, and changes nothing in what is found. -/
inductive Modifier where
  | boost (n : Nat)
  | fuzzy (n : Option Nat)
  deriving DecidableEq

/-- A single test. -/
inductive Term where
  /-- `[field:]value[modifier]` -/
  | value (field : Option FieldPath) (operand : Operand) (modifier : Option Modifier)
  /-- `[field:][low TO high]`, ends included -/
  | inclusive (field : Option FieldPath) (low high : Operand)
  /-- The same in braces, ends excluded. -/
  | exclusive (field : Option FieldPath) (low high : Operand)
  deriving DecidableEq

/-- A query. -/
inductive LuceneTree where
  | combine (left : LuceneTree) (op : Connective) (right : LuceneTree)
  | signed (sign : Option Sign) (term : Term)
  | group (inner : LuceneTree)
  deriving DecidableEq

def Term.field : Term → Option FieldPath
  | .value field _ _ | .inclusive field _ _ | .exclusive field _ _ => field

namespace Operand

/-- The characters kept for a value. -/
def raw : Operand → String
  | .single s | .double s | .pattern s | .bare s => s

/-- The text a value stands for. -/
def text : Operand → String
  | .bare s => String.ofList (BareText.resolved s.toList)
  | o => o.raw

/-- Quotes with nothing between them. -/
def isEmptyText : Operand → Bool
  | .single s | .double s => s.isEmpty
  | .pattern _ | .bare _ => false

/-- A bare value with a wildcard. -/
def hasWildcard : Operand → Bool
  | .bare s => BareText.hasWildcard s.toList
  | _ => false

/-- A bare `*`, which leaves one end of a range open. -/
def isOpenBound (o : Operand) : Bool := o = .bare "*"

/-- The search pattern of a value with wildcards. -/
def globPattern (o : Operand) : String := String.ofList (BareText.globPattern o.raw.toList)

end Operand

/-! ## Text -/

def PathSegment.toText (s : PathSegment) : String :=
  match s.index with
  | none => s.name
  | some index => s.name ++ "(" ++ index ++ ")"

def FieldPath.toText (p : FieldPath) : String := ".".intercalate (p.segments.map (·.toText))

/-- A text between two marks, each mark inside it escaped. -/
def enclosed (mark : Char) (s : String) : String :=
  String.ofList (mark :: escapeChar mark s.toList ++ [mark])

def Operand.toText : Operand → String
  | .single s => enclosed '\'' s
  | .double s => enclosed '"' s
  | .pattern s => enclosed '/' s
  | .bare s => s

def Modifier.toText : Modifier → String
  | .boost n => "^" ++ toString n
  | .fuzzy none => "~"
  | .fuzzy (some n) => "~" ++ toString n

/-- What stands before a value for its field. -/
def fieldText : Option FieldPath → String
  | none => ""
  | some p => p.toText ++ ":"

/-- Both ends of a range. -/
def rangeText (low high : Operand) : String := low.toText ++ " TO " ++ high.toText

def Term.toText : Term → String
  | .value field operand modifier =>
    fieldText field ++ operand.toText ++ (modifier.map (·.toText)).getD ""
  | .inclusive field low high => fieldText field ++ "[" ++ rangeText low high ++ "]"
  | .exclusive field low high => fieldText field ++ "\x7b" ++ rangeText low high ++ "\x7d"

def Connective.toText : Connective → String
  | .and => "AND"
  | .or => "OR"

def Sign.toText : Sign → String
  | .not => "NOT "
  | .bang => "!"
  | .minus => "-"
  | .plus => "+"

def LuceneTree.toText : LuceneTree → String
  | .combine left op right => left.toText ++ " " ++ op.toText ++ " " ++ right.toText
  | .signed sign term => (sign.map (·.toText)).getD "" ++ term.toText
  | .group inner => "(" ++ inner.toText ++ ")"

end EventSearch.Query
