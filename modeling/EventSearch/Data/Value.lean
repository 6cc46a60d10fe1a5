/-
# `EventSearch.Data.Value` — cells

A cell of an event is nothing, a truth value, a number, a timestamp or a text.  This module holds
the views of a cell (as a whole number, a number, a timestamp, as text) and the order in which
rows are sorted: nothing first, then by kind, then by value.
-/
import EventSearch.Calendar.TimestampText
import EventSearch.Number.Shortest
import EventSearch.Text.Blank
import EventSearch.Text.Escaped

namespace EventSearch.Data

open EventSearch.Text EventSearch.Number EventSearch.Calendar

/-- A cell.  Whole numbers read from data have 64 bits. -/
inductive Value where
  | null
  | bool (b : Bool)
  | integer (n : Int)
  | float (x : Double)
  | timestamp (t : Timestamp)
  | text (s : String)
  deriving DecidableEq

/-- A row of a result, one cell for each retrieval path. -/
abbrev Row := List Value

namespace Value

def isNull : Value → Bool
  | .null => true
  | _ => false

/-! ## Views -/

/-- A whole number; a float counts when it has no fraction, a text when it reads as one. -/
def asInteger? : Value → Option Int
  | .integer n => some n
  | .float x => if x.isWhole then x.truncate?.map clampInt64 else none
  | .text s => readInt64? (trim s.toList)
  | _ => none

/-- A number. -/
def asDouble? : Value → Option Double
  | .integer n => some (.ofInt n)
  | .float x => some x
  | .text s => Double.read? (trim s.toList)
  | _ => none

/-- A timestamp; a text counts when it is RFC 3339. -/
def asTimestamp? : Value → Option Timestamp
  | .timestamp t => some t
  | .text s => readRfc3339? s
  | _ => none

/-- The text shown to a user. -/
def display : Value → String
  | .null => ""
  | .bool b => if b then "true" else "false"
  | .integer n => toString n
  | .float x => Layout.plain.write x
  | .timestamp t => t.plainText
  | .text s => s

/-- The text that a criterion compares with; nothing and the empty text have none. -/
def criterionText? : Value → Option String
  | .null => none
  | .text s => if s.isEmpty then none else some s
  | .timestamp t => some t.rfc3339
  | v => some v.display

/-- The kind of a cell and all of its content: cells with one such text are equal. -/
def inspect : Value → String
  | .null => "Null"
  | .bool b => if b then "Bool(true)" else "Bool(false)"
  | .integer n => "Integer(" ++ toString n ++ ")"
  | .float x => "Float(" ++ Layout.inspected.write x ++ ")"
  | .timestamp t => "DateTime(" ++ t.fullText ++ ")"
  | .text s => "Text(" ++ escaped s ++ ")"

/-! ## Order -/

/-- The order of texts by their characters. -/
def orderChars : List Char → List Char → Ordering
  | [], [] => .eq
  | [], _ :: _ => .lt
  | _ :: _, [] => .gt
  | a :: as, b :: bs => (compare a.toNat b.toNat).then (orderChars as bs)

def orderText (a b : String) : Ordering := orderChars a.toList b.toList

/-- The place of a kind of cell among the others. -/
def rank : Value → Nat
  | .null => 0
  | .bool _ => 1
  | .integer _ | .float _ => 2
  | .timestamp _ => 3
  | .text _ => 4

/-- The number behind a number cell. -/
def number : Value → Double
  | .integer n => .ofInt n
  | .float x => x
  | _ => .zero false

/-- The sort order.  Two whole numbers compare exactly, other numbers as floats; what is no number
is tied with every number. -/
def order : Value → Value → Ordering
  | .bool a, .bool b => compare a.toNat b.toNat
  | .integer a, .integer b => compare a b
  | .timestamp a, .timestamp b => a.order b
  | .text a, .text b => orderText a b
  | a, b =>
    if a.rank = 2 ∧ b.rank = 2 then (a.number.compare? b.number).getD .eq
    else compare a.rank b.rank

end Value

end EventSearch.Data
