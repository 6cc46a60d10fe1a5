/-
# `EventSearch.Format.Csv` — tables with separated values

Fields are separated by commas, records by line ends of any kind.  A field that starts with a
double quote runs to the next one that is not doubled, whatever stands between; text behind it
belongs to the field as it is.  Empty lines are no records.  A table is read as bytes, and each
field must be UTF-8 by itself.
-/
namespace EventSearch.Format.Csv

/-- Where in a record the reader is. -/
inductive State where
  /-- Before a record, where line ends are passed over. -/
  | between
  /-- At the start of a field. -/
  | fieldStart
  | bare
  | quoted
  /-- Behind a quote inside quotes, which may be the first of two. -/
  | quoteSeen
  deriving DecidableEq

def comma : UInt8 := 0x2C
def quote : UInt8 := 0x22

def isLineEnd (b : UInt8) : Bool := b = 0x0A || b = 0x0D

/-- The fields of a record read so far and the bytes of the one being read, latest first. -/
structure Progress where
  fields : List (List UInt8)
  bytes : List UInt8

namespace Progress

def none : Progress := ⟨[], []⟩

def add (p : Progress) (b : UInt8) : Progress := { p with bytes := b :: p.bytes }

def endField (p : Progress) : Progress := ⟨p.bytes.reverse :: p.fields, []⟩

/-- The record, its last field ended. -/
def record (p : Progress) : List (List UInt8) := p.endField.fields.reverse

end Progress

/-- The records of a table, in bytes. -/
def scan : State → Progress → List UInt8 → List (List (List UInt8))
  | .between, _, [] => []
  | _, p, [] => [p.record]
  | .between, p, b :: bs =>
    if isLineEnd b then scan .between p bs
    else if b = quote then scan .quoted .none bs
    else if b = comma then scan .fieldStart (Progress.none.endField) bs
    else scan .bare (Progress.none.add b) bs
  | .fieldStart, p, b :: bs =>
    if b = quote then scan .quoted p bs
    else if b = comma then scan .fieldStart p.endField bs
    else if isLineEnd b then p.record :: scan .between .none bs
    else scan .bare (p.add b) bs
  | .bare, p, b :: bs =>
    if b = comma then scan .fieldStart p.endField bs
    else if isLineEnd b then p.record :: scan .between .none bs
    else scan .bare (p.add b) bs
  | .quoted, p, b :: bs =>
    if b = quote then scan .quoteSeen p bs else scan .quoted (p.add b) bs
  | .quoteSeen, p, b :: bs =>
    if b = quote then scan .quoted (p.add b) bs
    else if b = comma then scan .fieldStart p.endField bs
    else if isLineEnd b then p.record :: scan .between .none bs
    else scan .bare (p.add b) bs

/-- The text of some bytes. -/
def decode? (bytes : List UInt8) : Option String := String.fromUTF8? ⟨bytes.toArray⟩

/-- A table without the mark that may stand at its start. -/
def dropMark : List UInt8 → List UInt8
  | 0xEF :: 0xBB :: 0xBF :: rest => rest
  | bytes => bytes

/-- The records of a table; none when a field is no text. -/
def read? (bytes : List UInt8) : Option (List (List String)) :=
  (scan .between .none (dropMark bytes)).mapM fun record => record.mapM decode?

end EventSearch.Format.Csv
