/-
# `EventSearch.Cli.Output` — results as text and JSON

How the program shows events, bars, fields and criteria: in tables of fixed columns, or as JSON.
-/
import EventSearch.Format.JsonReading
import EventSearch.Query.Criteria
import EventSearch.Search.Chart

namespace EventSearch.Cli

open EventSearch.Text EventSearch.Data EventSearch.Query EventSearch.Format EventSearch.Search

/-- A text of lines, each ended. -/
def linesText (lines : List String) : String := "".intercalate (lines.map (· ++ "\n"))

/-- A line of hyphens. -/
def rule (width : Nat) : String := String.ofList (List.replicate width '-')

/-! ## JSON -/

/-- A cell; timestamps are texts with `Z` for a zero offset. -/
def cellJson : Value → Json
  | .null => .null
  | .bool b => .bool b
  | .integer n => .whole n
  | .float x => .real x
  | .timestamp t => .text t.rfc3339Zulu
  | .text s => .text s

/-- A cell without markers. -/
def shownJson (h : Highlight) : Value → Json
  | .text s => .text (h.strip s)
  | v => cellJson v

/-- A row as an object in the order of its keys, without its empty cells. -/
def rowJson (h : Highlight) (headers : List String) (row : Row) : Json :=
  .object (((headers.zip row).filter fun cell => !cell.2.isNull).foldl
    (fun members cell => Json.setMember cell.1 (shownJson h cell.2) members) [])

def listingJson (h : Highlight) (headers : List String) (rows : List Row) (total : Nat) : Json :=
  .object [("rows", .list (rows.map (rowJson h headers))), ("total", .whole total)]

def paramsJson (params : Params) : Json := .list (params.map fun p => .list [.text p.1, .text p.2])

def linkJson (l : Link) : Json :=
  .object [("query", .text l.query), ("query_mode", .text l.mode.name),
    ("params", paramsJson l.params)]

def barJson (b : Bar) : Json :=
  .object [("value", cellJson b.count), ("label", .text b.label), ("link", linkJson b.link)]

def fieldJson (f : FieldInfo) : Json :=
  .object [("field", .text f.name), ("path", .text f.info.path),
    ("field_type", .text f.info.fieldType.name), ("filterable", .bool f.info.filterable),
    ("groupable", .bool f.info.groupable), ("column_index", .whole f.column)]

def leafJson (l : Leaf) : Json :=
  .object [("path", .text l.path), ("operator", .text l.operator),
    ("value", l.value.elim .null .text)]

mutual

def criteriaJson : Criteria → Json
  | .empty => .text "empty"
  | .leaf test => .object [("leaf", leafJson test)]
  | .conj children => .object [("and", .list (criteriaListJson children))]
  | .disj children => .object [("or", .list (criteriaListJson children))]

def criteriaListJson : List Criteria → List Json
  | [] => []
  | c :: cs => criteriaJson c :: criteriaListJson cs

end

/-! ## Tables -/

/-- A matched piece stands between asterisks. -/
def fragmentText : Fragment → String
  | .plain s => s
  | .hit s => "*" ++ s ++ "*"

/-- A cell in a table. -/
def cellText (h : Highlight) : Value → String
  | .text s =>
    match h.fragments? s with
    | some pieces => "".intercalate (pieces.map fragmentText)
    | none => s
  | v => v.display

/-- At most `width` characters; a text that is cut ends in a tilde. -/
def cutTo (width : Nat) (s : String) : String :=
  if s.length ≤ width then s else String.ofList (s.toList.take (width - 1)) ++ "~"

/-- The widest column. -/
def maxWidth : Nat := 40

/-- The width of a column: that of its longest cell, or of the bytes of its header. -/
def columnWidth (header : String) (cells : List String) : Nat :=
  min (cells.foldl (fun w c => max w c.length) header.utf8ByteSize) maxWidth

/-- The widths of all columns. -/
def columnWidths (rows : List (List String)) : Nat → List String → List Nat
  | _, [] => []
  | i, header :: headers =>
    columnWidth header (rows.filterMap fun row => row[i]?) :: columnWidths rows (i + 1) headers

/-- One line of a table. -/
def tableLine (widths : List Nat) (cells : List String) : String :=
  " | ".intercalate ((cells.zip widths).map fun (c, w) => padRight w (cutTo w c))

/-- Rows as a table. -/
def table (h : Highlight) (headers : List String) (rows : List Row) : String :=
  if rows.isEmpty then linesText ["No matching events"]
  else
    let cells := rows.map fun row => row.map (cellText h)
    let widths := columnWidths cells 0 headers
    let width := widths.foldl (· + ·) 0 + 3 * (widths.length - 1)
    linesText (tableLine widths headers :: rule width :: cells.map (tableLine widths))

/-- A line of a chart. -/
def barLine (label count link : String) : String :=
  padRight 40 label ++ " " ++ padLeft 8 count ++ "  " ++ link

/-- Bars as a table. -/
def barTable (groupby : List String) (linkBase : String) (bars : List Bar) : String :=
  if bars.isEmpty then linesText ["No matching events"]
  else linesText (barLine (", ".intercalate groupby) "Count" "Link" :: rule 60 ::
    bars.map fun b => barLine b.label b.count.display (b.link.toUrl linkBase))

/-- A line of the list of fields. -/
def fieldLine (column name type filter group : String) : String :=
  padRight 4 column ++ " " ++ padRight 30 name ++ " " ++ padRight 10 type ++ " " ++
    padRight 10 filter ++ " " ++ group

def boolText (b : Bool) : String := if b then "true" else "false"

/-- Fields as a table. -/
def fieldTable (fields : List FieldInfo) : String :=
  linesText (fieldLine "#" "Field" "Type" "Filter" "Group" :: rule 64 :: fields.map fun f =>
    fieldLine (toString f.column) f.name f.info.fieldType.name (boolText f.info.filterable)
      (boolText f.info.groupable))

end EventSearch.Cli
