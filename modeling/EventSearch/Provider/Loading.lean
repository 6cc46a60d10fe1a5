/-
# `EventSearch.Provider.Loading` — datasets from files

A file whose name ends in `.csv`, in any case, is a table: its first record names the fields and
the cells of the others are read as whole numbers, floats, truth values or timestamps if they can
be.  Any other file holds JSON, one array of objects or an object on each line.  Objects are made
flat: a member of a member is named with a point between, an item of an array by its place in
parentheses, as in `http.headers(0)`.
-/
import EventSearch.Data.Dataset
import EventSearch.Format.Csv
import EventSearch.Format.JsonReading
import EventSearch.Provider.Error
import EventSearch.Text.Pieces

namespace EventSearch.Provider

open EventSearch.Text EventSearch.Number EventSearch.Calendar EventSearch.Data EventSearch.Format

/-! ## Cells -/

/-- The cell of a table that a text stands for. -/
def cellOfText (s : String) : Value :=
  let cs := trim s.toList
  let text := String.ofList cs
  if cs.isEmpty then .null
  else match readInt64? cs, Double.read? cs with
    | some n, _ => .integer n
    | none, some x => .float x
    | none, none =>
      if text = "true" then .bool true
      else if text = "false" then .bool false
      else match readTimestamp? text with
        | some t => .timestamp t
        | none => .text text

/-- The cell of a JSON number; beyond 64 bits signed it is a float. -/
def cellOfWhole (n : Int) : Value :=
  if -(maxInt64 : Int) - 1 ≤ n ∧ n ≤ maxInt64 then .integer n else .float (.ofInt n)

/-- The cell of a JSON text. -/
def cellOfJsonText (s : String) : Value :=
  match readRfc3339? s with
  | some t => .timestamp t
  | none => .text s

/-! ## Flat records -/

/-- The name of a member of what is named `parent`. -/
def memberName (parent key : String) : String :=
  if parent.isEmpty then key else parent ++ "." ++ key

/-- The name of an item. -/
def itemName (parent : String) (index : Nat) : String := parent ++ "(" ++ toString index ++ ")"

mutual

/-- The cells of a value, named from its own name on. -/
def flatten (name : String) : Json → List (String × Value)
  | .null => [(name, .null)]
  | .bool b => [(name, .bool b)]
  | .whole n => [(name, cellOfWhole n)]
  | .real x => [(name, .float x)]
  | .text s => [(name, cellOfJsonText s)]
  | .list items => flattenItems name 0 items
  | .object members => flattenMembers name members

/-- The cells of the items of an array, counted from `index`. -/
def flattenItems (name : String) (index : Nat) : List Json → List (String × Value)
  | [] => []
  | item :: items => flatten (itemName name index) item ++ flattenItems name (index + 1) items

def flattenMembers (name : String) : List (String × Json) → List (String × Value)
  | [] => []
  | (key, value) :: members => flatten (memberName name key) value ++ flattenMembers name members

end

/-- The cells of a record, which must be an object. -/
def cellsOf : Json → Except Error (List (String × Value))
  | .object members => .ok (flatten "" (.object members))
  | other => .error (.notARecord other.compact)

/-! ## Datasets -/

/-- A dataset with one record more for each value. -/
def pushAll (d : Dataset) : List Json → Except Error Dataset
  | [] => .ok d
  | item :: items =>
    match cellsOf item with
    | .error e => .error e
    | .ok cells => pushAll (d.push cells) items

/-- A dataset with one record more for each line. -/
def pushLines (d : Dataset) : List (List Char) → Except Error Dataset
  | [] => .ok d
  | line :: rest =>
    match Json.read? line with
    | none => .error .invalidJson
    | some item =>
      match cellsOf item with
      | .error e => .error e
      | .ok cells => pushLines (d.push cells) rest

/-- The dataset of an array of objects, or of objects on lines of their own. -/
def loadJson (content : String) : Except Error Dataset :=
  let cs := trim content.toList
  if cs.head? = some '[' then
    match Json.read? cs with
    | some (.list items) => pushAll .empty items
    | _ => .error .invalidJson
  else pushLines .empty ((lines cs).filter fun line => !allBlank line)

/-- The dataset of a table with a header.  Cells beyond the header are left out. -/
def loadCsv (bytes : List UInt8) : Except Error Dataset :=
  match Csv.read? bytes with
  | none => .error .invalidCsv
  | some [] => .ok .empty
  | some (header :: rows) =>
    let names := header.map trimmed
    .ok (rows.foldl (fun d row => d.push (names.zip (row.map cellOfText))) .empty)

/-! ## Files -/

/-- What follows the last point of a file name; a name that only starts with a point has none. -/
def nameExtension (path : String) : List Char :=
  let name := (path.toList.reverse.takeWhile (· ≠ '/'))
  let extension := name.takeWhile (· ≠ '.')
  if extension.length + 1 < name.length then extension.reverse else []

/-- A path whose file is a table. -/
def isCsvPath (path : String) : Bool :=
  let lowered := (nameExtension path).map fun c =>
    if isAsciiUpper c then Char.ofNat (c.toNat + 32) else c
  lowered = ['c', 's', 'v']

/-- The dataset of a file, given its content. -/
def loadFile (path : String) (bytes : List UInt8) : Except Error Dataset :=
  if isCsvPath path then loadCsv bytes
  else match String.fromUTF8? ⟨bytes.toArray⟩ with
    | none => .error .unreadable
    | some content => loadJson content

end EventSearch.Provider
