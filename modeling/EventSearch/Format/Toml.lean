/-
# `EventSearch.Format.Toml` — settings files

A settings file is a tree of tables.  A table is opened by a header, by dotted keys or by the
headers of tables inside it, and the way it came to be decides what may still be added to it: a
header opens a table once, and a dotted key adds only to tables that no header opened.
-/
import EventSearch.Data.Dataset
import EventSearch.Number.Double

namespace EventSearch.Format

open EventSearch.Number EventSearch.Data

/-- How a table came to be. -/
inductive TableOrigin where
  /-- By a header of its own. -/
  | header
  /-- By the header of a table inside it. -/
  | implied
  /-- By a dotted key. -/
  | dotted
  /-- Written as a value. -/
  | closed
  deriving DecidableEq

inductive Toml where
  | text (s : String)
  | whole (n : Int)
  | real (x : Double)
  | bool (b : Bool)
  | list (items : List Toml)
  | table (origin : TableOrigin) (entries : List (String × Toml))
  /-- Tables under one header, each opened by `[[…]]`. -/
  | tables (items : List (List (String × Toml)))

namespace Toml

/-- The entries of a table. -/
abbrev Entries := List (String × Toml)

/-! ## Adding -/

/-- Change the table that a dotted key leads into. -/
def changeDotted (change : Entries → Option Entries) : Option Toml → Option Toml
  | none => (change []).map (.table .dotted)
  | some (.table .dotted entries) => (change entries).map (.table .dotted)
  | some (.table .implied entries) => (change entries).map (.table .implied)
  | some _ => none

/-- Add a value under a dotted key. -/
def addKey (value : Toml) : List String → Entries → Option Entries
  | [], _ => none
  | [key], entries =>
    match find? key entries with
    | some _ => none
    | none => some (entries ++ [(key, value)])
  | key :: keys, entries =>
    (changeDotted (addKey value keys) (find? key entries)).map fun t => upsert key t entries

/-- Change what stands under a header. -/
def changeUnder (change : Entries → Option Entries) : Option Toml → Option Toml
  | none => (change []).map (.table .implied)
  | some (.table .closed _) => none
  | some (.table origin entries) => (change entries).map (.table origin)
  | some (.tables items) =>
    match items.getLast? with
    | none => none
    | some last => (change last).map fun last => .tables (items.dropLast ++ [last])
  | some _ => none

/-- Change the entries that the path of a header leads to. -/
def changeAt (change : Entries → Option Entries) : List String → Entries → Option Entries
  | [], entries => change entries
  | key :: keys, entries =>
    (changeUnder (changeAt change keys) (find? key entries)).map fun t => upsert key t entries

/-- Open a table by its header. -/
def openTable (key : String) (entries : Entries) : Option Entries :=
  match find? key entries with
  | none => some (entries ++ [(key, .table .header [])])
  | some (.table .implied inner) => some (upsert key (.table .header inner) entries)
  | some _ => none

/-- Open one more table of an array by its header. -/
def openItem (key : String) (entries : Entries) : Option Entries :=
  match find? key entries with
  | none => some (entries ++ [(key, .tables [[]])])
  | some (.tables items) => some (upsert key (.tables (items ++ [[]])) entries)
  | some _ => none

end Toml

end EventSearch.Format
