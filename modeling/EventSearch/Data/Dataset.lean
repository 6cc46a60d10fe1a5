/-
# `EventSearch.Data.Dataset` — records with declared fields

A dataset is a list of declared fields with their types and a list of flat records.  Pushing a
record declares the fields that were not seen before.  Records hold no empty cells: a field is
present or it is not there.
-/
import EventSearch.Data.Value

namespace EventSearch.Data

/-- The type of a field. -/
inductive FieldType where
  | text
  | integer
  | float
  | boolean
  | datetime
  /-- A structured value that is not looked into. -/
  | object
  deriving DecidableEq

namespace FieldType

def all : List FieldType := [.text, .integer, .float, .boolean, .datetime, .object]

def name : FieldType → String
  | .text => "text"
  | .integer => "integer"
  | .float => "float"
  | .boolean => "boolean"
  | .datetime => "datetime"
  | .object => "object"

def ofName? (s : String) : Option FieldType := all.find? (·.name = s)

/-- The type of a field first seen with a value. -/
def ofValue : Value → FieldType
  | .bool _ => .boolean
  | .integer _ => .integer
  | .float _ => .float
  | .timestamp _ => .datetime
  | .null | .text _ => .text

end FieldType

/-! ## Keyed lists -/

/-- A list of pairs with the pair of a key replaced, or put at the end. -/
def upsert {α : Type} (key : String) (value : α) : List (String × α) → List (String × α)
  | [] => [(key, value)]
  | (k, v) :: rest => if k = key then (key, value) :: rest else (k, v) :: upsert key value rest

/-- The value of a key. -/
def find? {α : Type} (key : String) : List (String × α) → Option α
  | [] => none
  | (k, v) :: rest => if k = key then some v else find? key rest

theorem find?_upsert {α : Type} (key k : String) (value : α) (xs : List (String × α)) :
    find? k (upsert key value xs) = if k = key then some value else find? k xs := by
  induction xs with
  | nil => simp [upsert, find?, eq_comm]
  | cons p xs ih =>
    obtain ⟨k', v⟩ := p
    by_cases h : k' = key
    · subst h
      by_cases hk : k' = k
      · simp [upsert, find?, hk]
      · simp [upsert, find?, hk, Ne.symm hk]
    · by_cases hk : k' = k
      · subst hk
        simp [upsert, find?, h]
      · simp [upsert, find?, h, hk, ih]

/-! ## Datasets -/

/-- A flat record: field names and cells that are not empty. -/
abbrev Record := List (String × Value)

structure Dataset where
  fields : List (String × FieldType)
  records : List Record
  deriving DecidableEq

namespace Dataset

def empty : Dataset := ⟨[], []⟩

/-- The declared type of a field. -/
def fieldType? (d : Dataset) (name : String) : Option FieldType := find? name d.fields

/-- Declare a field, or give a declared one another type. -/
def withField (d : Dataset) (name : String) (type : FieldType) : Dataset :=
  ⟨upsert name type d.fields, d.records⟩

/-- A field declared with the type of its first value. -/
def declare (fields : List (String × FieldType)) (name : String) (value : Value) :
    List (String × FieldType) :=
  match find? name fields with
  | some _ => fields
  | none => fields ++ [(name, .ofValue value)]

/-- A record with a cell set; an empty cell changes nothing. -/
def setCell (record : Record) (name : String) (value : Value) : Record :=
  if value.isNull then record else upsert name value record

/-- Append a record.  Of several cells for one field the last that is not empty counts. -/
def push (d : Dataset) (cells : List (String × Value)) : Dataset :=
  ⟨cells.foldl (fun fields c => declare fields c.1 c.2) d.fields,
    d.records ++ [cells.foldl (fun record c => setCell record c.1 c.2) []]⟩

end Dataset

end EventSearch.Data
