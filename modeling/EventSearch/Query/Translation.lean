/-
# `EventSearch.Query.Translation` — logical fields

A logical field stands for one or more physical paths, with a transform that values go through
before they are compared.  A table of such fields is consulted by `criterion` queries.
-/
import EventSearch.Data.Dataset
import EventSearch.Text.Casing

namespace EventSearch.Query

open EventSearch.Text EventSearch.Data

/-- A named function on values. -/
structure ValueTransform where
  name : String
  apply : String → String

namespace ValueTransform

/-- The transforms a configuration may name. -/
def builtins : List ValueTransform :=
  [⟨"lowercase", lower⟩, ⟨"uppercase", upper⟩, ⟨"trim", trimmed⟩]

def builtin? (name : String) : Option ValueTransform := builtins.find? (·.name = name)

end ValueTransform

/-- What a logical field stands for. -/
structure Translation where
  paths : List String
  transform : Option ValueTransform

/-- A value as it is compared with the physical paths. -/
def Translation.applyTo (t : Translation) (value : String) : String :=
  match t.transform with
  | none => value
  | some f => f.apply value

/-- Logical fields by name, each name once. -/
structure TranslationTable where
  entries : List (String × Translation)

namespace TranslationTable

def empty : TranslationTable := ⟨[]⟩

/-- A table with a field added; a field of that name is replaced. -/
def insert (t : TranslationTable) (field : String) (translation : Translation) : TranslationTable :=
  ⟨upsert field translation t.entries⟩

def ofList (entries : List (String × Translation)) : TranslationTable :=
  entries.foldl (fun t e => t.insert e.1 e.2) empty

def get? (t : TranslationTable) (field : String) : Option Translation := find? field t.entries

def contains (t : TranslationTable) (field : String) : Bool := (t.get? field).isSome

def size (t : TranslationTable) : Nat := t.entries.length

/-- The physical paths of a field; one without a translation is a field of the datatype. -/
def physicalPaths (t : TranslationTable) (datatype field : String) : List String :=
  match t.get? field with
  | some translation => translation.paths
  | none => [datatype ++ "." ++ field]

end TranslationTable

end EventSearch.Query
