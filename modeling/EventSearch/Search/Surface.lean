/-
# `EventSearch.Search.Surface` — one datatype as it is searched

A surface holds what is known of the fields of a datatype, in column order, together with the
translations and the defaults of its searches.
-/
import EventSearch.Data.Sorting
import EventSearch.Provider.Basic
import EventSearch.Query.Compiler
import EventSearch.Search.Error

namespace EventSearch.Search

open EventSearch.Text EventSearch.Data EventSearch.Query EventSearch.Provider

/-- A declared field of a datatype. -/
structure FieldInfo where
  /-- The name without the datatype. -/
  name : String
  info : PathInfo
  column : Nat
  deriving DecidableEq

/-- The choices that make a surface. -/
structure SurfaceOptions where
  translations : TranslationTable
  /-- Fields listed first, in this order. -/
  columns : List String
  mode : Mode
  /-- The field to sort by when a request names none. -/
  sort : Option String
  /-- The field that windows and time units apply to. -/
  timeField : String
  groupby : List String
  highlight : Highlight

namespace SurfaceOptions

/-- Nothing chosen. -/
def default : SurfaceOptions := ⟨.empty, [], .lucene, none, "timestamp", [], .default⟩

end SurfaceOptions

structure Surface (σ : Type) where
  datatype : String
  label : String
  provider : Provider σ
  translations : TranslationTable
  fields : List FieldInfo
  defaultMode : Mode
  defaultSort : String
  timeField : String
  defaultGroupby : List String
  highlight : Highlight

namespace Surface

variable {σ : Type}

/-! ## Fields -/

/-- The place of a field among the columns listed first; all other fields come after these. -/
def rank (columns : List String) (name : String) : Nat := columns.findIdx (· = name)

/-- The name of a path in a datatype. -/
def localName (datatype path : String) : String := stripDatatype datatype path

/-- Paths in column order: those listed first, then the others as they come. -/
def orderPaths (datatype : String) (columns paths : List String) : List String :=
  sortBy (fun a b => compare (rank columns (localName datatype a))
    (rank columns (localName datatype b))) paths

/-- What is known of each path, columns counted from `column`. -/
def describe (provider : Provider σ) (datatype : String) (column : Nat) :
    List String → Except QueryError (List FieldInfo)
  | [] => .ok []
  | path :: paths =>
    match provider.pathInfo path with
    | .error e => .error (.provider e)
    | .ok info => (describe provider datatype (column + 1) paths).map
        (⟨localName datatype path, info, column⟩ :: ·)

/-- The surface of a datatype. -/
def build (datatype : String) (provider : Provider σ) (o : SurfaceOptions) :
    Except QueryError (Surface σ) :=
  match provider.paths datatype with
  | .error e => .error (.provider e)
  | .ok paths =>
    (describe provider datatype 0 (orderPaths datatype o.columns paths)).map fun fields =>
      ⟨datatype, provider.label datatype, provider, o.translations, fields, o.mode,
        o.sort.getD o.timeField, o.timeField, o.groupby, o.highlight⟩

/-! ## Paths -/

def fieldInfo? (s : Surface σ) (name : String) : Option FieldInfo := s.fields.find? (·.name = name)

/-- The path of a field of the datatype. -/
def qualify (s : Surface σ) (name : String) : String := s.datatype ++ "." ++ name

def timePath (s : Surface σ) : String := s.qualify s.timeField

/-- The paths that a field is grouped by: all physical paths of a translated field, else the field
itself. -/
def groupPaths (s : Surface σ) (name : String) : Except QueryError (List Retrieval) :=
  match s.translations.get? name with
  | some translation => .ok (translation.paths.map fun path => (Retrieval.field path).asGroup)
  | none =>
    match s.fieldInfo? name with
    | none => .error (.unknownPath name)
    | some f =>
      if f.info.groupable then .ok [(Retrieval.field f.info.path).asGroup]
      else .error (.notGroupable name)

end Surface

end EventSearch.Search
