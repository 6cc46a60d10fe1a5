/-
# `EventSearch.Config` — settings

The settings of a search: what is searched and how, where the records are, logical fields and the
log.  They come from a settings file, from variables of the environment, or from both, in which
case the variables win.  What is set nowhere has a default.
-/
import EventSearch.Calendar.Zone.Name
import EventSearch.Format.TomlReading
import EventSearch.Query.Mode
import EventSearch.Query.Translation
import EventSearch.Text.Escaped

namespace EventSearch

open EventSearch.Text EventSearch.Number EventSearch.Calendar EventSearch.Data EventSearch.Query
open EventSearch.Format

/-! ## Settings -/

/-- What is searched, and the defaults of searches. -/
structure SearchSettings where
  datatype : String
  mode : Mode
  /-- Rows of a page. -/
  limit : Nat
  timezone : String
  timeField : String
  /-- The field to sort by; the time field when absent. -/
  sort : Option String
  groupby : List String
  /-- Fields listed first. -/
  columns : List String
  deriving DecidableEq

/-- A logical field as it is written in settings. -/
structure TranslationEntry where
  field : String
  paths : List String
  transform : Option String
  deriving DecidableEq

structure LogSettings where
  level : String
  format : String
  /-- Where the log goes instead of the error stream. -/
  file : Option String
  deriving DecidableEq

structure Config where
  search : SearchSettings
  /-- The file of the records; a place that depends on the machine when absent. -/
  dataset : Option String
  translations : List TranslationEntry
  logging : LogSettings
  deriving DecidableEq

/-- Why settings cannot be used. -/
inductive ConfigError where
  | unreadable (path cause : String)
  | malformed (path : String)
  | unknownZone (name : String)
  | noPaths (field : String)
  | unknownTransform (name field : String)
  deriving DecidableEq

def ConfigError.message : ConfigError → String
  | .unreadable path cause => "Failed to read config file " ++ escaped path ++ ": " ++ cause
  | .malformed path => "Failed to parse config file " ++ escaped path ++ ": TOML parse error"
  | .unknownZone name => "Invalid configuration: unknown timezone: " ++ name
  | .noPaths field => "Invalid configuration: translation for '" ++ field ++ "' has no paths"
  | .unknownTransform name field =>
    "Invalid configuration: unknown transform '" ++ name ++ "' for field '" ++ field ++ "'"

namespace Config

def defaultSearch : SearchSettings :=
  ⟨"events", .lucene, 30, "UTC", "timestamp", none, [], []⟩

def defaultLogging : LogSettings := ⟨"info", "pretty", none⟩

/-- Nothing set. -/
def default : Config := ⟨defaultSearch, none, [], defaultLogging⟩

/-! ## Settings files -/

def asText? : Toml → Option String
  | .text s => some s
  | _ => none

def asTexts? : Toml → Option (List String)
  | .list items => items.mapM asText?
  | _ => none

def asSize? : Toml → Option Nat
  | .whole n => if 0 ≤ n then some n.toNat else none
  | _ => none

def asMode? (t : Toml) : Option Mode := (asText? t).bind Mode.ofExactName?

def asEntries? : Toml → Option Toml.Entries
  | .table _ entries => some entries
  | _ => none

/-- Several tables, under headers or in an array. -/
def asTables? : Toml → Option (List Toml.Entries)
  | .tables items => some items
  | .list items => items.mapM asEntries?
  | _ => none

/-- The value of a key, or a default; none when the value is of another type. -/
def setting? {α : Type} (entries : Toml.Entries) (key : String) (absent : α)
    (read : Toml → Option α) : Option α :=
  match find? key entries with
  | none => some absent
  | some value => read value

/-- A text that may be left out. -/
def optional? (entries : Toml.Entries) (key : String) : Option (Option String) :=
  setting? entries key none fun value => (asText? value).map some

def searchOf? (entries : Toml.Entries) : Option SearchSettings := do
  let d := defaultSearch
  return {
    datatype := ← setting? entries "datatype" d.datatype asText?
    mode := ← setting? entries "query_mode" d.mode asMode?
    limit := ← setting? entries "default_limit" d.limit asSize?
    timezone := ← setting? entries "timezone" d.timezone asText?
    timeField := ← setting? entries "time_field" d.timeField asText?
    sort := ← optional? entries "sort_path_default"
    groupby := ← setting? entries "groupby_default" d.groupby asTexts?
    columns := ← setting? entries "default_columns" d.columns asTexts? }

def translationOf? (entries : Toml.Entries) : Option TranslationEntry := do
  let field ← (find? "field" entries).bind asText?
  let paths ← (find? "paths" entries).bind asTexts?
  let transform ← optional? entries "transform"
  return ⟨field, paths, transform⟩

def loggingOf? (entries : Toml.Entries) : Option LogSettings := do
  let d := defaultLogging
  let level ← setting? entries "level" d.level asText?
  let format ← setting? entries "format" d.format asText?
  let file ← optional? entries "file"
  return ⟨level, format, file⟩

/-- The settings of a file; none when it cannot be read or a value is of a wrong type.  Keys that
mean nothing are passed over. -/
def read? (content : String) : Option Config := do
  let entries ← Toml.read? content
  let search ← searchOf? (← setting? entries "search" [] asEntries?)
  let dataset ← optional? (← setting? entries "dataset" [] asEntries?) "path"
  let translations ← (← setting? entries "translations" [] asTables?).mapM translationOf?
  let logging ← loggingOf? (← setting? entries "logging" [] asEntries?)
  return ⟨search, dataset, translations, logging⟩

/-- The settings of the file at a path. -/
def load (path content : String) : Except ConfigError Config :=
  match read? content with
  | some c => .ok c
  | none => .error (.malformed path)

/-! ## Variables -/

/-- Settings changed by variables.  A mode or limit that cannot be read changes nothing. -/
def override (c : Config) (env? : String → Option String) : Config :=
  let s := c.search
  { c with
    search := { s with
      datatype := (env? "DATASEARCH_DATATYPE").getD s.datatype
      mode := ((env? "DATASEARCH_QUERY_MODE").bind Mode.ofName?).getD s.mode
      limit := ((env? "DATASEARCH_DEFAULT_LIMIT").bind fun l => readSize? l.toList).getD s.limit
      timezone := (env? "DATASEARCH_TIMEZONE").getD s.timezone }
    dataset := (env? "DATASEARCH_DATASET").or c.dataset
    logging := { c.logging with
      level := (env? "DATASEARCH_LOG_LEVEL").getD c.logging.level
      format := (env? "DATASEARCH_LOG_FORMAT").getD c.logging.format } }

/-! ## What settings stand for -/

def zone (c : Config) : Except ConfigError Zone :=
  match Zone.read? c.search.timezone with
  | some z => .ok z
  | none => .error (.unknownZone c.search.timezone)

/-- The translation of an entry, which must have a path. -/
def translationOf (e : TranslationEntry) : Except ConfigError Translation :=
  if e.paths.isEmpty then .error (.noPaths e.field)
  else match e.transform with
    | none => .ok ⟨e.paths, none⟩
    | some name =>
      match ValueTransform.builtin? name with
      | some transform => .ok ⟨e.paths, some transform⟩
      | none => .error (.unknownTransform name e.field)

/-- A table with some entries added. -/
def addEntries (table : TranslationTable) : List TranslationEntry →
    Except ConfigError TranslationTable
  | [] => .ok table
  | e :: es =>
    match translationOf e with
    | .error error => .error error
    | .ok t => addEntries (table.insert e.field t) es

/-- The translation table, or the first entry that makes none. -/
def translationTable (c : Config) : Except ConfigError TranslationTable :=
  addEntries .empty c.translations

/-! ## A settings file to begin with -/

/-- The lines of a settings file with comments. -/
def sampleLines : List String := [
  "# Datasearch Configuration",
  "#",
  "# Environment variables override these settings:",
  "# - DATASEARCH_DATATYPE",
  "# - DATASEARCH_QUERY_MODE",
  "# - DATASEARCH_DEFAULT_LIMIT",
  "# - DATASEARCH_TIMEZONE",
  "# - DATASEARCH_DATASET",
  "# - DATASEARCH_LOG_LEVEL",
  "# - DATASEARCH_LOG_FORMAT",
  "",
  "[search]",
  "# Datatype searched by default",
  "datatype = \"events\"",
  "",
  "# Query language: \"lucene\" or \"criterion\"",
  "query_mode = \"lucene\"",
  "",
  "# Rows per page",
  "default_limit = 30",
  "",
  "# Timezone for time buckets and displayed dates (\"UTC\", \"+02:00\" or \"Europe/Paris\")",
  "timezone = \"UTC\"",
  "",
  "# Field time windows and buckets apply to",
  "time_field = \"timestamp\"",
  "",
  "# Fields listed first in results",
  "default_columns = [\"timestamp\", \"severity\", \"message\"]",
  "",
  "[dataset]",
  "# JSON (array or one object per line) or CSV file",
  "path = \"./events.json\"",
  "",
  "# Logical fields searching several physical fields",
  "# [[translations]]",
  "# field = \"source\"",
  "# paths = [\"events.src_ip\", \"events.src_host\"]",
  "# transform = \"lowercase\"",
  "",
  "[logging]",
  "# Log level: trace, debug, info, warn, error",
  "level = \"info\"",
  "",
  "# Log format: pretty, json",
  "format = \"pretty\"",
  "",
  "# Optional log file (logs to stderr when unset)",
  "# file = \"/var/log/datasearch.log\""]

/-- A settings file with comments. -/
def sample : String := "".intercalate (sampleLines.map (· ++ "\n"))

end Config

end EventSearch
