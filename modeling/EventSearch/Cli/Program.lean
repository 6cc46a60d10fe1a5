/-
# `EventSearch.Cli.Program` — the program

The commands of the program on any host.  Settings are read first, then the log is opened, then
the command runs.  A failure ends the program with status 1 and a line that starts with `Error: `;
a command line that is wrong ends it with status 2 before anything is read.
-/
import EventSearch.Cli.Arguments
import EventSearch.Cli.Host
import EventSearch.Cli.Output
import EventSearch.Config
import EventSearch.Provider.Loading
import EventSearch.Provider.Memory

namespace EventSearch.Cli

open EventSearch.Text EventSearch.Number EventSearch.Calendar EventSearch.Data EventSearch.Query
open EventSearch.Provider (Error Store loadFile)
open EventSearch.Search EventSearch.Format

/-! ## Failures -/

inductive Failure where
  | config (e : ConfigError)
  | logFile (path : String) (fault : FileFault)
  | loading (path : String) (cause : String)
  | query (e : QueryError)
  | mode (name : String)
  | period (text : String)
  | number (e : WholeError)
  | taken (path : String)
  | writing (path : String) (fault : FileFault)
  deriving DecidableEq

/-- A failure and what caused it. -/
def causedBy (message cause : String) : String := message ++ "\n\nCaused by:\n    " ++ cause

/-- A failed search; of a pattern that cannot be used it is said why. -/
def queryMessage (e : QueryError) : String :=
  match e with
  | .provider (.invalidCriteria (.invalidPattern _ cause)) => e.message ++ ": " ++ cause.message
  | e => e.message

def Failure.message : Failure → String
  | .config e => e.message
  | .logFile path fault => causedBy ("opening log file " ++ path) fault.message
  | .loading path cause => causedBy ("loading " ++ path) cause
  | .query e => queryMessage e
  | .mode name => "Invalid query mode: " ++ name ++ ". Use: lucene, criterion"
  | .period text => "Invalid period: " ++ text ++ ". Use: 24h, 7d, 4w"
  | .number e => e.message
  | .taken path => path ++ " already exists"
  | .writing path fault => causedBy ("writing " ++ path) fault.message

/-! ## Pure steps -/

/-- A query language by its name. -/
def modeOf (name : String) : Except Failure Mode :=
  match Mode.ofName? name with
  | some mode => .ok mode
  | none => .error (.mode name)

/-- A number of units before a letter. -/
def periodCount (digits : List Char) : Except Failure Int :=
  match readInt64 digits with
  | .ok n => .ok n
  | .error e => .error (.number e)

/-- The window of the last hours, days or weeks. -/
def lastPeriod (now : Int) (text : String) : Except Failure Window :=
  let cs := lowerChars (trim text.toList)
  match cs.getLast? with
  | some 'h' => (periodCount cs.dropLast).map (Window.lastHours now)
  | some 'd' => (periodCount cs.dropLast).map (Window.lastDays now)
  | some 'w' => (periodCount cs.dropLast).map fun n => Window.lastDays now (clampInt64 (n * 7))
  | _ => .error (.period (String.ofList cs))

/-- A field and a direction; without a colon the latest come first. -/
def sortChoice (text : String) : String × String := (splitOnce? ':' text).getD (text, "desc")

/-- The surface of a dataset under the settings. -/
def surfaceOf (config : Config) (records : Dataset) : Except Failure (Surface Unit) :=
  match config.translationTable with
  | .error e => .error (.config e)
  | .ok translations =>
    let s := config.search
    let options : SurfaceOptions :=
      ⟨translations, s.columns, s.mode, s.sort, s.timeField, s.groupby, .default⟩
    match Surface.build s.datatype (Store.provider (.ofList [(s.datatype, records)])) options with
    | .error e => .error (.query e)
    | .ok surface => .ok surface

/-- What a search shows. -/
def searchText (json : Bool) (linkBase : String) (surface : Surface Unit) (plan : Plan Unit) :
    Except Failure String :=
  let session := Session.start plan ()
  if plan.isAggregate then
    match (session.chart plan.step).1 with
    | .error e => .error (.query e)
    | .ok bars =>
      .ok (if json then (Json.list (bars.map barJson)).pretty ++ "\n"
        else barTable plan.grouping.names linkBase bars)
  else
    match session.total with
    | (.error e, _) => .error (.query e)
    | (.ok total, session) =>
      match session.collect.1 with
      | .error e => .error (.query e)
      | .ok rows =>
        let headers := surface.fields.map (·.name)
        .ok (if json then (listingJson surface.highlight headers rows total).pretty ++ "\n"
          else table surface.highlight headers rows ++
            linesText ["", toString rows.length ++ " of " ++ toString total ++ " events"])

/-- The tree of a query as text. -/
def treeText (mode : Mode) (query : String) : Except Failure String :=
  let tree := match mode with
    | .lucene => (LuceneTree.read query).map LuceneTree.toText
    | .criterion => (CriterionTree.read query).map CriterionTree.outline
  match tree with
  | .ok text => .ok text
  | .error near => .error (.query (.unreadable near))

/-- What is shown of a query. -/
def parseText (config : Config) (json : Bool) (query : String) (modeName : Option String) :
    Except Failure String := do
  let mode ← match modeName with
    | some name => modeOf name
    | none => .ok config.search.mode
  let translations ← match config.translationTable with
    | .ok t => .ok t
    | .error e => .error (.config e)
  let datatype := config.search.datatype
  let tree ← treeText mode query
  let criteria ← match compile datatype translations mode query with
    | .ok c => .ok c
    | .error near => .error (Failure.query (.unreadable near))
  return if json then (criteriaJson criteria).pretty ++ "\n"
    else linesText [
      "Parsed (" ++ mode.name ++ "):  " ++ tree,
      "Lucene:     " ++ criteria.toQuery .lucene (some datatype),
      "Criterion:  " ++ criteria.toQuery .criterion (some datatype)]

/-! ## On a host -/

section
variable {m : Type → Type} [Monad m] (host : Host m)

/-- A directory of the user: a variable that holds an absolute path, or a place below home. -/
def userDirectory (name below : String) : m (Option String) := do
  match ← host.env? name with
  | some path =>
    if path.toList.head? = some '/' then return some path
  | none => pure ()
  match ← host.env? "HOME" with
  | some home => return if home.isEmpty then none else some (home ++ "/" ++ below)
  | none => return none

/-- The variables that settings know. -/
def variableNames : List String :=
  ["DATASEARCH_DATATYPE", "DATASEARCH_QUERY_MODE", "DATASEARCH_DEFAULT_LIMIT",
    "DATASEARCH_TIMEZONE", "DATASEARCH_DATASET", "DATASEARCH_LOG_LEVEL", "DATASEARCH_LOG_FORMAT"]

/-- Those of some variables that are set. -/
def readVariables : List String → m (List (String × String))
  | [] => return []
  | name :: names => do
    let value ← host.env? name
    let rest ← readVariables names
    return (value.toList.map (name, ·)) ++ rest

/-- The settings of a file, changed by variables. -/
def loadSettings (path : String) : m (Except ConfigError Config) := do
  let vars ← readVariables host variableNames
  match ← host.readFile path with
  | .error fault => return .error (.unreadable path fault.message)
  | .ok bytes =>
    match String.fromUTF8? ⟨bytes.toArray⟩ with
    | none => return .error (.unreadable path "stream did not contain valid UTF-8")
    | some content => return (Config.load path content).map (·.override fun n => find? n vars)

/-- The settings of the first of some files that is there and can be used. -/
def loadFirst : List String → m Config
  | [] => do
    let vars ← readVariables host variableNames
    return Config.default.override fun n => find? n vars
  | path :: paths => do
    if ← host.hasFile path then
      match ← loadSettings host path with
      | .ok config => return config
      | .error _ => loadFirst paths
    else loadFirst paths

/-- The settings of the usual places. -/
def loadUsual : m Config := do
  let directory ← userDirectory host "XDG_CONFIG_HOME" ".config"
  loadFirst host (directory.toList.map (· ++ "/datasearch/config.toml") ++
    ["/etc/datasearch/config.toml", "./datasearch.toml"])

/-- Where the records are when nothing says so. -/
def usualDataset : m String := do
  match ← userDirectory host "XDG_DATA_HOME" ".local/share" with
  | some directory => return directory ++ "/datasearch/events.json"
  | none => return "./events.json"

/-- The file of the records. -/
def datasetPath (config : Config) (chosen : Option String) : m String :=
  match chosen.or config.dataset with
  | some path => return path
  | none => usualDataset host

/-- The records of a file. -/
def loadRecords (path : String) : m (Except Failure Dataset) := do
  match ← host.readFile path with
  | .error fault => return .error (.loading path ("IO error: " ++ fault.message))
  | .ok bytes =>
    match loadFile path bytes with
    | .ok records => return .ok records
    | .error e => return .error (.loading path e.message)

/-- The surface that a command works on. -/
def loadSurface (config : Config) (chosen : Option String) : m (Except Failure (Surface Unit)) := do
  let path ← datasetPath host config chosen
  return (← loadRecords host path).bind (surfaceOf config)

/-- Plan a search and show its result. -/
def runSearch (config : Config) (json : Bool) (now : Int) (o : SearchOptions)
    (surface : Surface Unit) : Except Failure String := do
  let zone ← match config.zone with
    | .ok z => .ok z
    | .error e => .error (Failure.config e)
  let window ← match o.last with
    | none => .ok none
    | some text => (lastPeriod now text).map some
  let mode ← match o.mode with
    | none => .ok none
    | some name => (modeOf name).map some
  let groupby := if o.groupby.isEmpty then surface.defaultGroupby else o.groupby
  match Plan.prepare surface ⟨zone, window, []⟩ ⟨o.query, mode, groupby, 0, none⟩ o.page
      (o.rows.getD config.search.limit) (o.sort.map sortChoice) with
  | .error e => .error (.query e)
  | .ok plan => searchText json o.linkBase surface plan

/-- Write the sample settings to a file that is not there yet. -/
def writeSample (path : String) : m (Except Failure String) := do
  if ← host.hasFile path then return .error (.taken path)
  else
    match ← host.writeFile path Config.sample with
    | .error fault => return .error (.writing path fault)
    | .ok () => return .ok (linesText ["Wrote default config to " ++ path])

/-- What a command prints. -/
def runCommand (config : Config) (json : Bool) : Command → m (Except Failure String)
  | .search o => do
    let surface ← loadSurface host config o.dataset
    let now ← host.now
    return surface.bind (runSearch config json now o)
  | .parse query mode => return parseText config json query mode
  | .fields dataset => do
    let surface ← loadSurface host config dataset
    return surface.map fun s =>
      if json then (Json.list (s.fields.map fieldJson)).pretty ++ "\n" else fieldTable s.fields
  | .initConfig none => return .ok Config.sample
  | .initConfig (some path) => writeSample host path

/-- Open the log file, if there is one. -/
def openLog (settings : LogSettings) : m (Except Failure Unit) := do
  match settings.file with
  | none => return .ok ()
  | some path =>
    match ← host.openLog path with
    | .ok () => return .ok ()
    | .error fault => return .error (.logFile path fault)

/-- What a right command line prints. -/
def runInvocation (i : Invocation) : m (Except Failure String) := do
  let config : Except ConfigError Config ← match i.config with
    | some path => loadSettings host path
    | none => Except.ok <$> loadUsual host
  match config with
  | .error e => return .error (.config e)
  | .ok config =>
    match ← openLog host config.logging with
    | .error e => return .error e
    | .ok () => runCommand host config (i.format = "json") i.command

/-! ## Running -/

def versionText : String := "datasearch 0.1.0"

def usageText : String := linesText [
  "Usage: datasearch [--config FILE] [--format FORMAT] COMMAND",
  "",
  "Commands:",
  "  search [QUERY]  Search the dataset",
  "  parse QUERY     Show how a query parses and compiles",
  "  fields          List the dataset's fields",
  "  init-config     Write a default configuration file"]

/-- Run a command line; the answer is the status of the program. -/
def run (arguments : List String) : m UInt32 := do
  match readArguments arguments with
  | .error .version => host.print (linesText [versionText]); return 0
  | .error .help => host.print usageText; return 0
  | .error .wrong => host.printError usageText; return 2
  | .ok i =>
    match ← runInvocation host i with
    | .ok text => host.print text; return 0
    | .error e => host.printError (linesText ["Error: " ++ e.message]); return 1

end

end EventSearch.Cli
