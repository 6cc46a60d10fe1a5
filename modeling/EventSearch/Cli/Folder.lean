/-
# `EventSearch.Cli.Folder` — a working directory held in memory

`Folder` is a table of files with what has been printed so far; `Folder.host` runs the program on
it.  Its clock stands still, so a run is a function of the folder, the variables and the arguments.

A path is read step by step: `.` and empty steps stay where they are, and a file is a directory for
no other.  Paths that leave the folder lead to no file.
-/
import EventSearch.Cli.Host
import EventSearch.Data.Dataset

namespace EventSearch.Cli

open EventSearch.Data (find? upsert)

structure Folder where
  /-- The files by their paths from the folder, without steps that stay where they are. -/
  files : List (String × List UInt8)
  out : String
  err : String

/-! ## Paths -/

/-- The steps of a path that lead somewhere. -/
def pathSteps (path : String) : List String :=
  (path.splitOn "/").filter fun step => step ≠ "" && step ≠ "."

/-- What a path names in a folder. -/
inductive Place where
  | file (bytes : List UInt8)
  | directory
  /-- Nothing, but its directory is there. -/
  | free
  /-- Nothing, and its directory is not there either. -/
  | nowhere
  /-- A step into a file. -/
  | insideFile
  deriving DecidableEq

def Folder.ofFiles (files : List (String × List UInt8)) : Folder :=
  ⟨files.map fun f => ("/".intercalate (pathSteps f.1), f.2), "", ""⟩

/-- The bytes of a file. -/
def Folder.get? (f : Folder) (path : String) : Option (List UInt8) :=
  find? ("/".intercalate (pathSteps path)) f.files

/-- The directories of a folder are those that its files lie in. -/
def Folder.hasDirectory (f : Folder) (steps : List String) : Bool :=
  steps.isEmpty || f.files.any fun file =>
    steps.isPrefixOf (pathSteps file.1) && steps ≠ pathSteps file.1

/-- One of the places above a path is a file. -/
def Folder.throughFile (f : Folder) (steps : List String) : Bool :=
  f.files.any fun file => (pathSteps file.1).isPrefixOf steps && steps ≠ pathSteps file.1

def Folder.place (f : Folder) (path : String) : Place :=
  let steps := pathSteps path
  let asDirectory := path.endsWith "/" || path.endsWith "/."
  if path.isEmpty || path.startsWith "/" || steps.contains ".." then .nowhere
  else if f.hasDirectory steps then .directory
  else if f.throughFile steps then .insideFile
  else match f.get? path with
    | some bytes => if asDirectory then .insideFile else .file bytes
    | none =>
      if asDirectory then .nowhere
      else if f.hasDirectory steps.dropLast then .free
      else .nowhere

/-- A folder after a file is written at a path. -/
def Folder.put (f : Folder) (path : String) (bytes : List UInt8) : Folder :=
  { f with files := upsert ("/".intercalate (pathSteps path)) bytes f.files }

/-! ## The host -/

/-- Run on a folder with some variables. -/
def Folder.host (vars : List (String × String)) (clock : Int) : Host (StateM Folder) where
  env? name := pure (find? name vars)
  readFile path := do
    match (← get).place path with
    | .file bytes => return .ok bytes
    | .directory => return .error .isDirectory
    | .insideFile => return .error .notDirectory
    | .free | .nowhere => return .error .missing
  hasFile path := do
    match (← get).place path with
    | .file _ | .directory => return true
    | .free | .nowhere | .insideFile => return false
  writeFile path content := do
    match (← get).place path with
    | .file _ | .free => modify (·.put path content.toUTF8.data.toList); return .ok ()
    | .directory => return .error .isDirectory
    | .insideFile => return .error .notDirectory
    | .nowhere => return .error .missing
  openLog path := do
    match (← get).place path with
    | .file _ => return .ok ()
    | .free => modify (·.put path []); return .ok ()
    | .directory => return .error .isDirectory
    | .insideFile => return .error .notDirectory
    | .nowhere => return .error .missing
  now := pure clock
  print text := modify fun f => { f with out := f.out ++ text }
  printError text := modify fun f => { f with err := f.err ++ text }

/-- The first line of an error text that starts with `Error: `. -/
def Folder.firstError? (f : Folder) : Option String :=
  (f.err.splitOn "\n").find? fun line => line.startsWith "Error: "

end EventSearch.Cli
