/-
# `EventSearch.Cli.Host` — the machine a program runs on

The program reads variables and files, writes files and prints.  `Host` lists these operations in
any monad, so that the program itself is a function that can be run on a table of files as well
as on a real machine.
-/
namespace EventSearch.Cli

/-- Why a file cannot be used. -/
inductive FileFault where
  | missing
  | isDirectory
  | notDirectory
  | denied
  | other (text : String)
  deriving DecidableEq

def FileFault.message : FileFault → String
  | .missing => "No such file or directory (os error 2)"
  | .isDirectory => "Is a directory (os error 21)"
  | .notDirectory => "Not a directory (os error 20)"
  | .denied => "Permission denied (os error 13)"
  | .other text => text

structure Host (m : Type → Type) where
  /-- A variable of the environment. -/
  env? : String → m (Option String)
  readFile : String → m (Except FileFault (List UInt8))
  hasFile : String → m Bool
  /-- Write a file, replacing what it held. -/
  writeFile : String → String → m (Except FileFault Unit)
  /-- Open a file for additions, creating it when it is not there. -/
  openLog : String → m (Except FileFault Unit)
  /-- Milliseconds since 1970-01-01T00:00:00Z. -/
  now : m Int
  print : String → m Unit
  printError : String → m Unit

end EventSearch.Cli
