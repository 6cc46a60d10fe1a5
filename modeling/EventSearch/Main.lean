/-
# `EventSearch.Main` — the program on this machine

The operations of `Host` as they are on a real machine.
-/
import EventSearch.Cli.Program
import Std.Time.DateTime.Timestamp

namespace EventSearch.Cli

/-- What a failed operation says about a file. -/
def faultOf : IO.Error → FileFault
  | .noFileOrDirectory .. => .missing
  | .permissionDenied .. => .denied
  | e => .other (toString e)

/-- An operation on a file that may fail. -/
def attempt {α : Type} (act : IO α) : IO (Except FileFault α) := do
  try
    return .ok (← act)
  catch e =>
    return .error (faultOf e)

/-- This machine. -/
def machine : Host IO where
  env? name := IO.getEnv name
  readFile path := attempt do return (← IO.FS.readBinFile path).data.toList
  hasFile path := do
    try
      discard (IO.FS.realPath path)
      return true
    catch _ => return false
  writeFile path content := attempt (IO.FS.writeFile path content)
  openLog path := attempt (discard (IO.FS.Handle.mk path .append))
  now := do
    let t ← Std.Time.Timestamp.now
    return t.toMillisecondsSinceUnixEpoch.val
  print text := IO.print text
  printError text := IO.eprint text

end EventSearch.Cli

/-- Run the command line. -/
def main (arguments : List String) : IO UInt32 :=
  EventSearch.Cli.run EventSearch.Cli.machine arguments
