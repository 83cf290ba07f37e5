import Servo.CommandLine.Report

/-!
# The program

`main` does what its arguments say.  It ends with 0, with 1 after a failure, and with 2 if
the arguments give no command.
-/

namespace Servo

namespace Command

/-- What is printed if the arguments give no command. -/
def usage : String :=
  lines [
    "Usage:",
    "  servo validate <WORLD>",
    "  servo models <WORLD>",
    "  servo run <WORLD> --t-end <T> [--dt <DT>] [--record-every <N>] [-o <FILE>]"]

/-- Writes the notable events, a line each. -/
def writeEvents (events : List Log.Event) : IO Unit := do
  for e in events do
    if Log.Level.info.shows e.level then
      IO.eprintln (e.level.name ++ " " ++ e.message)

/-- Writes what a command prints and the file that it writes. -/
def write (r : Report) : IO UInt32 := do
  IO.print r.printed
  writeEvents r.events
  match r.result with
  | .error e =>
    IO.eprintln e.message
    return 1
  | .ok none => return 0
  | .ok (some out) =>
    try
      IO.FS.writeFile out.path out.content
      IO.print out.notice
      return 0
    catch _ =>
      IO.eprintln Failure.output.message
      return 1

/-- The content of a file that can be read. -/
def contentOf (path : String) : IO (Option ByteArray) :=
  try
    return some (← IO.FS.readBinFile path)
  catch _ => return none

end Command

end Servo

open Servo in
/-- Does what the arguments say. -/
def main (args : List String) : IO UInt32 := do
  match Command.ofArguments? args with
  | none =>
    IO.eprint Command.usage
    return 2
  | some c => Command.write (c.perform (← Command.contentOf c.path))
