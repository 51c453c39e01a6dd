import Gamebook.CommandLine.Session
import Std.Time.Format

/-!
The program. The files that it sees are those whose paths stand on its standard input, one a line;
a path that no file can be read from counts as a directory.
-/

namespace Gamebook.CommandLine

/-- The variables of the environment that matter and are set. -/
def readEnvironment : IO (Table String) := do
  let values ← variableNames.mapM fun name => do return (name, ← IO.getEnv name)
  return values.filterMap fun (name, value) => value.map fun value => (name, value)

/-- A tree with what a path stands for. -/
def readEntry (disk : Disk) (path : String) : IO Disk := do
  let place := (Path.ofText path).parts
  try
    let bytes ← IO.FS.readBinFile path
    return disk.write place bytes.toList
  catch _ => return disk.addDirectories place

/-- The tree of the paths on the standard input. -/
def readDisk : IO Disk := do
  let paths ← (← IO.getStdin).lines
  paths.foldlM readEntry Disk.empty

/-- The time at which this is done. -/
def readTime : IO String := do
  let now ← Std.Time.Timestamp.now
  return (Std.Time.DateTime.ofTimestamp now Std.Time.TimeZone.ZoneRules.UTC).toISO8601String

/-- Makes sure that the log file is there, and appends the lines of a run to it. -/
def writeLog (journal : Journal) : IO Unit := do
  match journal.attached with
  | none => return
  | some file =>
    IO.FS.createDirAll file.path.parent.text
    IO.FS.withFile file.path.text .append fun handle =>
      journal.written.forM handle.putStr

/-- The help of the program. -/
def help : String := String.intercalate "\n" [
  "Integrity checks for branching narrative content.",
  "",
  "scenelint [-v] [--log-file PATH] COMMAND [OPTIONS]",
  "",
  "Commands: validate, reachability, version. Paths of files are read from standard input."]

/-- Prints how a run ends. -/
def printEnding : Ending → IO Unit
  | .refused .help => IO.println help
  | .refused (.misuse cause) => IO.eprintln s!"Error: {cause.message}"
  | .finished printed => IO.print printed.text
  | .broken fault => IO.eprintln fault.message

end Gamebook.CommandLine

open Gamebook CommandLine in
/-- Runs the program. -/
def main (arguments : List String) : IO UInt32 := do
  let environment ← readEnvironment
  let disk ← if readsFiles environment arguments then readDisk else pure Disk.empty
  let session := Session.run (.initial (← readTime) disk) environment arguments
  writeLog session.journal
  printEnding session.ending
  return session.status.toUInt32
