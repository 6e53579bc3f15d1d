import PgConsole.Rehearsal.Machine
import Std.Time.DateTime.Timestamp

namespace PgConsole.CommandLine

/-!
# The executor's command line

The executor is called with a program and its arguments, each of them protected, and finds the
rest of its job in the environment. Here the job runs on a `Rehearsal.Machine` that starts with
the content of the job's directory, and what the machine has left in that directory is written
back. All decisions are those of `Rehearsal.Machine.execute`; nothing is proved about this
file.
-/

/-- The variables that are handed to the machine, apart from the one that holds the
password. -/
def variableNames : List String :=
  [Job.JobSpec.directoryVariable, Job.JobSpec.nameVariable, "PGDECK_LOG", "RUST_LOG", "HOME",
    "PATH"]

/-- The variables among the given ones that are set. -/
def readVariables (names : List String) : IO (List (String × String)) :=
  names.filterMapM fun name => return (← IO.getEnv name).map fun value => (name, value)

/-- The number of this process, as the system lists it. -/
def readSelf : IO UInt32 := do
  let listing ← try IO.FS.readFile "/proc/self/stat" catch _ => pure ""
  return (listing.splitOn " ").head?.bind String.toNat? |>.getD 0 |>.toUInt32

/-- What the clock shows. -/
def readClock : IO Moment := do
  let nanos := (← Std.Time.Timestamp.now).toNanosecondsSinceUnixEpoch.toInt
  return (Moment.ofSeconds? (nanos / secondNanos) (nanos % secondNanos).toNat).getD .epoch

/-- A tree that holds what lies directly in a directory. A directory that cannot be listed is
left out. -/
def readDirectory (path : String) : IO FileTree := do
  try
    let nodes ← (← (← IO.FS.realPath path).readDir).toList.mapM fun entry => do
      if ← entry.path.isDir then return (entry.fileName, FileNode.directory)
      else return (entry.fileName, FileNode.file (← IO.FS.readBinFile entry.path).toList)
    return .populate path nodes
  catch _ => return .populate "/" []

/-- Write the files of a tree that lie directly in a directory. -/
def writeDirectory (path : String) (tree : FileTree) : IO Unit :=
  (tree.children (Path.pieces path)).forM fun
    | (name, .file content) => IO.FS.writeBinFile (Path.join path name) ⟨content.toArray⟩
    | _ => pure ()

/-- Run one job. The result is the exit status of the executor. -/
def run (arguments : List String) : IO UInt32 := do
  let known ← readVariables variableNames
  let secret ← readVariables (known.lookup Job.JobSpec.nameVariable).toList
  let directory := (known.lookup Job.JobSpec.directoryVariable).getD ""
  let machine : Rehearsal.Machine :=
    { disk := ← readDirectory directory, clock := ← readClock, self := ← readSelf }
  match machine.execute arguments (known ++ secret) with
  | (.error complaint, _) =>
    IO.eprint complaint
    return 1
  | (.ok _, machine) =>
    writeDirectory directory machine.files
    return 0

end PgConsole.CommandLine

/-- Run the job that the command line and the environment describe. -/
def main (arguments : List String) : IO UInt32 := PgConsole.CommandLine.run arguments
