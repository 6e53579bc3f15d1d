import PgConsole.FileTree
import PgConsole.Log.Filter

namespace PgConsole.Log

/-!
# Where log events go

A process has at most one subscriber, and the first one installed stays. On a terminal events
go to standard output in colour. Otherwise they go to a daily file, and those of level info
and above also to standard output; when the file cannot be had, standard output is used
alone. A job logs into a file of its own.
-/

/-- Where events go. -/
inductive Destination where
  | console
  | daily (place : FileTree.Place)
  | job (place : FileTree.Place)
  deriving DecidableEq, Repr

/-- The one receiver of events. -/
structure Subscriber where
  filter : Filter
  destination : Destination

/-- What a process that logs can change. -/
structure Output where
  files : FileTree
  subscriber : Option Subscriber := none
  /-- Lines written to standard output. -/
  stdout : List String := []
  /-- Colours have been written to standard output. -/
  coloured : Bool := false
  stderr : String := ""

/-- Where a console's events ended up. -/
inductive Sink where
  | console
  | file (directory : String)
  deriving DecidableEq, Repr

/-- What setting up a console's log has brought. -/
structure Setup where
  sink : Sink
  installed : Bool
  deriving DecidableEq, Repr

namespace Output

/-- Append a line to a file; what does not fit is lost. -/
def appendLine (place : FileTree.Place) (line : String) (output : Output) : Output :=
  match output.files.append place (Text.Utf8.encode (line ++ "\n")) with
  | .ok files => { output with files }
  | .error _ => output

/-- Write an event that has passed the filter. -/
def write (destination : Destination) (level : Level) (line : String) (output : Output) :
    Output :=
  match destination with
  | .console => { output with stdout := output.stdout ++ [line], coloured := true }
  | .job place => output.appendLine place line
  | .daily place =>
    let output := output.appendLine place line
    if level.rank ≤ Level.info.rank then { output with stdout := output.stdout ++ [line] }
    else output

/-- Send an event to the subscriber. -/
def emit (target : String) (level : Level) (line : String) (output : Output) : Output :=
  match output.subscriber with
  | none => output
  | some subscriber =>
    if subscriber.filter.allows target level then
      output.write subscriber.destination level line
    else output

/-- Install a subscriber unless there is one. A second one is only noted in the log. -/
def install (subscriber : Subscriber) (output : Output) : Bool × Output :=
  match output.subscriber with
  | none => (true, { output with subscriber := some subscriber })
  | some _ =>
    (false, output.emit "pgdeck_core::logging" .debug
      "A global subscriber is already installed, keeping it")

/-- The name of the log file of a day. -/
def dailyName (date : String) : String := "pgdeck." ++ date ++ ".log"

/-- Open the log file of a day in a directory, which is created if it is missing. -/
def openDaily (directory date : String) (files : FileTree) :
    Except SystemError (FileTree.Place × FileTree) :=
  match files.createAll directory with
  | .error error => .error error
  | .ok files => files.openForWriting false (Path.join directory (dailyName date))

/-- Send a console's events to standard output only. -/
def installConsole (filter : Filter) (output : Output) : Setup × Output :=
  let (installed, output) := output.install ⟨filter, .console⟩
  (⟨.console, installed⟩, output)

/-- Set up the log of a console. -/
def setUp (directory date : String) (terminal : Bool) (filter : Filter) (output : Output) :
    Setup × Output :=
  if terminal then output.installConsole filter
  else
    match openDaily directory date output.files with
    | .error cause =>
      let warning := "Warning: cannot log to " ++ directory ++ ": " ++ cause.message ++
        ". Using console only.\n"
      { output with stderr := output.stderr ++ warning }.installConsole filter
    | .ok (place, files) =>
      let (installed, output) := { output with files }.install ⟨filter, .daily place⟩
      (⟨.file directory, installed⟩, output)

/-- There is a subscriber already. -/
def alreadySubscribed : SystemError :=
  .other "a global default trace dispatcher has already been set"

/-- Send all events to a job's log file. The file is opened first. -/
def setUpJob (path : String) (filter : Filter) (output : Output) :
    Except SystemError Unit × Output :=
  match output.files.openForWriting false path with
  | .error error => (.error error, output)
  | .ok (place, files) =>
    let output := { output with files }
    match output.subscriber with
    | some _ => (.error alreadySubscribed, output)
    | none => (.ok (), { output with subscriber := some ⟨filter, .job place⟩ })

end Output

/-- Open a file for appending and write texts to it. -/
def appendTexts (path : String) (texts : List String) (files : FileTree) :
    Except SystemError FileTree :=
  match files.openForWriting false path with
  | .error error => .error error
  | .ok (place, files) => files.append place (texts.flatMap Text.Utf8.encode)

end PgConsole.Log
