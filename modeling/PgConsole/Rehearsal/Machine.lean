import PgConsole.Job.Executor
import PgConsole.Job.Launcher
import PgConsole.Job.Run
import PgConsole.Shell.Interpreter

namespace PgConsole.Rehearsal

/-!
# A machine for rehearsing jobs

A machine with a file tree, a clock that stands still, the tools and the shell of `Shell`, and
an executor. It runs one job at a time. A command that has been started does its work when its
output is first read, and a command that is killed before that has done nothing. Of its streams,
the standard output is copied first, so that nothing is left to be written later.
-/

open Job

/-- A command that has been started. -/
structure StartedCommand where
  command : Command
  /-- How it went, once it has run. -/
  result : Option Shell.RunResult := none
  killed : Bool := false

/-- A machine on which jobs are run. -/
structure Machine where
  /-- The files, without what has been appended last. -/
  disk : FileTree
  /-- Bytes that have been appended to a file and are not in `disk` yet, the last one first. -/
  recent : Option (FileTree.Place × List UInt8) := none
  clock : Moment := .epoch
  /-- The process that runs the job. -/
  self : UInt32 := 1000
  /-- The environment of that process. -/
  environment : List (String × String) := []
  /-- The mask for files that commands create. -/
  umask : Nat := 18
  /-- The path of the executor. -/
  executor : String := ""
  started : Option StartedCommand := none

namespace Machine

/-- The number of the process that a command runs in. -/
def commandPid (machine : Machine) : UInt32 := machine.self + 1

/-- The files of a machine. -/
def files (machine : Machine) : FileTree :=
  match machine.recent with
  | none => machine.disk
  | some (place, bytes) =>
    match machine.disk.at? place with
    | some (.file content) => machine.disk.put place (.file (content ++ bytes.reverse))
    | _ => machine.disk

/-- The machine with other files. -/
def setFiles (files : FileTree) (machine : Machine) : Machine :=
  { machine with disk := files, recent := none }

/-- Use a changed file tree, if there is one. -/
def withFiles (machine : Machine) : Except SystemError FileTree → Except SystemError Unit × Machine
  | .error error => (.error error, machine)
  | .ok files => (.ok (), machine.setFiles files)

/-- Append bytes to the file at a place. -/
def appendAt (place : FileTree.Place) (bytes : List UInt8) (machine : Machine) : Machine :=
  match machine.recent with
  | some (last, recent) =>
    if last = place then { machine with recent := some (place, bytes.reverseAux recent) }
    else { machine.setFiles machine.files with recent := some (place, bytes.reverse) }
  | none => { machine with recent := some (place, bytes.reverse) }

/-- Do something with the file that a path leads to. What has been removed takes every
write. -/
def onFile (machine : Machine) (path : String)
    (act : FileTree.Place → Except SystemError FileTree) : Except SystemError Unit × Machine :=
  match machine.files.resolve path with
  | .error error => (.error error, machine)
  | .ok ⟨_, none⟩ => (.ok (), machine)
  | .ok ⟨place, some _⟩ => machine.withFiles (act place)

/-- Whether a text can be handed to a process. -/
def canHandOver (text : String) : Bool := !text.toList.contains (Char.ofNat 0)

/-- The variable in which a command finds the database password. -/
def passwordVariable : String := "PGPASSWORD"

/-- Start a command. -/
def spawn (command : Command) (machine : Machine) : Except SystemError UInt32 × Machine :=
  if !((command.program :: command.arguments) ++ command.password.toList).all canHandOver then
    (.error .nulInArgument, machine)
  else
    match Shell.programError? machine.files command.program with
    | some error => (.error error, machine)
    | none => (.ok machine.commandPid, { machine with started := some { command } })

/-- Add variables to an environment, the new ones first. -/
def extended (additions environment : List (String × String)) : List (String × String) :=
  additions ++ environment.filter fun entry => (additions.lookup entry.1).isNone

/-- The process in which a command runs. -/
def processOf (machine : Machine) (command : Command) : Shell.Process where
  files := machine.files
  bindings :=
    (extended (command.password.map fun password => (passwordVariable, password)).toList
      machine.environment).map fun entry => ⟨entry.1, entry.2, true⟩
  umask := machine.umask
  pid := machine.commandPid.toNat
  parent := machine.self.toNat

/-- Let the started command do its work, unless it has. -/
def runStarted (machine : Machine) : Machine :=
  match machine.started with
  | none => machine
  | some started =>
    if started.result.isSome || started.killed then machine
    else
      let result := Shell.runProgram (machine.processOf started.command) started.command.program
        started.command.arguments
      { machine.setFiles result.files with
        started := some { started with result := some result } }

/-- What the started command has written to a stream. -/
def written (machine : Machine) (stream : Stream) : List UInt8 :=
  match machine.started.bind (·.result), stream with
  | none, _ => []
  | some result, .out => result.out
  | some result, .err => result.err

/-- How the started command has ended. -/
def ending (machine : Machine) : Ending :=
  match machine.started.bind (·.result) with
  | some result => result.ending
  | none => .killed 9

/-- The machine as the host of a job in a directory. -/
def host (directory : String) (self : UInt32) : Host Machine where
  self := self
  now machine := (machine.clock, machine)
  create file machine :=
    machine.withFiles
      ((machine.files.openForWriting true (Path.join directory file.name)).map Prod.snd)
  openLog file machine :=
    machine.withFiles
      ((machine.files.openForWriting false (Path.join directory file.name)).map Prod.snd)
  append file bytes machine :=
    let path := Path.join directory file.name
    match machine.disk.resolve path with
    | .ok ⟨place, some (.file _)⟩ => (.ok (), machine.appendAt place bytes)
    | _ => machine.onFile path fun place => machine.files.append place bytes
  sync file machine :=
    machine.onFile (Path.join directory file.name) fun place =>
      (machine.files.sync place).map fun _ => machine.files
  publish machine :=
    machine.withFiles (machine.files.rename (Path.join directory JobFile.draft.name)
      (Path.join directory JobFile.status.name))
  spawn := spawn
  readStream _ stream machine :=
    let machine := machine.runStarted
    ((machine.written stream, none), machine)
  turn machine := (.out, machine)
  leave _ _ machine := machine
  kill _ machine :=
    let started := machine.started.map fun started => { started with killed := true }
    (.ok (), { machine with started })
  wait _ machine :=
    let machine := machine.runStarted
    (.ok machine.ending, machine)

/-- Run a job. -/
def run (spec : JobSpec) (machine : Machine) : Except Error Int32 × Machine :=
  Job.run (host spec.directory machine.self) spec machine

/-- Give up a job. -/
def abandon (spec : JobSpec) (reason : String) (machine : Machine) : Except Error Unit × Machine :=
  Job.abandon (host spec.directory machine.self) spec reason machine

/-- Run the executor, and then its job. The job is none of the executor's own concern: the
answer is what the executor says when there is no job, and nothing otherwise. -/
def execute (arguments : List String) (settings : List (String × String)) (machine : Machine) :
    Except String JobSpec × Machine :=
  let environment := extended settings machine.environment
  let (result, output) := Executor.prepare machine.self arguments
    (fun name => environment.lookup name) { files := machine.files }
  let machine := machine.setFiles output.files
  match result with
  | .error complaint => (.error complaint, machine)
  | .ok spec =>
    let worker := { machine with environment, umask := 0 }
    let (_, after) := worker.run spec
    (.ok spec, machine.setFiles after.files)

/-- Run a program to its end. -/
def invoke (invocation : Invocation) (machine : Machine) : Except SystemError Ending × Machine :=
  let texts := invocation.program :: invocation.arguments ++ invocation.settings.map Prod.snd
  if !texts.all canHandOver then (.error .nulInArgument, machine)
  else if invocation.program = machine.executor then
    match machine.execute invocation.arguments invocation.settings with
    | (.error _, machine) => (.ok (.exited 1), machine)
    | (.ok _, machine) => (.ok (.exited 0), machine)
  else
    match Shell.programError? machine.files invocation.program with
    | some error => (.error error, machine)
    | none =>
      let environment := extended invocation.settings machine.environment
      let process := { machine with environment }.processOf ⟨invocation.program, [], none⟩
      let result := Shell.runProgram process invocation.program invocation.arguments
      (.ok result.ending, machine.setFiles result.files)

/-- The machine as the place from which jobs are launched. -/
def launchSite : LaunchSite Machine where
  createDirectory path machine := machine.withFiles (machine.files.createAll path)
  invoke := invoke

end Machine

end PgConsole.Rehearsal
