import PgConsole.SystemError
import PgConsole.Time.Moment

namespace PgConsole.Job

/-!
# The machine under a job

What a running job needs from the outside: a clock, the files of its own directory, and one
command. As with `Services`, the outside is a value of some type `World`, and nothing is
assumed about what its operations answer. Writing a file is split into the steps at which it
can fail.

`Host.recorded` is the same machine together with everything that was done on it.
-/

/-- The two streams to which a command writes. -/
inductive Stream where
  | out
  | err
  deriving DecidableEq, Repr

/-- The files of a job's directory. -/
inductive JobFile where
  /-- The status record that everybody reads. -/
  | status
  /-- The next status record, before it takes the place of the last one. -/
  | draft
  /-- The log of a stream. -/
  | log (stream : Stream)
  deriving DecidableEq, Repr

/-- The name of a file in a job's directory. -/
def JobFile.name : JobFile → String
  | .status => "status"
  | .draft => "status.tmp"
  | .log .out => "out"
  | .log .err => "err"

/-- The other one of the two streams. -/
def Stream.other : Stream → Stream
  | .out => .err
  | .err => .out

/-- A command to run. -/
structure Command where
  program : String
  arguments : List String
  /-- The database password that the command finds in its environment. -/
  password : Option String
  deriving DecidableEq, Repr

/-- How a process ended. -/
inductive Ending where
  | exited (code : UInt8)
  | killed (signal : UInt8)
  /-- It did not end: it was only stopped or continued. -/
  | unended
  deriving DecidableEq, Repr

namespace Ending

/-- Read a wait status: its low seven bits tell the signal, if there was one, and its second
byte the exit code. -/
def ofWaitStatus (status : Int32) : Ending :=
  let bits := status.toUInt32
  let signal := bits &&& 0x7f
  if signal = 0 then .exited ((bits >>> 8) &&& 0xff).toUInt8
  else if signal = 0x7f then .unended
  else .killed signal.toUInt8

end Ending

/-- The machine as a job uses it. Processes are known by number. -/
structure Host (World : Type) where
  /-- The number of the process that runs the job. -/
  self : UInt32
  /-- Read the clock, in UTC. -/
  now : World → Moment × World
  /-- Create a file, or empty it when it exists. -/
  create : JobFile → World → Except SystemError Unit × World
  /-- Open a file for appending; create it when it is missing. -/
  openLog : JobFile → World → Except SystemError Unit × World
  /-- Write bytes at the end of an open file. -/
  append : JobFile → List UInt8 → World → Except SystemError Unit × World
  /-- Make sure that everything written to an open file is stored. -/
  sync : JobFile → World → Except SystemError Unit × World
  /-- Let the draft take the place of the status file, at once. -/
  publish : World → Except SystemError Unit × World
  /-- Start a command. -/
  spawn : Command → World → Except SystemError UInt32 × World
  /-- What a command sends on a stream: the bytes up to its end, and why reading them stops
  early if it does. -/
  readStream : UInt32 → Stream → World → (List UInt8 × Option SystemError) × World
  /-- Whose turn it is to go on, of two activities that each copy a stream. -/
  turn : World → Stream × World
  /-- Hand bytes over that are to be written at the end of an open file, and do not wait for that.
  They may be written at once or at any later time, in part or not at all. -/
  leave : JobFile → List UInt8 → World → World
  /-- Kill a command. -/
  kill : UInt32 → World → Except SystemError Unit × World
  /-- Wait until a command has ended. -/
  wait : UInt32 → World → Except SystemError Ending × World

/-- Something that was done on a machine. -/
inductive Deed where
  | create (file : JobFile)
  | openLog (file : JobFile)
  | append (file : JobFile) (bytes : List UInt8)
  | sync (file : JobFile)
  | publish
  | spawn (command : Command)
  | readStream (pid : UInt32) (stream : Stream)
  | leave (file : JobFile) (bytes : List UInt8)
  | kill (pid : UInt32)
  | wait (pid : UInt32)
  deriving DecidableEq, Repr

/-- A deed and whether it succeeded. -/
structure Outcome where
  deed : Deed
  succeeded : Bool
  deriving DecidableEq, Repr

/-- A world together with what was done in it, in order. -/
structure Witnessed (World : Type) where
  world : World
  outcomes : List Outcome

namespace Host

variable {World : Type}

/-- Do something and note how it went. -/
def note {α : Type} (deed : Deed) (act : World → Except SystemError α × World)
    (witnessed : Witnessed World) : Except SystemError α × Witnessed World :=
  let (result, world) := act witnessed.world
  (result, ⟨world, witnessed.outcomes ++ [⟨deed, result.toOption.isSome⟩]⟩)

/-- The same machine, with everything that is done on it recorded. -/
def recorded (host : Host World) : Host (Witnessed World) where
  self := host.self
  now witnessed :=
    let (moment, world) := host.now witnessed.world
    (moment, ⟨world, witnessed.outcomes⟩)
  create file := note (.create file) (host.create file)
  openLog file := note (.openLog file) (host.openLog file)
  append file bytes := note (.append file bytes) (host.append file bytes)
  sync file := note (.sync file) (host.sync file)
  publish := note .publish host.publish
  spawn command := note (.spawn command) (host.spawn command)
  readStream pid stream witnessed :=
    let (result, world) := host.readStream pid stream witnessed.world
    (result, ⟨world, witnessed.outcomes ++ [⟨.readStream pid stream, result.2.isNone⟩]⟩)
  turn witnessed :=
    let (stream, world) := host.turn witnessed.world
    (stream, ⟨world, witnessed.outcomes⟩)
  leave file bytes witnessed :=
    ⟨host.leave file bytes witnessed.world, witnessed.outcomes ++ [⟨.leave file bytes, true⟩]⟩
  kill pid := note (.kill pid) (host.kill pid)
  wait pid := note (.wait pid) (host.wait pid)

end Host

end PgConsole.Job
