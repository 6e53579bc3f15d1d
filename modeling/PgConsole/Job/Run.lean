import PgConsole.Job.Drain
import PgConsole.Job.Spec
import PgConsole.Job.StatusKeeper
import PgConsole.Text.Line

namespace PgConsole.Job

/-!
# Running a job

`run` records its own start, starts the command and records the command's start, copies both
streams into their logs, waits for the command and records how it ended. Whatever fails on the
way is described in the log of the error stream and becomes an exit code; only a status file
that cannot be written at the start or at the end makes `run` itself fail.

`abandon` closes the status of a job that cannot be run at all.
-/

/-- The exit code of a job that failed because of the operating system. -/
def systemFailure : Int32 := 500

/-- The exit code of a job that failed for another reason. -/
def internalFailure : Int32 := 501

/-- The exit code recorded for a command: its own, or the negated number of the signal that
killed it. -/
def Ending.code : Ending → Int32
  | .exited code => Int32.ofNat code.toNat
  | .killed signal => -Int32.ofNat signal.toNat
  | .unended => internalFailure

/-- Why a command's outcome is not known. -/
inductive Failure where
  /-- The operating system refused something. -/
  | system (context : String) (cause : SystemError)
  | internal (error : Error)
  deriving DecidableEq, Repr

namespace Failure

/-- The exit code recorded for a failure. -/
def exitCode : Failure → Int32
  | .system _ _ => systemFailure
  | .internal _ => internalFailure

/-- The wording of a failure. -/
def message : Failure → String
  | .system context cause => context ++ ": " ++ cause.message
  | .internal error => error.message

end Failure

variable {World : Type}

/-- Open both logs and copy the streams of a command into them. -/
def captureStreams (host : Host World) (pid : UInt32) (world : World) :
    Except Failure (Nat × Nat) × World :=
  match host.openLog (.log .out) world with
  | (.error cause, world) => (.error (.system "Failed to open the output log" cause), world)
  | (.ok (), world) =>
    match host.openLog (.log .err) world with
    | (.error cause, world) => (.error (.system "Failed to open the error log" cause), world)
    | (.ok (), world) =>
      match drainCommand host pid world with
      | (.error cause, world) => (.error (.system "Failed to capture output" cause), world)
      | (.ok counts, world) => (.ok counts, world)

/-- See a started command through to its end. A command whose output cannot be captured is
killed. -/
def attend (host : Host World) (pid : UInt32) (world : World) :
    Except Failure Int32 × World :=
  match captureStreams host pid world with
  | (.error failure, world) =>
    let (_, world) := host.kill pid world
    let (_, world) := host.wait pid world
    (.error failure, world)
  | (.ok _, world) =>
    match host.wait pid world with
    | (.error cause, world) => (.error (.system "Failed to wait for the command" cause), world)
    | (.ok ending, world) => (.ok ending.code, world)

/-- Start the command of a job, record that, and see it through. A command that has been started
has a number, and both of its streams can be read. -/
def execute (host : Host World) (spec : JobSpec) (keeper : StatusKeeper) (world : World) :
    Except Failure Int32 × StatusKeeper × World :=
  match spec.command? with
  | none => (.error (.internal (.process "No command to execute" false)), keeper, world)
  | some command =>
    match host.spawn command world with
    | (.error cause, world) =>
      (.error (.system ("Failed to start " ++ command.program) cause), keeper, world)
    | (.ok pid, world) =>
      match keeper.started host pid world with
      | (.error error, keeper, world) => (.error (.internal error), keeper, world)
      | (.ok (), keeper, world) =>
        let (result, world) := attend host pid world
        (result, keeper, world)

/-- The lines of a message as they are logged. -/
def messageLines (message : String) : List (List UInt8) :=
  (Text.lines message.toList).map fun line => Text.Utf8.encode (String.ofList line)

/-- Describe a failure in the log of the error stream, as far as that can be written. -/
def report (host : Host World) (message : String) (world : World) : World :=
  match host.openLog (.log .err) world with
  | (.error _, world) => world
  | (.ok (), world) => (StreamLog.writeLines host .err (messageLines message) world).2

/-- Run a job. The answer is the exit code in its status file. -/
def run (host : Host World) (spec : JobSpec) (world : World) : Except Error Int32 × World :=
  let keeper : StatusKeeper := { directory := spec.directory }
  match keeper.started host host.self world with
  | (.error error, _, world) => (.error error, world)
  | (.ok (), keeper, world) =>
    let (result, keeper, world) := execute host spec keeper world
    let (code, world) :=
      match result with
      | .ok code => (code, world)
      | .error failure => (failure.exitCode, report host failure.message world)
    match keeper.finished host code world with
    | (.error error, _, world) => (.error error, world)
    | (.ok (), _, world) => (.ok code, world)

/-- Close the status of a job that cannot be run, with the reason in the log of the error
stream. -/
def abandon (host : Host World) (spec : JobSpec) (reason : String) (world : World) :
    Except Error Unit × World :=
  match host.openLog (.log .err) world with
  | (.error cause, world) => (.error (.file cause.message), world)
  | (.ok (), world) =>
    match StreamLog.writeLines host .err (messageLines reason) world with
    | (.error cause, world) => (.error (.file cause.message), world)
    | (.ok (), world) =>
      let keeper : StatusKeeper := { directory := spec.directory }
      match keeper.started host host.self world with
      | (.error error, _, world) => (.error error, world)
      | (.ok (), keeper, world) =>
        let (result, _, world) := keeper.finished host internalFailure world
        (result, world)

end PgConsole.Job
