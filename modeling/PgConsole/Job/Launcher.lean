import PgConsole.Job.Background
import PgConsole.Job.Spec

namespace PgConsole.Job

/-!
# Launching jobs

A launcher gives every job a directory of its own and starts an executor for it. The executor
leaves the launcher's process group at once and exits; from then on the job goes its own way.
-/

/-- Signals by number. -/
def signalNames : List (Nat × String) := [
  (1, "SIGHUP"), (2, "SIGINT"), (3, "SIGQUIT"), (4, "SIGILL"), (5, "SIGTRAP"), (6, "SIGABRT"),
  (7, "SIGBUS"), (8, "SIGFPE"), (9, "SIGKILL"), (10, "SIGUSR1"), (11, "SIGSEGV"),
  (12, "SIGUSR2"), (13, "SIGPIPE"), (14, "SIGALRM"), (15, "SIGTERM"), (16, "SIGSTKFLT"),
  (17, "SIGCHLD"), (18, "SIGCONT"), (19, "SIGSTOP"), (20, "SIGTSTP"), (21, "SIGTTIN"),
  (22, "SIGTTOU"), (23, "SIGURG"), (24, "SIGXCPU"), (25, "SIGXFSZ"), (26, "SIGVTALRM"),
  (27, "SIGPROF"), (28, "SIGWINCH"), (29, "SIGIO"), (30, "SIGPWR"), (31, "SIGSYS")]

/-- How a process ended, in words. -/
def Ending.text : Ending → String
  | .exited code => "exit status: " ++ Text.ofNat code.toNat
  | .killed signal =>
    let name := (signalNames.lookup signal.toNat).map fun name => " (" ++ name ++ ")"
    "signal: " ++ Text.ofNat signal.toNat ++ name.getD ""
  | .unended => "continued (WIFCONTINUED)"

/-- A program to run, with variables that are added to the environment. -/
structure Invocation where
  program : String
  arguments : List String
  settings : List (String × String)
  deriving DecidableEq, Repr

/-- What a launcher needs from the outside. -/
structure LaunchSite (World : Type) where
  /-- Create a directory and whatever is missing on the way to it. -/
  createDirectory : String → World → Except SystemError Unit × World
  /-- Run a program and wait until it has ended. -/
  invoke : Invocation → World → Except SystemError Ending × World

/-- Starts executors. -/
structure Launcher where
  /-- The executor's program. -/
  executor : String
  /-- Where the directories of all jobs are. -/
  jobsDirectory : String
  deriving DecidableEq, Repr

namespace Launcher

variable {World : Type}

/-- The directory of a job. -/
def directoryOf (launcher : Launcher) (id : JobId) : String :=
  BackgroundJob.directoryOf launcher.jobsDirectory id

/-- The name of the variable that holds the password of a job. -/
def passwordVariable (id : JobId) : String :=
  "PGDECK_JOB_" ++ String.ofList (id.digits.map Char.toUpper)

/-- The executor's arguments for a request. -/
def argumentsFor (request : JobRequest) : List String :=
  (request.program :: request.arguments).map Argument.protect

/-- The variables that the executor of a request finds in its environment. -/
def variablesFor (launcher : Launcher) (id : JobId) (request : JobRequest) :
    List (String × String) :=
  [(JobSpec.directoryVariable, launcher.directoryOf id),
    (JobSpec.nameVariable, passwordVariable id)] ++
    (request.password.map fun password => (passwordVariable id, password)).toList

/-- How the executor is started for a request. -/
def invocation (launcher : Launcher) (id : JobId) (request : JobRequest) : Invocation :=
  ⟨launcher.executor, argumentsFor request, launcher.variablesFor id request⟩

/-- Launch a request as the job of a number. -/
def launch (launcher : Launcher) (site : LaunchSite World) (id : JobId) (request : JobRequest)
    (world : World) : Except Error BackgroundJob × World :=
  let directory := launcher.directoryOf id
  match site.createDirectory directory world with
  | (.error cause, world) => (.error (.file cause.message), world)
  | (.ok (), world) =>
    match site.invoke (launcher.invocation id request) world with
    | (.error _, world) =>
      (.error (.process ("Failed to start " ++ launcher.executor) true), world)
    | (.ok ending, world) =>
      if ending = .exited 0 then (.ok ⟨id, directory⟩, world)
      else
        let reason := "Executor exited with " ++ ending.text ++ " before the job was detached"
        (.error (.process reason false), world)

end Launcher

end PgConsole.Job
