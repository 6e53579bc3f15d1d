import PgConsole.Error
import PgConsole.Job.Argument
import PgConsole.Job.Host
import PgConsole.Path
import PgConsole.Text.Quoted

namespace PgConsole.Job

/-!
# Jobs as asked for and as handed over

A `JobRequest` is what the console wants to be run. Its executor is a process of its own and
finds the job in its command line and its environment; `JobSpec.ofParts` reads it from there.
The environment variable named by `PROCID` holds the password.
-/

/-- A command to be run in the background. -/
structure JobRequest where
  program : String
  arguments : List String := []
  password : Option String := none
  deriving DecidableEq, Repr

/-- What diagnostics show in the place of a password. -/
def hiddenPassword (password : Option String) : String :=
  Text.quoteOption (fun _ => Text.quote "[REDACTED]") password

/-- Diagnostic form of a request. -/
def JobRequest.debug (request : JobRequest) : String :=
  Text.quoteRecord "JobRequest" [
    ("program", Text.quote request.program),
    ("args", Text.quoteList Text.quote request.arguments),
    ("password", hiddenPassword request.password)]

/-- A job as its executor knows it. -/
structure JobSpec where
  /-- The job's own directory. -/
  directory : String
  /-- The name of the variable that holds the password. -/
  passwordVariable : String
  /-- The program followed by its arguments. -/
  words : List String
  password : Option String
  deriving DecidableEq, Repr

namespace JobSpec

/-- The variable that names the job's directory. -/
def directoryVariable : String := "OUTDIR"

/-- The variable that names the password's variable. -/
def nameVariable : String := "PROCID"

/-- A variable that has to be set, and not to nothing. -/
def requireVariable (environment : String → Option String) (name : String) :
    Except Error String :=
  match environment name with
  | none => .error (.config (name ++ " is not set"))
  | some value => if value.isEmpty then .error (.config (name ++ " is not set")) else .ok value

/-- Read a job from the arguments and the environment of its executor. -/
def ofParts (isDirectory : String → Bool) (arguments : List String)
    (environment : String → Option String) : Except Error JobSpec :=
  match requireVariable environment directoryVariable with
  | .error error => .error error
  | .ok directory =>
    match requireVariable environment nameVariable with
    | .error error => .error error
    | .ok passwordVariable =>
      if !isDirectory directory then
        .error (.config ("Output directory " ++ directory ++ " does not exist"))
      else
        match arguments.map Argument.unprotect with
        | [] => .error (.config "No command to execute")
        | words => .ok ⟨directory, passwordVariable, words, environment passwordVariable⟩

/-- The command to run, if there is one. -/
def command? (spec : JobSpec) : Option Command :=
  match spec.words with
  | [] => none
  | program :: arguments => some ⟨program, arguments, spec.password⟩

/-- The diagnostic log of an executor process. -/
def logPath (spec : JobSpec) (pid : UInt32) : String :=
  Path.join spec.directory ("log_" ++ Text.ofNat pid.toNat)

/-- Diagnostic form of a job. -/
def debug (spec : JobSpec) : String :=
  Text.quoteRecord "JobSpec" [
    ("out_dir", Text.quote spec.directory),
    ("proc_id", Text.quote spec.passwordVariable),
    ("command", Text.quoteList Text.quote spec.words),
    ("password", hiddenPassword spec.password)]

end JobSpec

end PgConsole.Job
