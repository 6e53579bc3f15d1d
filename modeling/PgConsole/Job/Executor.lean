import PgConsole.Job.Spec
import PgConsole.Log.Output

namespace PgConsole.Job

/-!
# Starting an executor

An executor finds its job, opens its diagnostic log, leaves the process group of whoever has
started it and exits with status 0; a process of its own then runs the job. When there is no
job to be found, or no log, it says so and exits with status 1.
-/

namespace Executor

/-- The name under which an executor complains. -/
def name : String := "pgdeck-executor"

/-- A complaint, as it stands on the error stream. -/
def complaint (message : String) : String := name ++ ": " ++ message ++ "\n"

/-- Find the job of an executor process and open its log. The error is the complaint with
which the process exits. -/
def prepare (pid : UInt32) (arguments : List String) (environment : String → Option String)
    (output : Log.Output) : Except String JobSpec × Log.Output :=
  match JobSpec.ofParts output.files.isDirectory arguments environment with
  | .error error => (.error (complaint error.message), output)
  | .ok spec =>
    let path := spec.logPath pid
    match output.setUpJob path (Log.jobFilter environment) with
    | (.error cause, output) =>
      (.error (complaint ("cannot open " ++ path ++ ": " ++ cause.message)), output)
    | (.ok (), output) => (.ok spec, output)

end Executor

end PgConsole.Job
