import PgConsole.Job.Capture
import PgConsole.Job.Id
import PgConsole.Job.Host
import PgConsole.Job.Status
import PgConsole.Time.Duration

namespace PgConsole.Job

/-!
# Following a background job

Whoever has launched a job, or knows its number, follows it through the files in its
directory: the status file and the logs of its two streams.
-/

/-- A job that runs, or has run, in the background. -/
structure BackgroundJob where
  id : JobId
  directory : String
  deriving DecidableEq, Repr

namespace BackgroundJob

/-- The directory of a job. -/
def directoryOf (jobsDirectory : String) (id : JobId) : String := Path.join jobsDirectory id.text

/-- The job of a number, if it has a directory. -/
def find? (files : FileTree) (jobsDirectory : String) (id : JobId) : Option BackgroundJob :=
  let directory := directoryOf jobsDirectory id
  if files.isDirectory directory then some ⟨id, directory⟩ else none

/-- The status record, if there is one yet. -/
def record (job : BackgroundJob) (files : FileTree) : Except Error (Option StatusRecord) :=
  StatusRecord.read files job.directory

/-- How far the job has come. -/
def status (job : BackgroundJob) (files : FileTree) : Except Error JobStatus :=
  (job.record files).map JobStatus.ofRecord

/-- The complete lines of a stream after an offset. A log that does not exist has none. -/
def output (job : BackgroundJob) (stream : Stream) (offset : Nat) (files : FileTree) :
    Except Error Chunk :=
  match files.readFrom (Path.join job.directory (JobFile.log stream).name) offset with
  | .error cause => if cause = .notFound then .ok ⟨[], offset⟩ else .error (.file cause.message)
  | .ok rest => .ok (Chunk.ofRest offset rest)

/-- The error for a job that takes too long. -/
def stillRunning (job : BackgroundJob) (timeout : Duration) : Error :=
  .process ("Job " ++ job.id.text ++ " still running after " ++ timeout.text) false

/-- Poll the status until the job has ended. `polls` is the number of polls left after this
one, and `place` the number of this one; `seen` tells what the files look like at each. -/
def poll (job : BackgroundJob) (timeout : Duration) (seen : Nat → FileTree) :
    Nat → Nat → Except Error JobStatus
  | polls, place =>
    match job.status (seen place) with
    | .error error => .error error
    | .ok status =>
      if status.isFinished then .ok status
      else
        match polls with
        | 0 => .error (job.stillRunning timeout)
        | polls + 1 => poll job timeout seen polls (place + 1)

/-- Poll the status every `interval` until the job has ended or `timeout` has passed. The
last poll is the first one that is not made before the timeout. -/
def wait (job : BackgroundJob) (interval timeout : Duration) (seen : Nat → FileTree) :
    Except Error JobStatus :=
  let step := max interval.nanos 1
  job.poll timeout seen ((timeout.nanos + step - 1) / step) 0

end BackgroundJob

end PgConsole.Job
