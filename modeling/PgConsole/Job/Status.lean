import PgConsole.FileTree
import PgConsole.Error
import PgConsole.Job.StatusTime
import PgConsole.Json.Parser
import PgConsole.Json.Printer

namespace PgConsole.Job

/-!
# Status of a job

A job's status file holds a JSON object with the fields `start_time`, `end_time`, `exit_code`
and `pid`, as far as they are known. `JobStatus.ofRecord` is what somebody who polls the file
concludes from it.
-/

/-- What a status file says. -/
structure StatusRecord where
  startTime : Option String := none
  endTime : Option String := none
  exitCode : Option Int32 := none
  pid : Option UInt32 := none
  deriving DecidableEq, Repr

namespace StatusRecord

/-- Whether the job has ended. -/
def isTerminal (record : StatusRecord) : Bool := record.exitCode.isSome

/-- The names of the fields. -/
def fieldNames : List String := ["start_time", "end_time", "exit_code", "pid"]

/-- A field, if it is known. -/
def field {α : Type} (name : String) (present : α → Json) : Option α → List (String × Json)
  | none => []
  | some value => [(name, present value)]

/-- The record as an object with the known fields. -/
def toJson (record : StatusRecord) : Json :=
  .object (field "start_time" .text record.startTime ++ field "end_time" .text record.endTime ++
    field "exit_code" (fun code => .integer code.toInt) record.exitCode ++
    field "pid" (fun pid => .ofNat pid.toNat) record.pid)

/-- Read a record. Unknown fields do not matter. -/
def ofJson? (value : Json) : Option StatusRecord := do
  let fields ← value.defaultedRecord? fieldNames
  some {
    startTime := ← Json.optional fields "start_time" Json.text?
    endTime := ← Json.optional fields "end_time" Json.text?
    exitCode := ← Json.optional fields "exit_code" Json.int32?
    pid := ← Json.optional fields "pid" Json.uint32? }

/-- The text of the record in a status file. -/
def render (record : StatusRecord) : String := record.toJson.render

/-- Read the text of a status file. -/
def parse? (text : String) : Option StatusRecord := (Json.parse? text).bind ofJson?

/-- What a status file says, given how reading it went: nothing while it does not exist. -/
def ofFile : Except SystemError String → Except Error (Option StatusRecord)
  | .error cause => if cause = .notFound then .ok none else .error (.file cause.message)
  | .ok text =>
    match parse? text with
    | none => .error .malformedData
    | some record => .ok (some record)

/-- The name of the status file in a job's directory. -/
def fileName : String := "status"

/-- The record in a directory, if there is one. -/
def read (files : FileTree) (directory : String) : Except Error (Option StatusRecord) :=
  ofFile (files.readText (Path.join directory fileName))

end StatusRecord

/-- How far a job has come. -/
inductive JobStatus where
  /-- Nothing has been recorded yet. -/
  | spawning
  | running (pid : UInt32) (start : Option StatusTime)
  /-- The command has exited with code 0. -/
  | completed (start finish : Option StatusTime)
  /-- The command has exited with another code, was killed or could not be run. -/
  | failed (exitCode : Int32) (finish : Option StatusTime)
  deriving DecidableEq, Repr

namespace JobStatus

/-- What a record says about a job. -/
def ofRecord : Option StatusRecord → JobStatus
  | none => .spawning
  | some record =>
    let start := record.startTime.bind StatusTime.parse?
    let finish := record.endTime.bind StatusTime.parse?
    match record.exitCode, record.pid with
    | some code, _ => if code = 0 then .completed start finish else .failed code finish
    | none, some pid => .running pid start
    | none, none => .spawning

/-- Whether the job has ended. -/
def isFinished : JobStatus → Bool
  | .completed _ _ => true
  | .failed _ _ => true
  | _ => false

end JobStatus

end PgConsole.Job
