import PgConsole.Job.Host
import PgConsole.Job.Status

namespace PgConsole.Job

/-!
# Keeping a status file

A keeper holds the record of one job and writes it as a whole whenever it changes: into the
draft first, which then takes the place of the status file. So a reader of the status file
sees one record or another, never a part of one.

The record changes before it is written. When a write fails the keeper therefore knows more
than the file says, and a keeper whose record is terminal refuses every further change.
-/

/-- The writer of one job's status file. -/
structure StatusKeeper where
  directory : String
  record : StatusRecord := {}
  deriving DecidableEq, Repr

namespace StatusKeeper

variable {World : Type}

/-- The path of the status file. -/
def path (keeper : StatusKeeper) : String :=
  Path.join keeper.directory StatusRecord.fileName

/-- The refusal to change a terminal record. -/
def alreadyTerminal (keeper : StatusKeeper) : Error :=
  .process ("Status of " ++ keeper.path ++ " is already terminal") false

/-- Fill the draft with a record. -/
def writeDraft (host : Host World) (record : StatusRecord) (world : World) :
    Except SystemError Unit × World :=
  match host.create .draft world with
  | (.error cause, world) => (.error cause, world)
  | (.ok (), world) =>
    match host.append .draft (Text.Utf8.encode record.render) world with
    | (.error cause, world) => (.error cause, world)
    | (.ok (), world) => host.sync .draft world

/-- Write a record to the status file. -/
def write (host : Host World) (record : StatusRecord) (world : World) :
    Except SystemError Unit × World :=
  match writeDraft host record world with
  | (.error cause, world) => (.error cause, world)
  | (.ok (), world) => host.publish world

/-- Change the record at the time the clock shows, and write it. -/
def change (host : Host World) (update : String → StatusRecord → StatusRecord)
    (keeper : StatusKeeper) (world : World) : Except Error Unit × StatusKeeper × World :=
  if keeper.record.isTerminal then (.error keeper.alreadyTerminal, keeper, world)
  else
    let (moment, world) := host.now world
    let record := update (StatusTime.writeUtc moment) keeper.record
    let (result, world) := write host record world
    (result.mapError fun cause => .file cause.message, { keeper with record }, world)

/-- Record that a process has started, perhaps again. -/
def started (host : Host World) (pid : UInt32) (keeper : StatusKeeper) (world : World) :
    Except Error Unit × StatusKeeper × World :=
  keeper.change host (fun time record => { record with startTime := some time, pid := some pid })
    world

/-- Record how the job ended. -/
def finished (host : Host World) (code : Int32) (keeper : StatusKeeper) (world : World) :
    Except Error Unit × StatusKeeper × World :=
  keeper.change host
    (fun time record => { record with endTime := some time, exitCode := some code }) world

end StatusKeeper

end PgConsole.Job
