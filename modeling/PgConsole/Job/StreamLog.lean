import PgConsole.Job.Capture
import PgConsole.Job.Host

namespace PgConsole.Job

/-!
# Writing stream logs

Lines are written one by one, each with the time at which it is written, so that somebody who
follows the log sees them soon.
-/

namespace StreamLog

variable {World : Type}

/-- Write a line, stamped with the time that the clock shows. -/
def writeLine (host : Host World) (stream : Stream) (line : List UInt8) (world : World) :
    Except SystemError Unit × World :=
  let (moment, world) := host.now world
  host.append (.log stream) (OutputLine.record moment line) world

/-- Write lines in order until one cannot be written. -/
def writeLines (host : Host World) (stream : Stream) :
    List (List UInt8) → World → Except SystemError Unit × World
  | [], world => (.ok (), world)
  | line :: rest, world =>
    match writeLine host stream line world with
    | (.error cause, world) => (.error cause, world)
    | (.ok (), world) => writeLines host stream rest world

/-- Write all lines of a byte stream and store them. The answer is their number. -/
def drain (host : Host World) (stream : Stream) (bytes : List UInt8) (world : World) :
    Except SystemError Nat × World :=
  let lines := streamLines bytes
  match writeLines host stream lines world with
  | (.error cause, world) => (.error cause, world)
  | (.ok (), world) =>
    match host.sync (.log stream) world with
    | (.error cause, world) => (.error cause, world)
    | (.ok (), world) => (.ok lines.length, world)

end StreamLog

end PgConsole.Job
