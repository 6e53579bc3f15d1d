import PgConsole.Job.OutputLine

namespace PgConsole.Job

/-!
# Logs of captured output

A log is the concatenation of the records of its lines. `capture` makes the records for a
stream of bytes, and `Chunk.read` follows a growing log: it answers the complete lines after
an offset and the offset from which to go on.
-/

/-- Cut a stream behind every line feed, given the finished pieces and the bytes of the
current one, both in reverse. -/
def cutFrom (pieces : List (List UInt8)) (current : List UInt8) : List UInt8 → List (List UInt8)
  | [] => (if current.isEmpty then pieces else current.reverse :: pieces).reverse
  | byte :: rest =>
    if byte = lineFeed then cutFrom ((byte :: current).reverse :: pieces) [] rest
    else cutFrom pieces (byte :: current) rest

/-- The lines of a stream with their endings. A last piece without an ending counts when it
is not empty. -/
def cut (bytes : List UInt8) : List (List UInt8) := cutFrom [] [] bytes

/-- The lines of a stream without their endings. -/
def streamLines (bytes : List UInt8) : List (List UInt8) := (cut bytes).map trimEnding

/-- The records of a stream's lines; `clock` tells when each line is captured. -/
def capture (clock : Nat → Moment) (bytes : List UInt8) : List (List UInt8) :=
  (streamLines bytes).mapIdx fun place line => OutputLine.record (clock place) line

/-- What a poll of a log brings. -/
structure Chunk where
  lines : List OutputLine
  /-- The offset for the next poll. -/
  next : Nat
  deriving DecidableEq, Repr

namespace Chunk

/-- A stream up to its last line feed. -/
def complete (bytes : List UInt8) : List UInt8 :=
  (bytes.reverse.dropWhile (· != lineFeed)).reverse

/-- The complete lines of what a log holds after an offset. A line that is still being written
is left for the next poll, and what is not a record is skipped. -/
def ofRest (offset : Nat) (rest : List UInt8) : Chunk :=
  let whole := complete rest
  ⟨(cut whole).filterMap OutputLine.parse?, offset + whole.length⟩

/-- The complete lines of a log after an offset. -/
def read (log : List UInt8) (offset : Nat) : Chunk := ofRest offset (log.drop offset)

end Chunk

end PgConsole.Job
