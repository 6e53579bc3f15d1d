import PgConsole.Text.Utf8
import PgConsole.Time.Field
import PgConsole.Time.Moment

namespace PgConsole.Job

/-!
# Captured lines

A line of a command's output is kept as a record: a stamp of fifteen digits, a comma, the
line and a line feed. The stamp gives year, month, day, hour, minute and second with two
digits each and the millisecond with three, in UTC. Only the last two digits of the year are
kept; they are read as a year from 1970 to 2069.

`OutputLine.record` writes a record and `OutputLine.parse?` reads one.
-/

/-- The byte that ends a line. -/
def lineFeed : UInt8 := 10

/-- The byte that may stand before the end of a line. -/
def carriageReturn : UInt8 := 13

/-- The byte between a stamp and its line. -/
def comma : UInt8 := 44

/-- A line without its line feed, and without a carriage return before that. -/
def trimEnding (line : List UInt8) : List UInt8 :=
  let line := if line.getLast? = some lineFeed then line.dropLast else line
  if line.getLast? = some carriageReturn then line.dropLast else line

/-- A captured line. -/
structure OutputLine where
  /-- When it was captured, in UTC. -/
  time : Moment
  text : String
  deriving DecidableEq, Repr

namespace OutputLine

/-- The length of a stamp in bytes. -/
def stampLength : Nat := 15

/-- The stamp of a moment. -/
def stamp (moment : Moment) : String :=
  let date := moment.date
  Text.padded 2 (date.year % 100).toNat ++ Text.padded 2 date.month ++ Text.padded 2 date.day ++
    Text.padded 2 moment.hour ++ Text.padded 2 moment.minute ++
    Text.padded 2 moment.secondOfMinute ++ Text.padded 3 (moment.nanoOfSecond / 1000000)

/-- The record of a line captured at a moment. -/
def record (moment : Moment) (line : List UInt8) : List UInt8 :=
  Text.Utf8.encode (stamp moment) ++ comma :: line ++ [lineFeed]

/-- The year meant by its last two digits. -/
def fullYear (short : Nat) : Int :=
  if short < 70 then 2000 + short else 1900 + short

/-- Read a stamp. -/
def stampTime? (text : String) : Option Moment := do
  let (year, rest) ← Time.pair? text.toList
  let (month, rest) ← Time.pair? rest
  let (day, rest) ← Time.pair? rest
  let (hour, rest) ← Time.pair? rest
  let (minute, rest) ← Time.pair? rest
  let (second, rest) ← Time.pair? rest
  let (milli, rest) ← Time.exactDigits? 3 rest
  if rest.isEmpty then
    Moment.ofParts? ⟨fullYear year, month, day⟩ hour minute second (milli * 1000000)
  else none

/-- Read a record, with or without its ending. What is not well-formed text in the line is
replaced. -/
def parse? (bytes : List UInt8) : Option OutputLine :=
  let bytes := trimEnding bytes
  match bytes.drop stampLength with
  | separator :: line =>
    if separator = comma then do
      let stamp ← Text.Utf8.decode? (bytes.take stampLength)
      let time ← stampTime? stamp
      some ⟨time, Text.Utf8.decodeLossy line⟩
    else none
  | [] => none

end OutputLine

end PgConsole.Job
