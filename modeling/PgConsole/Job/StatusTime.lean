import PgConsole.Time.Field
import PgConsole.Time.Moment

namespace PgConsole.Job

/-!
# Times of a status record

Written as `2024-03-09 07:05:01.000042 +0000`: date, time of day with six digits of its
fraction, and the distance of the zone from UTC in hours and minutes.

`StatusTime.parse?` is more generous than `writeUtc`: blanks may stand before every number,
any blanks or none stand where a single space is written, all parts of the date and the time
of day may be short, the fraction may be missing, and hours and minutes of the zone may be
divided by colons and blanks.
-/

/-- A moment in UTC together with the zone in which it was written. -/
structure StatusTime where
  utc : Moment
  /-- How far the zone is ahead of UTC, in seconds. -/
  offset : Int
  deriving DecidableEq, Repr

namespace StatusTime

/-- The six digits of a fraction of a second. -/
def microseconds (moment : Moment) : String :=
  Text.padded 6 (moment.nanoOfSecond / 1000)

/-- Write a moment in UTC. -/
def writeUtc (moment : Moment) : String :=
  moment.text ++ "." ++ microseconds moment ++ " +0000"

/-- The fraction of a second, in nanoseconds: exactly six digits after a point, or nothing. -/
def fraction? : List Char → Option (Nat × List Char)
  | '.' :: rest => (Time.exactDigits? 6 rest).map fun (value, rest) => (value * 1000, rest)
  | text => some (0, text)

/-- The sign of a zone's distance: a plus, a hyphen or a minus sign. -/
def sign? : List Char → Option (Int × List Char)
  | '+' :: rest => some (1, rest)
  | '-' :: rest => some (-1, rest)
  | '−' :: rest => some (-1, rest)
  | _ => none

/-- Whether a character may stand between the hours and the minutes of a zone. -/
def isDivider (c : Char) : Bool := c = ':' || Text.isBlank c

/-- The distance of a zone from UTC, in seconds. It is less than a day. -/
def offset? (text : List Char) : Option (Int × List Char) := do
  let (sign, rest) ← sign? text
  let (hours, rest) ← Time.exactDigits? 2 rest
  let (minutes, rest) ← Time.exactDigits? 2 (rest.dropWhile isDivider)
  if hours < 24 && minutes < 60 then
    some (sign * Int.ofNat (3600 * hours + 60 * minutes), rest)
  else none

/-- Read a time of a status record. Both the moment as written and the moment in UTC must be
ones that can be told. -/
def parse? (text : String) : Option StatusTime := do
  let (year, rest) ← Time.year? text.toList
  let (month, rest) ← Time.pair? (← Time.mark? '-' rest)
  let (day, rest) ← Time.pair? (← Time.mark? '-' rest)
  let (hour, rest) ← Time.pair? rest
  let (minute, rest) ← Time.pair? (← Time.mark? ':' rest)
  let (second, rest) ← Time.pair? (← Time.mark? ':' rest)
  let (nano, rest) ← fraction? rest
  let (offset, rest) ← offset? (Text.trimStart rest)
  if rest.isEmpty then
    let written ← Moment.ofParts? ⟨year, month, day⟩ hour minute second nano
    let utc ← written.shift? (-offset)
    some ⟨utc, offset⟩
  else none

/-- The moment as written in its zone. -/
def written? (time : StatusTime) : Option Moment := time.utc.shift? time.offset

/-- Whether one time comes before another, or is the same. Zones do not matter. -/
def isAtMost (first second : StatusTime) : Bool := first.utc.isAtMost second.utc

end StatusTime

end PgConsole.Job
