import PgConsole.Text.Numeral
import PgConsole.Time.Date

namespace PgConsole

/-!
# Moments

A reading of a clock that shows date and time of day, without saying in which zone. A leap
second follows the last second of a minute: it is written as second 60, and its nanoseconds
count on from 10^9. The years from -262143 to 262142 are covered.
-/

/-- Seconds of a day. -/
def daySeconds : Nat := 86400

/-- Nanoseconds of a second. -/
def secondNanos : Nat := 1000000000

/-- The first day that a moment can lie on: 1 January of the year -262143. -/
def firstDay : Int := Date.toDays ⟨-262143, 1, 1⟩

/-- The last day that a moment can lie on: 31 December of the year 262142. -/
def lastDay : Int := Date.toDays ⟨262142, 12, 31⟩

/-- A reading of a clock: the day, counted from 1 January 1970, the second of that day and
the nanosecond of that second. -/
structure Moment where
  day : Int
  second : Nat
  nano : Nat
  day_ge : firstDay ≤ day := by decide
  day_le : day ≤ lastDay := by decide
  second_lt : second < daySeconds := by decide
  nano_lt : nano < 2 * secondNanos := by decide
  /-- Only the last second of a minute is followed by a leap second. -/
  leap : secondNanos ≤ nano → second % 60 = 59 := by decide
  deriving DecidableEq, Repr

namespace Moment

/-- The start of 1 January 1970. -/
def epoch : Moment where
  day := 0
  second := 0
  nano := 0

/-- The moment with the given parts, if there is one. -/
def of? (day : Int) (second nano : Nat) : Option Moment :=
  if h : firstDay ≤ day ∧ day ≤ lastDay ∧ second < daySeconds ∧ nano < 2 * secondNanos ∧
      (secondNanos ≤ nano → second % 60 = 59) then
    some ⟨day, second, nano, h.1, h.2.1, h.2.2.1, h.2.2.2.1, h.2.2.2.2⟩
  else none

/-- The moment that lies a number of seconds, and then some nanoseconds, after the start of
1 January 1970. -/
def ofSeconds? (seconds : Int) (nano : Nat) : Option Moment :=
  of? (seconds / daySeconds) (seconds % daySeconds).toNat nano

/-- What a clock shows that is ahead by a number of seconds. -/
def shift? (moment : Moment) (seconds : Int) : Option Moment :=
  let total := moment.second + seconds
  of? (moment.day + total / daySeconds) (total % daySeconds).toNat moment.nano

/-- The moment on a date at a time of day; second 60 is a leap second. -/
def ofParts? (date : Date) (hour minute second nano : Nat) : Option Moment :=
  if date.isValid && hour < 24 && minute < 60 && second ≤ 60 && nano < secondNanos then
    let leap := second = 60
    let start := 3600 * hour + 60 * minute
    of? date.toDays (start + if leap then 59 else second) (nano + if leap then secondNanos else 0)
  else none

/-- The date of a moment. -/
def date (moment : Moment) : Date := Date.ofDays moment.day

/-- The hour of the day. -/
def hour (moment : Moment) : Nat := moment.second / 3600

/-- The minute of the hour. -/
def minute (moment : Moment) : Nat := moment.second / 60 % 60

/-- The second of the minute, 60 in a leap second. -/
def secondOfMinute (moment : Moment) : Nat :=
  moment.second % 60 + moment.nano / secondNanos

/-- The nanosecond of the second, which starts again at 0 in a leap second. -/
def nanoOfSecond (moment : Moment) : Nat := moment.nano % secondNanos

/-- Whether one moment comes before another, or is the same. -/
def isAtMost (first second : Moment) : Bool :=
  first.day < second.day ||
    (first.day = second.day &&
      (first.second < second.second ||
        (first.second = second.second && first.nano ≤ second.nano)))

/-- A year with at least four digits; a sign stands before it unless exactly four will do. -/
def yearText (year : Int) : String :=
  if 0 ≤ year ∧ year < 10000 then Text.padded 4 year.toNat
  else (if year < 0 then "-" else "+") ++ Text.padded 4 year.natAbs

/-- Date and time of day up to the second, such as `2024-03-09 07:05:01`. -/
def text (moment : Moment) : String :=
  let date := moment.date
  yearText date.year ++ "-" ++ Text.padded 2 date.month ++ "-" ++ Text.padded 2 date.day ++ " " ++
    Text.padded 2 moment.hour ++ ":" ++ Text.padded 2 moment.minute ++ ":" ++
    Text.padded 2 moment.secondOfMinute

end Moment

end PgConsole
