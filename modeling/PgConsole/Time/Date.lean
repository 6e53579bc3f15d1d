namespace PgConsole

/-!
# Dates

Days of the Gregorian calendar, extended to all years before and after its introduction. The
year 0 exists and precedes the year 1. `Date.toDays` and `Date.ofDays` count days from
1 January 1970.

Both count years from 1 March, so that a leap day is the last day of its year. A cycle of 400
such years has 146097 days, a century in it 36524 (the last one has a day more), four years
1461 (at the end of a century perhaps a day less) and a year 365 (the fourth has a day more).
-/

/-- A day of the calendar. -/
structure Date where
  year : Int
  month : Nat
  day : Nat
  deriving DecidableEq, Repr

namespace Date

/-- Whether a year has a 29 February. -/
def isLeap (year : Int) : Bool :=
  year % 4 = 0 && (year % 100 != 0 || year % 400 = 0)

/-- The number of days of a month. -/
def monthLength (year : Int) (month : Nat) : Nat :=
  if month = 2 then if isLeap year then 29 else 28
  else if month = 4 || month = 6 || month = 9 || month = 11 then 30
  else 31

/-- Whether the calendar has this day. -/
def isValid (date : Date) : Bool :=
  1 ≤ date.month && date.month ≤ 12 && 1 ≤ date.day &&
    date.day ≤ monthLength date.year date.month

/-- Days from 1 March of the year 0 to 1 January 1970. -/
def epochOffset : Int := 719468

/-- Days from 1 January 1970 to a date. -/
def toDays (date : Date) : Int :=
  let year := if date.month ≤ 2 then date.year - 1 else date.year
  let month := if date.month ≤ 2 then date.month + 9 else date.month - 3
  365 * year + year / 4 - year / 100 + year / 400 + (((153 * month + 2) / 5 + date.day : Nat) : Int)
    - 1 - epochOffset

/-- The date that lies a number of days after 1 January 1970. -/
def ofDays (days : Int) : Date :=
  let count := days + epochOffset
  let cycle := count / 146097
  let inCycle := (count % 146097).toNat
  let century := min (inCycle / 36524) 3
  let inCentury := inCycle - 36524 * century
  let fours := inCentury / 1461
  let inFours := inCentury - 1461 * fours
  let single := min (inFours / 365) 3
  let inYear := inFours - 365 * single
  let year := 400 * cycle + ((100 * century + 4 * fours + single : Nat) : Int)
  let month := (5 * inYear + 2) / 153
  let day := inYear - (153 * month + 2) / 5 + 1
  if month < 10 then ⟨year, month + 3, day⟩ else ⟨year + 1, month - 9, day⟩

end Date

end PgConsole
