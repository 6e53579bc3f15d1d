import PgConsole.Time.Moment

namespace PgConsole

/-!
# The calendar's dates are dates

Counting days from 1 January 1970 always leads to a day that the calendar has
(`Date.isValid_ofDays`) and that lies as many days after that one (`Date.toDays_ofDays`), and the
parts of a moment lie in the ranges that a clock shows.
Conversely, every day of the covered years and every time of day, leap seconds included, is a
moment (`Moment.isSome_ofParts?`).
-/

namespace Date

theorem isLeap_iff (year : Int) :
    isLeap year = true ↔ year % 4 = 0 ∧ (year % 100 ≠ 0 ∨ year % 400 = 0) := by
  simp [isLeap]

theorem isValid_iff (date : Date) :
    date.isValid = true ↔
      (1 ≤ date.month ∧ date.month ≤ 12) ∧ 1 ≤ date.day ∧
        date.day ≤ monthLength date.year date.month := by
  simp [isValid, and_assoc]

/-- The date on a day of a year that is counted from 1 March. -/
def ofYearDay (year : Int) (inYear : Nat) : Date :=
  let month := (5 * inYear + 2) / 153
  let day := inYear - (153 * month + 2) / 5 + 1
  if month < 10 then ⟨year, month + 3, day⟩ else ⟨year + 1, month - 9, day⟩

/-- A count of days falls into a cycle, a century in it, four years in that, a year in them and
a day of the year.  The 366th day is reached only in a fourth year, and at the end of a century
only in the fourth one. -/
theorem ofDays_eq_ofYearDay (days : Int) :
    ∃ (cycle : Int) (century fours single inYear : Nat),
      ofDays days =
          ofYearDay (400 * cycle + ((100 * century + 4 * fours + single : Nat) : Int)) inYear ∧
        days + epochOffset = 146097 * cycle +
          ((36524 * century + 1461 * fours + 365 * single + inYear : Nat) : Int) ∧
        century ≤ 3 ∧ fours ≤ 24 ∧ single ≤ 3 ∧ inYear ≤ 365 ∧
        (inYear = 365 → single = 3 ∧ (fours = 24 → century = 3)) := by
  have hCycle : (((days + epochOffset) % 146097).toNat : Int) < 146097 := by omega
  refine ⟨_, _, _, _, _, rfl, ?_, ?_, ?_, ?_, ?_, ?_⟩ <;> omega

/-- The last day of a year that is counted from 1 March is a 29 February. -/
theorem isLeap_of_last_day {cycle : Int} {century fours : Nat} (hFours : fours ≤ 24)
    (hLast : fours = 24 → century = 3) :
    isLeap (400 * cycle + ((100 * century + 4 * fours + 3 : Nat) : Int) + 1) = true := by
  rw [isLeap_iff]
  omega

/-- Months counted from March have 31, 30, 31, 30 and 31 days, five at a time; only February, the
last one, has fewer. -/
theorem isValid_ofYearDay {year : Int} {inYear : Nat} (hInYear : inYear ≤ 365)
    (hLeap : inYear = 365 → isLeap (year + 1) = true) :
    (ofYearDay year inYear).isValid = true := by
  have hMonth : (5 * inYear + 2) / 153 ≤ 11 := by omega
  rw [isValid_iff]
  unfold ofYearDay
  generalize hMonthOf : (5 * inYear + 2) / 153 = month at hMonth ⊢
  by_cases hFebruary : month = 11
  · subst hFebruary
    by_cases hLast : inYear = 365
    · simp [monthLength, hLeap hLast, hLast]
    · -- the other days of February exist in every year
      simp [monthLength]
      split <;> omega
  · have hCases : month = 0 ∨ month = 1 ∨ month = 2 ∨ month = 3 ∨ month = 4 ∨ month = 5 ∨
        month = 6 ∨ month = 7 ∨ month = 8 ∨ month = 9 ∨ month = 10 := by omega
    rcases hCases with rfl | rfl | rfl | rfl | rfl | rfl | rfl | rfl | rfl | rfl | rfl
    all_goals
      simp [monthLength]
      omega

theorem isValid_ofDays (days : Int) : (ofDays days).isValid = true := by
  obtain ⟨cycle, century, fours, single, inYear, hEq, -, hCentury, hFours, -, hInYear, hLast⟩ :=
    ofDays_eq_ofYearDay days
  rw [hEq]
  refine isValid_ofYearDay hInYear fun hYearEnd => ?_
  obtain ⟨rfl, hCenturyEnd⟩ := hLast hYearEnd
  exact isLeap_of_last_day hFours hCenturyEnd

/-- Counting from 1 March, the days of the months before make up the day of the year. -/
theorem toDays_ofYearDay {year : Int} {inYear : Nat} (hInYear : inYear ≤ 365) :
    (ofYearDay year inYear).toDays =
      365 * year + year / 4 - year / 100 + year / 400 + inYear - epochOffset := by
  unfold ofYearDay
  generalize hMonth : (5 * inYear + 2) / 153 = month
  dsimp only
  by_cases hEarly : month < 10
  · -- March to December
    rw [if_pos hEarly]
    simp only [toDays]
    rw [if_neg (by omega), if_neg (by omega), Nat.add_sub_cancel]
    omega
  · rw [if_neg hEarly]
    simp only [toDays]
    rw [if_pos (by omega), if_pos (by omega), Nat.sub_add_cancel (by omega), Int.add_sub_cancel]
    omega

/-- Counting on from a day and back leads to the same day. -/
theorem toDays_ofDays (days : Int) : (ofDays days).toDays = days := by
  obtain ⟨cycle, century, fours, single, inYear, hEq, hDays, hCentury, hFours, hSingle, hInYear,
    -⟩ := ofDays_eq_ofYearDay days
  rw [hEq, toDays_ofYearDay hInYear]
  omega

theorem monthLength_le (year : Int) (month : Nat) : monthLength year month ≤ 31 := by
  unfold monthLength
  split
  · split <;> decide
  · split <;> decide

/-- A date in the years that are covered lies between the first and the last day. -/
theorem toDays_mem_range {date : Date} (hValid : date.isValid = true)
    (hLow : -262143 ≤ date.year) (hHigh : date.year ≤ 262142) :
    firstDay ≤ date.toDays ∧ date.toDays ≤ lastDay := by
  obtain ⟨⟨hMonthLow, hMonthHigh⟩, hDayLow, hDayHigh⟩ := (isValid_iff date).mp hValid
  have hFirst : firstDay = -96465292 := by decide
  have hLast : lastDay = 95026236 := by decide
  have hDay : date.day ≤ 31 := Nat.le_trans hDayHigh (monthLength_le _ _)
  rw [hFirst, hLast]
  -- January and February belong to the year before
  by_cases hEarly : date.month ≤ 2
  · simp only [toDays, epochOffset, if_pos hEarly]
    omega
  · simp only [toDays, epochOffset, if_neg hEarly]
    omega

end Date

namespace Moment

theorem hour_lt (moment : Moment) : moment.hour < 24 := by
  have hSecond := moment.second_lt
  unfold daySeconds at hSecond
  unfold hour
  omega

theorem minute_lt (moment : Moment) : moment.minute < 60 :=
  Nat.mod_lt _ (by decide)

theorem secondOfMinute_le (moment : Moment) : moment.secondOfMinute ≤ 60 := by
  have hNano := moment.nano_lt
  have hLeap := moment.leap
  unfold secondOfMinute
  unfold secondNanos at *
  omega

theorem nanoOfSecond_lt (moment : Moment) : moment.nanoOfSecond < secondNanos :=
  Nat.mod_lt _ (by decide)

/-- What a clock can show on a day that exists is a moment, a leap second included. -/
theorem isSome_ofParts? {date : Date} {hour minute second nano : Nat}
    (hValid : date.isValid = true) (hLow : -262143 ≤ date.year) (hHigh : date.year ≤ 262142)
    (hHour : hour < 24) (hMinute : minute < 60) (hSecond : second ≤ 60)
    (hNano : nano < secondNanos) : (ofParts? date hour minute second nano).isSome = true := by
  obtain ⟨hFirst, hLast⟩ := Date.toDays_mem_range hValid hLow hHigh
  have hParts : (date.isValid && hour < 24 && minute < 60 && second ≤ 60 &&
      nano < secondNanos) = true := by
    simp [hValid, hHour, hMinute, hSecond, hNano]
  rw [ofParts?, if_pos hParts]
  unfold of?
  rw [dif_pos]
  · rfl
  · unfold daySeconds
    unfold secondNanos at *
    refine ⟨hFirst, hLast, ?_, ?_, ?_⟩ <;> split <;> omega

end Moment

end PgConsole
