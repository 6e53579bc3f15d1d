import PgConsole.Job.StatusTime
import PgConsole.Proofs.Job.OutputLine
import PgConsole.Proofs.Time.Calendar
import PgConsole.Proofs.Time.Field

namespace PgConsole

/-!
# Times of a status record read back

Every moment in UTC, of whatever year and also in a leap second, is read back from its text as
that moment without what it has below a microsecond, in the zone of UTC (`parse?_writeUtc`).
Cutting moments to microseconds keeps their order, so the times that are read stand in the order
of the moments that were written.
-/

namespace Moment

/-- The moment without what it has below a microsecond. -/
def wholeMicros (moment : Moment) : Moment where
  day := moment.day
  second := moment.second
  nano := moment.nano / 1000 * 1000
  day_ge := moment.day_ge
  day_le := moment.day_le
  second_lt := moment.second_lt
  nano_lt := Nat.lt_of_le_of_lt (Nat.div_mul_le_self _ _) moment.nano_lt
  leap := fun hLeap => moment.leap (Nat.le_trans hLeap (Nat.div_mul_le_self _ _))

theorem of?_eq_self (moment : Moment) :
    of? moment.day moment.second moment.nano = some moment := by
  rw [of?, dif_pos ⟨moment.day_ge, moment.day_le, moment.second_lt, moment.nano_lt, moment.leap⟩]

/-- A clock that is not ahead shows the same. -/
theorem shift?_zero (moment : Moment) : moment.shift? 0 = some moment := by
  have hSecond := moment.second_lt
  unfold daySeconds at hSecond
  have hDay : moment.day + ((moment.second : Int) + 0) / (daySeconds : Int) = moment.day := by
    unfold daySeconds
    omega
  have hRest : (((moment.second : Int) + 0) % (daySeconds : Int)).toNat = moment.second := by
    unfold daySeconds
    omega
  simp only [shift?, hDay, hRest]
  exact of?_eq_self moment

/-- The second and the nanosecond that a clock shows are put together again.  In a leap second it
shows second 60, and the nanoseconds start again at 0. -/
theorem ofParts_fields (moment : Moment) :
    3600 * moment.hour + 60 * moment.minute +
        (if moment.secondOfMinute = 60 then 59 else moment.secondOfMinute) = moment.second ∧
      moment.nanoOfSecond / 1000 * 1000 +
        (if moment.secondOfMinute = 60 then secondNanos else 0) = moment.nano / 1000 * 1000 := by
  have hNano := moment.nano_lt
  have hLeap := moment.leap
  unfold hour minute secondOfMinute nanoOfSecond
  unfold secondNanos at *
  -- a leap second is counted with the second before it, as nanoseconds beyond 10^9
  by_cases hInLeap : 1000000000 ≤ moment.nano
  · have hSixty : moment.second % 60 + moment.nano / 1000000000 = 60 := by
      have hLast := hLeap hInLeap
      omega
    rw [if_pos hSixty, if_pos hSixty]
    omega
  · have hNotSixty : moment.second % 60 + moment.nano / 1000000000 ≠ 60 := by omega
    rw [if_neg hNotSixty, if_neg hNotSixty]
    omega

/-- What a clock shows of a moment, to the microsecond, tells that moment. -/
theorem ofParts?_wholeMicros (moment : Moment) :
    ofParts? moment.date moment.hour moment.minute moment.secondOfMinute
      (moment.nanoOfSecond / 1000 * 1000) = some moment.wholeMicros := by
  have hNano : moment.nanoOfSecond / 1000 * 1000 < secondNanos :=
    Nat.lt_of_le_of_lt (Nat.div_mul_le_self _ _) moment.nanoOfSecond_lt
  have hParts : (moment.date.isValid && moment.hour < 24 && moment.minute < 60 &&
      moment.secondOfMinute ≤ 60 && moment.nanoOfSecond / 1000 * 1000 < secondNanos) = true := by
    simp [date, Date.isValid_ofDays, moment.hour_lt, moment.minute_lt, moment.secondOfMinute_le,
      hNano]
  have hDay : moment.date.toDays = moment.day := Date.toDays_ofDays moment.day
  obtain ⟨hSecond, hMicros⟩ := ofParts_fields moment
  rw [ofParts?, if_pos hParts]
  simp only [hDay, hSecond, hMicros]
  exact of?_eq_self moment.wholeMicros

theorem isAtMost_iff (first second : Moment) :
    first.isAtMost second = true ↔
      first.day < second.day ∨ first.day = second.day ∧
        (first.second < second.second ∨
          first.second = second.second ∧ first.nano ≤ second.nano) := by
  simp [isAtMost]

/-- Cutting keeps the order. -/
theorem isAtMost_wholeMicros {first second : Moment} (h : first.isAtMost second = true) :
    first.wholeMicros.isAtMost second.wholeMicros = true := by
  rw [isAtMost_iff] at h ⊢
  have hNano : first.nano ≤ second.nano →
      first.nano / 1000 * 1000 ≤ second.nano / 1000 * 1000 :=
    fun hLe => Nat.mul_le_mul_right 1000 (Nat.div_le_div_right hLe)
  exact h.imp_right (And.imp_right (Or.imp_right (And.imp_right hNano)))

end Moment

namespace Job.StatusTime

/-- The six digits of the fraction. -/
theorem micros_lt (moment : Moment) : moment.nanoOfSecond / 1000 < Nat.pow 10 6 := by
  have hNano := moment.nanoOfSecond_lt
  have hPower : Nat.pow 10 6 = 1000000 := rfl
  unfold secondNanos at hNano
  omega

theorem fraction?_microseconds (moment : Moment) (rest : List Char) :
    fraction? ('.' :: ((microseconds moment).toList ++ rest)) =
      some (moment.nanoOfSecond / 1000 * 1000, rest) := by
  rw [fraction?, microseconds, Time.exactDigits?_padded (by decide) (micros_lt moment)]
  rfl

theorem offset?_utc : offset? (Text.trimStart [' ', '+', '0', '0', '0', '0']) = some (0, []) := by
  decide

/-- The text of a moment, field by field. -/
theorem toList_writeUtc (moment : Moment) :
    (writeUtc moment).toList =
      (Moment.yearText moment.date.year).toList ++ '-' ::
        ((Text.padded 2 moment.date.month).toList ++ '-' ::
          ((Text.padded 2 moment.date.day).toList ++ ' ' ::
            ((Text.padded 2 moment.hour).toList ++ ':' ::
              ((Text.padded 2 moment.minute).toList ++ ':' ::
                ((Text.padded 2 moment.secondOfMinute).toList ++ '.' ::
                  ((microseconds moment).toList ++ [' ', '+', '0', '0', '0', '0'])))))) := by
  simp [writeUtc, Moment.text, String.toList_append]

/-- A moment is read back to the microsecond. -/
theorem parse?_writeUtc (moment : Moment) :
    parse? (writeUtc moment) = some ⟨moment.wholeMicros, 0⟩ := by
  have hFits := OutputLine.fits moment
  have hYear := @Time.year?_yearText moment.date.year '-' (by decide)
  have hWritten : Moment.ofParts? ⟨moment.date.year, moment.date.month, moment.date.day⟩ moment.hour
      moment.minute moment.secondOfMinute (moment.nanoOfSecond / 1000 * 1000) =
        some moment.wholeMicros := moment.ofParts?_wholeMicros
  have hShift : moment.wholeMicros.shift? (-0) = some moment.wholeMicros :=
    moment.wholeMicros.shift?_zero
  -- field by field, since every field is read from what the one before it leaves
  rw [parse?, toList_writeUtc, hYear]
  dsimp only [Option.bind_eq_bind, Option.bind_some]
  rw [Time.mark?_cons, Option.bind_some, Time.pair?_padded hFits.month]
  dsimp only [Option.bind_some]
  rw [Time.mark?_cons, Option.bind_some, Time.pair?_padded hFits.day]
  dsimp only [Option.bind_some]
  rw [Time.pair?_space, Time.pair?_padded hFits.hour]
  dsimp only [Option.bind_some]
  rw [Time.mark?_cons, Option.bind_some, Time.pair?_padded hFits.minute]
  dsimp only [Option.bind_some]
  rw [Time.mark?_cons, Option.bind_some, Time.pair?_padded hFits.second]
  dsimp only [Option.bind_some]
  rw [fraction?_microseconds]
  dsimp only [Option.bind_some]
  rw [offset?_utc]
  dsimp only [Option.bind_some]
  rw [List.isEmpty_nil, if_pos rfl, hWritten, Option.bind_some, hShift, Option.bind_some]

/-- The text of every moment in UTC is read as that moment, cut to whole microseconds and without
distance from UTC, and the times read from two texts stand in the order of their moments. -/
theorem status_times_read_back :
    (∀ moment : Moment, ∃ time, parse? (writeUtc moment) = some time ∧ time.offset = 0 ∧
        time.utc.day = moment.day ∧ time.utc.second = moment.second ∧
        time.utc.nano = moment.nano / 1000 * 1000) ∧
      ∀ first second : Moment, first.isAtMost second = true →
        ∃ earlier later, parse? (writeUtc first) = some earlier ∧
          parse? (writeUtc second) = some later ∧ earlier.isAtMost later = true := by
  constructor
  · intro moment
    exact ⟨_, parse?_writeUtc moment, rfl, rfl, rfl, rfl⟩
  · intro first second hOrder
    exact ⟨_, _, parse?_writeUtc first, parse?_writeUtc second, Moment.isAtMost_wholeMicros hOrder⟩

/-- A leap second at the end of the year before the year 0, and 1 January 1970. -/
theorem status_times_read_back_before_epoch :
    let leap : Moment := { day := -719529, second := 86399, nano := 1500000999 }
    leap.isAtMost .epoch = true ∧ writeUtc leap = "-0001-12-31 23:59:60.500000 +0000" ∧
      ∃ earlier later, parse? (writeUtc leap) = some earlier ∧
        parse? (writeUtc .epoch) = some later ∧ earlier.isAtMost later = true := by
  intro leap
  have hOrder : leap.isAtMost .epoch = true := by decide
  exact ⟨hOrder, by decide +kernel, status_times_read_back.2 leap .epoch hOrder⟩

end Job.StatusTime

end PgConsole
