import PgConsole.Job.OutputLine
import PgConsole.Proofs.Text.Utf8
import PgConsole.Proofs.Time.Calendar
import PgConsole.Proofs.Time.Field

namespace PgConsole.Job

/-!
# Records of captured lines read back

Every record ends in its only line feed and can be read, whenever its line was captured: the two
digits that are left of the year always stand for a year in which the day exists.
-/

/-- A line without a given byte at its end. -/
def dropLastByte (byte : UInt8) (line : List UInt8) : List UInt8 :=
  if line.getLast? = some byte then line.dropLast else line

theorem trimEnding_eq (line : List UInt8) :
    trimEnding line = dropLastByte carriageReturn (dropLastByte lineFeed line) := rfl

theorem dropLastByte_concat (byte last : UInt8) (start : List UInt8) :
    dropLastByte byte (start ++ [last]) = if last = byte then start else start ++ [last] := by
  simp [dropLastByte]

theorem dropLastByte_append_cons {byte separator : UInt8} (hSeparator : separator ≠ byte)
    (front line : List UInt8) :
    dropLastByte byte (front ++ separator :: line) =
      front ++ separator :: dropLastByte byte line := by
  rcases List.eq_nil_or_concat line with rfl | ⟨start, last, rfl⟩
  · rw [dropLastByte_concat, if_neg hSeparator]
    rfl
  · have hFront : front ++ separator :: (start ++ [last]) =
        (front ++ separator :: start) ++ [last] := by
      rw [List.append_assoc, List.cons_append]
    rw [List.concat_eq_append, hFront, dropLastByte_concat, dropLastByte_concat]
    split
    · rfl
    · exact hFront.symm

theorem dropLastByte_of_not_mem {byte : UInt8} {line : List UInt8} (hByte : byte ∉ line) :
    dropLastByte byte line = line := by
  rw [dropLastByte, if_neg]
  intro hLast
  exact hByte (List.mem_of_getLast? hLast)

namespace OutputLine

/-! ## Stamps -/

theorem toList_stamp (moment : Moment) :
    (stamp moment).toList =
      (Text.padded 2 (moment.date.year % 100).toNat).toList ++
        ((Text.padded 2 moment.date.month).toList ++ ((Text.padded 2 moment.date.day).toList ++
          ((Text.padded 2 moment.hour).toList ++ ((Text.padded 2 moment.minute).toList ++
            ((Text.padded 2 moment.secondOfMinute).toList ++
              (Text.padded 3 (moment.nanoOfSecond / 1000000)).toList))))) := by
  simp only [stamp, String.toList_append, List.append_assoc]

theorem isDigit_of_mem_stamp {moment : Moment} {c : Char} (h : c ∈ (stamp moment).toList) :
    Text.isDigit c = true := by
  simp only [toList_stamp, List.mem_append] at h
  rcases h with h | h | h | h | h | h | h <;> exact Text.isDigit_of_mem_padded h

/-- The number of milliseconds in a second has three digits. -/
theorem milli_lt (moment : Moment) : moment.nanoOfSecond / 1000000 < Nat.pow 10 3 := by
  have hNano := moment.nanoOfSecond_lt
  have hPower : Nat.pow 10 3 = 1000 := rfl
  unfold secondNanos at hNano
  omega

/-- Every field of a stamp fits into its two digits. -/
structure Fits (moment : Moment) : Prop where
  year : (moment.date.year % 100).toNat < 100
  month : moment.date.month < 100
  day : moment.date.day < 100
  hour : moment.hour < 100
  minute : moment.minute < 100
  second : moment.secondOfMinute < 100

theorem fits (moment : Moment) : Fits moment := by
  have hValid := (Date.isValid_iff moment.date).mp (Date.isValid_ofDays moment.day)
  have hMonth := Date.monthLength_le moment.date.year moment.date.month
  have hHour := moment.hour_lt
  have hMinute := moment.minute_lt
  have hSecond := moment.secondOfMinute_le
  constructor <;> omega

theorem length_stamp (moment : Moment) : (stamp moment).toList.length = stampLength := by
  have hFits := fits moment
  have hMilli : (Text.padded 3 (moment.nanoOfSecond / 1000000)).toList.length = 3 :=
    Text.length_padded (by decide) (milli_lt moment)
  simp only [toList_stamp, List.length_append, Text.length_padded_two hFits.year,
    Text.length_padded_two hFits.month, Text.length_padded_two hFits.day,
    Text.length_padded_two hFits.hour, Text.length_padded_two hFits.minute,
    Text.length_padded_two hFits.second, hMilli]
  rfl

theorem encode_stamp (moment : Moment) :
    Text.Utf8.encode (stamp moment) = (stamp moment).toList.map fun c => c.val.toUInt8 := by
  refine Text.Utf8.encode_of_ascii fun c hMem => ?_
  have hRange := Text.toNat_range_of_isDigit (isDigit_of_mem_stamp hMem)
  omega

theorem length_encode_stamp (moment : Moment) :
    (Text.Utf8.encode (stamp moment)).length = stampLength := by
  rw [encode_stamp, List.length_map, length_stamp]

theorem lineFeed_not_mem_stamp (moment : Moment) :
    lineFeed ∉ Text.Utf8.encode (stamp moment) := by
  rw [encode_stamp, List.mem_map]
  rintro ⟨c, hMem, hByte⟩
  have hRange := Text.toNat_range_of_isDigit (isDigit_of_mem_stamp hMem)
  have hCode : c.toNat % 256 = 10 := congrArg UInt8.toNat hByte
  omega

/-- The year that two digits stand for is one of a hundred. -/
theorem fullYear_range {short : Nat} (hShort : short < 100) :
    1970 ≤ fullYear short ∧ fullYear short ≤ 2069 := by
  unfold fullYear
  split <;> omega

/-- Every fourth year of those that two digits can stand for is a leap year, so a leap year is
read as one. -/
theorem isLeap_fullYear {year : Int} (hLeap : Date.isLeap year = true) :
    Date.isLeap (fullYear (year % 100).toNat) = true := by
  have hFourth := ((Date.isLeap_iff year).mp hLeap).1
  have hShort : ((year % 100).toNat : Int) = year % 100 := by omega
  rw [Date.isLeap_iff]
  unfold fullYear
  split <;> omega

theorem monthLength_le_fullYear (year : Int) (month : Nat) :
    Date.monthLength year month ≤ Date.monthLength (fullYear (year % 100).toNat) month := by
  unfold Date.monthLength
  by_cases hLeap : Date.isLeap year = true
  · simp only [hLeap, isLeap_fullYear hLeap, Nat.le_refl]
  · rw [if_neg hLeap]
    split
    · split <;> decide
    · exact Nat.le_refl _

/-- Every stamp can be read. -/
theorem isSome_stampTime?_stamp (moment : Moment) : (stampTime? (stamp moment)).isSome = true := by
  have hFits := fits moment
  have hValid := (Date.isValid_iff moment.date).mp (Date.isValid_ofDays moment.day)
  obtain ⟨hYearLow, hYearHigh⟩ := fullYear_range hFits.year
  have hDate : (Date.isValid ⟨fullYear (moment.date.year % 100).toNat, moment.date.month,
      moment.date.day⟩) = true := by
    rw [Date.isValid_iff]
    exact ⟨hValid.1, hValid.2.1, Nat.le_trans hValid.2.2 (monthLength_le_fullYear _ _)⟩
  have hMilli := Time.exactDigits?_padded (by decide) (milli_lt moment) []
  rw [List.append_nil] at hMilli
  simp only [stampTime?, toList_stamp, Time.pair?_padded hFits.year,
    Time.pair?_padded hFits.month, Time.pair?_padded hFits.day, Time.pair?_padded hFits.hour,
    Time.pair?_padded hFits.minute, Time.pair?_padded hFits.second, hMilli,
    Option.bind_eq_bind, Option.bind_some, List.isEmpty_nil, if_true]
  have hNano : moment.nanoOfSecond / 1000000 * 1000000 < secondNanos :=
    Nat.lt_of_le_of_lt (Nat.div_mul_le_self _ _) moment.nanoOfSecond_lt
  exact Moment.isSome_ofParts? hDate (Int.le_trans (by decide) hYearLow)
    (Int.le_trans hYearHigh (by decide)) moment.hour_lt moment.minute_lt
    moment.secondOfMinute_le hNano

/-! ## Records -/

/-- A record ends in its only line feed. -/
theorem record_eq_concat (moment : Moment) (line : List UInt8) :
    record moment line = (Text.Utf8.encode (stamp moment) ++ comma :: line) ++ [lineFeed] := rfl

theorem lineFeed_not_mem_record_body (moment : Moment) {line : List UInt8}
    (hLine : lineFeed ∉ line) :
    lineFeed ∉ Text.Utf8.encode (stamp moment) ++ comma :: line := by
  rw [List.mem_append, List.mem_cons]
  rintro (hStamp | hComma | hMem)
  · exact lineFeed_not_mem_stamp moment hStamp
  · exact absurd hComma (by decide)
  · exact hLine hMem

/-- Of a record with its line feed, the line feed goes and a carriage return at the end of the
line. -/
theorem trimEnding_record (moment : Moment) {line : List UInt8} (hLine : lineFeed ∉ line) :
    trimEnding (record moment line) =
      Text.Utf8.encode (stamp moment) ++ comma :: trimEnding line := by
  rw [record_eq_concat, trimEnding_eq, dropLastByte_concat, if_pos rfl,
    dropLastByte_append_cons (by decide), trimEnding_eq, dropLastByte_of_not_mem hLine]

/-- A record is read back as its line with the time that its stamp tells. -/
theorem parse?_record (moment : Moment) {line : List UInt8} (hLine : lineFeed ∉ line) :
    parse? (record moment line) =
      (stampTime? (stamp moment)).map fun time =>
        ⟨time, Text.Utf8.decodeLossy (trimEnding line)⟩ := by
  have hLength := length_encode_stamp moment
  simp only [parse?, trimEnding_record moment hLine, List.drop_left' hLength,
    List.take_left' hLength, if_true, Text.Utf8.decode?_encode, Option.bind_eq_bind,
    Option.bind_some]
  cases stampTime? (stamp moment) <;> rfl

theorem isSome_parse?_record (moment : Moment) {line : List UInt8} (hLine : lineFeed ∉ line) :
    (parse? (record moment line)).isSome = true := by
  rw [parse?_record moment hLine, Option.isSome_map]
  exact isSome_stampTime?_stamp moment

end OutputLine

end PgConsole.Job
