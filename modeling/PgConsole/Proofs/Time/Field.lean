import PgConsole.Proofs.Decimal
import PgConsole.Time.Field
import PgConsole.Time.Moment

namespace PgConsole

/-!
# Numbers of fixed width read back

A number that fits into its width is padded to exactly that many digits, and the readers of a
written time find it again at the start of any text: the one for a fixed width, and the one for
up to two digits that skips blanks.  A year of any sign and size is found again in front of a
character that is no digit (`Time.year?_yearText`).
-/

namespace Text

theorem toList_padded (width value : Nat) :
    (padded width value).toList =
      List.replicate (width - (Nat.toDigits 10 value).length) '0' ++ Nat.toDigits 10 value := by
  rw [padded, String.toList_ofList]

theorem length_padded {width value : Nat} (hWidth : 0 < width) (hFits : value < Nat.pow 10 width) :
    (padded width value).toList.length = width := by
  have hDigits : (Nat.toDigits 10 value).length ≤ width :=
    (Nat.length_toDigits_le_iff (by decide) hWidth).mpr hFits
  rw [toList_padded, List.length_append, List.length_replicate]
  omega

theorem length_padded_two {value : Nat} (hFits : value < 100) :
    (padded 2 value).toList.length = 2 :=
  length_padded (by decide) hFits

theorem isDigit_of_mem_padded {width value : Nat} {c : Char}
    (h : c ∈ (padded width value).toList) : isDigit c = true := by
  rw [toList_padded, List.mem_append] at h
  rcases h with hZero | hDigit
  · rw [List.eq_of_mem_replicate hZero]
    decide
  · exact isDigit_of_mem_toDigits hDigit

theorem toNat_range_of_isDigit {c : Char} (hDigit : isDigit c = true) :
    48 ≤ c.toNat ∧ c.toNat ≤ 57 := by
  rw [isDigit_iff, Char.isDigit_iff_toNat] at hDigit
  exact hDigit

/-- No digit is blank. -/
theorem isBlank_of_isDigit {c : Char} (hDigit : isDigit c = true) : isBlank c = false := by
  have hRange := toNat_range_of_isDigit hDigit
  simp [isBlank]
  omega

theorem padded_ne_nil (width value : Nat) : (padded width value).toList ≠ [] := by
  rw [toList_padded]
  exact List.append_ne_nil_of_right_ne_nil _ Nat.toDigits_ne_nil

theorem trimStart_of_isDigit {c : Char} {rest : List Char} (hDigit : isDigit c = true) :
    trimStart (c :: rest) = c :: rest := by
  rw [trimStart, List.dropWhile_cons_of_neg]
  simp [isBlank_of_isDigit hDigit]

theorem trimStart_padded_append (width value : Nat) (rest : List Char) :
    trimStart ((padded width value).toList ++ rest) = (padded width value).toList ++ rest := by
  cases hDigits : (padded width value).toList with
  | nil => exact absurd hDigits (padded_ne_nil width value)
  | cons c digits =>
      have hFirst : c ∈ (padded width value).toList := hDigits ▸ List.mem_cons_self
      exact trimStart_of_isDigit (isDigit_of_mem_padded hFirst)

end Text

namespace Time

theorem valueOf_eq (digits : List Char) : valueOf digits = Nat.ofDigitChars 10 digits 0 :=
  Json.digitsValue_eq digits

theorem valueOf_padded (width value : Nat) : valueOf (Text.padded width value).toList = value := by
  rw [valueOf_eq, Text.toList_padded, Nat.ofDigitChars_append, Nat.ofDigitChars_replicate_zero,
    Nat.mul_zero, Nat.ofDigitChars_ten_toDigits]

theorem exactDigits?_padded {width value : Nat} (hWidth : 0 < width)
    (hFits : value < Nat.pow 10 width) (rest : List Char) :
    exactDigits? width ((Text.padded width value).toList ++ rest) = some (value, rest) := by
  have hLength := Text.length_padded hWidth hFits
  have hDigits : (Text.padded width value).toList.all Text.isDigit = true :=
    List.all_eq_true.mpr fun _ hMem => Text.isDigit_of_mem_padded hMem
  simp only [exactDigits?, List.take_left' hLength, List.drop_left' hLength, hLength, hDigits,
    decide_true, Bool.and_self, if_true, valueOf_padded]

/-- Digits are read as far as the limit goes, or as there are any. -/
theorem digits?_append {limit : Nat} {digits rest : List Char} (hSome : digits ≠ [])
    (hDigits : ∀ c ∈ digits, Text.isDigit c = true) (hLimit : digits.length ≤ limit)
    (hStop : ∀ c ∈ (rest.take (limit - digits.length)).head?, Text.isDigit c = false) :
    digits? limit (digits ++ rest) = some (valueOf digits, rest) := by
  have hRun : ((digits ++ rest).take limit).takeWhile Text.isDigit = digits := by
    rw [List.take_append, List.take_of_length_le hLimit, List.takeWhile_append_of_pos hDigits]
    cases hNext : rest.take (limit - digits.length) with
    | nil => simp
    | cons c others =>
        rw [hNext] at hStop
        simp [hStop c rfl]
  simp only [digits?, hRun, List.isEmpty_iff, if_neg hSome, List.drop_left]

theorem pair?_padded {value : Nat} (hFits : value < 100) (rest : List Char) :
    pair? ((Text.padded 2 value).toList ++ rest) = some (value, rest) := by
  have hLength := Text.length_padded_two hFits
  rw [pair?, Text.trimStart_padded_append, digits?_append (Text.padded_ne_nil 2 value)
    (fun _ => Text.isDigit_of_mem_padded) (Nat.le_of_eq hLength), valueOf_padded]
  simp [hLength]

/-- A blank in front of a number is passed over. -/
theorem pair?_space (text : List Char) : pair? (' ' :: text) = pair? text := rfl

theorem mark?_cons (expected : Char) (rest : List Char) :
    mark? expected (expected :: rest) = some rest :=
  if_pos rfl

/-- A signed number is read up to the first character that is no digit. -/
theorem digits?_padded_stop {stop : Char} (hStop : Text.isDigit stop = false) (width value : Nat)
    (rest : List Char) :
    digits? ((Text.padded width value).toList ++ stop :: rest).length
        ((Text.padded width value).toList ++ stop :: rest) = some (value, stop :: rest) := by
  rw [digits?_append (Text.padded_ne_nil width value) (fun _ => Text.isDigit_of_mem_padded),
    valueOf_padded]
  · simp
  · simp [hStop]

/-- A year without sign ends after four digits. -/
theorem year?_padded {value : Nat} (hFits : value < 10000) (rest : List Char) :
    year? ((Text.padded 4 value).toList ++ rest) = some ((value : Int), rest) := by
  have hLength : (Text.padded 4 value).toList.length = 4 := Text.length_padded (by decide) hFits
  have hRead : digits? 4 ((Text.padded 4 value).toList ++ rest) = some (value, rest) := by
    rw [digits?_append (Text.padded_ne_nil 4 value) (fun _ => Text.isDigit_of_mem_padded)
      (Nat.le_of_eq hLength), valueOf_padded]
    simp [hLength]
  have hFirst : ∀ c tail, (Text.padded 4 value).toList ++ rest = c :: tail →
      Text.isDigit c = true := by
    intro c tail hText
    cases hPadded : (Text.padded 4 value).toList with
    | nil => exact absurd hPadded (Text.padded_ne_nil 4 value)
    | cons d digits =>
        rw [hPadded] at hText
        obtain rfl := (List.cons.inj hText).1
        have hMem : d ∈ (Text.padded 4 value).toList := hPadded ▸ List.mem_cons_self
        exact Text.isDigit_of_mem_padded hMem
  unfold year?
  rw [Text.trimStart_padded_append]
  split
  · rename_i tail hText
    exact absurd (hFirst '-' tail hText) (by decide)
  · rename_i tail hText
    exact absurd (hFirst '+' tail hText) (by decide)
  · rw [hRead]
    rfl

theorem year?_minus {text rest : List Char} {value : Nat}
    (hRead : digits? text.length text = some (value, rest)) :
    year? ('-' :: text) = some (-(value : Int), rest) := by
  have hSign : year? ('-' :: text) =
      (digits? text.length text).map fun read => (-Int.ofNat read.1, read.2) := rfl
  rw [hSign, hRead]
  rfl

theorem year?_plus {text rest : List Char} {value : Nat}
    (hRead : digits? text.length text = some (value, rest)) :
    year? ('+' :: text) = some ((value : Int), rest) := by
  have hSign : year? ('+' :: text) =
      (digits? text.length text).map fun read => (Int.ofNat read.1, read.2) := rfl
  rw [hSign, hRead]
  rfl

/-- A year is read back before a character that is no digit: the sign says whether it ends after
four digits or where the digits do. -/
theorem year?_yearText (year : Int) {stop : Char} (hStop : Text.isDigit stop = false)
    (rest : List Char) :
    year? ((Moment.yearText year).toList ++ stop :: rest) = some (year, stop :: rest) := by
  have hRead := digits?_padded_stop hStop 4 year.natAbs rest
  unfold Moment.yearText
  by_cases hFour : 0 ≤ year ∧ year < 10000
  · have hFits : year.toNat < 10000 := by omega
    rw [if_pos hFour, year?_padded hFits, Int.toNat_of_nonneg hFour.1]
  · rw [if_neg hFour]
    by_cases hNegative : year < 0
    · have hYear : -(year.natAbs : Int) = year := by omega
      have hSigned := year?_minus hRead
      rw [hYear] at hSigned
      have hSign : "-".toList = ['-'] := rfl
      rw [if_pos hNegative, String.toList_append, hSign]
      exact hSigned
    · have hYear : (year.natAbs : Int) = year := by omega
      have hSigned := year?_plus hRead
      rw [hYear] at hSigned
      have hSign : "+".toList = ['+'] := rfl
      rw [if_neg hNegative, String.toList_append, hSign]
      exact hSigned

end Time

end PgConsole
