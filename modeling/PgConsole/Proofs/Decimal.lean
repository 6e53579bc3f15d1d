import PgConsole.Json.Parser

namespace PgConsole

/-!
# Decimal texts read back

Numbers are written in decimal inside the key of an explicit connection, as the name of an object
field, and as JSON numbers with more text behind them.  The readers differ: a key is read as a
bounded numeral, the others as JSON numbers without leading zero.  All give back what was
written.
-/

namespace Text

theorem isDigit_iff (c : Char) : isDigit c = c.isDigit := by
  simp only [isDigit, Char.isDigit, ge_iff_le, Char.le_def]

theorem isDigit_of_mem_toDigits {value : Nat} {c : Char} (h : c ∈ Nat.toDigits 10 value) :
    isDigit c = true := by
  rw [isDigit_iff]
  exact Nat.isDigit_of_mem_toDigits (by decide) (by decide) h

/-- Reading on from a value never makes it smaller. -/
theorem le_ofDigitChars (digits : List Char) (value : Nat) :
    value ≤ Nat.ofDigitChars 10 digits value := by
  induction digits generalizing value with
  | nil => simp
  | cons c rest ih =>
      rw [Nat.ofDigitChars_cons]
      exact Nat.le_trans (by omega) (ih _)

/-- The value of a row of digits, the first one taken apart. -/
theorem ofDigitChars_first (c : Char) (digits : List Char) (value : Nat) :
    Nat.ofDigitChars 10 (c :: digits) value =
      Nat.ofDigitChars 10 digits (Nat.ofDigitChars 10 [c] value) := by
  rw [Nat.ofDigitChars_cons, Nat.ofDigitChars_cons, Nat.ofDigitChars_nil]

theorem readDigits_cons_of_isDigit {bound value : Nat} {c : Char} (hDigit : c.isDigit = true)
    (rest : List Char) :
    readDigits bound value (c :: rest) =
      if Nat.ofDigitChars 10 [c] value < bound then
        readDigits bound (Nat.ofDigitChars 10 [c] value) rest
      else .error .tooLarge := by
  have hNext : value * 10 + digitValue c = Nat.ofDigitChars 10 [c] value := by
    rw [Nat.ofDigitChars_cons, Nat.ofDigitChars_nil, digitValue, Nat.mul_comm]
  rw [readDigits, if_pos (by rw [isDigit_iff, hDigit]), hNext]

theorem readDigits_cons_of_not_isDigit {bound value : Nat} {c : Char} (hStray : c.isDigit = false)
    (rest : List Char) : readDigits bound value (c :: rest) = .error .invalidDigit := by
  rw [readDigits, if_neg]
  rw [isDigit_iff, hStray]
  decide

/-- Digits whose value fits are passed over: no value on the way is larger. -/
theorem readDigits_append {bound value : Nat} {digits : List Char}
    (hDigits : ∀ c ∈ digits, c.isDigit = true) (hFits : Nat.ofDigitChars 10 digits value < bound)
    (rest : List Char) :
    readDigits bound value (digits ++ rest) =
      readDigits bound (Nat.ofDigitChars 10 digits value) rest := by
  induction digits generalizing value with
  | nil => rw [List.nil_append, Nat.ofDigitChars_nil]
  | cons c digits ih =>
      rw [List.forall_mem_cons] at hDigits
      rw [ofDigitChars_first] at hFits ⊢
      have hFirst : Nat.ofDigitChars 10 [c] value < bound :=
        Nat.lt_of_le_of_lt (le_ofDigitChars digits _) hFits
      rw [List.cons_append, readDigits_cons_of_isDigit hDigits.1, if_pos hFirst]
      exact ih hDigits.2 hFits

theorem toList_ofNat (value : Nat) : (ofNat value).toList = Nat.toDigits 10 value := by
  simp [ofNat]

theorem readNumeral_of_unsigned {bound : Nat} {body : List Char} (hSome : body ≠ [])
    (hSign : body.head? ≠ some '+') : readNumeral bound body = readDigits bound 0 body := by
  unfold readNumeral
  split
  · exact absurd rfl hSome
  · exact absurd rfl hSign
  · exact absurd rfl hSign
  · rfl

/-- A number below the bound is read back from its digits. -/
theorem readNumeral_ofNat {bound value : Nat} (hBound : value < bound) :
    readNumeral bound (ofNat value).toList = .ok value := by
  have hAll : ∀ c ∈ Nat.toDigits 10 value, c.isDigit = true :=
    fun c hc => Nat.isDigit_of_mem_toDigits (by decide) (by decide) hc
  have hFits : Nat.ofDigitChars 10 (Nat.toDigits 10 value) 0 < bound := by
    rwa [Nat.ofDigitChars_ten_toDigits]
  have hSign : (Nat.toDigits 10 value).head? ≠ some '+' := by
    intro hPlus
    exact absurd (hAll '+' (List.mem_of_mem_head? hPlus)) (by decide)
  rw [toList_ofNat, readNumeral_of_unsigned Nat.toDigits_ne_nil hSign]
  simpa [readDigits] using readDigits_append hAll hFits []

/-- The digits of a number start with zero only if the number is zero. -/
theorem toDigits_head_ne_zero {value : Nat} (hPos : 0 < value) :
    (Nat.toDigits 10 value).head? ≠ some '0' := by
  induction value using Nat.strongRecOn with
  | _ value ih =>
      by_cases hSmall : value < 10
      · rw [Nat.toDigits_of_lt_base hSmall]
        have hCases : value = 1 ∨ value = 2 ∨ value = 3 ∨ value = 4 ∨ value = 5 ∨ value = 6 ∨
            value = 7 ∨ value = 8 ∨ value = 9 := by omega
        rcases hCases with rfl | rfl | rfl | rfl | rfl | rfl | rfl | rfl | rfl <;> decide
      · rw [Nat.toDigits_of_base_le (by decide) (by omega)]
        have hRec := ih (value / 10) (by omega) (by omega)
        cases hFront : Nat.toDigits 10 (value / 10) with
        | nil => exact absurd hFront Nat.toDigits_ne_nil
        | cons first rest =>
            rw [hFront] at hRec
            simpa using hRec

end Text

namespace Json

theorem digitsValue_eq (digits : List Char) :
    digitsValue digits = Nat.ofDigitChars 10 digits 0 := by
  rw [digitsValue, Nat.ofDigitChars_eq_foldl]
  congr 1
  funext value c
  rw [Text.digitValue, Nat.mul_comm]

/-- What can follow a number in a text without being taken for a part of it. -/
def EndsNumber (rest : List Char) : Prop :=
  ∀ c ∈ rest.head?, Text.isDigit c = false ∧ c ≠ '.' ∧ c ≠ 'e' ∧ c ≠ 'E'

theorem endsNumber_nil : EndsNumber [] := by
  intro c hc
  cases hc

theorem spanDigits_append {digits rest : List Char}
    (hAll : ∀ c ∈ digits, Text.isDigit c = true) (hEnds : EndsNumber rest) :
    spanDigits (digits ++ rest) = (digits, rest) := by
  induction digits with
  | nil =>
      cases rest with
      | nil => rfl
      | cons c rest => simp [spanDigits, (hEnds c rfl).1]
  | cons c digits ih =>
      have hRest := ih fun d hd => hAll d (List.mem_cons_of_mem _ hd)
      simp only [spanDigits, Prod.mk.injEq] at hRest
      simp [spanDigits, hAll c List.mem_cons_self, hRest]

theorem fraction?_of_endsNumber {rest : List Char} (hEnds : EndsNumber rest) :
    fraction? rest = some ([], rest) := by
  unfold fraction?
  split
  · exact absurd rfl (hEnds '.' rfl).2.1
  · rfl

theorem exponent?_of_endsNumber {rest : List Char} (hEnds : EndsNumber rest) :
    exponent? rest = some ([], rest) := by
  cases rest with
  | nil => rfl
  | cons c rest =>
      obtain ⟨-, -, hLower, hUpper⟩ := hEnds c rfl
      simp [exponent?, hLower, hUpper]

theorem splitSign_toDigits_append (value : Nat) (rest : List Char) :
    splitSign (Nat.toDigits 10 value ++ rest) = (false, Nat.toDigits 10 value ++ rest) := by
  cases hDigits : Nat.toDigits 10 value with
  | nil => exact absurd hDigits Nat.toDigits_ne_nil
  | cons first others =>
      unfold splitSign
      split
      · rename_i tail hSign
        have hDigit : Text.isDigit first = true :=
          Text.isDigit_of_mem_toDigits (hDigits ▸ List.mem_cons_self)
        obtain ⟨rfl, -⟩ := List.cons.inj hSign
        exact absurd hDigit (by decide)
      · rfl

/-- A number whose text is a sign and a row of digits. -/
theorem number?_of_digits {negative : Bool} {input rest : List Char} {value : Nat}
    (hSplit : splitSign input = (negative, Nat.toDigits 10 value ++ rest))
    (hEnds : EndsNumber rest) :
    number? input = some (integerValue negative (Nat.toDigits 10 value), rest) := by
  have hSpan : spanDigits (Nat.toDigits 10 value ++ rest) = (Nat.toDigits 10 value, rest) :=
    spanDigits_append (fun c hc => Text.isDigit_of_mem_toDigits hc) hEnds
  unfold number?
  simp only [hSplit, hSpan]
  split
  · rename_i hDigits
    exact absurd hDigits Nat.toDigits_ne_nil
  · rename_i second rest hDigits
    -- a leading zero with something after it: the value is not zero, so this cannot be
    exfalso
    rcases Nat.eq_zero_or_pos value with rfl | hPos
    · simp at hDigits
    · exact Text.toDigits_head_ne_zero hPos (by rw [hDigits]; rfl)
  · simp [fraction?_of_endsNumber hEnds, exponent?_of_endsNumber hEnds]

/-- A 64-bit integer written in decimal is read back as a JSON integer. -/
theorem number?_ofInt_append {value : Int} (hLow : -9223372036854775808 ≤ value)
    (hHigh : value < 18446744073709551616) {rest : List Char} (hEnds : EndsNumber rest) :
    number? ((Text.ofInt value).toList ++ rest) = some (.integer value, rest) := by
  by_cases hNegative : value < 0
  · have hInput : (Text.ofInt value).toList ++ rest =
        '-' :: (Nat.toDigits 10 value.natAbs ++ rest) := by
      rw [Text.ofInt, if_pos hNegative, String.toList_append, Text.toList_ofNat]
      rfl
    rw [hInput, number?_of_digits rfl hEnds]
    have hValue : -(Int.ofNat value.natAbs) = value := by
      rw [Int.ofNat_eq_natCast]
      omega
    have hMagnitude : ¬ (value.natAbs = 0 ∨ Nat.pow 2 63 < value.natAbs) := by
      have hPower : Nat.pow 2 63 = 9223372036854775808 := rfl
      omega
    simp only [integerValue, digitsValue_eq, Nat.ofDigitChars_ten_toDigits, if_true,
      Bool.or_eq_true, decide_eq_true_eq, if_neg hMagnitude, hValue]
  · have hInput : (Text.ofInt value).toList = Nat.toDigits 10 value.natAbs := by
      rw [Text.ofInt, if_neg hNegative, Text.toList_ofNat]
    rw [hInput, number?_of_digits (splitSign_toDigits_append _ rest) hEnds]
    have hValue : Int.ofNat value.natAbs = value := by
      rw [Int.ofNat_eq_natCast]
      omega
    have hMagnitude : value.natAbs < UInt64.size := by
      have hSize : UInt64.size = 18446744073709551616 := rfl
      omega
    simp only [integerValue, digitsValue_eq, Nat.ofDigitChars_ten_toDigits, Bool.false_eq_true,
      if_false, if_pos hMagnitude, hValue]

theorem number?_ofInt {value : Int} (hLow : -9223372036854775808 ≤ value)
    (hHigh : value < 18446744073709551616) :
    number? (Text.ofInt value).toList = some (.integer value, []) := by
  simpa using number?_ofInt_append hLow hHigh endsNumber_nil

end Json

end PgConsole
