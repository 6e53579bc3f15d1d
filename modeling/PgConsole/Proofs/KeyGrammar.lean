import PgConsole.Proofs.ConnectionKey

namespace PgConsole

/-!
# The grammar of key texts

The text of a key is `DB:` with any name, or `CONN:` with a numeral: an optional plus sign and one
or more digits that denote a number of 64 bits (`ConnectionKey.Denotes`).  Every other text is
refused, either because it starts in neither way or because of its numeral
(`ConnectionKey.Refused`).

A numeral is read from the left, and the first character that cannot be used decides.
`Text.DigitsRead` says what becomes of a row of digits and `Text.NumeralRead` what becomes of a
numeral with its sign.  `readDigits_eq_iff` and `readNumeral_eq_iff` say that nothing else can.
-/

namespace Text

/-- What comes of reading on, digit by digit, from a value. -/
inductive DigitsRead (bound value : Nat) : List Char → Except NumeralError Nat → Prop where
  /-- Digits to the end, and their value fits. -/
  | number {digits : List Char} (hDigits : ∀ c ∈ digits, c.isDigit = true)
      (hFits : Nat.ofDigitChars 10 digits value < bound) :
      DigitsRead bound value digits (.ok (Nat.ofDigitChars 10 digits value))
  /-- Something else than a digit, after digits whose value fits. -/
  | stray {digits rest : List Char} {c : Char} (hDigits : ∀ c ∈ digits, c.isDigit = true)
      (hFits : Nat.ofDigitChars 10 digits value < bound) (hStray : c.isDigit = false) :
      DigitsRead bound value (digits ++ c :: rest) (.error .invalidDigit)
  /-- Digits whose value does not fit, whatever follows them. -/
  | tooLarge {digits rest : List Char} (hDigits : ∀ c ∈ digits, c.isDigit = true)
      (hExceeds : bound ≤ Nat.ofDigitChars 10 digits value) :
      DigitsRead bound value (digits ++ rest) (.error .tooLarge)

/-- What comes of reading a numeral.  A plus sign in front belongs to it, but does not make one. -/
inductive NumeralRead (bound : Nat) : List Char → Except NumeralError Nat → Prop where
  | empty : NumeralRead bound [] (.error .empty)
  | loneSign : NumeralRead bound ['+'] (.error .invalidDigit)
  | signed {body : List Char} {result : Except NumeralError Nat} (hSome : body ≠ [])
      (hBody : DigitsRead bound 0 body result) : NumeralRead bound ('+' :: body) result
  | unsigned {body : List Char} {result : Except NumeralError Nat} (hSome : body ≠ [])
      (hSign : body.head? ≠ some '+') (hBody : DigitsRead bound 0 body result) :
      NumeralRead bound body result

/-! ## Rows of digits -/

/-- Digits whose value does not fit are refused at the first of them that makes it so. -/
theorem readDigits_append_of_exceeds {bound value : Nat} {digits : List Char}
    (hValue : value < bound) (hDigits : ∀ c ∈ digits, c.isDigit = true)
    (hExceeds : bound ≤ Nat.ofDigitChars 10 digits value) (rest : List Char) :
    readDigits bound value (digits ++ rest) = .error .tooLarge := by
  induction digits generalizing value with
  | nil =>
      rw [Nat.ofDigitChars_nil] at hExceeds
      omega
  | cons c digits ih =>
      rw [List.forall_mem_cons] at hDigits
      rw [List.cons_append, readDigits_cons_of_isDigit hDigits.1]
      by_cases hFirst : Nat.ofDigitChars 10 [c] value < bound
      · rw [if_pos hFirst]
        rw [ofDigitChars_first] at hExceeds
        exact ih hFirst hDigits.2 hExceeds
      · rw [if_neg hFirst]

theorem DigitsRead.cons {bound value : Nat} {c : Char} (hDigit : c.isDigit = true)
    {rest : List Char} {result : Except NumeralError Nat}
    (h : DigitsRead bound (Nat.ofDigitChars 10 [c] value) rest result) :
    DigitsRead bound value (c :: rest) result := by
  cases h with
  | number hDigits hFits =>
      rw [← ofDigitChars_first] at hFits ⊢
      exact .number (List.forall_mem_cons.mpr ⟨hDigit, hDigits⟩) hFits
  | stray hDigits hFits hStray =>
      rw [← ofDigitChars_first] at hFits
      exact .stray (List.forall_mem_cons.mpr ⟨hDigit, hDigits⟩) hFits hStray
  | tooLarge hDigits hExceeds =>
      rw [← ofDigitChars_first] at hExceeds
      exact .tooLarge (List.forall_mem_cons.mpr ⟨hDigit, hDigits⟩) hExceeds

theorem digitsRead_readDigits {bound value : Nat} (hValue : value < bound) (text : List Char) :
    DigitsRead bound value text (readDigits bound value text) := by
  induction text generalizing value with
  | nil => exact .number (List.forall_mem_nil _) hValue
  | cons c rest ih =>
      cases hDigit : c.isDigit with
      | false =>
          rw [readDigits_cons_of_not_isDigit hDigit]
          have hNone : ∀ d ∈ ([] : List Char), d.isDigit = true := List.forall_mem_nil _
          exact DigitsRead.stray hNone hValue hDigit
      | true =>
          rw [readDigits_cons_of_isDigit hDigit]
          by_cases hFirst : Nat.ofDigitChars 10 [c] value < bound
          · rw [if_pos hFirst]
            exact (ih hFirst).cons hDigit
          · rw [if_neg hFirst]
            have hOne : ∀ d ∈ [c], d.isDigit = true := by simpa using hDigit
            exact DigitsRead.tooLarge hOne (Nat.le_of_not_lt hFirst)

theorem readDigits_eq_iff {bound value : Nat} (hValue : value < bound) {text : List Char}
    {result : Except NumeralError Nat} :
    readDigits bound value text = result ↔ DigitsRead bound value text result := by
  constructor
  · rintro rfl
    exact digitsRead_readDigits hValue text
  · intro hRead
    cases hRead with
    | number hDigits hFits => simpa [readDigits] using readDigits_append hDigits hFits []
    | stray hDigits hFits hStray =>
        rw [readDigits_append hDigits hFits, readDigits_cons_of_not_isDigit hStray]
    | tooLarge hDigits hExceeds => exact readDigits_append_of_exceeds hValue hDigits hExceeds _

/-! ## Numerals -/

theorem readNumeral_of_signed {bound : Nat} {body : List Char} (hSome : body ≠ []) :
    readNumeral bound ('+' :: body) = readDigits bound 0 body := by
  cases body with
  | nil => exact absurd rfl hSome
  | cons c rest => rfl

theorem readNumeral_eq_iff {bound : Nat} (hBound : 0 < bound) {text : List Char}
    {result : Except NumeralError Nat} :
    readNumeral bound text = result ↔ NumeralRead bound text result := by
  constructor
  · rintro rfl
    by_cases hSome : text = []
    · subst hSome
      exact .empty
    · by_cases hSign : text.head? = some '+'
      · obtain ⟨body, rfl⟩ : ∃ body, text = '+' :: body := by
          cases text with
          | nil => cases hSign
          | cons c body => exact ⟨body, by rw [Option.some.inj hSign]⟩
        -- the reader takes a lone sign for a digit that is none
        by_cases hBody : body = []
        · subst hBody
          exact .loneSign
        · rw [readNumeral_of_signed hBody]
          exact .signed hBody (digitsRead_readDigits hBound body)
      · rw [readNumeral_of_unsigned hSome hSign]
        exact .unsigned hSome hSign (digitsRead_readDigits hBound text)
  · intro hRead
    cases hRead with
    | empty => rfl
    | loneSign => rfl
    | signed hSome hBody =>
        rw [readNumeral_of_signed hSome]
        exact (readDigits_eq_iff hBound).mpr hBody
    | unsigned hSome hSign hBody =>
        rw [readNumeral_of_unsigned hSome hSign]
        exact (readDigits_eq_iff hBound).mpr hBody

/-- A numeral that is read to the end is a sign, if any, and one or more digits. -/
theorem numeralRead_ok_iff {bound value : Nat} {numeral : String} :
    NumeralRead bound numeral.toList (.ok value) ↔
      ∃ sign digits, numeral = sign ++ digits ∧ (sign = "" ∨ sign = "+") ∧ digits ≠ "" ∧
        (∀ c ∈ digits.toList, c.isDigit = true) ∧
        Nat.ofDigitChars 10 digits.toList 0 = value ∧ value < bound := by
  constructor
  · intro hRead
    have hNumeral : numeral = String.ofList numeral.toList := String.ofList_toList.symm
    generalize numeral.toList = text at hRead hNumeral
    subst hNumeral
    cases hRead with
    | @signed body _ hSome hBody =>
        cases hBody with
        | number hDigits hFits =>
            refine ⟨"+", String.ofList body, ?_, .inr rfl, ?_, ?_, ?_, hFits⟩
            · rw [String.ofList_cons]
              rfl
            · simpa using hSome
            · simpa using hDigits
            · rw [String.toList_ofList]
    | unsigned hSome hSign hBody =>
        cases hBody with
        | number hDigits hFits =>
            refine ⟨"", String.ofList text, ?_, .inl rfl, ?_, ?_, ?_, hFits⟩
            · rw [String.empty_append]
            · simpa using hSome
            · simpa using hDigits
            · rw [String.toList_ofList]
  · rintro ⟨sign, digits, rfl, hSign, hSome, hDigits, rfl, hFits⟩
    have hBody := DigitsRead.number hDigits hFits
    have hSome : digits.toList ≠ [] := by simpa using hSome
    rw [String.toList_append]
    rcases hSign with rfl | rfl
    · -- a digit in front is no sign
      refine .unsigned hSome ?_ hBody
      intro hPlus
      exact absurd (hDigits '+' (List.mem_of_mem_head? hPlus)) (by decide)
    · exact .signed hSome hBody

end Text

namespace ConnectionKey

/-- The texts of keys. -/
inductive Denotes : String → ConnectionKey → Prop where
  | db (name : String) : Denotes ("DB:" ++ name) (.db name)
  | conn {sign digits : String} (hSign : sign = "" ∨ sign = "+") (hSome : digits ≠ "")
      (hDigits : ∀ c ∈ digits.toList, c.isDigit = true)
      (hFits : Nat.ofDigitChars 10 digits.toList 0 < UInt64.size) :
      Denotes ("CONN:" ++ (sign ++ digits)) (.conn (.ofNat (Nat.ofDigitChars 10 digits.toList 0)))

/-- Why a text is not the text of a key. -/
inductive Refused : String → KeyError → Prop where
  | number {numeral : String} {cause : Text.NumeralError}
      (hNumeral : Text.NumeralRead UInt64.size numeral.toList (.error cause)) :
      Refused ("CONN:" ++ numeral) (.invalidId ("CONN:" ++ numeral) cause)
  | unknown {text : String} (hConn : ∀ numeral, text ≠ "CONN:" ++ numeral)
      (hDb : ∀ name, text ≠ "DB:" ++ name) : Refused text (.unknown text)

/-- Every text starts like the text of a key, or is none. -/
theorem start_cases (text : String) :
    (∃ numeral, text = "CONN:" ++ numeral) ∨ (∃ name, text = "DB:" ++ name) ∨
      parse text = .error (.unknown text) := by
  have hText : ∀ start rest : List Char, text.toList = start ++ rest →
      text = String.ofList start ++ String.ofList rest := by
    intro start rest hSplit
    rw [← String.ofList_append, ← hSplit, String.ofList_toList]
  unfold parse
  cases hConn : Text.stripStart? ['C', 'O', 'N', 'N', ':'] text.toList with
  | some numeral => exact .inl ⟨_, hText _ numeral (Text.eq_append_of_stripStart? hConn)⟩
  | none =>
      cases hDb : Text.stripStart? ['D', 'B', ':'] text.toList with
      | some name => exact .inr (.inl ⟨_, hText _ name (Text.eq_append_of_stripStart? hDb)⟩)
      | none => exact .inr (.inr rfl)

theorem parse_conn (numeral : String) :
    parse ("CONN:" ++ numeral) =
      match Text.readNumeral UInt64.size numeral.toList with
      | .ok id => .ok (.conn (.ofNat id))
      | .error cause => .error (.invalidId ("CONN:" ++ numeral) cause) := by
  have hText : ("CONN:" ++ numeral).toList = ['C', 'O', 'N', 'N', ':'] ++ numeral.toList := by
    rw [String.toList_append]
    rfl
  cases hRead : Text.readNumeral UInt64.size numeral.toList with
  | ok id => simp only [parse, hText, Text.stripStart?_append, hRead]
  | error cause => simp only [parse, hText, Text.stripStart?_append, hRead]

theorem parse_db (name : String) : parse ("DB:" ++ name) = .ok (.db name) :=
  parse_toText (.db name)

theorem parse_eq_ok_iff {text : String} {key : ConnectionKey} :
    parse text = .ok key ↔ Denotes text key := by
  constructor
  · intro hParse
    rcases start_cases text with ⟨numeral, rfl⟩ | ⟨name, rfl⟩ | hUnknown
    · rw [parse_conn] at hParse
      cases hRead : Text.readNumeral UInt64.size numeral.toList with
      | error cause =>
          rw [hRead] at hParse
          cases hParse
      | ok value =>
          rw [hRead] at hParse
          cases hParse
          rw [Text.readNumeral_eq_iff (by decide), Text.numeralRead_ok_iff] at hRead
          obtain ⟨sign, digits, rfl, hSign, hSome, hDigits, rfl, hFits⟩ := hRead
          exact .conn hSign hSome hDigits hFits
    · rw [parse_db] at hParse
      cases hParse
      exact .db name
    · rw [hUnknown] at hParse
      cases hParse
  · intro hDenotes
    cases hDenotes with
    | db name => exact parse_db name
    | @conn sign digits hSign hSome hDigits hFits =>
        have hRead := Text.numeralRead_ok_iff.mpr
          ⟨sign, digits, rfl, hSign, hSome, hDigits, rfl, hFits⟩
        rw [parse_conn, (Text.readNumeral_eq_iff (by decide)).mpr hRead]

theorem parse_eq_error_iff {text : String} {error : KeyError} :
    parse text = .error error ↔ Refused text error := by
  constructor
  · intro hParse
    rcases start_cases text with ⟨numeral, rfl⟩ | ⟨name, rfl⟩ | hUnknown
    · rw [parse_conn] at hParse
      cases hRead : Text.readNumeral UInt64.size numeral.toList with
      | ok value =>
          rw [hRead] at hParse
          cases hParse
      | error cause =>
          rw [hRead] at hParse
          cases hParse
          exact .number ((Text.readNumeral_eq_iff (by decide)).mp hRead)
    · rw [parse_db] at hParse
      cases hParse
    · -- a text with one of the two beginnings is never unknown
      have hConn : ∀ numeral, text ≠ "CONN:" ++ numeral := by
        rintro numeral rfl
        rw [parse_conn] at hUnknown
        split at hUnknown <;> cases hUnknown
      have hDb : ∀ name, text ≠ "DB:" ++ name := by
        rintro name rfl
        rw [parse_db] at hUnknown
        cases hUnknown
      rw [hUnknown] at hParse
      cases hParse
      exact .unknown hConn hDb
  · intro hRefused
    cases hRefused with
    | number hNumeral => rw [parse_conn, (Text.readNumeral_eq_iff (by decide)).mpr hNumeral]
    | unknown hConn hDb =>
        rcases start_cases text with ⟨numeral, rfl⟩ | ⟨name, rfl⟩ | hUnknown
        · exact absurd rfl (hConn numeral)
        · exact absurd rfl (hDb name)
        · exact hUnknown

/-- A text is read as a key exactly if the grammar has it, and is refused for the reason that
applies to it otherwise.  The text of every key is read as that key, and no two keys share one. -/
theorem keys_are_read_by_grammar :
    (∀ text key, parse text = .ok key ↔ Denotes text key) ∧
      (∀ text error, parse text = .error error ↔ Refused text error) ∧
      (∀ key, parse (toText key) = .ok key) ∧
      ∀ first second, toText first = toText second ↔ first = second := by
  refine ⟨fun _ _ => parse_eq_ok_iff, fun _ _ => parse_eq_error_iff, parse_toText, ?_⟩
  intro first second
  exact ⟨toText_injective, congrArg toText⟩

end ConnectionKey

end PgConsole
