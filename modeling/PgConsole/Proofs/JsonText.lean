import PgConsole.Json.Printer
import PgConsole.Proofs.Decimal

namespace PgConsole.Json

/-!
# JSON texts read back

`parse?` reads what `render` writes.  Strings of any characters and 64-bit integers are read back
with whatever stands behind them (`Readable`), and so are objects whose fields hold such values
(`parse?_render_object`).  Nested objects, arrays and numbers that are not integers are not
treated here.

A string has many spellings, by escapes and by blanks around it.  A document without either
(`Plain`) is read as a string only if it is the text of that string (`parse?_eq_text_iff`).
-/

/-! ## Strings -/

theorem hexValue?_hexDigit : ∀ value < 16, hexValue? (hexDigit value) = some value := by decide

theorem hexQuad?_of_lt {value : Nat} (hValue : value < 0x20) :
    hexQuad? '0' '0' (hexDigit (value / 16)) (hexDigit (value % 16)) = some value := by
  have hZero : hexValue? '0' = some 0 := by decide
  have hFirst := hexValue?_hexDigit (value / 16) (by omega)
  have hSecond := hexValue?_hexDigit (value % 16) (by omega)
  simp only [hexQuad?, hZero, hFirst, hSecond, Option.bind_eq_bind, Option.bind_some, pure]
  congr 1
  omega

/-- The code of a control character is no half of a surrogate pair. -/
theorem ofCode_toNat {c : Char} (hControl : c.toNat < 0x20) :
    StringUnit.ofCode c.toNat = .char c := by
  have hHigh : isHighSurrogate c.toNat = false := by simp [isHighSurrogate]; omega
  have hLow : isLowSurrogate c.toNat = false := by simp [isLowSurrogate]; omega
  simp [StringUnit.ofCode, hHigh, hLow, Char.ofNat_toNat]

theorem escapeChar_of_literal {c : Char} (hQuote : c ≠ '"') (hBackslash : c ≠ '\\')
    (hControl : ¬ c.toNat < 0x20) : escapeChar c = [c] := by
  have hOther : ∀ control : Char, control.toNat < 0x20 → c ≠ control := by
    rintro control hLow rfl
    exact hControl hLow
  rw [escapeChar, if_neg hQuote, if_neg hBackslash, if_neg (hOther _ (by decide)),
    if_neg (hOther _ (by decide)), if_neg (hOther _ (by decide)), if_neg (hOther _ (by decide)),
    if_neg (hOther _ (by decide)), if_neg hControl]

/-- A character that is neither quote nor backslash stands for itself, unless it is refused. -/
theorem stringUnits?_cons_of_literal {c : Char} (hQuote : c ≠ '"') (hBackslash : c ≠ '\\')
    (rest : List Char) : stringUnits? (c :: rest) =
      if c.toNat < 0x20 then none
      else (stringUnits? rest).map fun read => (.char c :: read.1, read.2) := by
  rw [stringUnits?.eq_13 c rest hQuote (fun _ _ _ _ _ h => absurd h hBackslash)
    (fun _ _ h => absurd h hBackslash)]
  cases stringUnits? rest <;> rfl

/-- A character is read back from the way it stands in a string. -/
theorem stringUnits?_escapeChar (c : Char) (rest : List Char) :
    stringUnits? (escapeChar c ++ rest) =
      (stringUnits? rest).map fun read => (.char c :: read.1, read.2) := by
  by_cases hNamed : c ∈ ['"', '\\', '\n', '\r', '\t', '\x08', '\x0c']
  · simp only [List.mem_cons, List.not_mem_nil, or_false] at hNamed
    rcases hNamed with rfl | rfl | rfl | rfl | rfl | rfl | rfl
    all_goals
      simp only [escapeChar, reduceIte, Char.reduceEq, List.cons_append, List.nil_append,
        stringUnits?]
      cases stringUnits? rest <;> rfl
  · simp only [List.mem_cons, List.not_mem_nil, or_false, not_or] at hNamed
    obtain ⟨hQuote, hBackslash, hFeed, hReturn, hTab, hBack, hForm⟩ := hNamed
    by_cases hControl : c.toNat < 0x20
    · simp only [escapeChar, hQuote, hBackslash, hFeed, hReturn, hTab, hBack, hForm, reduceIte,
        if_pos hControl, List.cons_append, List.nil_append, stringUnits?, hexQuad?_of_lt hControl]
      cases stringUnits? rest with
      | none => rfl
      | some read => simp only [ofCode_toNat hControl, Option.map_some]
    · rw [escapeChar_of_literal hQuote hBackslash hControl, List.singleton_append,
        stringUnits?_cons_of_literal hQuote hBackslash, if_neg hControl]

/-- A string is read back up to its closing quote. -/
theorem stringUnits?_flatMap_escapeChar (characters rest : List Char) :
    stringUnits? (characters.flatMap escapeChar ++ '"' :: rest) =
      some (characters.map .char, rest) := by
  induction characters with
  | nil => rfl
  | cons c characters ih =>
      rw [List.flatMap_cons, List.append_assoc, stringUnits?_escapeChar, ih]
      rfl

theorem joinUnits?_map_char (characters : List Char) :
    joinUnits? (characters.map .char) = some characters := by
  induction characters with
  | nil => rfl
  | cons c characters ih => simp [joinUnits?, ih]

theorem renderText_append (value : String) (rest : List Char) :
    renderText value ++ rest = '"' :: (value.toList.flatMap escapeChar ++ '"' :: rest) := by
  simp [renderText]

theorem skipSpace_cons_of_not_space {c : Char} (hSpace : isSpace c = false) (rest : List Char) :
    skipSpace (c :: rest) = c :: rest := by
  rw [skipSpace, List.dropWhile_cons_of_neg (by simp [hSpace])]

/-- A field name is read back with the colon behind it. -/
theorem fieldName?_renderText (name : String) (rest : List Char) :
    fieldName? (renderText name ++ ':' :: rest) = some (name, rest) := by
  have hColon : skipSpace (':' :: rest) = ':' :: rest :=
    skipSpace_cons_of_not_space (by decide) rest
  rw [fieldName?, renderText_append, skipSpace_cons_of_not_space (by decide)]
  simp only [stringUnits?_flatMap_escapeChar, joinUnits?_map_char, hColon, String.ofList_toList]

/-! ## Values -/

/-- A value is readable when its text is read back wherever the text ends: at a depth above
zero, and before anything that cannot belong to a number. -/
def Readable (value : Json) : Prop :=
  ∀ (depth : Nat) (rest : List Char), EndsNumber rest →
    value? (depth + 1) (renderChars value ++ rest) = some (value, rest)

theorem readable_text (value : String) : Readable (.text value) := by
  intro depth rest _
  have hStart : renderChars (.text value) ++ rest =
      '"' :: (value.toList.flatMap escapeChar ++ '"' :: rest) := by
    rw [renderChars, renderText_append]
  rw [hStart, value?, skipSpace_cons_of_not_space (by decide)]
  simp only [stringUnits?_flatMap_escapeChar, textValue, joinUnits?_map_char,
    String.ofList_toList]

/-- What starts with a digit or a minus sign is read as a number. -/
theorem value?_of_number {c : Char} (hStart : Text.isDigit c = true ∨ c = '-') (input : List Char)
    (depth : Nat) : value? (depth + 1) (c :: input) = number? (c :: input) := by
  have hSpace : isSpace c = false := by
    simp only [isSpace, Bool.or_eq_false_iff, decide_eq_false_iff_not]
    refine ⟨⟨⟨?_, ?_⟩, ?_⟩, ?_⟩ <;> (rintro rfl; exact absurd hStart (by decide))
  rw [value?, skipSpace_cons_of_not_space hSpace]
  split
  case h_7 => rfl
  all_goals
    rename_i hInput
    obtain ⟨rfl, -⟩ := List.cons.inj hInput
    exact absurd hStart (by decide)

theorem exists_ofInt_eq_cons (value : Int) :
    ∃ c input, (Text.isDigit c = true ∨ c = '-') ∧ (Text.ofInt value).toList = c :: input := by
  by_cases hNegative : value < 0
  · refine ⟨'-', Nat.toDigits 10 value.natAbs, .inr rfl, ?_⟩
    rw [Text.ofInt, if_pos hNegative, String.toList_append, Text.toList_ofNat]
    rfl
  · have hDigits : (Text.ofInt value).toList = Nat.toDigits 10 value.natAbs := by
      rw [Text.ofInt, if_neg hNegative, Text.toList_ofNat]
    cases hFirst : Nat.toDigits 10 value.natAbs with
    | nil => exact absurd hFirst Nat.toDigits_ne_nil
    | cons c input =>
        exact ⟨c, input, .inl (Text.isDigit_of_mem_toDigits (hFirst ▸ List.mem_cons_self)),
          hDigits.trans hFirst⟩

theorem readable_integer {value : Int} (hLow : -9223372036854775808 ≤ value)
    (hHigh : value < 18446744073709551616) : Readable (.integer value) := by
  intro depth rest hEnds
  obtain ⟨c, input, hStart, hInput⟩ := exists_ofInt_eq_cons value
  have hNumber := number?_ofInt_append hLow hHigh hEnds
  rw [hInput, List.cons_append] at hNumber
  rw [renderChars, hInput, List.cons_append, value?_of_number hStart, hNumber]

/-! ## Objects -/

theorem endsNumber_cons {c : Char} (hDigit : Text.isDigit c = false)
    (hPoint : c ≠ '.') (hLower : c ≠ 'e') (hUpper : c ≠ 'E') (rest : List Char) :
    EndsNumber (c :: rest) := by
  intro other hOther
  obtain rfl := Option.some.inj hOther
  exact ⟨hDigit, hPoint, hLower, hUpper⟩

/-- One or more fields are read back up to the closing brace. -/
theorem fields?_renderFields {fields : List (String × Json)} (hSome : fields ≠ [])
    (hReadable : ∀ field ∈ fields, Readable field.2) (depth : Nat) (rest : List Char) :
    fields? (fields.length + depth + 1) (renderFields fields ++ rest) = some (fields, rest) := by
  induction fields with
  | nil => exact absurd rfl hSome
  | cons field others ih =>
      obtain ⟨name, value⟩ := field
      obtain ⟨hValue, hOthers⟩ := List.forall_mem_cons.mp hReadable
      cases others with
      | nil =>
          have hEnds : EndsNumber ('\x7d' :: rest) :=
            endsNumber_cons (by decide) (by decide) (by decide) (by decide) rest
          have hBrace : skipSpace ('\x7d' :: rest) = '\x7d' :: rest :=
            skipSpace_cons_of_not_space (by decide) rest
          have hLength : [(name, value)].length + depth + 1 = (depth + 1) + 1 := by
            rw [List.length_singleton]
            omega
          rw [hLength, fields?]
          simp only [renderFields, List.append_assoc, List.cons_append, List.nil_append,
            fieldName?_renderText, hValue depth _ hEnds, hBrace]
      | cons next others =>
          have hRest := ih (by simp) hOthers
          have hEnds : EndsNumber (',' :: (renderFields (next :: others) ++ rest)) :=
            endsNumber_cons (by decide) (by decide) (by decide) (by decide) _
          have hComma : skipSpace (',' :: (renderFields (next :: others) ++ rest)) =
              ',' :: (renderFields (next :: others) ++ rest) :=
            skipSpace_cons_of_not_space (by decide) _
          have hLength : ((name, value) :: next :: others).length + depth + 1 =
              ((next :: others).length + depth + 1) + 1 := by
            simp only [List.length_cons]
            omega
          rw [hLength, fields?]
          simp only [renderFields, List.append_assoc, List.cons_append, fieldName?_renderText,
            hValue _ _ hEnds, hComma, hRest]

/-- Every field takes some of the text, so the text is longer than the fields are many. -/
theorem length_lt_renderFields (fields : List (String × Json)) :
    fields.length < (renderFields fields).length := by
  induction fields with
  | nil => simp [renderFields]
  | cons field others ih =>
      obtain ⟨name, value⟩ := field
      cases others with
      | nil =>
          simp only [renderFields, List.length_append, List.length_cons, List.length_nil]
          omega
      | cons next others =>
          simp only [renderFields, List.length_append, List.length_cons] at ih ⊢
          omega

theorem exists_renderFields_cons (field : String × Json) (others : List (String × Json)) :
    ∃ tail, renderFields (field :: others) = '"' :: tail := by
  obtain ⟨name, value⟩ := field
  cases others with
  | nil =>
      rw [renderFields, renderText_append]
      exact ⟨_, rfl⟩
  | cons next others =>
      simp only [renderFields, renderText_append]
      exact ⟨_, rfl⟩

/-- An object is read back at a depth that its fields fit in. -/
theorem value?_object {fields : List (String × Json)} {depth : Nat}
    (hReadable : ∀ field ∈ fields, Readable field.2) (hDepth : fields.length < depth) :
    value? (depth + 1) (renderChars (.object fields)) = some (.object fields, []) := by
  rw [renderChars, value?, skipSpace_cons_of_not_space (by decide)]
  cases fields with
  | nil => rfl
  | cons field others =>
      obtain ⟨tail, hTail⟩ := exists_renderFields_cons field others
      have hRead : fields? depth (renderFields (field :: others)) = some (field :: others, []) := by
        obtain ⟨extra, rfl⟩ := Nat.exists_eq_add_of_lt hDepth
        simpa using fields?_renderFields (List.cons_ne_nil field others) hReadable extra []
      rw [hTail] at hRead ⊢
      simp only [skipSpace_cons_of_not_space (show isSpace '"' = false by decide)]
      split
      · rename_i hBrace
        exact absurd (List.cons.inj hBrace).1 (by decide)
      · rw [hRead]

/-- The text of an object is read back when the texts of its values are. -/
theorem parse?_render_object {fields : List (String × Json)}
    (hReadable : ∀ field ∈ fields, Readable field.2) :
    parse? (render (.object fields)) = some (.object fields) := by
  have hLength : fields.length < (renderChars (.object fields)).length := by
    have hFields := length_lt_renderFields fields
    rw [renderChars, List.length_cons]
    omega
  rw [parse?, render, String.toList_ofList, value?_object hReadable hLength]
  rfl

/-! ## Plain documents -/

/-- A document in which nothing could be spelled in another way: there are no blanks in it and no
escapes. -/
def Plain (document : List Char) : Prop := ∀ c ∈ document, isSpace c = false ∧ c ≠ '\\'

/-- A string without backslashes is read as it stands, and it would be written so again. -/
theorem eq_of_stringUnits? {input rest : List Char} {units : List StringUnit}
    (hPlain : '\\' ∉ input) (h : stringUnits? input = some (units, rest)) :
    ∃ characters : List Char, units = characters.map .char ∧
      input = characters.flatMap escapeChar ++ '"' :: rest := by
  induction input generalizing units with
  | nil => cases h
  | cons c input ih =>
      rw [List.mem_cons, not_or] at hPlain
      have hBackslash := Ne.symm hPlain.1
      by_cases hQuote : c = '"'
      · subst hQuote
        cases h
        exact ⟨[], rfl, rfl⟩
      · rw [stringUnits?_cons_of_literal hQuote hBackslash] at h
        by_cases hControl : c.toNat < 0x20
        · rw [if_pos hControl] at h
          cases h
        · rw [if_neg hControl] at h
          obtain ⟨⟨others, remaining⟩, hRead, hUnits⟩ := Option.map_eq_some_iff.mp h
          cases hUnits
          obtain ⟨characters, rfl, rfl⟩ := ih hPlain.2 hRead
          refine ⟨c :: characters, rfl, ?_⟩
          rw [List.flatMap_cons, escapeChar_of_literal hQuote hBackslash hControl]
          rfl

theorem integerValue_ne_text (negative : Bool) (digits : List Char) (value : String) :
    integerValue negative digits ≠ .text value := by
  simp only [integerValue]
  repeat' split
  all_goals simp

theorem number?_ne_text (input rest : List Char) (value : String) :
    number? input ≠ some (.text value, rest) := by
  intro h
  simp only [number?] at h
  split at h
  · cases h
  · cases h
  · split at h
    · cases h
    · split at h
      · cases h
      · split at h
        · simp [integerValue_ne_text] at h
        · cases h

theorem skipSpace_of_plain {input : List Char} (hPlain : Plain input) :
    skipSpace input = input := by
  cases input with
  | nil => rfl
  | cons c input => exact skipSpace_cons_of_not_space (hPlain c List.mem_cons_self).1 input

/-- A string at the front of a plain document is written there as it would be written again. -/
theorem eq_of_value?_eq_text {input rest : List Char} {value : String} {depth : Nat}
    (hPlain : Plain input) (h : value? depth input = some (.text value, rest)) :
    input = renderText value ++ rest := by
  cases depth with
  | zero => cases h
  | succ depth =>
      rw [value?, skipSpace_of_plain hPlain] at h
      split at h
      case h_4 body =>
        split at h
        · rename_i units remaining hUnits
          have hBody : '\\' ∉ body := fun hMem => (hPlain _ (List.mem_cons_of_mem _ hMem)).2 rfl
          obtain ⟨characters, rfl, rfl⟩ := eq_of_stringUnits? hBody hUnits
          rw [textValue, joinUnits?_map_char] at h
          cases h
          rw [renderText_append, String.toList_ofList]
        · cases h
      case h_7 => exact absurd h (number?_ne_text _ _ _)
      -- arrays and objects, which are read item by item, and the three words
      all_goals
        repeat' split at h
        all_goals cases h

theorem parse?_render_text (value : String) :
    parse? (render (.text value)) = some (.text value) := by
  have hRead := readable_text value (renderChars (.text value)).length [] endsNumber_nil
  rw [List.append_nil] at hRead
  rw [parse?, render, String.toList_ofList, hRead]
  rfl

/-- Of the plain documents only its own text is read as a string. -/
theorem parse?_eq_text_iff {document value : String} (hPlain : Plain document.toList) :
    parse? document = some (.text value) ↔ document = render (.text value) := by
  constructor
  · intro h
    simp only [parse?] at h
    split at h
    · rename_i read rest hRead
      split at h
      · rename_i hRest
        cases h
        have hDocument := eq_of_value?_eq_text hPlain hRead
        have hPlainRest : Plain rest := by
          intro c hMem
          exact hPlain c (hDocument ▸ List.mem_append_right _ hMem)
        rw [skipSpace_of_plain hPlainRest, List.isEmpty_iff] at hRest
        rw [hRest, List.append_nil] at hDocument
        rw [render, renderChars, ← hDocument, String.ofList_toList]
      · cases h
    · cases h
  · rintro rfl
    exact parse?_render_text value

end PgConsole.Json
