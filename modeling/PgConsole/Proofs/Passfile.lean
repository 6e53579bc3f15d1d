import PgConsole.Passfile

/-!
# Looking up passwords

A password file is described by its lines before they are written: entries, lines that are skipped,
and lines with too few colons to be entries.  `Text.Written` says how lines make up a text and
`Passfile.FileLine.text` how each of them is written.  Whatever such a file holds, a look-up answers
the password of the first entry that accepts the query (`Passfile.lookup_first_match`): colons and
backslashes behind a backslash are read as themselves, a line without four free colons is never an
entry, and behind the fourth of them a colon needs no backslash.
-/

namespace PgConsole.Text

/-- How lines make up a text: a line feed stands behind every line, perhaps with a carriage return
before it.  Only the last line may lack its ending, if it is not empty. -/
inductive Written : List (List Char) → List Char → Prop
  | nothing : Written [] []
  | unended {line : List Char} (hLine : line ≠ []) : Written [line] line
  | ended (line : List Char) {rest : List (List Char)} {text : List Char}
      (hRest : Written rest text) : Written (line :: rest) (line ++ '\n' :: text)
  | returned (line : List Char) {rest : List (List Char)} {text : List Char}
      (hRest : Written rest text) : Written (line :: rest) (line ++ '\r' :: '\n' :: text)

theorem dropReturn_concat (line : List Char) : dropReturn (line ++ ['\r']) = line := by
  simp [dropReturn]

theorem dropReturn_of_getLast?_ne {line : List Char} (hLast : line.getLast? ≠ some '\r') :
    dropReturn line = line := by
  rcases List.eq_nil_or_concat line with rfl | ⟨start, last, rfl⟩
  · rfl
  · have hOther : last ≠ '\r' := by simpa using hLast
    simp [dropReturn, hOther]

/-- A carriage return is all that can be dropped. -/
theorem dropReturn_or (line : List Char) :
    dropReturn line = line ∨ line = dropReturn line ++ ['\r'] := by
  rcases List.eq_nil_or_concat line with rfl | ⟨start, last, rfl⟩
  · exact .inl rfl
  · rw [List.concat_eq_append]
    by_cases hLast : last = '\r'
    · rw [hLast, dropReturn_concat]
      exact .inr rfl
    · exact .inl (dropReturn_of_getLast?_ne (by simpa using hLast))

theorem linesFrom_append {line : List Char} (hLine : '\n' ∉ line) (current rest : List Char) :
    linesFrom current (line ++ rest) = linesFrom (line.reverse ++ current) rest := by
  induction line generalizing current with
  | nil => rfl
  | cons c line ih =>
      rw [List.mem_cons, not_or] at hLine
      rw [List.cons_append, linesFrom, if_neg (Ne.symm hLine.1), ih hLine.2]
      simp

theorem lines_ended {line : List Char} (hLine : '\n' ∉ line) (text : List Char) :
    lines (line ++ '\n' :: text) = dropReturn line :: lines text := by
  rw [lines, linesFrom_append hLine, linesFrom, if_pos rfl]
  simp [lines]

theorem lines_unended {line : List Char} (hLine : '\n' ∉ line) (hSome : line ≠ []) :
    lines line = [line] := by
  have hLines := linesFrom_append hLine [] []
  rw [List.append_nil, List.append_nil] at hLines
  rw [lines, hLines]
  cases hReverse : line.reverse with
  | nil => exact absurd (List.reverse_eq_nil_iff.mp hReverse) hSome
  | cons c rest =>
      rw [linesFrom, ← hReverse, List.reverse_reverse]
      exact List.cons_ne_nil c rest

/-- What does not depend on a carriage return at the end of a line is found in a text as it is found
in its lines. -/
theorem Written.findSome?_lines {α : Type} {answer : List Char → Option α}
    {written : List (List Char)} {text : List Char} (h : Written written text)
    (hLines : ∀ line ∈ written, '\n' ∉ line ∧ answer (dropReturn line) = answer line) :
    (lines text).findSome? answer = written.findSome? answer := by
  induction h with
  | nothing => rfl
  | unended hLine =>
      rw [lines_unended (hLines _ List.mem_cons_self).1 hLine]
  | ended line hRest ih =>
      obtain ⟨⟨hFree, hAnswer⟩, hOthers⟩ := List.forall_mem_cons.mp hLines
      rw [lines_ended hFree, List.findSome?_cons, List.findSome?_cons, hAnswer, ih hOthers]
  | @returned line rest text hRest ih =>
      obtain ⟨⟨hFree, -⟩, hOthers⟩ := List.forall_mem_cons.mp hLines
      have hLonger : '\n' ∉ line ++ ['\r'] := by simp [hFree]
      have hText : line ++ '\r' :: '\n' :: text = (line ++ ['\r']) ++ '\n' :: text := by simp
      rw [hText, lines_ended hLonger, dropReturn_concat, List.findSome?_cons, List.findSome?_cons,
        ih hOthers]

end PgConsole.Text

namespace PgConsole.Passfile

/-! ## What a file holds -/

/-- What an entry asks of one value. -/
inductive Pattern where
  | any
  | exactly (value : String)
  deriving DecidableEq, Repr

/-- Whether a value is what is asked for. -/
def Pattern.accepts : Pattern → String → Bool
  | .any, _ => true
  | .exactly value, asked => value = asked

/-- An entry of a password file. -/
structure Entry where
  host : Pattern
  port : Pattern
  database : Pattern
  user : Pattern
  password : String
  deriving DecidableEq, Repr

namespace Entry

/-- What an entry asks of the four values of a query, in order. -/
def patterns (entry : Entry) : List Pattern :=
  [entry.host, entry.port, entry.database, entry.user]

/-- Whether all four values of a query are what an entry asks for. -/
def accepts (query : Query) (entry : Entry) : Bool :=
  entry.host.accepts query.host && entry.port.accepts (Text.ofNat query.port.toNat) &&
    entry.database.accepts query.database && entry.user.accepts query.user

end Entry

/-- A value with a backslash before every colon and every backslash. -/
def escape (value : List Char) : List Char :=
  value.flatMap fun c => if c = ':' ∨ c = '\\' then ['\\', c] else [c]

/-- How a pattern is written. -/
def Pattern.text : Pattern → List Char
  | .any => ['*']
  | .exactly value => escape value.toList

/-- How a password may be written: any character may have a backslash before it, and a backslash
must have one. -/
inductive Spelled : List Char → List Char → Prop
  | nothing : Spelled [] []
  | plain {c : Char} {written value : List Char} (hPlain : c ≠ '\\')
      (hRest : Spelled written value) : Spelled (c :: written) (c :: value)
  | taken (c : Char) {written value : List Char}
      (hRest : Spelled written value) : Spelled ('\\' :: c :: written) (c :: value)

/-- The number of colons in a line that no backslash takes literally. -/
def freeColons : List Char → Nat
  | [] => 0
  | ['\\'] => 0
  | '\\' :: _ :: rest => freeColons rest
  | ':' :: rest => freeColons rest + 1
  | _ :: rest => freeColons rest

/-- A line of which a hash sign is the first character that is not blank. -/
def IsComment (line : List Char) : Prop :=
  ∃ blanks rest, line = blanks ++ '#' :: rest ∧ ∀ c ∈ blanks, Text.isBlank c = true

/-- A line of a password file. -/
inductive FileLine where
  /-- An entry, with its password as it is written. -/
  | entry (meant : Entry) (password : List Char)
  /-- A comment or a blank line. -/
  | skipped (text : List Char)
  /-- A line with too few fields. -/
  | short (text : List Char)

namespace FileLine

/-- The text of a line. -/
def text : FileLine → List Char
  | .entry meant password =>
    meant.host.text ++ ':' :: (meant.port.text ++ ':' :: (meant.database.text ++
      ':' :: (meant.user.text ++ ':' :: password)))
  | .skipped text => text
  | .short text => text

/-- The entry of a line. -/
def entry? : FileLine → Option Entry
  | .entry meant _ => some meant
  | _ => none

end FileLine

/-- An entry that can be written on one line. -/
structure Entry.Writable (entry : Entry) : Prop where
  /-- A star alone would match anything. -/
  literal : ∀ value, .exactly value ∈ entry.patterns → value ≠ "*" ∧ '\n' ∉ value.toList
  /-- The line would be taken for a comment. -/
  host : ∀ value, entry.host = .exactly value → ¬ IsComment value.toList
  password : '\n' ∉ entry.password.toList
  /-- The carriage return would belong to the ending of the line. -/
  ending : entry.password.toList.getLast? ≠ some '\r'

/-- A line that is what it is said to be. -/
def FileLine.Allowed : FileLine → Prop
  | .entry meant password => meant.Writable ∧ Spelled password meant.password.toList
  | .skipped text => '\n' ∉ text ∧ (IsComment text ∨ ∀ c ∈ text, Text.isBlank c = true)
  | .short text => '\n' ∉ text ∧ freeColons text < 4

/-! ## Fields -/

theorem extendFirst_ne_nil (c : Char) (fields : List (List Char)) : extendFirst c fields ≠ [] := by
  cases fields <;> exact List.cons_ne_nil _ _

theorem fields_ne_nil (colons : Nat) (line : List Char) : fields colons line ≠ [] := by
  fun_cases fields colons line with
  | case1 => exact List.cons_ne_nil _ _
  | case2 => exact List.cons_ne_nil _ _
  | case3 colons c rest => exact extendFirst_ne_nil _ _
  | case4 colons rest => exact List.cons_ne_nil _ _
  | case5 colons c rest => exact extendFirst_ne_nil _ _

theorem length_extendFirst (c : Char) {fields : List (List Char)} (hSome : fields ≠ []) :
    (extendFirst c fields).length = fields.length := by
  cases fields with
  | nil => exact absurd rfl hSome
  | cons field rest => rfl

/-- A character that takes nothing literally is no backslash. -/
theorem ne_backslash {c : Char} {rest : List Char} (hLast : c = '\\' → rest = [] → False)
    (hTaken : ∀ next others, c = '\\' → rest = next :: others → False) : c ≠ '\\' := by
  cases rest with
  | nil => exact fun hSame => hLast hSame rfl
  | cons next rest => exact fun hSame => hTaken next rest hSame rfl

theorem freeColons_cons {c : Char} (hPlain : c ≠ '\\') (hOther : c ≠ ':') (rest : List Char) :
    freeColons (c :: rest) = freeColons rest := by
  rw [freeColons]
  · exact fun hSame _ => hPlain hSame
  · exact fun _ _ hSame _ => hPlain hSame
  · exact hOther

/-- A line has one field more than free colons, as far as it is split. -/
theorem length_fields (colons : Nat) (line : List Char) :
    (fields colons line).length = min colons (freeColons line) + 1 := by
  fun_induction fields colons line with
  | case1 => simp [freeColons]
  | case2 => simp [freeColons]
  | case3 colons c rest ih =>
      rw [length_extendFirst c (fields_ne_nil _ _), ih, freeColons]
  | case4 colons rest ih =>
      rw [List.length_cons, ih, freeColons]
      omega
  | case5 colons c rest hLast hTaken hColon ih =>
      rw [length_extendFirst c (fields_ne_nil _ _), ih]
      cases colons with
      | zero => simp
      | succ colons => rw [freeColons_cons (ne_backslash hLast hTaken) (hColon colons rfl)]

/-- What is written in a field is read up to the colon behind it. -/
theorem fields_escape (colons : Nat) (value rest : List Char) :
    fields (colons + 1) (escape value ++ ':' :: rest) = value :: fields colons rest := by
  induction value with
  | nil => rfl
  | cons c value ih =>
      rw [escape, List.flatMap_cons, ← escape, List.append_assoc]
      by_cases hSpecial : c = ':' ∨ c = '\\'
      · rw [if_pos hSpecial]
        simp [fields, ih, extendFirst]
      · rw [if_neg hSpecial]
        rw [not_or] at hSpecial
        simp [fields, ih, extendFirst, hSpecial]

theorem fields_spelled {written value : List Char} (h : Spelled written value) :
    fields 0 written = [value] := by
  induction h with
  | nothing => rfl
  | plain hPlain hRest ih => simp [fields, ih, extendFirst, hPlain]
  | taken c hRest ih => simp [fields, ih, extendFirst]

/-! ## Ways to write a value -/

theorem spelled_escape (value : List Char) : Spelled (escape value) value := by
  induction value with
  | nil => exact .nothing
  | cons c value ih =>
      rw [escape, List.flatMap_cons, ← escape]
      by_cases hSpecial : c = ':' ∨ c = '\\'
      · rw [if_pos hSpecial]
        exact .taken c ih
      · rw [if_neg hSpecial]
        exact .plain (not_or.mp hSpecial).2 ih

/-- What is written behind a value is read behind it. -/
theorem Spelled.append {left right first second : List Char} (hFirst : Spelled left first)
    (hSecond : Spelled right second) : Spelled (left ++ right) (first ++ second) := by
  induction hFirst with
  | nothing => exact hSecond
  | plain hPlain hRest ih => exact .plain hPlain ih
  | taken c hRest ih => exact .taken c ih

theorem Spelled.mem {written value : List Char} (h : Spelled written value) {c : Char}
    (hMem : c ∈ written) : c = '\\' ∨ c ∈ value := by
  induction h with
  | nothing => cases hMem
  | plain hPlain hRest ih =>
      rcases List.mem_cons.mp hMem with rfl | hMem
      · exact .inr List.mem_cons_self
      · exact (ih hMem).imp_right (List.mem_cons_of_mem _)
  | taken next hRest ih =>
      rcases List.mem_cons.mp hMem with rfl | hMem
      · exact .inl rfl
      rcases List.mem_cons.mp hMem with rfl | hMem
      · exact .inr List.mem_cons_self
      · exact (ih hMem).imp_right (List.mem_cons_of_mem _)

/-- A value and the way it is written end alike. -/
theorem Spelled.getLast? {written value : List Char} (h : Spelled written value) :
    written.getLast? = value.getLast? := by
  induction h with
  | nothing => rfl
  | plain hPlain hRest ih => rw [List.getLast?_cons, List.getLast?_cons, ih]
  | taken c hRest ih => rw [List.getLast?_cons, List.getLast?_cons, List.getLast?_cons, ih]; rfl

/-! ## Lines that are skipped -/

theorem trimStart_eq_nil_iff (text : List Char) :
    Text.trimStart text = [] ↔ ∀ c ∈ text, Text.isBlank c = true := by
  induction text with
  | nil => simp [Text.trimStart]
  | cons c rest ih =>
      rw [Text.trimStart] at ih ⊢
      cases hBlank : Text.isBlank c <;> simp [hBlank, ih]

/-- A text is trimmed away only if it is blank. -/
theorem trim_eq_nil_iff (text : List Char) :
    Text.trim text = [] ↔ ∀ c ∈ text, Text.isBlank c = true := by
  rw [Text.trim, List.reverse_eq_nil_iff, trimStart_eq_nil_iff, ← trimStart_eq_nil_iff text]
  constructor
  · intro hBlank
    -- the first character that is left is not blank
    have hFirst := List.head?_dropWhile_not Text.isBlank text
    rw [← Text.trimStart] at hFirst
    cases hTrimmed : Text.trimStart text with
    | nil => rfl
    | cons c rest =>
        rw [hTrimmed] at hFirst hBlank
        have hVisible : Text.isBlank c = false := hFirst
        rw [hBlank c (by simp)] at hVisible
        cases hVisible
  · intro hTrimmed
    simp [hTrimmed]

theorem head?_trimStart_iff (text : List Char) :
    (Text.trimStart text).head? = some '#' ↔ IsComment text := by
  constructor
  · intro hHead
    obtain ⟨rest, hRest⟩ := List.head?_eq_some_iff.mp hHead
    refine ⟨text.takeWhile Text.isBlank, rest, ?_, ?_⟩
    · rw [← hRest, Text.trimStart, List.takeWhile_append_dropWhile]
    · exact List.all_eq_true.mp List.all_takeWhile
  · rintro ⟨blanks, rest, rfl, hBlanks⟩
    rw [Text.trimStart, List.dropWhile_append_of_pos hBlanks]
    rfl

/-- Comments and blank lines are skipped, and nothing else. -/
theorem isSkipped_iff (line : List Char) :
    isSkipped line = true ↔ IsComment line ∨ ∀ c ∈ line, Text.isBlank c = true := by
  rw [isSkipped, Bool.or_eq_true, decide_eq_true_iff, head?_trimStart_iff, List.isEmpty_iff,
    trim_eq_nil_iff]

/-- A carriage return at its end does not keep a line from being skipped. -/
theorem isSkipped_dropReturn {line : List Char} (h : isSkipped line = true) :
    isSkipped (Text.dropReturn line) = true := by
  rcases Text.dropReturn_or line with hSame | hLonger
  · rwa [hSame]
  · rw [isSkipped_iff] at h ⊢
    generalize Text.dropReturn line = start at hLonger
    subst hLonger
    rcases h with ⟨blanks, rest, hLine, hBlanks⟩ | hBlank
    · rcases List.eq_nil_or_concat rest with rfl | ⟨rest, last, rfl⟩
      · have hLast := congrArg List.getLast? hLine
        simp at hLast
      · rw [List.concat_eq_append, ← List.cons_append, ← List.append_assoc] at hLine
        exact .inl ⟨blanks, rest, (List.append_inj' hLine rfl).1, hBlanks⟩
    · exact .inr fun c hMem => hBlank c (List.mem_append_left _ hMem)

/-! ## Lines with too few fields -/

theorem freeColons_le_append (line rest : List Char) :
    freeColons line ≤ freeColons (line ++ rest) := by
  fun_induction freeColons line with
  | case1 => exact Nat.zero_le _
  | case2 => exact Nat.zero_le _
  | case3 c line ih => simpa [freeColons] using ih
  | case4 line ih => simpa [freeColons] using ih
  | case5 c line hLast hTaken hColon ih =>
      rwa [List.cons_append, freeColons_cons (ne_backslash hLast hTaken) hColon]

theorem entryPassword?_of_freeColons_lt (query : Query) {line : List Char}
    (h : freeColons line < 4) : entryPassword? query line = none := by
  have hLength := length_fields 4 line
  unfold entryPassword?
  split
  · rename_i hFields
    rw [hFields] at hLength
    simp only [List.length_cons, List.length_nil] at hLength
    omega
  · rfl

/-! ## Entries -/

/-- A pattern as a field of a line that has been split. -/
def Pattern.field : Pattern → List Char
  | .any => ['*']
  | .exactly value => value.toList

theorem Pattern.text_eq (pattern : Pattern) : pattern.text = escape pattern.field := by
  cases pattern <;> rfl

theorem Pattern.fieldMatches_field {pattern : Pattern} (hLiteral : pattern ≠ .exactly "*")
    (value : String) : fieldMatches pattern.field value.toList = pattern.accepts value := by
  cases pattern with
  | any => simp [fieldMatches, field, accepts]
  | exactly literal =>
      have hStar : literal.toList ≠ ['*'] := by
        intro hSame
        exact hLiteral (congrArg Pattern.exactly (String.toList_inj.mp hSame))
      simp [fieldMatches, field, accepts, hStar, String.toList_inj]

theorem not_isComment_escape_append {value : List Char} (h : ¬ IsComment value) (rest : List Char) :
    ¬ IsComment (escape value ++ ':' :: rest) := by
  rintro ⟨blanks, others, hLine, hBlanks⟩
  induction value generalizing blanks with
  | nil =>
      cases blanks with
      | nil => simp [escape] at hLine
      | cons c blanks =>
          obtain ⟨rfl, -⟩ := List.cons.inj hLine
          exact absurd (hBlanks ':' List.mem_cons_self) (by decide)
  | cons c value ih =>
      rw [escape, List.flatMap_cons, ← escape] at hLine
      split at hLine
      · -- the line starts with a backslash
        cases blanks with
        | nil => simp at hLine
        | cons first blanks =>
            obtain ⟨rfl, -⟩ := List.cons.inj hLine
            exact absurd (hBlanks '\\' List.mem_cons_self) (by decide)
      · cases blanks with
        | nil =>
            obtain ⟨rfl, -⟩ := List.cons.inj hLine
            exact h ⟨[], value, rfl, by simp⟩
        | cons first blanks =>
            obtain ⟨rfl, hRest⟩ := List.cons.inj hLine
            obtain ⟨hFirst, hOthers⟩ := List.forall_mem_cons.mp hBlanks
            refine ih ?_ blanks hRest hOthers
            rintro ⟨more, left, rfl, hMore⟩
            exact h ⟨c :: more, left, rfl, List.forall_mem_cons.mpr ⟨hFirst, hMore⟩⟩

section

variable {meant : Entry} {password : List Char} (hWritable : meant.Writable)

include hWritable

theorem isSkipped_entry : isSkipped (FileLine.entry meant password).text = false := by
  rw [← Bool.not_eq_true, isSkipped_iff]
  rintro (hComment | hBlank)
  · have hHost : ¬ IsComment meant.host.field := by
      cases hPattern : meant.host with
      | any =>
          rintro ⟨blanks, rest, hStar, hBlanks⟩
          cases blanks with
          | nil => simp [Pattern.field] at hStar
          | cons c blanks =>
              obtain ⟨rfl, -⟩ := List.cons.inj hStar
              exact absurd (hBlanks '*' List.mem_cons_self) (by decide)
      | exactly value => exact hWritable.host value hPattern
    rw [FileLine.text, Pattern.text_eq] at hComment
    exact not_isComment_escape_append hHost _ hComment
  · exact absurd (hBlank ':' (by simp [FileLine.text])) (by decide)

theorem newline_not_mem_entry (hPassword : Spelled password meant.password.toList) :
    '\n' ∉ (FileLine.entry meant password).text := by
  have hPattern : ∀ pattern ∈ meant.patterns, '\n' ∉ pattern.text := by
    intro pattern hPattern hMem
    cases pattern with
    | any => simp [Pattern.text] at hMem
    | exactly value =>
        rcases (spelled_escape value.toList).mem hMem with hBackslash | hMem
        · exact absurd hBackslash (by decide)
        · exact (hWritable.literal value hPattern).2 hMem
  have hWritten : '\n' ∉ password := by
    intro hMem
    rcases hPassword.mem hMem with hBackslash | hMem
    · exact absurd hBackslash (by decide)
    · exact hWritable.password hMem
  simp only [Entry.patterns, List.forall_mem_cons] at hPattern
  simp [FileLine.text, hPattern, hWritten]

theorem getLast?_entry (hPassword : Spelled password meant.password.toList) :
    (FileLine.entry meant password).text.getLast? ≠ some '\r' := by
  have hEnding := hWritable.ending
  rw [← hPassword.getLast?] at hEnding
  simp only [FileLine.text, List.getLast?_append, List.getLast?_cons]
  cases hLast : password.getLast? with
  | none => simp
  | some c => simpa [hLast] using hEnding

/-- What a line says of an entry is what the entry says. -/
theorem entryPassword?_entry (hPassword : Spelled password meant.password.toList) (query : Query) :
    entryPassword? query (FileLine.entry meant password).text =
      if meant.accepts query then some meant.password else none := by
  have hFields : fields 4 (FileLine.entry meant password).text =
      [meant.host.field, meant.port.field, meant.database.field, meant.user.field,
        meant.password.toList] := by
    simp only [FileLine.text, Pattern.text_eq]
    rw [fields_escape 3, fields_escape 2, fields_escape 1, fields_escape 0,
      fields_spelled hPassword]
  have hLiteral : ∀ pattern ∈ meant.patterns, pattern ≠ .exactly "*" := by
    rintro pattern hPattern rfl
    exact (hWritable.literal "*" hPattern).1 rfl
  simp only [Entry.patterns, List.forall_mem_cons] at hLiteral
  obtain ⟨hHost, hPort, hDatabase, hUser, -⟩ := hLiteral
  simp only [entryPassword?, hFields, Query.values, List.zipWith_cons_cons, List.zipWith_nil_left,
    Pattern.fieldMatches_field hHost, Pattern.fieldMatches_field hPort,
    Pattern.fieldMatches_field hDatabase, Pattern.fieldMatches_field hUser]
  simp [Entry.accepts, and_assoc]

end

/-! ## Looking up -/

/-- What a line answers to a query. -/
def answer (query : Query) (line : List Char) : Option String :=
  if isSkipped line then none else entryPassword? query line

theorem lookup_eq (query : Query) (text : String) :
    lookup query text = (Text.lines text.toList).findSome? (answer query) := by
  rw [lookup]
  induction Text.lines text.toList with
  | nil => rfl
  | cons line rest ih =>
      rw [List.findSome?_cons, ← ih]
      cases hSkipped : isSkipped line with
      | true => simp [answer, hSkipped]
      | false =>
          have hAnswer : answer query line = entryPassword? query line := by
            simp [answer, hSkipped]
          rw [List.filter_cons_of_pos (by simp [hSkipped]), List.findSome?_cons, hAnswer]

/-- What a line of a file answers to a query. -/
def FileLine.answer (query : Query) (line : FileLine) : Option String :=
  (line.entry?.filter (Entry.accepts query)).map Entry.password

theorem answer_of_isSkipped (query : Query) {line : List Char} (h : isSkipped line = true) :
    answer query line = none := by
  rw [answer, if_pos h]

theorem answer_of_freeColons_lt (query : Query) {line : List Char} (h : freeColons line < 4) :
    answer query line = none := by
  rw [answer, entryPassword?_of_freeColons_lt query h, ite_self]

/-- A line answers as it should, with or without a carriage return in its ending. -/
theorem FileLine.answer_text (query : Query) {line : FileLine} (h : line.Allowed) :
    '\n' ∉ line.text ∧ Passfile.answer query line.text = line.answer query ∧
      Passfile.answer query (Text.dropReturn line.text) = line.answer query := by
  cases line with
  | entry meant password =>
      obtain ⟨hWritable, hPassword⟩ := h
      have hAnswer : Passfile.answer query (FileLine.entry meant password).text =
          (FileLine.entry meant password).answer query := by
        rw [Passfile.answer, isSkipped_entry hWritable, entryPassword?_entry hWritable hPassword]
        cases hAccepts : meant.accepts query <;>
          simp [FileLine.answer, FileLine.entry?, Option.filter, hAccepts]
      refine ⟨newline_not_mem_entry hWritable hPassword, hAnswer, ?_⟩
      rw [Text.dropReturn_of_getLast?_ne (getLast?_entry hWritable hPassword), hAnswer]
  | skipped text =>
      obtain ⟨hFree, hSkipped⟩ := h
      have hSkipped := (isSkipped_iff text).mpr hSkipped
      exact ⟨hFree, answer_of_isSkipped query hSkipped,
        answer_of_isSkipped query (isSkipped_dropReturn hSkipped)⟩
  | short text =>
      obtain ⟨hFree, hShort⟩ := h
      refine ⟨hFree, answer_of_freeColons_lt query hShort, answer_of_freeColons_lt query ?_⟩
      refine Nat.lt_of_le_of_lt ?_ hShort
      rcases Text.dropReturn_or text with hSame | hLonger
      · exact Nat.le_of_eq (congrArg freeColons hSame)
      · calc freeColons (Text.dropReturn text)
          _ ≤ freeColons (Text.dropReturn text ++ ['\r']) := freeColons_le_append _ _
          _ = freeColons text := by rw [← hLonger]

/-- The first line that answers is the first entry that accepts the query. -/
theorem findSome?_answer (query : Query) {file : List FileLine}
    (hAllowed : ∀ line ∈ file, line.Allowed) :
    file.findSome? (answer query ∘ FileLine.text) =
      ((file.filterMap FileLine.entry?).find? (Entry.accepts query)).map Entry.password := by
  induction file with
  | nil => rfl
  | cons line rest ih =>
      obtain ⟨hLine, hRest⟩ := List.forall_mem_cons.mp hAllowed
      rw [List.findSome?_cons, Function.comp_apply, (FileLine.answer_text query hLine).2.1,
        ih hRest]
      cases line with
      | entry meant password =>
          cases hAccepts : meant.accepts query <;>
            simp [FileLine.answer, FileLine.entry?, Option.filter, hAccepts]
      | skipped text => rfl
      | short text => rfl

/-- However the lines of a password file are written, a look-up answers the password of the first
entry that accepts the query, and nothing if there is none: comments, blank lines and lines without
four free colons do not count.  A password may be written with a backslash before its colons and
backslashes, and a free colon between two parts of it belongs to it. -/
theorem lookup_first_match (query : Query) {file : List FileLine} {text : String}
    (hAllowed : ∀ line ∈ file, line.Allowed)
    (hText : Text.Written (file.map FileLine.text) text.toList) :
    lookup query text =
        ((file.filterMap FileLine.entry?).find? (Entry.accepts query)).map Entry.password ∧
      (∀ value, Spelled (escape value) value) ∧
      ∀ left right first second, Spelled left first → Spelled right second →
        Spelled (left ++ ':' :: right) (first ++ ':' :: second) := by
  refine ⟨?_, spelled_escape, ?_⟩
  · have hLines : ∀ line ∈ file.map FileLine.text,
        '\n' ∉ line ∧ answer query (Text.dropReturn line) = answer query line := by
      intro line hLine
      obtain ⟨meant, hMeant, rfl⟩ := List.mem_map.mp hLine
      obtain ⟨hFree, hAnswer, hDropped⟩ := FileLine.answer_text query (hAllowed meant hMeant)
      exact ⟨hFree, hDropped.trans hAnswer.symm⟩
    rw [lookup_eq, hText.findSome?_lines hLines, List.findSome?_map,
      findSome?_answer query hAllowed]
  · intro left right first second hFirst hSecond
    exact hFirst.append (.plain (by decide) hSecond)

/-- A file with a comment, a blank line, a line that is too short, an entry for a user with a colon
in the name, and an entry whose password has a backslash and a free colon in it. -/
theorem lookup_past_other_lines :
    let other : Entry := ⟨.exactly "db", .any, .exactly "app", .exactly "al:ice", "first"⟩
    let own : Entry := ⟨.any, .exactly "5432", .any, .exactly "alice", "a\\b:c"⟩
    let file : List FileLine := [.skipped " # hosts".toList, .skipped [], .short "db:5432".toList,
      .entry other "first".toList, .entry own "a\\\\b:c".toList]
    let text := " # hosts\r\n\ndb:5432\ndb:*:app:al\\:ice:first\n*:5432:*:alice:a\\\\b:c"
    (∀ line ∈ file, line.Allowed) ∧ Text.Written (file.map FileLine.text) text.toList ∧
      lookup ⟨"db", 5432, "app", "alice"⟩ text = some "a\\b:c" ∧
      lookup ⟨"db", 5433, "app", "alice"⟩ text = none := by
  intro other own file text
  have hOther : Spelled "first".toList other.password.toList := by
    have hPlain : escape "first".toList = "first".toList := by decide
    have hSpelled := spelled_escape "first".toList
    rwa [hPlain] at hSpelled
  have hOwn : Spelled "a\\\\b:c".toList own.password.toList := by
    have hWritten : "a\\\\b:c".toList = escape "a\\b".toList ++ ':' :: escape ['c'] := by decide
    have hMeant : own.password.toList = "a\\b".toList ++ ':' :: ['c'] := by decide
    rw [hWritten, hMeant]
    exact (spelled_escape _).append (.plain (by decide) (spelled_escape _))
  have hAllowed : ∀ line ∈ file, line.Allowed := by
    simp only [file, List.forall_mem_cons]
    refine ⟨?_, ?_, ?_, ?_, ?_, by simp⟩
    · have hBlank : ∀ c ∈ [' '], Text.isBlank c = true := List.forall_mem_singleton.mpr (by decide)
      exact ⟨by decide, .inl ⟨[' '], " hosts".toList, by decide, hBlank⟩⟩
    · exact ⟨by decide, .inr (by simp)⟩
    · exact ⟨by decide, by decide⟩
    · refine ⟨⟨?_, ?_, by decide, by decide⟩, hOther⟩
      · simp only [other, Entry.patterns, List.mem_cons, Pattern.exactly.injEq]
        rintro value (rfl | hAny | rfl | rfl | hNone)
        · decide
        · cases hAny
        · decide
        · decide
        · cases hNone
      · intro value hHost hComment
        obtain rfl : "db" = value := Pattern.exactly.inj hHost
        exact absurd ((isSkipped_iff _).mpr (.inl hComment)) (by decide)
    · refine ⟨⟨?_, by simp [own], by decide, by decide⟩, hOwn⟩
      simp only [own, Entry.patterns, List.mem_cons, Pattern.exactly.injEq]
      rintro value (hAny | rfl | hAny | rfl | hNone)
      · cases hAny
      · decide
      · cases hAny
      · decide
      · cases hNone
  have hWritten : Text.Written (file.map FileLine.text) text.toList := by
    have hText : text.toList = " # hosts".toList ++ '\r' :: '\n' :: ([] ++ '\n' ::
        ("db:5432".toList ++ '\n' :: ((FileLine.entry other "first".toList).text ++ '\n' ::
          (FileLine.entry own "a\\\\b:c".toList).text))) := by decide
    rw [hText]
    exact .returned _ (.ended _ (.ended _ (.ended _ (.unended (by decide)))))
  refine ⟨hAllowed, hWritten, ?_, ?_⟩
  · rw [(lookup_first_match ⟨"db", 5432, "app", "alice"⟩ hAllowed hWritten).1]
    decide
  · rw [(lookup_first_match ⟨"db", 5433, "app", "alice"⟩ hAllowed hWritten).1]
    decide

end PgConsole.Passfile
