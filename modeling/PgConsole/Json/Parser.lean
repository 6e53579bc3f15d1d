import PgConsole.Json.Basic
import PgConsole.Text.Numeral

namespace PgConsole.Json

/-!
# Reading JSON texts

A strict reader: no byte order mark, no comments, no trailing commas, no leading zeros, no
raw control characters in strings, and nothing but blanks after the value. Every step returns
the characters it has not used. The depth argument bounds the nesting and is supplied by
`parse?` from the length of the text, so it never runs out on a text that fits it.
-/

/-- Blanks between tokens. -/
def isSpace (c : Char) : Bool :=
  c = ' ' || c = '\n' || c = '\r' || c = '\t'

/-- The text without the blanks in front of it. -/
def skipSpace (input : List Char) : List Char :=
  input.dropWhile isSpace

/-- The value of a hexadecimal digit of either case. -/
def hexValue? (c : Char) : Option Nat :=
  if '0' ≤ c && c ≤ '9' then some (c.toNat - '0'.toNat)
  else if 'a' ≤ c && c ≤ 'f' then some (c.toNat - 'a'.toNat + 10)
  else if 'A' ≤ c && c ≤ 'F' then some (c.toNat - 'A'.toNat + 10)
  else none

/-- The number spelled by four hexadecimal digits. -/
def hexQuad? (a b c d : Char) : Option Nat := do
  let a ← hexValue? a
  let b ← hexValue? b
  let c ← hexValue? c
  let d ← hexValue? d
  return ((a * 16 + b) * 16 + c) * 16 + d

/-- Whether a code unit is the first half of a surrogate pair. -/
def isHighSurrogate (unit : Nat) : Bool := 0xd800 ≤ unit && unit < 0xdc00

/-- Whether a code unit is the second half of a surrogate pair. -/
def isLowSurrogate (unit : Nat) : Bool := 0xdc00 ≤ unit && unit < 0xe000

/-- One unit of a string: a character, or half of a surrogate pair. -/
inductive StringUnit where
  | char (c : Char)
  | surrogate (unit : Nat)
  deriving DecidableEq, Repr

/-- The unit that a four-digit escape denotes. -/
def StringUnit.ofCode (code : Nat) : StringUnit :=
  if isHighSurrogate code || isLowSurrogate code then .surrogate code else .char (Char.ofNat code)

/-- The units of a string whose opening quote has been read, and what follows the closing
quote. -/
def stringUnits? : List Char → Option (List StringUnit × List Char)
  | [] => none
  | '"' :: rest => some ([], rest)
  | '\\' :: 'u' :: a :: b :: c :: d :: rest =>
    match hexQuad? a b c d, stringUnits? rest with
    | some code, some (units, rest) => some (.ofCode code :: units, rest)
    | _, _ => none
  | '\\' :: e :: rest =>
    let c? : Option Char :=
      match e with
      | '"' => some '"'
      | '\\' => some '\\'
      | '/' => some '/'
      | 'b' => some '\x08'
      | 'f' => some '\x0c'
      | 'n' => some '\n'
      | 'r' => some '\r'
      | 't' => some '\t'
      | _ => none
    match c?, stringUnits? rest with
    | some c, some (units, rest) => some (.char c :: units, rest)
    | _, _ => none
  | c :: rest =>
    if c.toNat < 0x20 then none
    else
      match stringUnits? rest with
      | some (units, rest) => some (.char c :: units, rest)
      | none => none

/-- Join surrogate pairs; nothing when a half stands alone. -/
def joinUnits? : List StringUnit → Option (List Char)
  | [] => some []
  | .char c :: rest => (joinUnits? rest).map (c :: ·)
  | .surrogate high :: .surrogate low :: rest =>
    if isHighSurrogate high && isLowSurrogate low then
      (joinUnits? rest).map
        (Char.ofNat (0x10000 + (high - 0xd800) * 0x400 + (low - 0xdc00)) :: ·)
    else none
  | .surrogate _ :: _ => none

/-- Split off the leading digits. -/
def spanDigits (input : List Char) : List Char × List Char :=
  (input.takeWhile Text.isDigit, input.dropWhile Text.isDigit)

/-- The value of a list of digits. -/
def digitsValue (digits : List Char) : Nat :=
  digits.foldl (fun value c => value * 10 + Text.digitValue c) 0

/-- The fraction of a number: nothing, or a point and at least one digit. -/
def fraction? : List Char → Option (List Char × List Char)
  | '.' :: rest =>
    let (digits, rest) := spanDigits rest
    if digits.isEmpty then none else some ('.' :: digits, rest)
  | input => some ([], input)

/-- The exponent of a number: nothing, or a mark, an optional sign and at least one digit. -/
def exponent? : List Char → Option (List Char × List Char)
  | mark :: rest =>
    if mark = 'e' || mark = 'E' then
      let (sign, rest) :=
        match rest with
        | '+' :: rest => (['+'], rest)
        | '-' :: rest => (['-'], rest)
        | rest => ([], rest)
      let (digits, rest) := spanDigits rest
      if digits.isEmpty then none else some (mark :: sign ++ digits, rest)
    else some ([], mark :: rest)
  | [] => some ([], [])

/-- The value of a number without fraction and exponent. Negative zero is not an integer. -/
def integerValue (negative : Bool) (digits : List Char) : Json :=
  let magnitude := digitsValue digits
  let written := String.ofList (if negative then '-' :: digits else digits)
  if negative then
    if magnitude = 0 || Nat.pow 2 63 < magnitude then .real written
    else .integer (-(Int.ofNat magnitude))
  else if magnitude < UInt64.size then .integer (Int.ofNat magnitude)
  else .real written

/-- Whether a number starts with a minus sign, and what follows the sign. -/
def splitSign : List Char → Bool × List Char
  | '-' :: rest => (true, rest)
  | rest => (false, rest)

/-- A number and what follows it. -/
def number? (input : List Char) : Option (Json × List Char) :=
  let (negative, input) := splitSign input
  let (digits, rest) := spanDigits input
  match digits with
  | [] => none
  | '0' :: _ :: _ => none
  | _ =>
    match fraction? rest with
    | none => none
    | some (fraction, rest) =>
      match exponent? rest with
      | none => none
      | some (exponent, rest) =>
        if fraction.isEmpty && exponent.isEmpty then some (integerValue negative digits, rest)
        else
          let sign := if negative then ['-'] else []
          some (.real (String.ofList (sign ++ digits ++ fraction ++ exponent)), rest)

/-- A string as a value. -/
def textValue (units : List StringUnit) : Json :=
  match joinUnits? units with
  | some chars => .text (String.ofList chars)
  | none => .illFormed

/-- A field name, its colon, and what follows. -/
def fieldName? (input : List Char) : Option (String × List Char) :=
  match skipSpace input with
  | '"' :: rest =>
    match stringUnits? rest with
    | some (units, rest) =>
      match joinUnits? units, skipSpace rest with
      | some chars, ':' :: rest => some (String.ofList chars, rest)
      | _, _ => none
    | none => none
  | _ => none

mutual

/-- A value and what follows it. -/
def value? : Nat → List Char → Option (Json × List Char)
  | 0, _ => none
  | depth + 1, input =>
    match skipSpace input with
    | 'n' :: 'u' :: 'l' :: 'l' :: rest => some (.null, rest)
    | 't' :: 'r' :: 'u' :: 'e' :: rest => some (.bool true, rest)
    | 'f' :: 'a' :: 'l' :: 's' :: 'e' :: rest => some (.bool false, rest)
    | '"' :: rest =>
      match stringUnits? rest with
      | some (units, rest) => some (textValue units, rest)
      | none => none
    | '[' :: rest =>
      match skipSpace rest with
      | ']' :: rest => some (.array [], rest)
      | rest =>
        match items? depth rest with
        | some (items, rest) => some (.array items, rest)
        | none => none
    | '\x7b' :: rest =>
      match skipSpace rest with
      | '\x7d' :: rest => some (.object [], rest)
      | rest =>
        match fields? depth rest with
        | some (fields, rest) => some (.object fields, rest)
        | none => none
    | input => number? input

/-- One or more items up to the closing bracket. -/
def items? : Nat → List Char → Option (List Json × List Char)
  | 0, _ => none
  | depth + 1, input =>
    match value? depth input with
    | none => none
    | some (item, rest) =>
      match skipSpace rest with
      | ']' :: rest => some ([item], rest)
      | ',' :: rest =>
        match items? depth rest with
        | some (items, rest) => some (item :: items, rest)
        | none => none
      | _ => none

/-- One or more fields up to the closing brace. -/
def fields? : Nat → List Char → Option (List (String × Json) × List Char)
  | 0, _ => none
  | depth + 1, input =>
    match fieldName? input with
    | none => none
    | some (name, rest) =>
      match value? depth rest with
      | none => none
      | some (value, rest) =>
        match skipSpace rest with
        | '\x7d' :: rest => some ([(name, value)], rest)
        | ',' :: rest =>
          match fields? depth rest with
          | some (fields, rest) => some ((name, value) :: fields, rest)
          | none => none
        | _ => none

end

/-- The value that a text denotes, with repeated field names kept. -/
def parse? (text : String) : Option Json :=
  let input := text.toList
  match value? (input.length + 1) input with
  | some (value, rest) => if (skipSpace rest).isEmpty then some value else none
  | none => none

/-- Of fields with one name keep the last, at the place of the first. -/
def lastFields : List (String × Json) → List (String × Json)
  | [] => []
  | (name, value) :: rest =>
    let later := lastFields rest
    match later.lookup name with
    | some final => (name, final) :: later.filter fun field => field.1 != name
    | none => (name, value) :: later

mutual

/-- A value in which no object repeats a field name: the last field of a name counts. -/
def withoutRepeats : Json → Json
  | .array items => .array (withoutRepeatsList items)
  | .object fields => .object (lastFields (withoutRepeatsFields fields))
  | value => value

/-- `withoutRepeats` on every item. -/
def withoutRepeatsList : List Json → List Json
  | [] => []
  | item :: rest => withoutRepeats item :: withoutRepeatsList rest

/-- `withoutRepeats` on every field value. -/
def withoutRepeatsFields : List (String × Json) → List (String × Json)
  | [] => []
  | (name, value) :: rest => (name, withoutRepeats value) :: withoutRepeatsFields rest

end

end PgConsole.Json
