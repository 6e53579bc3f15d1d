import PgConsole.Text.Blank
import PgConsole.Text.Numeral

namespace PgConsole.Time

/-!
# Fields of a written time

Readers for the parts of a written time. Each takes the characters that are still to be read
and answers the value it has read together with the rest, or nothing when the text does not
start with such a part. Blanks may stand before a number but not inside it.
-/

/-- The value of a run of digits. -/
def valueOf (digits : List Char) : Nat :=
  digits.foldl (fun value c => value * 10 + Text.digitValue c) 0

/-- A number of one to `limit` digits. -/
def digits? (limit : Nat) (text : List Char) : Option (Nat × List Char) :=
  let run := (text.take limit).takeWhile Text.isDigit
  if run.isEmpty then none else some (valueOf run, text.drop run.length)

/-- A number of exactly `width` digits. -/
def exactDigits? (width : Nat) (text : List Char) : Option (Nat × List Char) :=
  let run := text.take width
  if run.length = width && run.all Text.isDigit then some (valueOf run, text.drop width) else none

/-- A number of at most two digits, after any blanks. -/
def pair? (text : List Char) : Option (Nat × List Char) :=
  digits? 2 (Text.trimStart text)

/-- A year, after any blanks: up to four digits, or a sign and any number of digits. -/
def year? (text : List Char) : Option (Int × List Char) :=
  match Text.trimStart text with
  | '-' :: rest => (digits? rest.length rest).map fun (value, rest) => (-Int.ofNat value, rest)
  | '+' :: rest => (digits? rest.length rest).map fun (value, rest) => (Int.ofNat value, rest)
  | rest => (digits? 4 rest).map fun (value, rest) => (Int.ofNat value, rest)

/-- What follows an expected character. -/
def mark? (expected : Char) : List Char → Option (List Char)
  | c :: rest => if c = expected then some rest else none
  | [] => none

end PgConsole.Time
