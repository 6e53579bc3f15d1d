import PgConsole.Shell.Arithmetic
import PgConsole.Text.Utf8

namespace PgConsole.Shell

/-!
# Formatted output of commands

What `echo` and `printf` make of their arguments: escapes that start with a backslash, and
conversions that start with a percent sign.
-/

/-- The bytes of a character. -/
def charBytes (c : Char) : List UInt8 := Text.Utf8.encode (String.ofList [c])

/-- Whether a character is an octal digit. -/
def isOctal (c : Char) : Bool := '0' ≤ c && c ≤ '7'

/-- The byte that octal digits denote. -/
def octalByte (digits : List Char) : UInt8 :=
  UInt8.ofNat (digits.foldl (fun value c => value * 8 + Text.digitValue c) 0)

/-- The byte of a single-letter escape. -/
def letterEscape? (c : Char) : Option UInt8 :=
  match c with
  | 'n' => some 10
  | 't' => some 9
  | 'r' => some 13
  | 'a' => some 7
  | 'b' => some 8
  | 'f' => some 12
  | 'v' => some 11
  | '\\' => some 92
  | _ => none

/-- Which octal escapes are understood. -/
inductive OctalEscapes where
  /-- Up to three digits right after the backslash. -/
  | bare
  /-- A nought and up to three digits after it. -/
  | led
  deriving DecidableEq, Repr

/-- What an escape yields: some bytes, or the end of all output. -/
inductive Escaped where
  | bytes (value : List UInt8)
  | stop
  deriving DecidableEq, Repr

/-- Read what follows a backslash: what it yields, and how many characters belong to it. An
unknown escape stands for itself. -/
def escape (octal : OctalEscapes) (rest : List Char) : Escaped × Nat :=
  match rest with
  | [] => (.bytes [92], 0)
  | c :: more =>
    let digits :=
      match octal with
      | .bare => (rest.take 3).takeWhile isOctal
      | .led => if c = '0' then c :: (more.take 3).takeWhile isOctal else []
    if !digits.isEmpty then (.bytes [octalByte digits], digits.length)
    else if c = 'c' && octal = .led then (.stop, 1)
    else
      match letterEscape? c with
      | some byte => (.bytes [byte], 1)
      | none => (.bytes (92 :: charBytes c), 1)

/-- The bytes of a text whose escapes are carried out, and whether output goes on after it.
`fuel` bounds the number of characters. -/
def unescape (octal : OctalEscapes) : Nat → List Char → List UInt8 × Bool
  | 0, _ => ([], true)
  | _, [] => ([], true)
  | fuel + 1, '\\' :: rest =>
    match escape octal rest with
    | (.stop, _) => ([], false)
    | (.bytes value, length) =>
      let (tail, goesOn) := unescape octal fuel (rest.drop length)
      (value ++ tail, goesOn)
  | fuel + 1, c :: rest =>
    let (tail, goesOn) := unescape octal fuel rest
    (charBytes c ++ tail, goesOn)

/-- The arguments of `echo` with one space between them, and a line feed unless `-n` comes
first. Escapes are carried out only when `escapes`. -/
def echoText (escapes : Bool) (arguments : List String) : List UInt8 :=
  let (newline, arguments) : List UInt8 × List String :=
    match arguments with
    | "-n" :: rest => ([], rest)
    | _ => ([10], arguments)
  let text := " ".intercalate arguments
  if escapes then
    let (bytes, goesOn) := unescape .led (text.length + 1) text.toList
    bytes ++ if goesOn then newline else []
  else Text.Utf8.encode text ++ newline

/-- A conversion: fill to a width, on the right or with zeros, and cut to a precision. -/
structure Conversion where
  onLeft : Bool := false
  zeros : Bool := false
  /-- What stands before a number that is not negative. -/
  sign : List Char := []
  width : Nat := 0
  precision : Option Nat := none
  deriving DecidableEq, Repr

/-- Read flags, width and precision after a percent sign. -/
def conversion (text : List Char) : Conversion × List Char :=
  let flags := text.takeWhile fun c => c = '-' || c = '0' || c = '+' || c = ' ' || c = '#'
  let rest := text.drop flags.length
  let number (digits : List Char) :=
    digits.foldl (fun value c => value * 10 + Text.digitValue c) 0
  let width := rest.takeWhile Text.isDigit
  let rest := rest.drop width.length
  let (precision, rest) :=
    match rest with
    | '.' :: after =>
      let digits := after.takeWhile Text.isDigit
      (some (number digits), after.drop digits.length)
    | _ => (none, rest)
  let sign := if flags.contains '+' then ['+'] else if flags.contains ' ' then [' '] else []
  (⟨flags.contains '-', flags.contains '0', sign, number width, precision⟩, rest)

/-- Fill bytes to the width of a conversion. -/
def fill (form : Conversion) (bytes : List UInt8) : List UInt8 :=
  let blanks := List.replicate (form.width - bytes.length) 32
  if form.onLeft then bytes ++ blanks else blanks ++ bytes

/-- The digits of a number after its sign, filled to precision and width. -/
def fillNumber (form : Conversion) (sign digits : List Char) : List UInt8 :=
  let least :=
    match form.precision with
    | some precision => precision
    | none => if form.zeros && !form.onLeft then form.width - sign.length else 0
  let zeros := List.replicate (least - digits.length) '0'
  fill form (Text.Utf8.encode (String.ofList (sign ++ zeros ++ digits)))

/-- What is wrong with a format or one of its arguments. -/
inductive FormatFault where
  | notNumeric (argument : String)
  | incomplete (argument : String)
  | outOfRange (argument : String)
  | directive (written : String)
  | missingLetter (written : String)
  deriving DecidableEq, Repr

namespace FormatFault

/-- A fault in the words of the shell. -/
def inShell : FormatFault → String
  | .notNumeric argument => argument ++ ": expected numeric value"
  | .incomplete argument => argument ++ ": not completely converted"
  | .outOfRange argument => argument ++ ": Numerical result out of range"
  | .directive written => written ++ ": invalid directive"
  | .missingLetter _ => "missing format character"

/-- A fault in the words of the tool. -/
def inTool : FormatFault → String
  | .notNumeric argument => "'" ++ argument ++ "': expected a numeric value"
  | .incomplete argument => "'" ++ argument ++ "': value not completely converted"
  | .outOfRange argument => "'" ++ argument ++ "': Numerical result out of range"
  | .directive written => written ++ ": invalid conversion specification"
  | .missingLetter written => written ++ ": invalid conversion specification"

/-- Whether the format itself is at fault. -/
def isFatal : FormatFault → Bool
  | .directive _ => true
  | .missingLetter _ => true
  | _ => false

end FormatFault

/-- The largest number that a conversion takes. -/
def largestNumber : Nat := Nat.pow 2 63 - 1

/-- The whole number at the front of an argument, and what is wrong with the argument. A
character after a quote stands for its code. -/
def numberOf (argument : String) : Int × List FormatFault :=
  let spelled (negative : Bool) (text : List Char) : Int × List FormatFault :=
    match Arithmetic.numeral? text with
    | none => (0, [.notNumeric argument])
    | some (value, rest) =>
      let value := if negative then -value else value
      if value.natAbs ≤ largestNumber then
        (value, if rest.isEmpty then [] else [.incomplete argument])
      else (if negative then -largestNumber - 1 else largestNumber, [.outOfRange argument])
  match argument.toList with
  | [] => (0, [])
  | '-' :: text => spelled true text
  | '+' :: text => spelled false text
  | first :: c :: rest =>
    if first = '"' || first = Char.ofNat 39 then (Int.ofNat c.toNat, [])
    else spelled false (first :: c :: rest)
  | text => spelled false text

/-- Carry out a conversion on an argument; nothing when there is no such conversion. -/
def convert? (form : Conversion) (letter : Char) (argument : String) :
    Option (List UInt8 × List FormatFault) :=
  let cut (bytes : List UInt8) := bytes.take (form.precision.getD bytes.length)
  let text (bytes : List UInt8) : Option (List UInt8 × List FormatFault) :=
    some (fill form (cut bytes), [])
  let (number, faults) := numberOf argument
  let signed : Option (List UInt8 × List FormatFault) :=
    let sign := if number < 0 then ['-'] else form.sign
    some (fillNumber form sign (Nat.toDigits 10 number.natAbs), faults)
  let unsigned (base : Nat) (change : Char → Char) : Option (List UInt8 × List FormatFault) :=
    let value := (number % (UInt64.size : Int)).toNat
    some (fillNumber form [] ((Nat.toDigits base value).map change), faults)
  match letter with
  | 's' => text (Text.Utf8.encode argument)
  | 'b' => text (unescape .led (argument.length + 1) argument.toList).1
  | 'c' => text [(Text.Utf8.encode argument).headD 0]
  | 'd' => signed
  | 'i' => signed
  | 'u' => unsigned 10 id
  | 'o' => unsigned 8 id
  | 'x' => unsigned 16 id
  | 'X' => unsigned 16 Char.toUpper
  | _ => none

/-- What a use of a format has made. -/
structure Formatted where
  out : List UInt8 := []
  /-- The arguments that are left. -/
  arguments : List String := []
  faults : List FormatFault := []

namespace Formatted

/-- Put bytes and faults in front. -/
def preceded (out : List UInt8) (faults : List FormatFault) (rest : Formatted) : Formatted :=
  { rest with out := out ++ rest.out, faults := faults ++ rest.faults }

/-- Whether the format itself is at fault. -/
def isBroken (result : Formatted) : Bool := result.faults.any FormatFault.isFatal

end Formatted

/-- Use a format once. -/
def formatOnce : Nat → List Char → List String → Formatted
  | 0, _, arguments => { arguments }
  | _, [], arguments => { arguments }
  | fuel + 1, '\\' :: rest, arguments =>
    match escape .bare rest with
    | (.stop, _) => {}
    | (.bytes value, length) =>
      (formatOnce fuel (rest.drop length) arguments).preceded value []
  | fuel + 1, '%' :: '%' :: rest, arguments => (formatOnce fuel rest arguments).preceded [37] []
  | fuel + 1, '%' :: rest, arguments =>
    let (form, after) := conversion rest
    let written (length : Nat) :=
      String.ofList ('%' :: rest.take (rest.length - after.length + length))
    match after with
    | [] => { faults := [.missingLetter (written 0)] }
    | letter :: after =>
      match convert? form letter (arguments.headD "") with
      | none => { faults := [.directive (written 1)] }
      | some (bytes, faults) =>
        (formatOnce fuel after (arguments.drop 1)).preceded bytes faults
  | fuel + 1, c :: rest, arguments => (formatOnce fuel rest arguments).preceded (charBytes c) []

/-- Use a format as often as it takes to use up all arguments. A format without conversions is
used once. -/
def formatAll : Nat → List Char → List String → Formatted
  | 0, _, _ => {}
  | fuel + 1, format, arguments =>
    let first := formatOnce (format.length + 1) format arguments
    if first.isBroken || first.arguments.isEmpty || first.arguments.length = arguments.length then
      first
    else (formatAll fuel format first.arguments).preceded first.out first.faults

/-- What `printf` writes. -/
def printfText (format : String) (arguments : List String) : Formatted :=
  formatAll (arguments.length + 1) format.toList arguments

end PgConsole.Shell
