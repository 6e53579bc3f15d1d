namespace PgConsole.Text

/-!
# Decimal numerals

Reading a whole number that has to fit below a bound. An optional plus sign is allowed, and
so are leading zeros; blanks, minus signs and digits other than the ASCII ones are not. The
first character that cannot be used decides the error, so an over-long numeral is refused
before a later stray character is looked at.
-/

/-- Why a text is not a numeral below the bound. -/
inductive NumeralError where
  | empty
  | invalidDigit
  | tooLarge
  deriving DecidableEq, Repr

/-- The wording of a numeral error. -/
def NumeralError.message : NumeralError → String
  | .empty => "cannot parse integer from empty string"
  | .invalidDigit => "invalid digit found in string"
  | .tooLarge => "number too large to fit in target type"

/-- Whether a character is one of the ten ASCII digits. -/
def isDigit (c : Char) : Bool :=
  '0' ≤ c && c ≤ '9'

/-- The value of an ASCII digit. -/
def digitValue (c : Char) : Nat :=
  c.toNat - '0'.toNat

/-- Continue a numeral whose digits so far denote `value`. -/
def readDigits (bound : Nat) : Nat → List Char → Except NumeralError Nat
  | value, [] => .ok value
  | value, c :: rest =>
    if isDigit c then
      let next := value * 10 + digitValue c
      if next < bound then readDigits bound next rest else .error .tooLarge
    else .error .invalidDigit

/-- Read a numeral that denotes a number below `bound`. -/
def readNumeral (bound : Nat) : List Char → Except NumeralError Nat
  | [] => .error .empty
  | '+' :: [] => .error .invalidDigit
  | '+' :: digit :: rest => readDigits bound 0 (digit :: rest)
  | digit :: rest => readDigits bound 0 (digit :: rest)

/-- Read a numeral, forgetting why it was refused. -/
def readNumeral? (bound : Nat) (text : List Char) : Option Nat :=
  (readNumeral bound text).toOption

/-- The decimal digits of a number. -/
def ofNat (value : Nat) : String :=
  String.ofList (Nat.toDigits 10 value)

/-- A number with a minus sign when it is negative. -/
def ofInt (value : Int) : String :=
  if value < 0 then "-" ++ ofNat value.natAbs else ofNat value.natAbs

/-- A number with at least `width` digits, filled with zeros in front. -/
def padded (width value : Nat) : String :=
  let digits := Nat.toDigits 10 value
  String.ofList (List.replicate (width - digits.length) '0' ++ digits)

end PgConsole.Text
