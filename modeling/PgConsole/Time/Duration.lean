import PgConsole.Text.Numeral

namespace PgConsole

/-!
# Durations

Lengths of time in nanoseconds, and their short text: a number of the largest unit of which
the duration has at least one, with as many decimal places as are needed.
-/

/-- A length of time. -/
structure Duration where
  nanos : Nat
  deriving DecidableEq, Repr

namespace Duration

/-- A number of milliseconds. -/
def ofMillis (millis : Nat) : Duration := ⟨millis * 1000000⟩

/-- A fraction with the given number of places, without the zeros at its end. -/
def fractionText (places value : Nat) : String :=
  let digits := (Text.padded places value).toList.reverse.dropWhile (· == '0')
  if value = 0 then "" else "." ++ String.ofList digits.reverse

/-- The duration in units of `10 ^ places` nanoseconds. -/
def inUnits (places : Nat) (unit : String) (duration : Duration) : String :=
  let scale := Nat.pow 10 places
  Text.ofNat (duration.nanos / scale) ++ fractionText places (duration.nanos % scale) ++ unit

/-- The short text of a duration, such as `4ms` or `1.5s`. -/
def text (duration : Duration) : String :=
  if Nat.pow 10 9 ≤ duration.nanos then duration.inUnits 9 "s"
  else if Nat.pow 10 6 ≤ duration.nanos then duration.inUnits 6 "ms"
  else if Nat.pow 10 3 ≤ duration.nanos then duration.inUnits 3 "µs"
  else Text.ofNat duration.nanos ++ "ns"

end Duration

end PgConsole
