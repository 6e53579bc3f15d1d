import PgConsole.Text.Numeral

namespace PgConsole

/-!
# Numeric network addresses

IPv4 addresses in dotted form without leading zeros, and IPv6 addresses with at most one
double colon and an optional IPv4 tail. Neither brackets nor zones are understood. The
written form is the canonical one: lower case, and the first longest run of at least two zero
groups shortened.
-/

/-- A numeric address. -/
inductive IpAddress where
  | v4 (a b c d : UInt8)
  | v6 (groups : Vector UInt16 8)
  deriving DecidableEq, Repr

namespace IpAddress

/-- The address of the machine itself. -/
def loopback : IpAddress := .v4 127 0 0 1

/-- The value of a hexadecimal digit of either case. -/
def hexValue? (c : Char) : Option Nat :=
  if '0' ≤ c && c ≤ '9' then some (c.toNat - '0'.toNat)
  else if 'a' ≤ c && c ≤ 'f' then some (c.toNat - 'a'.toNat + 10)
  else if 'A' ≤ c && c ≤ 'F' then some (c.toNat - 'A'.toNat + 10)
  else none

/-- A number of an IPv4 address: one to three digits, below 256, no leading zero. -/
def octet? (input : List Char) : Option (UInt8 × List Char) :=
  let digits := input.takeWhile Text.isDigit
  let rest := input.dropWhile Text.isDigit
  let value := digits.foldl (fun value c => value * 10 + Text.digitValue c) 0
  if digits.isEmpty || 3 < digits.length || 255 < value then none
  else if digits.head? = some '0' && 1 < digits.length then none
  else some (UInt8.ofNat value, rest)

/-- A given character in front of what follows. -/
def mark? (c : Char) : List Char → Option (List Char)
  | [] => none
  | first :: rest => if first = c then some rest else none

/-- An IPv4 address and what follows it. -/
def readV4? (input : List Char) : Option ((UInt8 × UInt8 × UInt8 × UInt8) × List Char) := do
  let (a, input) ← octet? input
  let (b, input) ← octet? (← mark? '.' input)
  let (c, input) ← octet? (← mark? '.' input)
  let (d, input) ← octet? (← mark? '.' input)
  return ((a, b, c, d), input)

/-- A group of an IPv6 address: one to four hexadecimal digits. -/
def group? (input : List Char) : Option (UInt16 × List Char) :=
  let digits := input.takeWhile fun c => (hexValue? c).isSome
  let rest := input.dropWhile fun c => (hexValue? c).isSome
  if digits.isEmpty || 4 < digits.length then none
  else
    let value := digits.foldl (fun value c => value * 16 + (hexValue? c).getD 0) 0
    some (UInt16.ofNat value, rest)

/-- The colon in front of every group but the first. -/
def separator? (first : Bool) (input : List Char) : Option (List Char) :=
  if first then some input else mark? ':' input

/-- The groups of an IPv6 address as far as they go, whether an IPv4 tail ended them, and
what follows. The first argument says how many groups may still come. -/
def groups : Nat → Bool → List Char → List UInt16 × Bool × List Char
  | 0, _, input => ([], false, input)
  | left + 1, first, input =>
    let tail? : Option ((UInt8 × UInt8 × UInt8 × UInt8) × List Char) :=
      if left = 0 then none else (separator? first input).bind readV4?
    match tail? with
    | some ((a, b, c, d), rest) =>
      ([UInt16.ofNat (a.toNat * 256 + b.toNat), UInt16.ofNat (c.toNat * 256 + d.toNat)], true, rest)
    | none =>
      match (separator? first input).bind group? with
      | none => ([], false, input)
      | some (value, rest) =>
        let (values, dotted, rest) := groups left false rest
        (value :: values, dotted, rest)

/-- Eight groups from those before and those after a double colon. -/
def fill (front back : List UInt16) : Vector UInt16 8 :=
  let all := front ++ List.replicate (8 - (front.length + back.length)) 0 ++ back
  Vector.ofFn fun place => all.getD place 0

/-- An IPv6 address and what follows it. -/
def readV6? (input : List Char) : Option (Vector UInt16 8 × List Char) :=
  let (front, dotted, rest) := groups 8 true input
  if front.length = 8 then some (fill front [], rest)
  else if dotted then none
  else
    match rest with
    | ':' :: ':' :: rest =>
      let (back, _, rest) := groups (7 - front.length) true rest
      some (fill front back, rest)
    | _ => none

/-- Read an address; nothing may follow it. -/
def parse? (text : String) : Option IpAddress :=
  match readV4? text.toList with
  | some ((a, b, c, d), []) => some (.v4 a b c d)
  | _ =>
    match readV6? text.toList with
    | some (groups, []) => some (.v6 groups)
    | _ => none

/-- The dotted form of four numbers. -/
def dotted (a b c d : Nat) : String :=
  ".".intercalate ([a, b, c, d].map Text.ofNat)

/-- Groups in hexadecimal, joined by colons. -/
def colons (groups : List UInt16) : String :=
  ":".intercalate (groups.map fun group => String.ofList (Nat.toDigits 16 group.toNat))

/-- How many zeros a list starts with. -/
def zeroRun (groups : List UInt16) : Nat := (groups.takeWhile (· == 0)).length

/-- Start and length of the first longest run of zeros. -/
def longestRun (groups : List UInt16) : Nat × Nat :=
  (List.range groups.length).foldl
    (fun best start =>
      let length := zeroRun (groups.drop start)
      if best.2 < length then (start, length) else best)
    (0, 0)

/-- The canonical form of an address. -/
def toText : IpAddress → String
  | .v4 a b c d => dotted a.toNat b.toNat c.toNat d.toNat
  | .v6 groups =>
    let list := groups.toList
    if list.take 6 = [0, 0, 0, 0, 0, 0xffff] then
      let high := (list.getD 6 0).toNat
      let low := (list.getD 7 0).toNat
      "::ffff:" ++ dotted (high / 256) (high % 256) (low / 256) (low % 256)
    else
      let (start, length) := longestRun list
      if length < 2 then colons list
      else colons (list.take start) ++ "::" ++ colons (list.drop (start + length))

end IpAddress

end PgConsole
