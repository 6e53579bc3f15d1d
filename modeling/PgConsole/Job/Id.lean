import PgConsole.Text.Search

namespace PgConsole.Job

/-!
# Job numbers

A job is known by a number of 128 bits, written as 32 hexadecimal digits in five groups. When
read, the groups may stand in braces or after `urn:uuid:`, or run together, and the digits may
be of either case.
-/

/-- The number of a job. -/
structure JobId where
  value : BitVec 128
  deriving DecidableEq, Repr

namespace JobId

/-- The value of a hexadecimal digit. -/
def hexValue? (c : Char) : Option Nat :=
  if '0' ≤ c && c ≤ '9' then some (c.toNat - '0'.toNat)
  else if 'a' ≤ c && c ≤ 'f' then some (c.toNat - 'a'.toNat + 10)
  else if 'A' ≤ c && c ≤ 'F' then some (c.toNat - 'A'.toNat + 10)
  else none

/-- The 32 hexadecimal digits of a number. -/
def digits (id : JobId) : List Char :=
  (List.range 32).map fun place => Nat.digitChar (id.value.toNat / Nat.pow 16 (31 - place) % 16)

/-- The digits in one run. -/
def plain (id : JobId) : String := String.ofList id.digits

/-- The digits in groups of 8, 4, 4, 4 and 12 with hyphens between them. -/
def text (id : JobId) : String :=
  let digits := id.digits
  "-".intercalate ([(0, 8), (8, 4), (12, 4), (16, 4), (20, 12)].map fun (start, length) =>
    String.ofList ((digits.drop start).take length))

/-- Read 32 digits. -/
def ofDigits? (digits : List Char) : Option JobId :=
  if digits.length = 32 then do
    let values ← digits.mapM hexValue?
    some ⟨BitVec.ofNat 128 (values.foldl (fun value digit => value * 16 + digit) 0)⟩
  else none

/-- Read digits in groups. -/
def ofGroups? (text : List Char) : Option JobId :=
  let hyphens := [8, 13, 18, 23]
  if text.length = 36 && hyphens.all fun place => text[place]? = some '-' then
    ofDigits? (text.filter (· != '-'))
  else none

/-- What stands between braces. -/
def insideBraces? (text : List Char) : Option (List Char) := do
  let rest ← Text.stripStart? ['\x7b'] text
  let inner ← Text.stripStart? ['\x7d'] rest.reverse
  some inner.reverse

/-- Read a job number in any of its forms. -/
def parse? (text : String) : Option JobId :=
  let chars := text.toList
  ((ofDigits? chars).or (ofGroups? chars)).or
    (((insideBraces? chars).bind ofGroups?).or
      ((Text.stripStart? "urn:uuid:".toList chars).bind ofGroups?))

end JobId

end PgConsole.Job
