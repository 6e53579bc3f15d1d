namespace PgConsole.Cipher

/-!
# Little-endian numbers

Numbers as byte sequences with the least significant byte first.
-/

/-- The number that a byte sequence denotes. -/
def littleEndian : List UInt8 → Nat
  | [] => 0
  | byte :: rest => byte.toNat + 256 * littleEndian rest

/-- The lowest `size` bytes of a number. -/
def toLittleEndian : Nat → Nat → List UInt8
  | 0, _ => []
  | size + 1, value => UInt8.ofNat (value % 256) :: toLittleEndian size (value / 256)

@[simp]
theorem length_toLittleEndian (size value : Nat) : (toLittleEndian size value).length = size := by
  induction size generalizing value with
  | zero => rfl
  | succ size ih => simp [toLittleEndian, ih]

/-- Combine two byte sequences bit by bit, up to the end of the shorter one. -/
def xorBytes (left right : List UInt8) : List UInt8 :=
  List.zipWith (· ^^^ ·) left right

end PgConsole.Cipher
