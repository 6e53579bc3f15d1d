import PgConsole.Cipher.LittleEndian

namespace PgConsole.Cipher.Poly1305

/-!
# The Poly1305 authenticator

A 16-byte tag of a message under a one-time key of 32 bytes, computed as a polynomial modulo
the prime `2 ^ 130 - 5`.
-/

/-- The modulus of the polynomial. -/
def modulus : Nat := Nat.pow 2 130 - 5

/-- Clear the bits of the multiplier that must be zero. -/
def clamp (value : Nat) : Nat :=
  value &&& 0x0ffffffc0ffffffc0ffffffc0fffffff

/-- Cut a message into pieces of 16 bytes; the last may be shorter. The first argument bounds
the number of pieces. -/
def pieces : Nat → List UInt8 → List (List UInt8)
  | 0, _ => []
  | _, [] => []
  | count + 1, message => message.take 16 :: pieces count (message.drop 16)

/-- Take one piece into the accumulator. -/
def absorb (multiplier accumulator : Nat) (piece : List UInt8) : Nat :=
  (accumulator + littleEndian (piece ++ [1])) * multiplier % modulus

/-- The tag of a message. -/
def tag (key message : List UInt8) : List UInt8 :=
  let multiplier := clamp (littleEndian (key.take 16))
  let offset := littleEndian (key.drop 16)
  let total := (pieces (message.length / 16 + 1) message).foldl (absorb multiplier) 0
  toLittleEndian 16 (total + offset)

@[simp]
theorem length_tag (key message : List UInt8) : (tag key message).length = 16 := by
  simp [tag]

end PgConsole.Cipher.Poly1305
