namespace PgConsole.Cipher.Sha256

/-!
# SHA-256

The digest that turns a master password into a key: 512-bit blocks, a schedule of 64 words
and eight working words. Words are big-endian.
-/

/-- The eight working words. -/
structure Working where
  a : UInt32
  b : UInt32
  c : UInt32
  d : UInt32
  e : UInt32
  f : UInt32
  g : UInt32
  h : UInt32
  deriving DecidableEq, Repr

/-- The working words before the first block. -/
def start : Working :=
  ⟨0x6a09e667, 0xbb67ae85, 0x3c6ef372, 0xa54ff53a, 0x510e527f, 0x9b05688c, 0x1f83d9ab, 0x5be0cd19⟩

/-- The word added in each of the 64 rounds. -/
def roundWords : List UInt32 := [
  0x428a2f98, 0x71374491, 0xb5c0fbcf, 0xe9b5dba5,
  0x3956c25b, 0x59f111f1, 0x923f82a4, 0xab1c5ed5,
  0xd807aa98, 0x12835b01, 0x243185be, 0x550c7dc3,
  0x72be5d74, 0x80deb1fe, 0x9bdc06a7, 0xc19bf174,
  0xe49b69c1, 0xefbe4786, 0x0fc19dc6, 0x240ca1cc,
  0x2de92c6f, 0x4a7484aa, 0x5cb0a9dc, 0x76f988da,
  0x983e5152, 0xa831c66d, 0xb00327c8, 0xbf597fc7,
  0xc6e00bf3, 0xd5a79147, 0x06ca6351, 0x14292967,
  0x27b70a85, 0x2e1b2138, 0x4d2c6dfc, 0x53380d13,
  0x650a7354, 0x766a0abb, 0x81c2c92e, 0x92722c85,
  0xa2bfe8a1, 0xa81a664b, 0xc24b8b70, 0xc76c51a3,
  0xd192e819, 0xd6990624, 0xf40e3585, 0x106aa070,
  0x19a4c116, 0x1e376c08, 0x2748774c, 0x34b0bcb5,
  0x391c0cb3, 0x4ed8aa4a, 0x5b9cca4f, 0x682e6ff3,
  0x748f82ee, 0x78a5636f, 0x84c87814, 0x8cc70208,
  0x90befffa, 0xa4506ceb, 0xbef9a3f7, 0xc67178f2]

/-- Rotate a word to the right. -/
def rotate (word amount : UInt32) : UInt32 :=
  (word >>> amount) ||| (word <<< (32 - amount))

/-- The big-endian word of four bytes. -/
def wordOf (a b c d : UInt8) : UInt32 :=
  (a.toUInt32 <<< 24) ||| (b.toUInt32 <<< 16) ||| (c.toUInt32 <<< 8) ||| d.toUInt32

/-- The words of a byte sequence; incomplete ones at the end are dropped. -/
def words : List UInt8 → List UInt32
  | a :: b :: c :: d :: rest => wordOf a b c d :: words rest
  | _ => []

/-- The four bytes of a word. -/
def wordBytes (word : UInt32) : List UInt8 :=
  [(word >>> 24).toUInt8, (word >>> 16).toUInt8, (word >>> 8).toUInt8, word.toUInt8]

/-- Extend a schedule, kept with its newest word first, by one word. -/
def extendSchedule (newestFirst : List UInt32) : List UInt32 :=
  let back (distance : Nat) : UInt32 := newestFirst.getD (distance - 1) 0
  let x := back 15
  let y := back 2
  let low := rotate x 7 ^^^ rotate x 18 ^^^ (x >>> 3)
  let high := rotate y 17 ^^^ rotate y 19 ^^^ (y >>> 10)
  (back 16 + low + back 7 + high) :: newestFirst

/-- The 64 words of a block's schedule, in order. -/
def schedule (block : List UInt32) : List UInt32 :=
  ((List.range 48).foldl (fun newestFirst _ => extendSchedule newestFirst) block.reverse).reverse

/-- One round with the sum of its schedule word and its round word. -/
def round (w : Working) (word : UInt32) : Working :=
  let s1 := rotate w.e 6 ^^^ rotate w.e 11 ^^^ rotate w.e 25
  let choice := (w.e &&& w.f) ^^^ (~~~w.e &&& w.g)
  let t1 := w.h + s1 + choice + word
  let s0 := rotate w.a 2 ^^^ rotate w.a 13 ^^^ rotate w.a 22
  let majority := (w.a &&& w.b) ^^^ (w.a &&& w.c) ^^^ (w.b &&& w.c)
  ⟨t1 + (s0 + majority), w.a, w.b, w.c, w.d + t1, w.e, w.f, w.g⟩

/-- Take one block into the working words. -/
def compress (w : Working) (block : List UInt32) : Working :=
  let mixed := (List.zipWith (· + ·) (schedule block) roundWords).foldl round w
  ⟨w.a + mixed.a, w.b + mixed.b, w.c + mixed.c, w.d + mixed.d,
    w.e + mixed.e, w.f + mixed.f, w.g + mixed.g, w.h + mixed.h⟩

/-- The message with a one bit, zeros and its length in bits, a multiple of 64 bytes long. -/
def padded (message : List UInt8) : List UInt8 :=
  let bits := UInt64.ofNat (message.length * 8)
  let zeros : List UInt8 := List.replicate ((119 - message.length % 64) % 64) 0
  message ++ 0x80 :: zeros ++
    wordBytes (bits >>> 32).toUInt32 ++ wordBytes bits.toUInt32

/-- Take blocks of 16 words into the working words. The first argument bounds their number. -/
def absorb : Nat → Working → List UInt32 → Working
  | 0, w, _ => w
  | _, w, [] => w
  | count + 1, w, rest => absorb count (compress w (rest.take 16)) (rest.drop 16)

/-- The 32 bytes of a message's digest. -/
def digest (message : List UInt8) : List UInt8 :=
  let input := words (padded message)
  let w := absorb input.length start input
  [w.a, w.b, w.c, w.d, w.e, w.f, w.g, w.h].flatMap wordBytes

end PgConsole.Cipher.Sha256
