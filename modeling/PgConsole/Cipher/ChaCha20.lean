import PgConsole.Cipher.LittleEndian

namespace PgConsole.Cipher.ChaCha20

/-!
# The ChaCha20 stream cipher

A state of sixteen words, ten double rounds, and the key stream as consecutive blocks of a
32-byte key, a 12-byte nonce and a block counter.
-/

/-- The sixteen words of a block. -/
abbrev Block := Vector UInt32 16

/-- Rotate a word to the left. -/
def rotate (word amount : UInt32) : UInt32 :=
  (word <<< amount) ||| (word >>> (32 - amount))

/-- Mix four words of a block. -/
def quarterRound (a b c d : Fin 16) (block : Block) : Block :=
  let block := block.set a (block[a] + block[b])
  let block := block.set d (rotate (block[d] ^^^ block[a]) 16)
  let block := block.set c (block[c] + block[d])
  let block := block.set b (rotate (block[b] ^^^ block[c]) 12)
  let block := block.set a (block[a] + block[b])
  let block := block.set d (rotate (block[d] ^^^ block[a]) 8)
  let block := block.set c (block[c] + block[d])
  block.set b (rotate (block[b] ^^^ block[c]) 7)

/-- A round on the columns and a round on the diagonals. -/
def doubleRound (block : Block) : Block :=
  let block := quarterRound 0 4 8 12 block
  let block := quarterRound 1 5 9 13 block
  let block := quarterRound 2 6 10 14 block
  let block := quarterRound 3 7 11 15 block
  let block := quarterRound 0 5 10 15 block
  let block := quarterRound 1 6 11 12 block
  let block := quarterRound 2 7 8 13 block
  quarterRound 3 4 9 14 block

/-- The word at a place of a byte sequence, counted in words. -/
def wordAt (bytes : List UInt8) (place : Nat) : UInt32 :=
  UInt32.ofNat (littleEndian ((bytes.drop (place * 4)).take 4))

/-- The block before the rounds: constants, key, counter and nonce. -/
def initialBlock (key nonce : List UInt8) (counter : Nat) : Block :=
  #v[0x61707865, 0x3320646e, 0x79622d32, 0x6b206574,
    wordAt key 0, wordAt key 1, wordAt key 2, wordAt key 3,
    wordAt key 4, wordAt key 5, wordAt key 6, wordAt key 7,
    UInt32.ofNat counter, wordAt nonce 0, wordAt nonce 1, wordAt nonce 2]

/-- The 64 bytes of the key stream at a counter. -/
def streamBlock (key nonce : List UInt8) (counter : Nat) : List UInt8 :=
  let start := initialBlock key nonce counter
  let mixed := (List.range 10).foldl (fun block _ => doubleRound block) start
  (List.zipWith (· + ·) mixed.toList start.toList).flatMap
    fun word => toLittleEndian 4 word.toNat

/-- A number of consecutive blocks of the key stream. -/
def stream (key nonce : List UInt8) : Nat → Nat → List UInt8
  | 0, _ => []
  | blocks + 1, counter => streamBlock key nonce counter ++ stream key nonce blocks (counter + 1)

/-- Encrypt or decrypt a message with the key stream from block one on. -/
def apply (key nonce message : List UInt8) : List UInt8 :=
  xorBytes message (stream key nonce (message.length / 64 + 1) 1)

end PgConsole.Cipher.ChaCha20
