import PgConsole.Cipher.ChaCha20
import PgConsole.Cipher.Poly1305

namespace PgConsole.Cipher

/-!
# Sealed messages

ChaCha20-Poly1305 without associated data: the encrypted message followed by a 16-byte tag.
`unseal?` gives the message back only when the tag is right. Messages of `messageBlocks` blocks
or more, which are about 256 GiB, can be neither sealed nor opened.
-/

/-- Zero bytes that fill a message up to a multiple of 16. -/
def padding (message : List UInt8) : List UInt8 :=
  List.replicate ((16 - message.length % 16) % 16) 0

/-- The tag of an encrypted message. -/
def sealTag (key nonce encrypted : List UInt8) : List UInt8 :=
  let oneTimeKey := (ChaCha20.streamBlock key nonce 0).take 32
  Poly1305.tag oneTimeKey
    (encrypted ++ padding encrypted ++ toLittleEndian 8 0 ++ toLittleEndian 8 encrypted.length)

/-- Blocks of the key stream for a message: those that the counter can number, less the one that
makes the key of the tag. -/
def messageBlocks : Nat := UInt32.size - 1

/-- Whether the key stream is too short for a message. -/
def isTooLong (message : List UInt8) : Bool := messageBlocks ≤ message.length / 64

/-- Encrypt a message and append its tag, unless it is too long. -/
def sealMessage? (key nonce message : List UInt8) : Option (List UInt8) :=
  if isTooLong message then none
  else
    let encrypted := ChaCha20.apply key nonce message
    some (encrypted ++ sealTag key nonce encrypted)

/-- Check the tag of a sealed message and decrypt it. -/
def unseal? (key nonce sealedBytes : List UInt8) : Option (List UInt8) :=
  if sealedBytes.length < 16 then none
  else
    let encrypted := sealedBytes.take (sealedBytes.length - 16)
    if isTooLong encrypted then none
    else if sealedBytes.drop (sealedBytes.length - 16) = sealTag key nonce encrypted then
      some (ChaCha20.apply key nonce encrypted)
    else none

end PgConsole.Cipher
