import PgConsole.Base64
import PgConsole.Cipher.Sealed
import PgConsole.Cipher.Sha256
import PgConsole.Error
import PgConsole.Json.Basic
import PgConsole.Text.Utf8

namespace PgConsole

/-!
# Stored secrets

A secret is ciphertext: a 12-byte nonce and a sealed message under a key derived from the
user's master password. Its text form is Base64. Decryption needs the key of the session and
fails with `cryptKeyMissing` while there is none.
-/

/-- An encrypted password. -/
structure Secret where
  ciphertext : List UInt8
  deriving DecidableEq, Repr

/-- The key that decrypts secrets. -/
structure CryptKey where
  bytes : List UInt8
  deriving DecidableEq, Repr

namespace CryptKey

/-- Derive the key from the master password. -/
def derive (masterPassword : String) : CryptKey :=
  ⟨Cipher.Sha256.digest (Text.Utf8.encode masterPassword)⟩

/-- A key in diagnostic form never shows its bytes. -/
def debug (_ : CryptKey) : String := "CryptKey(<redacted>)"

end CryptKey

namespace Secret

/-- Bytes of the nonce in front of the sealed message. -/
def nonceLength : Nat := 12

/-- A secret in diagnostic form never shows its bytes. -/
def debug (_ : Secret) : String := "Secret(<redacted>)"

/-- Whether there is no ciphertext at all. -/
def isEmpty (secret : Secret) : Bool := secret.ciphertext.isEmpty

/-- The text form of a secret. -/
def toText (secret : Secret) : String := String.ofList (Base64.encode secret.ciphertext)

/-- Read the text form of a secret. -/
def ofText? (text : String) : Option Secret := (Base64.decode? text.toList).map Secret.mk

/-- A secret as a JSON value. -/
def toJson (secret : Secret) : Json := .text secret.toText

/-- Read a secret from a JSON value. -/
def ofJson? (value : Json) : Option Secret := value.text?.bind ofText?

/-- The ciphertext is too short to hold a nonce. -/
def truncated : Error := .storage "Stored secret is truncated" none false

/-- The cipher refuses the ciphertext under this key. -/
def refused : Error :=
  .authentication "Failed to decrypt stored password"
    (some "The master password may have changed; re-enter the saved password")

/-- The decrypted bytes spell no text. -/
def notText : Error := .storage "Decrypted secret is not valid UTF-8" none false

/-- The cipher refuses to encrypt. -/
def notEncrypted : Error := .internal "Failed to encrypt secret"

/-- Encrypt a text under a key with a given nonce. -/
def encrypt (key : CryptKey) (nonce : List UInt8) (plaintext : String) : Except Error Secret :=
  match Cipher.sealMessage? key.bytes nonce (Text.Utf8.encode plaintext) with
  | none => .error notEncrypted
  | some bytes => .ok ⟨nonce ++ bytes⟩

/-- Decrypt a secret to its text. -/
def decrypt (key : CryptKey) (secret : Secret) : Except Error String :=
  if secret.ciphertext.length < nonceLength then .error truncated
  else
    let nonce := secret.ciphertext.take nonceLength
    match Cipher.unseal? key.bytes nonce (secret.ciphertext.drop nonceLength) with
    | none => .error refused
    | some bytes =>
      match Text.Utf8.decode? bytes with
      | none => .error notText
      | some text => .ok text

/-- Decrypt with the key of the session, if there is one. -/
def decryptWith (key? : Option CryptKey) (secret : Secret) : Except Error String :=
  match key? with
  | none => .error .cryptKeyMissing
  | some key => secret.decrypt key

/-- Encrypt with the key of the session, if there is one. -/
def encryptWith (key? : Option CryptKey) (nonce : List UInt8) (plaintext : String) :
    Except Error Secret :=
  match key? with
  | none => .error .cryptKeyMissing
  | some key => encrypt key nonce plaintext

end Secret

end PgConsole
