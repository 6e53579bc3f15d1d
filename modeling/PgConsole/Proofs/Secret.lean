import PgConsole.Proofs.Cipher
import PgConsole.Proofs.Text.Utf8
import PgConsole.Secret

namespace PgConsole.Secret

/-!
# What becomes of stored secrets

A text that is encrypted under a master password is decrypted under the same one, and its secret
has 28 bytes more than its UTF-8 form: the nonce and the tag.  Only texts beyond the reach of the
cipher, of about 256 GiB and more, cannot be encrypted.

`Holds` says that a secret is the sealed form of a message, and `Opening` what decrypting comes to
for any ciphertext whatever.  `decrypt_eq_iff` says that nothing else can come of it.  In
particular a text is decrypted only from a secret that encrypting that text could have made.
-/

/-- The secret is a nonce and, behind it, a message sealed with that nonce. -/
def Holds (key : CryptKey) (message : List UInt8) (secret : Secret) : Prop :=
  ∃ nonce bytes, nonce.length = nonceLength ∧
    Cipher.sealMessage? key.bytes nonce message = some bytes ∧ secret.ciphertext = nonce ++ bytes

/-- What decrypting a secret comes to. -/
inductive Opening (key : CryptKey) (secret : Secret) : Except Error String → Prop where
  /-- There is not even a nonce. -/
  | truncated (hShort : secret.ciphertext.length < nonceLength) :
      Opening key secret (.error truncated)
  /-- What follows the nonce is no sealed message. -/
  | refused (hNonce : nonceLength ≤ secret.ciphertext.length)
      (hNone : ∀ message, ¬secret.Holds key message) : Opening key secret (.error refused)
  /-- The message is not the UTF-8 form of a text. -/
  | notText {message : List UInt8} (hHolds : secret.Holds key message)
      (hText : ∀ text, Text.Utf8.encode text ≠ message) : Opening key secret (.error notText)
  | opened {text : String} (hHolds : secret.Holds key (Text.Utf8.encode text)) :
      Opening key secret (.ok text)

/-- The cipher opens what follows the nonce exactly if it is a sealed message. -/
theorem unseal?_eq_some_iff_holds {key : CryptKey} {secret : Secret}
    (hNonce : nonceLength ≤ secret.ciphertext.length) {message : List UInt8} :
    Cipher.unseal? key.bytes (secret.ciphertext.take nonceLength)
        (secret.ciphertext.drop nonceLength) = some message ↔ secret.Holds key message := by
  rw [Cipher.unseal?_eq_some_iff]
  constructor
  · intro hSeal
    exact ⟨_, _, List.length_take_of_le hNonce, hSeal, (List.take_append_drop _ _).symm⟩
  · rintro ⟨nonce, bytes, hLength, hSeal, hSecret⟩
    rw [hSecret, List.take_left' hLength, List.drop_left' hLength]
    exact hSeal

/-- A secret is longer than its message by the nonce and the tag. -/
theorem Holds.length_eq {key : CryptKey} {message : List UInt8} {secret : Secret}
    (h : secret.Holds key message) : secret.ciphertext.length = message.length + 28 := by
  obtain ⟨nonce, bytes, hNonce, hSeal, hSecret⟩ := h
  have hBytes := Cipher.length_of_sealMessage? hSeal
  rw [hSecret, List.length_append, hNonce, hBytes, nonceLength]
  omega

theorem Holds.nonceLength_le {key : CryptKey} {message : List UInt8} {secret : Secret}
    (h : secret.Holds key message) : nonceLength ≤ secret.ciphertext.length := by
  rw [h.length_eq, nonceLength]
  omega

/-! ## Decrypting -/

theorem decrypt_of_short {secret : Secret} (hShort : secret.ciphertext.length < nonceLength)
    (key : CryptKey) : secret.decrypt key = .error truncated := by
  rw [decrypt, if_pos hShort]

theorem decrypt_of_not_holds {key : CryptKey} {secret : Secret}
    (hNonce : nonceLength ≤ secret.ciphertext.length)
    (hNone : ∀ message, ¬secret.Holds key message) : secret.decrypt key = .error refused := by
  have hClosed : Cipher.unseal? key.bytes (secret.ciphertext.take nonceLength)
      (secret.ciphertext.drop nonceLength) = none := by
    rw [Option.eq_none_iff_forall_ne_some]
    intro message hOpen
    exact hNone message ((unseal?_eq_some_iff_holds hNonce).mp hOpen)
  simp only [decrypt, if_neg (Nat.not_lt_of_le hNonce), hClosed]

/-- A sealed message is opened, and only its text is still to be read. -/
theorem decrypt_of_holds {key : CryptKey} {message : List UInt8} {secret : Secret}
    (h : secret.Holds key message) :
    secret.decrypt key = (Text.Utf8.decode? message).elim (.error notText) .ok := by
  have hOpen := (unseal?_eq_some_iff_holds h.nonceLength_le).mpr h
  simp only [decrypt, if_neg (Nat.not_lt_of_le h.nonceLength_le), hOpen]
  cases Text.Utf8.decode? message <;> rfl

theorem decrypt_eq_iff {key : CryptKey} {secret : Secret} {result : Except Error String} :
    secret.decrypt key = result ↔ Opening key secret result := by
  constructor
  · rintro rfl
    by_cases hShort : secret.ciphertext.length < nonceLength
    · rw [decrypt_of_short hShort]
      exact .truncated hShort
    · -- the cipher decides before the text does
      by_cases hHolds : ∃ message, secret.Holds key message
      · obtain ⟨message, hHolds⟩ := hHolds
        rw [decrypt_of_holds hHolds]
        cases hText : Text.Utf8.decode? message with
        | none =>
            refine .notText hHolds ?_
            rintro text rfl
            rw [Text.Utf8.decode?_encode] at hText
            cases hText
        | some text =>
            obtain rfl := Text.Utf8.encode_of_decode? hText
            exact .opened hHolds
      · have hNone := not_exists.mp hHolds
        rw [decrypt_of_not_holds (Nat.le_of_not_lt hShort) hNone]
        exact .refused (Nat.le_of_not_lt hShort) hNone
  · intro hOpening
    cases hOpening with
    | truncated hShort => exact decrypt_of_short hShort key
    | refused hNonce hNone => exact decrypt_of_not_holds hNonce hNone
    | @notText message hHolds hText =>
        have hNone : Text.Utf8.decode? message = none := by
          rw [Option.eq_none_iff_forall_ne_some]
          intro text hDecode
          exact hText text (Text.Utf8.encode_of_decode? hDecode)
        rw [decrypt_of_holds hHolds, hNone]
        rfl
    | opened hHolds =>
        rw [decrypt_of_holds hHolds, Text.Utf8.decode?_encode]
        rfl

/-- A secret of fewer bytes than nonce and tag holds no message. -/
theorem decrypt_of_tagless {secret : Secret} (hNonce : nonceLength ≤ secret.ciphertext.length)
    (hShort : secret.ciphertext.length < 28) (key : CryptKey) :
    secret.decrypt key = .error refused := by
  refine decrypt_of_not_holds hNonce ?_
  intro message hHolds
  have hLength := hHolds.length_eq
  omega

/-! ## Encrypting -/

theorem encrypt_of_tooLong {plaintext : String}
    (hLong : Cipher.isTooLong (Text.Utf8.encode plaintext) = true) (key : CryptKey)
    (nonce : List UInt8) : encrypt key nonce plaintext = .error notEncrypted := by
  simp only [encrypt, Cipher.sealMessage?, hLong, if_true]

/-- Encrypting makes the secret that holds the text. -/
theorem exists_encrypt {plaintext : String}
    (hLong : Cipher.isTooLong (Text.Utf8.encode plaintext) = false) (key : CryptKey)
    {nonce : List UInt8} (hNonce : nonce.length = nonceLength) :
    ∃ secret, encrypt key nonce plaintext = .ok secret ∧
      secret.Holds key (Text.Utf8.encode plaintext) := by
  obtain ⟨bytes, hSeal⟩ : ∃ bytes,
      Cipher.sealMessage? key.bytes nonce (Text.Utf8.encode plaintext) = some bytes :=
    ⟨_, Cipher.sealMessage?_eq_some_iff.mpr ⟨hLong, rfl⟩⟩
  refine ⟨⟨nonce ++ bytes⟩, ?_, nonce, bytes, hNonce, hSeal, rfl⟩
  simp only [encrypt, hSeal]

/-- A text is encrypted exactly if the cipher can seal it, and the service with the same master
password decrypts it again.  Of any ciphertext, nothing but what `Opening` lists can come, and
nothing at all while there is no key. -/
theorem decrypted_as_encrypted (master : String) :
    (∀ nonce plaintext, nonce.length = nonceLength →
        Cipher.isTooLong (Text.Utf8.encode plaintext) = false →
          ∃ secret, encryptWith (some (.derive master)) nonce plaintext = .ok secret ∧
            secret.decryptWith (some (.derive master)) = .ok plaintext ∧
            secret.ciphertext.length = (Text.Utf8.encode plaintext).length + 28) ∧
      (∀ nonce plaintext, Cipher.isTooLong (Text.Utf8.encode plaintext) = true →
        encryptWith (some (.derive master)) nonce plaintext = .error notEncrypted) ∧
      (∀ secret : Secret, secret.decryptWith none = .error .cryptKeyMissing) ∧
      (∀ (secret : Secret) result, secret.decryptWith (some (.derive master)) = result ↔
        Opening (.derive master) secret result) ∧
      ∀ secret : Secret, nonceLength ≤ secret.ciphertext.length → secret.ciphertext.length < 28 →
        secret.decryptWith (some (.derive master)) = .error refused := by
  refine ⟨?_, ?_, fun _ => rfl, fun _ _ => decrypt_eq_iff, ?_⟩
  · intro nonce plaintext hNonce hLong
    obtain ⟨secret, hSecret, hHolds⟩ := exists_encrypt hLong (.derive master) hNonce
    exact ⟨secret, hSecret, decrypt_eq_iff.mpr (.opened hHolds), hHolds.length_eq⟩
  · intro nonce plaintext hLong
    exact encrypt_of_tooLong hLong (.derive master) nonce
  · intro secret hNonce hShort
    exact decrypt_of_tagless hNonce hShort (.derive master)

/-- A short password comes back under its master password, and a secret that is cut off behind its
nonce is refused. -/
theorem decrypted_as_encrypted_short :
    (∃ secret, encryptWith (some (.derive "hunter2")) (List.replicate 12 7) "s3cret" = .ok secret ∧
        secret.decryptWith (some (.derive "hunter2")) = .ok "s3cret" ∧
        secret.ciphertext.length = 34) ∧
      decryptWith (some (.derive "hunter2")) ⟨List.replicate 12 7⟩ = .error refused := by
  obtain ⟨hRoundTrip, -, -, -, hShort⟩ := decrypted_as_encrypted "hunter2"
  exact ⟨hRoundTrip (List.replicate 12 7) "s3cret" (by decide) (by decide),
    hShort ⟨List.replicate 12 7⟩ (by decide) (by decide)⟩

end PgConsole.Secret
