import PgConsole.Cipher.Sealed

namespace PgConsole.Cipher

/-!
# Opening undoes sealing

Combining a message with the same key stream twice gives the message back, since the stream is at
least as long as the message (`ChaCha20.apply_apply`).  The tag depends on the encrypted bytes
alone.  So opening gives a message exactly if that message is sealed as these bytes
(`unseal?_eq_some_iff`): what is refused is the sealed form of no message at all.
-/

theorem length_xorBytes {message stream : List UInt8} (hLength : message.length ≤ stream.length) :
    (xorBytes message stream).length = message.length := by
  rw [xorBytes, List.length_zipWith, Nat.min_eq_left hLength]

theorem xorBytes_xorBytes {message stream : List UInt8}
    (hLength : message.length ≤ stream.length) :
    xorBytes (xorBytes message stream) stream = message := by
  induction message generalizing stream with
  | nil => rfl
  | cons byte message ih =>
      cases stream with
      | nil => cases hLength
      | cons mask stream =>
          have hRest := ih (Nat.le_of_succ_le_succ hLength)
          have hByte : byte ^^^ mask ^^^ mask = byte := by
            rw [UInt8.xor_assoc, UInt8.xor_self, UInt8.xor_zero]
          simp only [xorBytes, List.zipWith_cons_cons] at hRest ⊢
          rw [hRest, hByte]

namespace ChaCha20

theorem length_streamBlock (key nonce : List UInt8) (counter : Nat) :
    (streamBlock key nonce counter).length = 64 := by
  rw [streamBlock, List.length_flatMap]
  simp only [length_toLittleEndian, List.map_const', List.sum_replicate_nat, List.length_zipWith,
    Vector.length_toList]
  rfl

theorem length_stream (key nonce : List UInt8) (blocks counter : Nat) :
    (stream key nonce blocks counter).length = 64 * blocks := by
  induction blocks generalizing counter with
  | zero => rfl
  | succ blocks ih =>
      rw [stream, List.length_append, length_streamBlock, ih]
      omega

/-- The key stream covers the message. -/
theorem length_le_stream (key nonce message : List UInt8) :
    message.length ≤ (stream key nonce (message.length / 64 + 1) 1).length := by
  rw [length_stream]
  omega

@[simp]
theorem length_apply (key nonce message : List UInt8) :
    (apply key nonce message).length = message.length :=
  length_xorBytes (length_le_stream key nonce message)

@[simp]
theorem apply_apply (key nonce message : List UInt8) :
    apply key nonce (apply key nonce message) = message := by
  have hTwice : apply key nonce (apply key nonce message) =
      xorBytes (apply key nonce message) (stream key nonce (message.length / 64 + 1) 1) := by
    rw [← length_apply key nonce message]
    rfl
  rw [hTwice]
  exact xorBytes_xorBytes (length_le_stream key nonce message)

end ChaCha20

@[simp]
theorem length_sealTag (key nonce encrypted : List UInt8) :
    (sealTag key nonce encrypted).length = 16 :=
  Poly1305.length_tag _ _

@[simp]
theorem isTooLong_apply (key nonce message : List UInt8) :
    isTooLong (ChaCha20.apply key nonce message) = isTooLong message := by
  rw [isTooLong, isTooLong, ChaCha20.length_apply]

/-- What a message is sealed as: its encrypted form and the tag of that. -/
theorem sealMessage?_eq_some_iff {key nonce message bytes : List UInt8} :
    sealMessage? key nonce message = some bytes ↔
      isTooLong message = false ∧
        bytes = ChaCha20.apply key nonce message ++
          sealTag key nonce (ChaCha20.apply key nonce message) := by
  unfold sealMessage?
  cases isTooLong message with
  | true => simp
  | false => simp [eq_comm]

/-- A sealed message is longer by its tag. -/
theorem length_of_sealMessage? {key nonce message bytes : List UInt8}
    (h : sealMessage? key nonce message = some bytes) : bytes.length = message.length + 16 := by
  obtain ⟨-, rfl⟩ := sealMessage?_eq_some_iff.mp h
  simp

/-- What is opened: the encrypted message in front of a tag that is right. -/
theorem unseal?_eq_some {key nonce message bytes : List UInt8}
    (h : unseal? key nonce bytes = some message) :
    ∃ encrypted, bytes = encrypted ++ sealTag key nonce encrypted ∧
      isTooLong encrypted = false ∧ message = ChaCha20.apply key nonce encrypted := by
  unfold unseal? at h
  split at h
  · cases h
  · dsimp only at h
    split at h
    · cases h
    · rename_i hLong
      split at h
      · rename_i hTag
        refine ⟨_, ?_, by simpa using hLong, (Option.some.inj h).symm⟩
        rw [← hTag, List.take_append_drop]
      · cases h

theorem unseal?_append_sealTag {encrypted : List UInt8} (hLong : isTooLong encrypted = false)
    (key nonce : List UInt8) :
    unseal? key nonce (encrypted ++ sealTag key nonce encrypted) =
      some (ChaCha20.apply key nonce encrypted) := by
  have hLength : (encrypted ++ sealTag key nonce encrypted).length - 16 = encrypted.length := by
    simp
  have hTag : ¬(encrypted ++ sealTag key nonce encrypted).length < 16 := by simp
  simp only [unseal?, if_neg hTag, hLength, List.take_left, List.drop_left, hLong, if_true,
    Bool.false_eq_true, if_false]

theorem unseal?_eq_some_iff {key nonce message bytes : List UInt8} :
    unseal? key nonce bytes = some message ↔ sealMessage? key nonce message = some bytes := by
  rw [sealMessage?_eq_some_iff]
  constructor
  · intro hOpen
    obtain ⟨encrypted, rfl, hLong, rfl⟩ := unseal?_eq_some hOpen
    rw [isTooLong_apply, ChaCha20.apply_apply]
    exact ⟨hLong, rfl⟩
  · rintro ⟨hLong, rfl⟩
    rw [← isTooLong_apply key nonce] at hLong
    rw [unseal?_append_sealTag hLong, ChaCha20.apply_apply]

end PgConsole.Cipher
