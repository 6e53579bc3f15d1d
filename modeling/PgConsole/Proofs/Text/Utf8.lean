import PgConsole.Text.Utf8

namespace PgConsole.Text.Utf8

/-!
# UTF-8

`encode` writes a text character by character, `decode?` reads it back, and a text of ASCII
characters takes one byte for each of them.  `decodeLossy` reads an ASCII byte at the end as its
character, whatever stands before it (`decodeLossy_concat`).
-/

theorem encode_eq_flatMap (text : String) :
    encode text = text.toList.flatMap String.utf8EncodeChar := by
  conv => lhs; rw [← String.ofList_toList (s := text)]
  rw [encode, String.toUTF8_eq_toByteArray, String.toByteArray_ofList, List.utf8Encode,
    List.toList_data_toByteArray]

theorem decode?_encode (text : String) : decode? (encode text) = some text := by
  have hBytes : (⟨(encode text).toArray⟩ : ByteArray) = text.toByteArray := by
    rw [encode, String.toUTF8_eq_toByteArray, Array.toArray_toList]
  rw [decode?, hBytes, String.fromUTF8?, dif_pos text.isValidUTF8]
  rfl

theorem encode_of_decode? {bytes : List UInt8} {text : String} (h : decode? bytes = some text) :
    encode text = bytes := by
  rw [decode?, String.fromUTF8?] at h
  split at h
  · obtain rfl := Option.some.inj h
    rfl
  · cases h

/-- An ASCII character is its own byte. -/
theorem utf8EncodeChar_of_ascii {c : Char} (hAscii : c.toNat < 128) :
    String.utf8EncodeChar c = [c.val.toUInt8] := by
  apply String.utf8EncodeChar_eq_singleton
  rw [Char.utf8Size_eq_one_iff]
  exact Nat.le_of_lt_succ hAscii

theorem encode_of_ascii {text : String} (hAscii : ∀ c ∈ text.toList, c.toNat < 128) :
    encode text = text.toList.map fun c => c.val.toUInt8 := by
  rw [encode_eq_flatMap]
  generalize text.toList = characters at hAscii
  induction characters with
  | nil => rfl
  | cons c rest ih =>
      rw [List.forall_mem_cons] at hAscii
      rw [List.flatMap_cons, List.map_cons, utf8EncodeChar_of_ascii hAscii.1, ih hAscii.2]
      rfl

/-! ## Replacing what is ill-formed -/

/-- No byte below 128 continues the character that is pending. -/
def Pending.Guarded : Pending → Prop
  | .none => True
  | .tail _ low _ _ => 128 ≤ low.toNat

theorem guarded_of_lead {byte : UInt8} {pending : Pending} (h : lead byte = .open pending) :
    pending.Guarded := by
  dsimp only [lead] at h
  repeat' split at h
  all_goals cases h
  all_goals simp [Pending.Guarded]

theorem lead_of_ascii {byte : UInt8} (hAscii : byte.toNat < 128) :
    lead byte = .whole (Char.ofNat byte.toNat) := by
  rw [lead]
  exact if_pos hAscii

/-- An ASCII byte at the end is one more unit: what was pending before it is ill-formed with it as
without it. -/
theorem unitsFrom_concat {byte : UInt8} (hAscii : byte.toNat < 128) (done : List (Option Char))
    (pending : Pending) (bytes : List UInt8) (hGuarded : pending.Guarded) :
    unitsFrom done pending (bytes ++ [byte]) =
      unitsFrom done pending bytes ++ [some (Char.ofNat byte.toNat)] := by
  fun_induction unitsFrom done pending bytes with
  | case1 done => simp [unitsFrom, lead_of_ascii hAscii]
  | case2 done more low high value =>
      have hBelow : ¬ low ≤ byte := by
        intro hLow
        have hLow := UInt8.le_iff_toNat_le.mp hLow
        have hGuarded : 128 ≤ low.toNat := hGuarded
        omega
      simp [unitsFrom, hBelow, lead_of_ascii hAscii]
  | case3 done first rest c hLead ih =>
      rw [List.cons_append, unitsFrom, hLead]
      exact ih trivial
  | case4 done first rest pending hLead ih =>
      rw [List.cons_append, unitsFrom, hLead]
      exact ih (guarded_of_lead hLead)
  | case5 done first rest hLead ih =>
      rw [List.cons_append, unitsFrom, hLead]
      exact ih trivial
  | case6 done low high value first rest hRange next ih =>
      rw [List.cons_append, unitsFrom, if_pos hRange]
      exact ih trivial
  | case7 done low high value first rest hRange next more ih =>
      rw [List.cons_append, unitsFrom, if_pos hRange]
      exact ih (Nat.le_refl 128)
  | case8 done more low high value first rest hRange c hLead ih =>
      rw [List.cons_append, unitsFrom, if_neg hRange, hLead]
      exact ih trivial
  | case9 done more low high value first rest hRange pending hLead ih =>
      rw [List.cons_append, unitsFrom, if_neg hRange, hLead]
      exact ih (guarded_of_lead hLead)
  | case10 done more low high value first rest hRange hLead ih =>
      rw [List.cons_append, unitsFrom, if_neg hRange, hLead]
      exact ih trivial

theorem decodeLossy_concat {byte : UInt8} (hAscii : byte.toNat < 128) (bytes : List UInt8) :
    decodeLossy (bytes ++ [byte]) = (decodeLossy bytes).push (Char.ofNat byte.toNat) := by
  rw [← String.toList_inj, String.toList_push]
  simp [decodeLossy, units, unitsFrom_concat hAscii [] .none bytes trivial]

end PgConsole.Text.Utf8
