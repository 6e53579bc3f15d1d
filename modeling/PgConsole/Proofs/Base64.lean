import PgConsole.Base64

namespace PgConsole.Base64

/-!
# Base64 texts read back

`Spells` states the format without an encoder: which number a group of letters is, and which bytes
that number is.  A byte sequence is spelled by one text only, namely by its encoding
(`spells_iff`), and `decode?` reads exactly the texts that spell something (`decode?_eq_some_iff`).
The arguments follow the groups: three bytes are four letters none of which is the padding sign,
so that `decode?` takes the same branch on the way back.
-/

/-- A letter stands for the six bits it was chosen for. -/
theorem letterValue?_letter {value : Nat} (hValue : value < 64) :
    letterValue? (letter value) = some value := by
  have hAll : ∀ bits : Fin 64, letterValue? (letter bits.val) = some bits.val := by decide
  exact hAll ⟨value, hValue⟩

theorem letter_ne_padding {value : Nat} (hValue : value < 64) : letter value ≠ '=' := by
  intro hPadding
  have hRead := letterValue?_letter hValue
  have hNone : letterValue? '=' = none := by decide
  rw [hPadding, hNone] at hRead
  cases hRead

/-! ## The written form -/

/-- The letters in the order of the six bits that they stand for. -/
def alphabet : List Char :=
  "ABCDEFGHIJKLMNOPQRSTUVWXYZabcdefghijklmnopqrstuvwxyz0123456789+/".toList

/-- The text is the written form of the bytes.  Every four letters are one number, six bits each,
and the same number is three bytes.  The last group may be short by one byte or two: a padding sign
stands for each of them, and the bits of the letters that no byte needs are zero. -/
inductive Spells : List Char → List UInt8 → Prop
  | nothing : Spells [] []
  | one {a b : Char} {i j : Nat} {x : UInt8}
      (ha : alphabet[i]? = some a) (hb : alphabet[j]? = some b)
      (hBits : i * 64 + j = x.toNat * 16) : Spells [a, b, '=', '='] [x]
  | two {a b c : Char} {i j k : Nat} {x y : UInt8}
      (ha : alphabet[i]? = some a) (hb : alphabet[j]? = some b) (hc : alphabet[k]? = some c)
      (hBits : (i * 64 + j) * 64 + k = (x.toNat * 256 + y.toNat) * 4) :
      Spells [a, b, c, '='] [x, y]
  | three {a b c d : Char} {i j k l : Nat} {x y z : UInt8}
      {text : List Char} {bytes : List UInt8}
      (ha : alphabet[i]? = some a) (hb : alphabet[j]? = some b) (hc : alphabet[k]? = some c)
      (hd : alphabet[l]? = some d)
      (hBits : ((i * 64 + j) * 64 + k) * 64 + l = (x.toNat * 256 + y.toNat) * 256 + z.toNat)
      (hRest : Spells text bytes) : Spells (a :: b :: c :: d :: text) (x :: y :: z :: bytes)

theorem getElem?_alphabet {value : Nat} {c : Char} :
    alphabet[value]? = some c ↔ value < 64 ∧ letter value = c := by
  have hAll : ∀ bits : Fin 64, alphabet[bits.val]? = some (letter bits.val) := by decide +kernel
  constructor
  · intro h
    obtain ⟨hValue, -⟩ := List.getElem?_eq_some_iff.mp h
    have hLetter := hAll ⟨value, hValue⟩
    exact ⟨hValue, Option.some.inj (hLetter.symm.trans h)⟩
  · rintro ⟨hValue, rfl⟩
    exact hAll ⟨value, hValue⟩

/-- Only the first 128 characters can be letters. -/
theorem toNat_lt_of_letterValue? {c : Char} {value : Nat} (h : letterValue? c = some value) :
    c.toNat < 128 := by
  have hLe : ∀ last : Char, c ≤ last → c.toNat ≤ last.toNat := fun _ hLast => hLast
  apply Nat.lt_of_not_le
  intro hHigh
  have hUpper : ¬ c ≤ 'Z' := fun hLast => absurd (Nat.le_trans hHigh (hLe _ hLast)) (by decide)
  have hLower : ¬ c ≤ 'z' := fun hLast => absurd (Nat.le_trans hHigh (hLe _ hLast)) (by decide)
  have hDigit : ¬ c ≤ '9' := fun hLast => absurd (Nat.le_trans hHigh (hLe _ hLast)) (by decide)
  have hPlus : c ≠ '+' := by rintro rfl; exact absurd hHigh (by decide)
  have hSlash : c ≠ '/' := by rintro rfl; exact absurd hHigh (by decide)
  simp [letterValue?, hUpper, hLower, hDigit, hPlus, hSlash] at h

/-- A letter is read as its place in the alphabet. -/
theorem letterValue?_eq_some_iff {c : Char} {value : Nat} :
    letterValue? c = some value ↔ alphabet[value]? = some c := by
  constructor
  · intro h
    -- every letter is among the first 128 characters, so that they can be tried one by one
    have hAll : ∀ code < 128, ∀ value ∈ letterValue? (Char.ofNat code),
        alphabet[value]? = some (Char.ofNat code) := by decide +kernel
    have hCode := hAll c.toNat (toNat_lt_of_letterValue? h) value
    rw [Char.ofNat_toNat] at hCode
    exact hCode h
  · intro h
    obtain ⟨hValue, rfl⟩ := getElem?_alphabet.mp h
    exact letterValue?_letter hValue

theorem spells_encode (bytes : List UInt8) : Spells (encode bytes) bytes := by
  have hLetter : ∀ value < 64, alphabet[value]? = some (letter value) :=
    fun value hValue => getElem?_alphabet.mpr ⟨hValue, rfl⟩
  induction bytes using encode.induct with
  | case1 => exact .nothing
  | case2 x =>
      have hx := x.toNat_lt
      exact .one (hLetter _ (by omega)) (hLetter _ (by omega)) (by omega)
  | case3 x y =>
      have hx := x.toNat_lt
      have hy := y.toNat_lt
      exact .two (hLetter _ (by omega)) (hLetter _ (by omega)) (hLetter _ (by omega)) (by omega)
  | case4 x y z rest ih =>
      have hx := x.toNat_lt
      have hy := y.toNat_lt
      have hz := z.toNat_lt
      exact .three (hLetter _ (by omega)) (hLetter _ (by omega)) (hLetter _ (by omega))
        (hLetter _ (by omega)) (by omega) ih

/-- Bytes are spelled by their encoding and by nothing else. -/
theorem Spells.eq_encode {text : List Char} {bytes : List UInt8} (h : Spells text bytes) :
    text = encode bytes := by
  induction h with
  | nothing => rfl
  | @one a b i j x ha hb hBits =>
      obtain ⟨hi, rfl⟩ := getElem?_alphabet.mp ha
      obtain ⟨hj, rfl⟩ := getElem?_alphabet.mp hb
      rw [encode, show x.toNat / 4 = i by omega, show x.toNat % 4 * 16 = j by omega]
  | @two a b c i j k x y ha hb hc hBits =>
      obtain ⟨hi, rfl⟩ := getElem?_alphabet.mp ha
      obtain ⟨hj, rfl⟩ := getElem?_alphabet.mp hb
      obtain ⟨hk, rfl⟩ := getElem?_alphabet.mp hc
      have hy := y.toNat_lt
      rw [encode, show x.toNat / 4 = i by omega,
        show x.toNat % 4 * 16 + y.toNat / 16 = j by omega, show y.toNat % 16 * 4 = k by omega]
  | @three a b c d i j k l x y z text bytes ha hb hc hd hBits _ ih =>
      obtain ⟨hi, rfl⟩ := getElem?_alphabet.mp ha
      obtain ⟨hj, rfl⟩ := getElem?_alphabet.mp hb
      obtain ⟨hk, rfl⟩ := getElem?_alphabet.mp hc
      obtain ⟨hl, rfl⟩ := getElem?_alphabet.mp hd
      have hy := y.toNat_lt
      have hz := z.toNat_lt
      rw [encode, ih, show x.toNat / 4 = i by omega,
        show x.toNat % 4 * 16 + y.toNat / 16 = j by omega,
        show y.toNat % 16 * 4 + z.toNat / 64 = k by omega, show z.toNat % 64 = l by omega]

theorem spells_iff {text : List Char} {bytes : List UInt8} :
    Spells text bytes ↔ text = encode bytes := by
  constructor
  · exact Spells.eq_encode
  · rintro rfl
    exact spells_encode bytes

/-- A written form has no other characters than letters and the padding sign. -/
theorem Spells.mem {text : List Char} {bytes : List UInt8} (h : Spells text bytes) {c : Char}
    (hMem : c ∈ text) : c ∈ alphabet ∨ c = '=' := by
  induction h with
  | nothing => cases hMem
  | one ha hb _ =>
      have hFirst := List.mem_of_getElem? ha
      have hSecond := List.mem_of_getElem? hb
      grind
  | two ha hb hc _ =>
      have hFirst := List.mem_of_getElem? ha
      have hSecond := List.mem_of_getElem? hb
      have hThird := List.mem_of_getElem? hc
      grind
  | three ha hb hc hd _ _ ih =>
      have hFirst := List.mem_of_getElem? ha
      have hSecond := List.mem_of_getElem? hb
      have hThird := List.mem_of_getElem? hc
      have hFourth := List.mem_of_getElem? hd
      grind

/-! ## Reading the written form -/

/-- A number is the byte that it is the number of. -/
theorem ofNat_toNat_split (byte : UInt8) {value : Nat} (h : value = byte.toNat) :
    UInt8.ofNat value = byte := by
  rw [h]
  exact UInt8.ofNat_toNat

/-- What spells bytes is read as those bytes. -/
theorem decode?_of_spells {text : List Char} {bytes : List UInt8} (h : Spells text bytes) :
    decode? text = some bytes := by
  induction h with
  | nothing => rfl
  | @one a b i j x ha hb hBits =>
      obtain ⟨hj, -⟩ := getElem?_alphabet.mp hb
      rw [← letterValue?_eq_some_iff] at ha hb
      have hByte : UInt8.ofNat (i * 4 + j / 16) = x := ofNat_toNat_split x (by omega)
      simp only [decode?, ha, hb, hByte]
      rw [if_pos (by omega)]
  | @two a b c i j k x y ha hb hc hBits =>
      obtain ⟨hj, -⟩ := getElem?_alphabet.mp hb
      obtain ⟨hk, hLetter⟩ := getElem?_alphabet.mp hc
      have hPadding : c ≠ '=' := hLetter ▸ letter_ne_padding hk
      have hy := y.toNat_lt
      rw [← letterValue?_eq_some_iff] at ha hb hc
      have hFirst : UInt8.ofNat (i * 4 + j / 16) = x := ofNat_toNat_split x (by omega)
      have hSecond : UInt8.ofNat (j % 16 * 16 + k / 4) = y := ofNat_toNat_split y (by omega)
      rw [decode?.eq_3 _ _ _ hPadding]
      simp only [ha, hb, hc, hFirst, hSecond]
      rw [if_pos (by omega)]
  | @three a b c d i j k l x y z text bytes ha hb hc hd hBits _ ih =>
      obtain ⟨hj, -⟩ := getElem?_alphabet.mp hb
      obtain ⟨hk, -⟩ := getElem?_alphabet.mp hc
      obtain ⟨hl, hLetter⟩ := getElem?_alphabet.mp hd
      have hPadding : d ≠ '=' := hLetter ▸ letter_ne_padding hl
      have hy := y.toNat_lt
      have hz := z.toNat_lt
      rw [← letterValue?_eq_some_iff] at ha hb hc hd
      have hFirst : UInt8.ofNat (i * 4 + j / 16) = x := ofNat_toNat_split x (by omega)
      have hSecond : UInt8.ofNat (j % 16 * 16 + k / 4) = y := ofNat_toNat_split y (by omega)
      have hThird : UInt8.ofNat (k % 4 * 64 + l) = z := ofNat_toNat_split z (by omega)
      rw [decode?.eq_4 _ _ _ _ _ (by simp [hPadding]) (by simp [hPadding])]
      simp only [ha, hb, hc, hd, ih, hFirst, hSecond, hThird]

/-- What is read spells the bytes it is read as. -/
theorem spells_of_decode? {text : List Char} {bytes : List UInt8}
    (h : decode? text = some bytes) : Spells text bytes := by
  -- of the branches of the reader four read something, one for each constructor
  fun_induction decode? text generalizing bytes with
  | case1 =>
      cases h
      exact .nothing
  | case2 a b i j hb ha hUnused =>
      cases h
      rw [letterValue?_eq_some_iff] at ha hb
      obtain ⟨hi, -⟩ := getElem?_alphabet.mp ha
      obtain ⟨hj, -⟩ := getElem?_alphabet.mp hb
      refine .one ha hb ?_
      simp only [UInt8.toNat_ofNat']
      omega
  | case5 a b c _ i j k hc hb ha hUnused =>
      cases h
      rw [letterValue?_eq_some_iff] at ha hb hc
      obtain ⟨hi, -⟩ := getElem?_alphabet.mp ha
      obtain ⟨hj, -⟩ := getElem?_alphabet.mp hb
      obtain ⟨hk, -⟩ := getElem?_alphabet.mp hc
      refine .two ha hb hc ?_
      simp only [UInt8.toNat_ofNat']
      omega
  | case8 a b c d text _ _ i j k l bytes hRest hd hc hb ha ih =>
      cases h
      rw [letterValue?_eq_some_iff] at ha hb hc hd
      obtain ⟨hi, -⟩ := getElem?_alphabet.mp ha
      obtain ⟨hj, -⟩ := getElem?_alphabet.mp hb
      obtain ⟨hk, -⟩ := getElem?_alphabet.mp hc
      obtain ⟨hl, -⟩ := getElem?_alphabet.mp hd
      refine .three ha hb hc hd ?_ (ih hRest)
      simp only [UInt8.toNat_ofNat']
      omega
  | _ => cases h

theorem decode?_eq_some_iff {text : List Char} {bytes : List UInt8} :
    decode? text = some bytes ↔ text = encode bytes := by
  rw [← spells_iff]
  exact ⟨spells_of_decode?, decode?_of_spells⟩

end PgConsole.Base64
