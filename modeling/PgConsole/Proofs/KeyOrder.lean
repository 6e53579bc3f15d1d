import Mathlib.Algebra.Group.Nat.Defs
import Mathlib.Data.Nat.Log
import PgConsole.Proofs.ConnectionKey

namespace PgConsole

/-!
# The order of key texts

Keys come in the order of their numbers and names, their texts in the order of their letters.
The two agree on names, and a number comes before a name either way.  Numbers are another matter:
texts are compared digit by digit from the left, so that a longer number comes first when its
leading digits are smaller, as `10` does before `9`.

`Text.Aligned` says when a number and a greater one stand in the same order as their decimal texts;
`ConnectionKey.toText_lt_iff` carries this over to keys.
-/

namespace Text

/-- The leading digits of the greater number, as many as the lesser one has, are no smaller than
the lesser one. -/
def Aligned (lower higher : Nat) : Prop :=
  lower ≤ higher / 10 ^ (Nat.log 10 higher - Nat.log 10 lower)

instance (lower higher : Nat) : Decidable (Aligned lower higher) :=
  inferInstanceAs (Decidable (_ ≤ _))

example : Aligned 1 12 ∧ Aligned 12 20 ∧ ¬Aligned 9 10 := by decide

/-- What follows two rows of the same length matters only if these are equal. -/
theorem append_lt_append_iff {first second : List Char} (hLength : first.length = second.length)
    (rest others : List Char) :
    first ++ rest < second ++ others ↔ first < second ∨ first = second ∧ rest < others := by
  induction first generalizing second with
  | nil =>
      obtain rfl : second = [] := List.eq_nil_of_length_eq_zero hLength.symm
      simp
  | cons c first ih =>
      cases second with
      | nil => cases hLength
      | cons d second =>
          have hRest := ih (Nat.succ.inj hLength)
          simp only [List.cons_append, List.cons_lt_cons_iff, List.cons.injEq, hRest, and_or_left,
            and_assoc, or_assoc]

theorem ofNat_lt_ofNat_iff (left right : Nat) :
    ofNat left < ofNat right ↔ Nat.toDigits 10 left < Nat.toDigits 10 right := by
  rw [String.lt_iff, toList_ofNat, toList_ofNat]

/-! ## Digits -/

theorem length_toDigits (value : Nat) : (Nat.toDigits 10 value).length = Nat.log 10 value + 1 := by
  induction value using Nat.strongRecOn with
  | _ value ih =>
      by_cases hSmall : value < 10
      · rw [Nat.toDigits_of_lt_base hSmall, Nat.log_of_lt hSmall]
        rfl
      · have hPos : 0 < Nat.log 10 value := Nat.log_pos_iff.mpr ⟨by omega, by decide⟩
        rw [Nat.toDigits_of_base_le (by decide) (by omega), List.length_append,
          ih (value / 10) (by omega), Nat.log_div_base, List.length_singleton]
        omega

theorem digitChar_lt_iff {left right : Nat} (hLeft : left < 10) (hRight : right < 10) :
    left.digitChar < right.digitChar ↔ left < right := by
  have hAll : ∀ left right : Fin 10, left.val.digitChar < right.val.digitChar ↔
      left.val < right.val := by decide
  exact hAll ⟨left, hLeft⟩ ⟨right, hRight⟩

theorem toDigits_injective {left right : Nat} (h : Nat.toDigits 10 left = Nat.toDigits 10 right) :
    left = right := by
  have hValue := congrArg (fun digits => Nat.ofDigitChars 10 digits 0) h
  simpa only [Nat.ofDigitChars_ten_toDigits] using hValue

/-- Numbers with equally many digits are ordered like their digits. -/
theorem toDigits_lt_iff {left right : Nat} (hLog : Nat.log 10 left = Nat.log 10 right) :
    Nat.toDigits 10 left < Nat.toDigits 10 right ↔ left < right := by
  induction left using Nat.strongRecOn generalizing right with
  | _ left ih =>
      have hSame : left < 10 ↔ right < 10 := by
        have hLeft := Nat.log_eq_zero_iff (b := 10) (n := left)
        have hRight := Nat.log_eq_zero_iff (b := 10) (n := right)
        omega
      by_cases hSmall : left < 10
      · have hOther := hSame.mp hSmall
        rw [Nat.toDigits_of_lt_base hSmall, Nat.toDigits_of_lt_base hOther, List.cons_lt_cons_iff,
          digitChar_lt_iff hSmall hOther]
        simp
      · -- the last digits matter only if the numbers before them are equal
        have hOther : ¬right < 10 := mt hSame.mpr hSmall
        have hFront : Nat.log 10 (left / 10) = Nat.log 10 (right / 10) := by
          rw [Nat.log_div_base, Nat.log_div_base, hLog]
        rw [Nat.toDigits_of_base_le (by decide) (by omega),
          Nat.toDigits_of_base_le (n := right) (by decide) (by omega),
          append_lt_append_iff (by rw [length_toDigits, length_toDigits, hFront]),
          ih (left / 10) (by omega) hFront, List.cons_lt_cons_iff,
          digitChar_lt_iff (Nat.mod_lt _ (by decide)) (Nat.mod_lt _ (by decide))]
        have hEqual : Nat.toDigits 10 (left / 10) = Nat.toDigits 10 (right / 10) ↔
            left / 10 = right / 10 := ⟨toDigits_injective, fun h => by rw [h]⟩
        rw [hEqual]
        simp only [List.not_lt_nil, and_false, or_false]
        omega

/-- The digits of a number start with those of what is left when some are cut off. -/
theorem exists_toDigits_append {value count : Nat} (hCount : count ≤ Nat.log 10 value) :
    ∃ rest, rest.length = count ∧
      Nat.toDigits 10 value = Nat.toDigits 10 (value / 10 ^ count) ++ rest := by
  induction count with
  | zero => exact ⟨[], rfl, by simp⟩
  | succ count ih =>
      obtain ⟨rest, hLength, hDigits⟩ := ih (by omega)
      -- there is still more than one digit, so one more can be cut off
      have hLog : 0 < Nat.log 10 (value / 10 ^ count) := by
        rw [Nat.log_div_base_pow]
        omega
      rw [Nat.toDigits_of_base_le (by decide) (Nat.log_pos_iff.mp hLog).1, Nat.div_div_eq_div_mul,
        ← Nat.pow_succ, List.append_assoc] at hDigits
      exact ⟨_, by simp [hLength], hDigits⟩

/-- A number and a greater one are ordered like their texts exactly if they are aligned. -/
theorem ofNat_lt_iff_aligned {lower higher : Nat} (h : lower < higher) :
    ofNat lower < ofNat higher ↔ Aligned lower higher := by
  rw [ofNat_lt_ofNat_iff, Aligned]
  have hMono : Nat.log 10 lower ≤ Nat.log 10 higher := Nat.log_mono_right (Nat.le_of_lt h)
  generalize hCount : Nat.log 10 higher - Nat.log 10 lower = count
  have hBound : count ≤ Nat.log 10 higher := by omega
  obtain ⟨rest, hRest, hDigits⟩ := exists_toDigits_append hBound
  have hLog : Nat.log 10 lower = Nat.log 10 (higher / 10 ^ count) := by
    rw [Nat.log_div_base_pow]
    omega
  have hLength : (Nat.toDigits 10 lower).length =
      (Nat.toDigits 10 (higher / 10 ^ count)).length := by
    rw [length_toDigits, length_toDigits, hLog]
  have hSplit := append_lt_append_iff hLength [] rest
  rw [List.append_nil, toDigits_lt_iff hLog] at hSplit
  rw [hDigits, hSplit]
  cases rest with
  | nil =>
      -- equally many digits: nothing is cut off
      obtain rfl : count = 0 := hRest.symm
      rw [Nat.pow_zero, Nat.div_one]
      simp only [List.not_lt_nil, and_false, or_false]
      omega
  | cons c rest =>
      -- the lesser text ends before the greater one, so it may also be its beginning
      constructor
      · rintro (hLess | ⟨hSame, -⟩)
        · exact Nat.le_of_lt hLess
        · exact Nat.le_of_eq (toDigits_injective hSame)
      · intro hLe
        rcases Nat.lt_or_eq_of_le hLe with hLess | hSame
        · exact .inl hLess
        · exact .inr ⟨by rw [← hSame], List.nil_lt_cons c rest⟩

end Text

namespace ConnectionKey

/-- Where the order of keys and that of their texts may differ: two numbers have to be aligned. -/
def Aligned : ConnectionKey → ConnectionKey → Prop
  | .conn lower, .conn higher => Text.Aligned lower.toNat higher.toNat
  | _, _ => True

theorem toText_conn_lt_iff (left right : UInt64) :
    (conn left).toText < (conn right).toText ↔
      Text.ofNat left.toNat < Text.ofNat right.toNat := by
  rw [String.lt_iff, String.lt_iff, toList_toText_conn, toList_toText_conn,
    Text.append_lt_append_iff rfl]
  simp

theorem toText_db_lt_iff (left right : String) :
    (db left).toText < (db right).toText ↔ left < right := by
  rw [String.lt_iff, String.lt_iff, toList_toText_db, toList_toText_db,
    Text.append_lt_append_iff rfl]
  simp

theorem toText_conn_lt_db (id : UInt64) (name : String) : (conn id).toText < (db name).toText := by
  rw [String.lt_iff, toList_toText_conn, toList_toText_db]
  exact List.cons_lt_cons_iff.mpr (.inl (by decide))

/-- A key that comes before another one has the lesser text exactly if the two are aligned. -/
theorem toText_lt_iff {left right : ConnectionKey} (h : compare left right = .lt) :
    left.toText < right.toText ↔ left.Aligned right := by
  cases left with
  | conn lower =>
      cases right with
      | conn higher =>
          have hLess : lower < higher := compareOfLessAndEq_eq_lt.mp h
          rw [toText_conn_lt_iff]
          exact Text.ofNat_lt_iff_aligned (UInt64.lt_iff_toNat_lt.mp hLess)
      | db name => exact iff_of_true (toText_conn_lt_db lower name) trivial
  | db name =>
      cases right with
      | conn higher => cases h
      | db other =>
          have hLess : name < other := compareOfLessAndEq_eq_lt.mp h
          exact iff_of_true ((toText_db_lt_iff name other).mpr hLess) trivial

end ConnectionKey

end PgConsole
