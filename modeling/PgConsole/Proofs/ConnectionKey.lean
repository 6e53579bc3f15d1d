import PgConsole.Connection.Key
import PgConsole.Proofs.Decimal

namespace PgConsole

/-!
# Key texts read back

A key is recovered from its text form, so different keys have different texts.
-/

namespace Text

/-- What follows a given beginning is found again. -/
theorem stripStart?_append (start rest : List Char) :
    stripStart? start (start ++ rest) = some rest := by
  induction start with
  | nil => rfl
  | cons c start ih => simp [stripStart?, ih]

theorem eq_append_of_stripStart? {start text rest : List Char}
    (h : stripStart? start text = some rest) : text = start ++ rest := by
  induction start generalizing text with
  | nil => exact Option.some.inj h
  | cons expected more ih =>
      cases text with
      | nil => cases h
      | cons c text =>
          rw [stripStart?] at h
          split at h
          · rename_i hFirst
            rw [hFirst, List.cons_append, ih h]
          · cases h

end Text

namespace ConnectionKey

theorem toList_toText_conn (id : UInt64) :
    (toText (.conn id)).toList = ['C', 'O', 'N', 'N', ':'] ++ (Text.ofNat id.toNat).toList := by
  rw [toText, String.toList_append]
  rfl

theorem toList_toText_db (name : String) :
    (toText (.db name)).toList = ['D', 'B', ':'] ++ name.toList := by
  rw [toText, String.toList_append]
  rfl

/-- A key is read back from its text. -/
theorem parse_toText (key : ConnectionKey) : parse key.toText = .ok key := by
  cases key with
  | conn id =>
      have hNumeral : Text.readNumeral UInt64.size (Text.ofNat id.toNat).toList = .ok id.toNat :=
        Text.readNumeral_ofNat id.toNat_lt
      simp only [parse, toList_toText_conn, Text.stripStart?_append, hNumeral, UInt64.ofNat_toNat]
  | db name =>
      have hConn : Text.stripStart? ['C', 'O', 'N', 'N', ':'] (['D', 'B', ':'] ++ name.toList) =
          none := rfl
      simp only [parse, toList_toText_db, hConn, Text.stripStart?_append, String.ofList_toList]

/-- Different keys have different texts. -/
theorem toText_injective {left right : ConnectionKey} (h : left.toText = right.toText) :
    left = right := by
  have hParse := congrArg parse h
  rw [parse_toText, parse_toText] at hParse
  exact Except.ok.inj hParse

end ConnectionKey

end PgConsole
