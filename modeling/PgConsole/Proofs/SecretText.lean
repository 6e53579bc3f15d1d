import PgConsole.Proofs.Base64
import PgConsole.Proofs.JsonText
import PgConsole.Secret

namespace PgConsole.Secret

/-!
# The text form of secrets

Every secret is read back from its text, and it has no other text: padding cannot be left out, the
bits that padding leaves unused cannot be set, and nothing can stand between the letters.  As a JSON
value a secret has one form, too.  A JSON document may still hold that form behind blanks or with
escapes in the string; among the plain documents a secret has exactly one.
-/

theorem ofText?_eq_some_iff {text : String} {secret : Secret} :
    ofText? text = some secret ↔ text = secret.toText := by
  have hChars : text = secret.toText ↔ text.toList = Base64.encode secret.ciphertext := by
    rw [toText, ← String.toList_inj, String.toList_ofList]
  rw [ofText?, Option.map_eq_some_iff, hChars]
  constructor
  · rintro ⟨bytes, hBytes, rfl⟩
    exact Base64.decode?_eq_some_iff.mp hBytes
  · intro hText
    exact ⟨secret.ciphertext, Base64.decode?_eq_some_iff.mpr hText, rfl⟩

/-- The text is the written form of the ciphertext. -/
theorem eq_toText_iff_spells {text : String} {secret : Secret} :
    text = secret.toText ↔ Base64.Spells text.toList secret.ciphertext := by
  rw [Base64.spells_iff, toText, ← String.toList_inj, String.toList_ofList]

/-- Of all JSON values only the one that is written for a secret is read as that secret. -/
theorem ofJson?_eq_some_iff {value : Json} {secret : Secret} :
    ofJson? value = some secret ↔ value = secret.toJson := by
  cases value with
  | text text =>
      rw [ofJson?, Json.text?, Option.bind_some, ofText?_eq_some_iff, toJson, Json.text.injEq]
  | _ => simp [ofJson?, Json.text?, toJson]

theorem ofJson?_toJson (secret : Secret) : ofJson? secret.toJson = some secret :=
  ofJson?_eq_some_iff.mpr rfl

/-- A document is read as a secret exactly if its value is the one that is written for it. -/
theorem parse?_bind_ofJson? {document : String} {secret : Secret} :
    (Json.parse? document).bind ofJson? = some secret ↔
      Json.parse? document = some secret.toJson := by
  rw [Option.bind_eq_some_iff]
  constructor
  · rintro ⟨value, hValue, hSecret⟩
    rw [hValue, ofJson?_eq_some_iff.mp hSecret]
  · intro hValue
    exact ⟨secret.toJson, hValue, ofJson?_toJson secret⟩

/-- Neither blanks nor escapes occur in what is written for a secret. -/
theorem plain_render_toJson (secret : Secret) :
    Json.Plain (Json.render secret.toJson).toList := by
  have hLetters : ∀ bits : Fin 64,
      Json.escapeChar (Base64.letter bits.val) = [Base64.letter bits.val] ∧
        Json.isSpace (Base64.letter bits.val) = false ∧ Base64.letter bits.val ≠ '\\' := by decide
  have hSpells : Base64.Spells secret.toText.toList secret.ciphertext :=
    eq_toText_iff_spells.mp rfl
  have hText : ∀ c ∈ secret.toText.toList,
      Json.escapeChar c = [c] ∧ Json.isSpace c = false ∧ c ≠ '\\' := by
    intro c hMem
    rcases hSpells.mem hMem with hLetter | rfl
    · obtain ⟨value, hValue⟩ := List.mem_iff_getElem?.mp hLetter
      obtain ⟨hBound, rfl⟩ := Base64.getElem?_alphabet.mp hValue
      exact hLetters ⟨value, hBound⟩
    · decide
  intro c hMem
  rw [Json.render, String.toList_ofList, toJson, Json.renderChars, Json.renderText,
    List.mem_append, List.mem_cons, List.mem_flatMap, List.mem_singleton] at hMem
  rcases hMem with (rfl | ⟨letter, hLetter, hEscape⟩) | rfl
  · decide
  · obtain ⟨hOwn, hPlain⟩ := hText letter hLetter
    rw [hOwn, List.mem_singleton] at hEscape
    rw [hEscape]
    exact hPlain
  · decide

/-- A secret is read back from its JSON text.  It is read from its text only, which is the one that
spells its bytes, and from its JSON value only.  A document that is read as the secret, and could
not be spelled in another way, is its JSON text. -/
theorem one_text_for_each_secret (secret : Secret) :
    (Json.parse? (Json.render secret.toJson)).bind ofJson? = some secret ∧
      (∀ text, ofText? text = some secret ↔ text = secret.toText) ∧
      (∀ text, text = secret.toText ↔ Base64.Spells text.toList secret.ciphertext) ∧
      (∀ value, ofJson? value = some secret ↔ value = secret.toJson) ∧
      ∀ document, Json.Plain document.toList ∧
          (Json.parse? document).bind ofJson? = some secret ↔
        document = Json.render secret.toJson := by
  have hRoundTrip : (Json.parse? (Json.render secret.toJson)).bind ofJson? = some secret :=
    parse?_bind_ofJson?.mpr (Json.parse?_render_text secret.toText)
  refine ⟨hRoundTrip, fun _ => ofText?_eq_some_iff, fun _ => eq_toText_iff_spells,
    fun _ => ofJson?_eq_some_iff, ?_⟩
  intro document
  constructor
  · rintro ⟨hPlain, hRead⟩
    exact (Json.parse?_eq_text_iff hPlain).mp (parse?_bind_ofJson?.mp hRead)
  · rintro rfl
    exact ⟨plain_render_toJson secret, hRoundTrip⟩

-- "YWI=" is the only text of two bytes: a set bit too many, no padding, a blank
example : ofText? "YWI=" = some ⟨[97, 98]⟩ ∧ ofText? "YWJ=" = none ∧ ofText? "YWI" = none ∧
    ofText? "YW I=" = none := by decide

end PgConsole.Secret
