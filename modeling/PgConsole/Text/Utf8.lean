namespace PgConsole.Text.Utf8

/-!
# UTF-8

Texts as bytes and bytes as texts. `encode` and `decode?` are exact: `decode?` answers only on
well-formed input. `decodeLossy` always answers and puts one replacement character in the
place of every maximal ill-formed sequence, which is the longest run of bytes that could
still have been the start of a character.
-/

/-- The UTF-8 bytes of a text. -/
def encode (text : String) : List UInt8 :=
  text.toUTF8.data.toList

/-- The text that a byte sequence spells, if it is well-formed. -/
def decode? (bytes : List UInt8) : Option String :=
  String.fromUTF8? ⟨bytes.toArray⟩

/-- What a decoder still expects: nothing, or some continuation bytes of a character whose
bits read so far are `value`. The next byte must lie between `low` and `high`, and `more`
further ones follow it. -/
inductive Pending where
  | none
  | tail (more : Nat) (low high : UInt8) (value : Nat)
  deriving DecidableEq, Repr

/-- What a byte at the start of a character announces. -/
inductive Lead where
  | whole (c : Char)
  | open (pending : Pending)
  | invalid
  deriving DecidableEq, Repr

/-- Classify a byte at the start of a character. -/
def lead (byte : UInt8) : Lead :=
  let code := byte.toNat
  if code < 0x80 then .whole (Char.ofNat code)
  else if code < 0xc2 then .invalid
  else if code < 0xe0 then .open (.tail 0 0x80 0xbf (code - 0xc0))
  else if code = 0xe0 then .open (.tail 1 0xa0 0xbf 0)
  else if code = 0xed then .open (.tail 1 0x80 0x9f 0xd)
  else if code < 0xf0 then .open (.tail 1 0x80 0xbf (code - 0xe0))
  else if code = 0xf0 then .open (.tail 2 0x90 0xbf 0)
  else if code < 0xf4 then .open (.tail 2 0x80 0xbf (code - 0xf0))
  else if code = 0xf4 then .open (.tail 2 0x80 0x8f 4)
  else .invalid

/-- The units of a byte sequence in order: a character, or `none` for a maximal ill-formed
sequence. `done` holds the units found before, the last one first. -/
def unitsFrom (done : List (Option Char)) : Pending → List UInt8 → List (Option Char)
  | .none, [] => done.reverse
  | .tail _ _ _ _, [] => (none :: done).reverse
  | .none, byte :: rest =>
    match lead byte with
    | .whole c => unitsFrom (some c :: done) .none rest
    | .open pending => unitsFrom done pending rest
    | .invalid => unitsFrom (none :: done) .none rest
  | .tail more low high value, byte :: rest =>
    if low ≤ byte && byte ≤ high then
      let next := value * 64 + (byte.toNat - 0x80)
      match more with
      | 0 => unitsFrom (some (Char.ofNat next) :: done) .none rest
      | more + 1 => unitsFrom done (.tail more 0x80 0xbf next) rest
    else
      match lead byte with
      | .whole c => unitsFrom (some c :: none :: done) .none rest
      | .open pending => unitsFrom (none :: done) pending rest
      | .invalid => unitsFrom (none :: none :: done) .none rest

/-- The units of a byte sequence in order. -/
def units (bytes : List UInt8) : List (Option Char) := unitsFrom [] .none bytes

/-- The character that stands for an ill-formed sequence. -/
def replacement : Char := Char.ofNat 0xfffd

/-- The text of a byte sequence, with replacement characters where it is ill-formed. -/
def decodeLossy (bytes : List UInt8) : String :=
  String.ofList ((units bytes).map (Option.getD · replacement))

end PgConsole.Text.Utf8
