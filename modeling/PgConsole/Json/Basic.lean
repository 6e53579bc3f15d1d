import PgConsole.SortedMap

namespace PgConsole

/-!
# JSON values

The data model of the session store, the configuration file and the status file. Whole
numbers that fit in 64 bits are integers; every other number keeps its written form and is
never used as a quantity. Object fields stay in the order in which they were written.

`Json.record?` reads an object, or an array with one member per field, as a record. The
field readers after it distinguish a missing field from one that has the wrong type.
-/

/-- A JSON value. -/
inductive Json where
  | null
  | bool (value : Bool)
  | integer (value : Int)
  /-- A number that is not a 64-bit integer, as written. -/
  | real (written : String)
  | text (value : String)
  /-- A string that spells half of a surrogate pair: it can be skipped but has no text. -/
  | illFormed
  | array (items : List Json)
  | object (fields : List (String × Json))
  deriving Repr, Inhabited

namespace Json

/-- A whole number as a value. -/
def ofNat (value : Nat) : Json := .integer (Int.ofNat value)

/-- An optional value, `null` when it is absent. -/
def ofOption {α : Type} (present : α → Json) : Option α → Json
  | none => .null
  | some value => present value

/-- The truth value of a value. -/
def bool? : Json → Option Bool
  | .bool value => some value
  | _ => none

/-- The text of a value. -/
def text? : Json → Option String
  | .text value => some value
  | _ => none

/-- The whole number of a value, when it lies below `bound`. -/
def natBelow? (bound : Nat) : Json → Option Nat
  | .integer (.ofNat value) => if value < bound then some value else none
  | _ => none

/-- A 16-bit number. -/
def uint16? (value : Json) : Option UInt16 := (value.natBelow? UInt16.size).map UInt16.ofNat

/-- A 32-bit number. -/
def uint32? (value : Json) : Option UInt32 := (value.natBelow? UInt32.size).map UInt32.ofNat

/-- A 64-bit number. -/
def uint64? (value : Json) : Option UInt64 := (value.natBelow? UInt64.size).map UInt64.ofNat

/-- A signed 32-bit number. -/
def int32? : Json → Option Int32
  | .integer value =>
    if Int32.minValue.toInt ≤ value ∧ value ≤ Int32.maxValue.toInt then
      some (Int32.ofInt value)
    else none
  | _ => none

/-- The items of an array. -/
def array? : Json → Option (List Json)
  | .array items => some items
  | _ => none

/-- The fields of an object. -/
def object? : Json → Option (List (String × Json))
  | .object fields => some fields
  | _ => none

/-- The field of an object under a name; nothing for other values. -/
def get? (value : Json) (name : String) : Option Json :=
  match value with
  | .object fields => fields.lookup name
  | _ => none

/-- Whether no field with one of the given names is written twice. -/
def unrepeated (names : List String) (fields : List (String × Json)) : Bool :=
  names.all fun name => (fields.filter fun field => field.1 == name).length ≤ 1

/-- The fields of a record with the given field names. An object is taken as it is, provided
that none of its named fields is repeated; an array must give exactly one item per name. -/
def record? (names : List String) : Json → Option (List (String × Json))
  | .object fields => if unrepeated names fields then some fields else none
  | .array items => if items.length = names.length then some (names.zip items) else none
  | _ => none

/-- Like `record?`, for a record all of whose fields have defaults: an array may be short. -/
def defaultedRecord? (names : List String) : Json → Option (List (String × Json))
  | .array items => if items.length ≤ names.length then some (names.zip items) else none
  | value => record? names value

/-- A field that has to be present. -/
def required {α : Type} (fields : List (String × Json)) (name : String) (read : Json → Option α) :
    Option α :=
  (fields.lookup name).bind read

/-- A value that may be `null`. -/
def nullable {α : Type} (read : Json → Option α) : Json → Option (Option α)
  | .null => some none
  | value => (read value).map some

/-- A field that may be absent or `null`. -/
def optional {α : Type} (fields : List (String × Json)) (name : String) (read : Json → Option α) :
    Option (Option α) :=
  match fields.lookup name with
  | none => some none
  | some value => nullable read value

/-- A field that takes a default when it is absent; `null` does not count as absent. -/
def defaulted {α : Type} (fields : List (String × Json)) (name : String) (value : α)
    (read : Json → Option α) : Option α :=
  match fields.lookup name with
  | none => some value
  | some written => read written

end Json

end PgConsole
