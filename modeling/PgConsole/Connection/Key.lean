import PgConsole.Text.Numeral
import PgConsole.Text.Quoted
import PgConsole.Text.Search

namespace PgConsole

/-!
# Connection keys

A connection is registered under an explicit number or under the name of its database.
Explicit numbers come first, in numeric order; names follow in text order. The text form is
`CONN:` with the number or `DB:` with the name, and `ConnectionKey.parse` reads it.
-/

/-- The key of a connection in a registry. -/
inductive ConnectionKey where
  | conn (id : UInt64)
  | db (name : String)
  deriving DecidableEq, Repr

/-- Why a text is not a connection key. -/
inductive KeyError where
  | unknown (text : String)
  | invalidId (text : String) (cause : Text.NumeralError)
  deriving DecidableEq, Repr

/-- The wording of a key error. -/
def KeyError.message : KeyError → String
  | .unknown text => "Unknown connection key " ++ Text.quote text
  | .invalidId text cause =>
    "Invalid connection id in key " ++ Text.quote text ++ ": " ++ cause.message

namespace ConnectionKey

/-- The key of a request: an explicit number wins over the database. -/
def ofRequest (connectionId : Option UInt64) (database : String) : ConnectionKey :=
  match connectionId with
  | some id => .conn id
  | none => .db database

/-- Whether the key is an explicit number. -/
def isExplicit : ConnectionKey → Bool
  | .conn _ => true
  | .db _ => false

/-- The explicit number of a key. -/
def id? : ConnectionKey → Option UInt64
  | .conn id => some id
  | .db _ => none

/-- The text form of a key. -/
def toText : ConnectionKey → String
  | .conn id => "CONN:" ++ Text.ofNat id.toNat
  | .db name => "DB:" ++ name

/-- Read the text form of a key. -/
def parse (text : String) : Except KeyError ConnectionKey :=
  match Text.stripStart? ['C', 'O', 'N', 'N', ':'] text.toList with
  | some numeral =>
    match Text.readNumeral UInt64.size numeral with
    | .ok id => .ok (.conn (UInt64.ofNat id))
    | .error cause => .error (.invalidId text cause)
  | none =>
    match Text.stripStart? ['D', 'B', ':'] text.toList with
    | some name => .ok (.db (String.ofList name))
    | none => .error (.unknown text)

/-- Order of keys: numbers before names. -/
def compareKeys : ConnectionKey → ConnectionKey → Ordering
  | .conn left, .conn right => compare left right
  | .conn _, .db _ => .lt
  | .db _, .conn _ => .gt
  | .db left, .db right => compare left right

instance : Ord ConnectionKey := ⟨compareKeys⟩

instance : Std.TransOrd ConnectionKey where
  eq_swap {left right} :=
    match left, right with
    | .conn left, .conn right =>
    (Std.OrientedCmp.eq_swap : compare left right = (compare right left).swap)
    | .conn _, .db _ => rfl
    | .db _, .conn _ => rfl
    | .db left, .db right =>
    (Std.OrientedCmp.eq_swap : compare left right = (compare right left).swap)
  isLE_trans {first second third} hFirst hSecond :=
    match first, second, third, hFirst, hSecond with
    | .conn first, .conn second, .conn third, hFirst, hSecond =>
      have hFirst : (compare first second).isLE := hFirst
      have hSecond : (compare second third).isLE := hSecond
      (Std.TransCmp.isLE_trans hFirst hSecond : (compare first third).isLE)
    | .db first, .db second, .db third, hFirst, hSecond =>
      have hFirst : (compare first second).isLE := hFirst
      have hSecond : (compare second third).isLE := hSecond
      (Std.TransCmp.isLE_trans hFirst hSecond : (compare first third).isLE)
    | .conn _, .conn _, .db _, _, _ => rfl
    | .conn _, .db _, .db _, _, _ => rfl
    | .conn _, .db _, .conn _, _, hSecond => nomatch hSecond
    | .db _, .conn _, _, hFirst, _ => nomatch hFirst
    | .db _, .db _, .conn _, _, hSecond => nomatch hSecond

instance : Std.LawfulEqOrd ConnectionKey where
  compare_self {key} :=
    match key with
    | .conn id => (Std.ReflCmp.compare_self : compare id id = .eq)
    | .db name => (Std.ReflCmp.compare_self : compare name name = .eq)
  eq_of_compare {left right} h :=
    match left, right, h with
    | .conn left, .conn right, h =>
      have h : compare left right = .eq := h
      congrArg conn (Std.LawfulEqCmp.eq_of_compare h)
    | .conn _, .db _, h => nomatch h
    | .db _, .conn _, h => nomatch h
    | .db left, .db right, h =>
      have h : compare left right = .eq := h
      congrArg db (Std.LawfulEqCmp.eq_of_compare h)

/-- The diagnostic form. -/
def debug : ConnectionKey → String
  | .conn id => "Conn(" ++ Text.ofNat id.toNat ++ ")"
  | .db name => "Db(" ++ Text.quote name ++ ")"

end ConnectionKey

end PgConsole
