import PgConsole.Json.Basic
import PgConsole.Text.Numeral

namespace PgConsole

/-!
# Rows of query results

Rows of the text protocol: named columns in order, each with a text or with no value. A
`DatabaseInfo` is what one row of the database catalogue says.
-/

/-- One row: column names with their values, in column order. -/
abbrev TextRow := List (String × Option String)

namespace TextRow

/-- The value of the first column with a name; nothing when there is none or it is null. -/
def get? (row : TextRow) (name : String) : Option String := (row.lookup name).join

/-- The value of the first column. -/
def first? (row : TextRow) : Option String := row.head?.bind Prod.snd

end TextRow

/-- What the catalogue says about one database. -/
structure DatabaseInfo where
  oid : UInt32
  name : String
  allowsConnections : Bool
  encoding : Option String
  canCreate : Bool
  lastSystemOid : Option UInt32
  deriving DecidableEq, Repr

namespace DatabaseInfo

/-- A 32-bit number written in a column. -/
def oidOf? (text : String) : Option UInt32 :=
  (Text.readNumeral? UInt32.size text.toList).map UInt32.ofNat

/-- Whether a column holds a true value. -/
def flagOf (row : TextRow) (name : String) : Bool :=
  row.get? name = some "t" || row.get? name = some "true"

/-- Read a row of the catalogue; oid and name have to be there. -/
def ofRow? (row : TextRow) : Option DatabaseInfo := do
  let oid ← (row.get? "did").bind oidOf?
  let name ← row.get? "datname"
  return {
    oid
    name
    allowsConnections := flagOf row "datallowconn"
    encoding := row.get? "serverencoding"
    canCreate := flagOf row "cancreate"
    lastSystemOid := (row.get? "datlastsysoid").bind oidOf? }

/-- A database as a JSON value. -/
def toJson (info : DatabaseInfo) : Json :=
  .object [
    ("did", .ofNat info.oid.toNat),
    ("datname", .text info.name),
    ("datallowconn", .bool info.allowsConnections),
    ("serverencoding", .ofOption .text info.encoding),
    ("cancreate", .bool info.canCreate),
    ("datlastsysoid", .ofOption (fun oid => .ofNat oid.toNat) info.lastSystemOid)]

end DatabaseInfo

end PgConsole
