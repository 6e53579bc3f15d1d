import PgConsole.Json.Basic
import PgConsole.Text.Blank

namespace PgConsole

/-!
# SSL settings of a server

The SSL mode with its spellings, and the certificate files that go with it.
-/

/-- How much protection a database connection asks for. -/
inductive SslMode where
  | disable
  | allow
  | prefer
  | require
  | verifyCa
  | verifyFull
  deriving DecidableEq, Repr, Inhabited

namespace SslMode

/-- The spelling of a mode in connection strings and stored data. -/
def toText : SslMode → String
  | .disable => "disable"
  | .allow => "allow"
  | .prefer => "prefer"
  | .require => "require"
  | .verifyCa => "verify-ca"
  | .verifyFull => "verify-full"

/-- Read a mode leniently: any case, an underscore for the hyphen, and `prefer` for anything
unknown. No character outside ASCII folds to a letter of a mode's name, so ASCII case folding
is enough. -/
def parse (text : String) : SslMode :=
  match String.ofList (Text.toLowerAscii text.toList) with
  | "disable" => .disable
  | "allow" => .allow
  | "require" => .require
  | "verify-ca" => .verifyCa
  | "verify_ca" => .verifyCa
  | "verify-full" => .verifyFull
  | "verify_full" => .verifyFull
  | _ => .prefer

/-- Read a mode by its exact spelling. -/
def ofText? (text : String) : Option SslMode :=
  match text with
  | "disable" => some .disable
  | "allow" => some .allow
  | "prefer" => some .prefer
  | "require" => some .require
  | "verify-ca" => some .verifyCa
  | "verify-full" => some .verifyFull
  | _ => none

/-- A mode as a JSON value. -/
def toJson (mode : SslMode) : Json := .text mode.toText

/-- Read a mode from a JSON value: its spelling, or an object with that one field set to
`null`. -/
def ofJson? : Json → Option SslMode
  | .text text => ofText? text
  | .object [(text, .null)] => ofText? text
  | _ => none

/-- The name of a mode in diagnostic views. -/
def debug : SslMode → String
  | .disable => "Disable"
  | .allow => "Allow"
  | .prefer => "Prefer"
  | .require => "Require"
  | .verifyCa => "VerifyCa"
  | .verifyFull => "VerifyFull"

/-- Whether a connection in this mode first asks the server for encryption. -/
def asksForTls (mode : SslMode) : Bool := mode != .disable

/-- Whether a connection in this mode goes on in plain text when the server has no
encryption. -/
def acceptsPlain : SslMode → Bool
  | .disable => true
  | .allow => true
  | .prefer => true
  | _ => false

end SslMode

/-- SSL parameters of a server; the files are given by their paths. -/
structure SslSettings where
  mode : SslMode := .prefer
  rootCert : Option String := none
  cert : Option String := none
  key : Option String := none
  crl : Option String := none
  compression : Bool := false
  deriving DecidableEq, Repr, Inhabited

namespace SslSettings

/-- Field names in their stored order. -/
def fieldNames : List String := ["mode", "root_cert", "cert", "key", "crl", "compression"]

/-- Settings as a JSON value. -/
def toJson (ssl : SslSettings) : Json :=
  .object [
    ("mode", ssl.mode.toJson),
    ("root_cert", .ofOption .text ssl.rootCert),
    ("cert", .ofOption .text ssl.cert),
    ("key", .ofOption .text ssl.key),
    ("crl", .ofOption .text ssl.crl),
    ("compression", .bool ssl.compression)]

/-- Read settings from a JSON value. -/
def ofJson? (value : Json) : Option SslSettings := do
  let fields ← value.record? fieldNames
  return {
    mode := ← Json.required fields "mode" SslMode.ofJson?
    rootCert := ← Json.optional fields "root_cert" Json.text?
    cert := ← Json.optional fields "cert" Json.text?
    key := ← Json.optional fields "key" Json.text?
    crl := ← Json.optional fields "crl" Json.text?
    compression := ← Json.required fields "compression" Json.bool? }

end SslSettings

end PgConsole
