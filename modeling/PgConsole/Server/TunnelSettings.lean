import PgConsole.Secret

namespace PgConsole

/-!
# SSH tunnel settings of a server

Where the bastion host is and how to authenticate there. The tunnel password is the SSH
password, or the passphrase of the key when authentication is by identity file.
-/

/-- How the tunnel authenticates. -/
inductive TunnelAuth where
  | password
  | identityFile (path : Option String)
  | agent
  deriving DecidableEq, Repr, Inhabited

namespace TunnelAuth

/-- The name of a method in stored data. -/
def kind : TunnelAuth → String
  | .password => "password"
  | .identityFile _ => "identity_file"
  | .agent => "agent"

/-- A method as a JSON value. -/
def toJson : TunnelAuth → Json
  | .identityFile path => .object [("kind", .text "identity_file"), ("path", .ofOption .text path)]
  | auth => .object [("kind", .text auth.kind)]

/-- The method of a given kind whose other fields are given by name. -/
def ofFields? (kind : String) (fields : List (String × Json)) : Option TunnelAuth :=
  match kind with
  | "password" => some .password
  | "identity_file" => (Json.optional fields "path" Json.text?).map .identityFile
  | "agent" => some .agent
  | _ => none

/-- Read a method from a JSON value: an object with its kind, or an array that starts with
the kind and holds nothing but the path after it. -/
def ofJson? : Json → Option TunnelAuth
  | .object fields => do
    let kind ← Json.required fields "kind" Json.text?
    ofFields? kind fields
  | .array [.text "password"] => some .password
  | .array [.text "agent"] => some .agent
  | .array [.text "identity_file", path] =>
    (Json.nullable Json.text? path).map .identityFile
  | _ => none

end TunnelAuth

/-- SSH tunnel parameters of a server. -/
structure TunnelSettings where
  host : String
  port : UInt16 := 22
  username : String
  auth : TunnelAuth := .password
  password : Option Secret := none
  deriving DecidableEq, Repr

namespace TunnelSettings

/-- Field names in their stored order. -/
def fieldNames : List String := ["host", "port", "username", "auth", "password"]

/-- Settings as a JSON value. -/
def toJson (tunnel : TunnelSettings) : Json :=
  .object [
    ("host", .text tunnel.host),
    ("port", .ofNat tunnel.port.toNat),
    ("username", .text tunnel.username),
    ("auth", tunnel.auth.toJson),
    ("password", .ofOption Secret.toJson tunnel.password)]

/-- Read settings from a JSON value. -/
def ofJson? (value : Json) : Option TunnelSettings := do
  let fields ← value.record? fieldNames
  return {
    host := ← Json.required fields "host" Json.text?
    port := ← Json.required fields "port" Json.uint16?
    username := ← Json.required fields "username" Json.text?
    auth := ← Json.required fields "auth" TunnelAuth.ofJson?
    password := ← Json.optional fields "password" Secret.ofJson? }

end TunnelSettings

end PgConsole
