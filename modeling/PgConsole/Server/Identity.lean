import PgConsole.Server.Ssl
import PgConsole.Server.TunnelSettings

namespace PgConsole

/-!
# Server identities

Everything needed to reach one registered server. An identity is replaced as a whole and
never edited; `IdentityDraft` collects the parts of a new one and `IdentityDraft.build`
checks it. `ServerIdentity.fault?` names the first rule that an identity breaks.
-/

/-- Everything needed to reach one registered server. -/
structure ServerIdentity where
  id : Int32
  name : String
  host : String
  hostaddr : Option String := none
  port : UInt16 := 5432
  maintenanceDb : String := "postgres"
  username : String
  role : Option String := none
  password : Option Secret := none
  ssl : SslSettings := {}
  service : Option String := none
  passfile : Option String := none
  connectTimeoutSecs : UInt32 := 0
  tunnel : Option TunnelSettings := none
  deriving DecidableEq, Repr

/-- A rule that an identity breaks. -/
inductive IdentityFault where
  | noAddress
  | longDatabase
  | noUsername
  | noTunnelHost
  | noIdentityFile
  deriving DecidableEq, Repr

/-- The wording of a broken rule. -/
def IdentityFault.message : IdentityFault → String
  | .noAddress => "Host, host address or service is required"
  | .longDatabase => "Maintenance database name must be at most 63 characters"
  | .noUsername => "Username is required"
  | .noTunnelHost => "Tunnel host is required"
  | .noIdentityFile => "Identity file is required for key-based SSH authentication"

namespace ServerIdentity

/-- Whether connections go through an SSH tunnel. -/
def usesTunnel (identity : ServerIdentity) : Bool := identity.tunnel.isSome

/-- The password for the SSH tunnel, if tunnel and password are set. -/
def tunnelPassword (identity : ServerIdentity) : Option Secret :=
  identity.tunnel.bind TunnelSettings.password

/-- Whether connecting may need the decryption key. -/
def hasStoredSecrets (identity : ServerIdentity) : Bool :=
  identity.password.isSome || identity.tunnelPassword.isSome

/-- The maintenance database; an empty name means none. -/
def maintenanceDatabase (identity : ServerIdentity) : Option String :=
  if identity.maintenanceDb.isEmpty then none else some identity.maintenanceDb

/-- The connection string for display, without any secret. -/
def displayUrl (identity : ServerIdentity) : String :=
  "postgresql://" ++ identity.username ++ "@" ++ identity.host ++ ":" ++
    Text.ofNat identity.port.toNat ++ "/" ++ identity.maintenanceDb

/-- The first rule that tunnel settings break. -/
def tunnelFault? (tunnel : TunnelSettings) : Option IdentityFault :=
  if tunnel.host.isEmpty then some .noTunnelHost
  else if tunnel.auth = .identityFile none then some .noIdentityFile
  else none

/-- The first rule that an identity breaks. The database name is measured in bytes. -/
def fault? (identity : ServerIdentity) : Option IdentityFault :=
  if identity.host.isEmpty && identity.hostaddr.isNone && identity.service.isNone then
    some .noAddress
  else if 63 < identity.maintenanceDb.utf8ByteSize then some .longDatabase
  else if identity.username.isEmpty && identity.service.isNone then some .noUsername
  else identity.tunnel.bind tunnelFault?

/-- Field names in their stored order. -/
def fieldNames : List String :=
  ["id", "name", "host", "hostaddr", "port", "maintenance_db", "username", "role", "password",
    "ssl", "service", "passfile", "connect_timeout_secs", "tunnel"]

/-- An identity as a JSON value. -/
def toJson (identity : ServerIdentity) : Json :=
  .object [
    ("id", .integer identity.id.toInt),
    ("name", .text identity.name),
    ("host", .text identity.host),
    ("hostaddr", .ofOption .text identity.hostaddr),
    ("port", .ofNat identity.port.toNat),
    ("maintenance_db", .text identity.maintenanceDb),
    ("username", .text identity.username),
    ("role", .ofOption .text identity.role),
    ("password", .ofOption Secret.toJson identity.password),
    ("ssl", identity.ssl.toJson),
    ("service", .ofOption .text identity.service),
    ("passfile", .ofOption .text identity.passfile),
    ("connect_timeout_secs", .ofNat identity.connectTimeoutSecs.toNat),
    ("tunnel", .ofOption TunnelSettings.toJson identity.tunnel)]

/-- Read an identity from a JSON value. Reading checks types and ranges, not the rules of
`fault?`. -/
def ofJson? (value : Json) : Option ServerIdentity := do
  let fields ← value.record? fieldNames
  return {
    id := ← Json.required fields "id" Json.int32?
    name := ← Json.required fields "name" Json.text?
    host := ← Json.required fields "host" Json.text?
    hostaddr := ← Json.optional fields "hostaddr" Json.text?
    port := ← Json.required fields "port" Json.uint16?
    maintenanceDb := ← Json.required fields "maintenance_db" Json.text?
    username := ← Json.required fields "username" Json.text?
    role := ← Json.optional fields "role" Json.text?
    password := ← Json.optional fields "password" Secret.ofJson?
    ssl := ← Json.required fields "ssl" SslSettings.ofJson?
    service := ← Json.optional fields "service" Json.text?
    passfile := ← Json.optional fields "passfile" Json.text?
    connectTimeoutSecs := ← Json.required fields "connect_timeout_secs" Json.uint32?
    tunnel := ← Json.optional fields "tunnel" TunnelSettings.ofJson? }

end ServerIdentity

/-- The parts of an identity that is being put together. -/
structure IdentityDraft where
  id : Int32
  name : Option String := none
  host : Option String := none
  hostaddr : Option String := none
  /-- Zero stands for the standard port. -/
  port : UInt16 := 0
  maintenanceDb : Option String := none
  username : Option String := none
  role : Option String := none
  password : Option Secret := none
  ssl : SslSettings := {}
  service : Option String := none
  passfile : Option String := none
  connectTimeoutSecs : UInt32 := 0
  tunnel : Option TunnelSettings := none
  deriving DecidableEq, Repr

namespace IdentityDraft

/-- The identity of a draft with every default filled in. -/
def identity (draft : IdentityDraft) : ServerIdentity :=
  let host := draft.host.getD ""
  { id := draft.id
    name := draft.name.getD host
    host
    hostaddr := draft.hostaddr
    port := if draft.port = 0 then 5432 else draft.port
    maintenanceDb := draft.maintenanceDb.getD "postgres"
    username := draft.username.getD ""
    role := draft.role
    password := draft.password
    ssl := draft.ssl
    service := draft.service
    passfile := draft.passfile
    connectTimeoutSecs := draft.connectTimeoutSecs
    tunnel := draft.tunnel }

/-- The identity of a draft, if it breaks no rule. -/
def build (draft : IdentityDraft) : Except IdentityFault ServerIdentity :=
  match draft.identity.fault? with
  | some fault => .error fault
  | none => .ok draft.identity

end IdentityDraft

end PgConsole
