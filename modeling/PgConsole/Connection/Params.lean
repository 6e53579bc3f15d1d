import PgConsole.Address
import PgConsole.Config
import PgConsole.Passfile
import PgConsole.Server.Identity

namespace PgConsole

/-!
# Connection parameters

Everything a database driver needs to open one session. With a tunnel the session dials the
tunnel's local end while the server's own name is kept for certificate checks. A password
that is not given is looked up in the identity's password file, under the server's own port.
-/

/-- Everything a driver needs to open one session. -/
structure ConnectParams where
  /-- Host name, also used to check certificates. -/
  host : String
  /-- The address that is dialled, when it differs from the host. -/
  hostaddr : Option IpAddress
  port : UInt16
  database : String
  user : String
  password : Option String
  role : Option String
  ssl : SslSettings
  applicationName : String
  /-- Seconds before a connection attempt is given up. -/
  timeout : Option UInt32
  deriving DecidableEq, Repr

namespace ConnectParams

/-- The host name of an identity, or its address when it has no name. -/
def hostOf (identity : ServerIdentity) : String :=
  if identity.host.isEmpty then identity.hostaddr.getD "" else identity.host

/-- The password from the identity's password file. `passfileText` gives the text of a
readable file. -/
def passfilePassword (passfileText : String → Option String) (identity : ServerIdentity)
    (database : String) : Option String :=
  (identity.passfile.bind passfileText).bind
    (Passfile.lookup ⟨hostOf identity, identity.port, database, identity.username⟩)

/-- The timeout for an identity: its own, or the configured one when it has none. -/
def timeoutOf (identity : ServerIdentity) (config : ConsoleConfig) : Option UInt32 :=
  let seconds :=
    if identity.connectTimeoutSecs = 0 then config.defaultConnectTimeoutSecs
    else identity.connectTimeoutSecs
  if seconds = 0 then none else some seconds

/-- Parameters for one database of a server. -/
def forIdentity (passfileText : String → Option String) (config : ConsoleConfig)
    (identity : ServerIdentity) (database : String) (password : Option String)
    (tunnelPort : Option UInt16) : ConnectParams where
  host := hostOf identity
  hostaddr :=
    match tunnelPort with
    | some _ => some .loopback
    | none => identity.hostaddr.bind IpAddress.parse?
  port := tunnelPort.getD identity.port
  database
  user := identity.username
  password := password.or (passfilePassword passfileText identity database)
  role := identity.role
  ssl := identity.ssl
  applicationName := config.applicationName
  timeout := timeoutOf identity config

/-- The diagnostic form, which never shows the password. -/
def debug (params : ConnectParams) : String :=
  Text.quoteRecord "ConnectParams" [
    ("host", Text.quote params.host),
    ("hostaddr", Text.quoteOption IpAddress.toText params.hostaddr),
    ("port", Text.ofNat params.port.toNat),
    ("database", Text.quote params.database),
    ("user", Text.quote params.user),
    ("password", Text.quoteOption (fun _ => Text.quote "<redacted>") params.password),
    ("ssl_mode", params.ssl.mode.debug)]

end ConnectParams

/-- A role name as a quoted identifier: every double quote is written twice. -/
def quoteIdentifier (name : String) : String :=
  String.ofList
    ('"' :: name.toList.flatMap (fun c => if c = '"' then ['"', '"'] else [c]) ++ ['"'])

/-- The statement that assumes a role. -/
def setRole (role : String) : String := "SET ROLE " ++ quoteIdentifier role

end PgConsole
