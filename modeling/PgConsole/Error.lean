import PgConsole.Text.Numeral

namespace PgConsole

/-!
# Errors of the console

One type for everything that can go wrong between a request and a database, together with
what a user is shown: a category, a message, a hint and, for some errors, a detail. Three
errors ask the user to reconnect instead of reporting a failure.

Errors that an outside component reported carry `caused := true`; the component's own report
is not kept.
-/

/-- What went wrong. -/
inductive Error where
  /-- The key that decrypts stored secrets is not available in this session. -/
  | cryptKeyMissing
  /-- There is no way to the database any more. -/
  | connectionLost (server : Int32) (database connectionId : Option String)
  /-- The SSH tunnel should be alive and is not. -/
  | tunnelLost (host : String) (reason : Option String)
  /-- Connecting to the database failed. -/
  | connection (message : String) (caused : Bool)
  /-- The server or the cipher refused the credentials. -/
  | authentication (message : String) (hint : Option String)
  /-- Setting up the SSH tunnel failed. -/
  | ssh (message : String) (caused : Bool)
  /-- The server refused a statement. -/
  | query (message : String) (detail hint code : Option String)
  /-- No database has the given oid. -/
  | databaseNotFound (oid : UInt32)
  /-- The server version was needed before any connection succeeded. -/
  | versionUnavailable
  /-- A local file or the session state is unusable. -/
  | storage (message : String) (hint : Option String) (caused : Bool)
  /-- The configuration is unusable. -/
  | config (message : String)
  /-- Launching or watching a background job failed. -/
  | process (message : String) (caused : Bool)
  /-- Something that should not happen. -/
  | internal (message : String)
  deriving DecidableEq, Repr, Inhabited

namespace Error

/-- The category under which an error is reported. -/
def category : Error → String
  | .cryptKeyMissing => "CryptKey"
  | .connectionLost .. => "ConnectionLost"
  | .tunnelLost .. => "SshTunnelLost"
  | .connection .. => "Connection"
  | .authentication .. => "Authentication"
  | .ssh .. => "SSH"
  | .query .. => "Query"
  | .databaseNotFound .. => "Database"
  | .versionUnavailable => "Server"
  | .storage .. => "Storage"
  | .config .. => "Config"
  | .process .. => "Process"
  | .internal .. => "Internal"

/-- The category as a heading. -/
def heading (error : Error) : String := error.category ++ " Error"

/-- The message shown to the user. -/
def message : Error → String
  | .cryptKeyMissing => "Crypt key is missing"
  | .connectionLost server _ _ => "Connection to server " ++ Text.ofInt server.toInt ++ " lost"
  | .tunnelLost host _ => "SSH tunnel to " ++ host ++ " lost"
  | .connection message _ => "Connection error: " ++ message
  | .authentication message _ => "Authentication error: " ++ message
  | .ssh message _ => "SSH error: " ++ message
  | .query message _ _ _ => message
  | .databaseNotFound oid =>
    "Could not find the specified database (oid " ++ Text.ofNat oid.toNat ++ ")"
  | .versionUnavailable => "Server version information is not available"
  | .storage message _ _ => "Storage error: " ++ message
  | .config message => "Config error: " ++ message
  | .process message _ => "Process error: " ++ message
  | .internal message => "Internal error: " ++ message

/-- What the user can do about an error. -/
def hint : Error → Option String
  | .cryptKeyMissing => some "Enter the master password to unlock saved passwords"
  | .connectionLost .. => some "Reconnect to the server"
  | .tunnelLost .. => some "Re-establish the SSH tunnel, the tunnel password may be required"
  | .connection .. => some "Check that the database server is running"
  | .authentication _ hint => hint
  | .ssh .. => some "Check the SSH host, credentials and key permissions"
  | .query _ _ hint _ => hint
  | .databaseNotFound .. => some "Refresh the database list"
  | .versionUnavailable => some "Connect to the server first"
  | .storage _ hint _ => hint
  | .config _ => none
  | .process .. => some "Check the job's log directory"
  | .internal _ => some "Please report this issue"

/-- Technical detail for those who ask for it. -/
def detail : Error → Option String
  | .query _ detail _ code =>
    let parts := (code.map ("Code: " ++ ·)).toList ++ (detail.map ("Detail: " ++ ·)).toList
    if parts.isEmpty then none else some ("\n".intercalate parts)
  | .tunnelLost _ reason => reason
  | .connectionLost _ _ (some connectionId) => some ("Connection: " ++ connectionId)
  | .connectionLost _ (some database) none => some ("Database: " ++ database)
  | _ => none

/-- The five-character code that the server gave for a refused statement. -/
def code? : Error → Option String
  | .query _ _ _ code => code
  | _ => none

/-- Whether another component's report stands behind the error. -/
def hasCause : Error → Bool
  | .connection _ caused => caused
  | .ssh _ caused => caused
  | .storage _ _ caused => caused
  | .process _ caused => caused
  | _ => false

/-- Whether the user has to supply the master password. -/
def isCryptKeyMissing : Error → Bool
  | .cryptKeyMissing => true
  | _ => false

/-- Whether a tunnel was lost. -/
def isTunnelLost : Error → Bool
  | .tunnelLost .. => true
  | _ => false

/-- Whether to ask for a reconnect instead of reporting a failure. -/
def needsReconnect : Error → Bool
  | .cryptKeyMissing => true
  | .connectionLost .. => true
  | .tunnelLost .. => true
  | _ => false

/-- A file could not be read or written. -/
def file (message : String) : Error :=
  .storage message (some "Check file permissions and disk space") true

/-- Stored data could not be read as JSON. -/
def malformedData : Error :=
  .storage "JSON error: <detail>" (some "Data may be corrupted") true

/-- What a database server says about a failure. -/
structure ServerReport where
  code : String
  message : String
  detail : Option String
  hint : Option String
  deriving DecidableEq, Repr

/-- The error for a server's report, by its code: refused credentials, a lost connection, or
a refused statement. -/
def ofReport (report : ServerReport) : Error :=
  if report.code = "28P01" then
    .authentication report.message (some "Invalid password - check your credentials")
  else if report.code = "28000" then
    .authentication report.message
      (some "Authentication failed - check username and permissions")
  else if ['0', '8'].isPrefixOf report.code.toList then .connection report.message true
  else .query report.message report.detail report.hint (some report.code)

end Error

end PgConsole
