import PgConsole.Error
import PgConsole.FileTree
import PgConsole.Json.Parser
import PgConsole.Text.Blank
import PgConsole.Text.Quoted

namespace PgConsole

/-!
# Configuration of the console

Settings come from defaults, then from an optional JSON file, then from environment
variables. The log and job directories follow the data directory as long as they are the
ones derived from it.
-/

/-- Site-wide settings. -/
structure ConsoleConfig where
  /-- Encrypted passwords may be kept in session snapshots. -/
  storeSecretsInSession : Bool
  /-- SSH tunnels are honoured at all. -/
  supportSshTunnel : Bool
  /-- The name under which the console introduces itself to servers. -/
  applicationName : String
  /-- The timeout for servers that set none; zero means none. -/
  defaultConnectTimeoutSecs : UInt32
  dataDir : String
  logDir : String
  jobsDir : String
  executorPath : String
  deriving DecidableEq, Repr

namespace ConsoleConfig

/-- The log directory that belongs to a data directory. -/
def logsUnder (dataDir : String) : String := Path.join dataDir "logs"

/-- The job directory that belongs to a data directory. -/
def jobsUnder (dataDir : String) : String := Path.join dataDir "jobs"

/-- The default settings, for a user's data directory and an executor program. -/
def standard (dataHome executorPath : String) : ConsoleConfig :=
  let dataDir := Path.join dataHome "pgdeck"
  { storeSecretsInSession := true
    supportSshTunnel := true
    applicationName := "pgdeck"
    defaultConnectTimeoutSecs := 10
    dataDir
    logDir := logsUnder dataDir
    jobsDir := jobsUnder dataDir
    executorPath }

/-- Field names in their stored order. -/
def fieldNames : List String :=
  ["store_secrets_in_session", "support_ssh_tunnel", "application_name",
    "default_connect_timeout_secs", "data_dir", "log_dir", "jobs_dir", "executor_path"]

/-- Settings as a JSON value. -/
def toJson (config : ConsoleConfig) : Json :=
  .object [
    ("store_secrets_in_session", .bool config.storeSecretsInSession),
    ("support_ssh_tunnel", .bool config.supportSshTunnel),
    ("application_name", .text config.applicationName),
    ("default_connect_timeout_secs", .ofNat config.defaultConnectTimeoutSecs.toNat),
    ("data_dir", .text config.dataDir),
    ("log_dir", .text config.logDir),
    ("jobs_dir", .text config.jobsDir),
    ("executor_path", .text config.executorPath)]

/-- Read settings from a JSON value; what is missing is taken from `base`. -/
def ofJson? (base : ConsoleConfig) (value : Json) : Option ConsoleConfig := do
  let fields ← value.defaultedRecord? fieldNames
  return {
    storeSecretsInSession :=
      ← Json.defaulted fields "store_secrets_in_session" base.storeSecretsInSession Json.bool?
    supportSshTunnel :=
      ← Json.defaulted fields "support_ssh_tunnel" base.supportSshTunnel Json.bool?
    applicationName := ← Json.defaulted fields "application_name" base.applicationName Json.text?
    defaultConnectTimeoutSecs :=
      ← Json.defaulted fields "default_connect_timeout_secs" base.defaultConnectTimeoutSecs
        Json.uint32?
    dataDir := ← Json.defaulted fields "data_dir" base.dataDir Json.text?
    logDir := ← Json.defaulted fields "log_dir" base.logDir Json.text?
    jobsDir := ← Json.defaulted fields "jobs_dir" base.jobsDir Json.text?
    executorPath := ← Json.defaulted fields "executor_path" base.executorPath Json.text? }

/-- The file could not be read. -/
def unreadable (path : String) (cause : SystemError) : Error :=
  .config ("Failed to read " ++ path ++ ": " ++ cause.message)

/-- The file does not hold settings. -/
def invalid (path : String) : Error :=
  .config ("Invalid config " ++ path ++ ": <detail>")

/-- Read a JSON file; missing fields keep the values of `base`. -/
def fromFile (base : ConsoleConfig) (tree : FileTree) (path : String) :
    Except Error ConsoleConfig :=
  match tree.readText path with
  | .error cause => .error (unreadable path cause)
  | .ok text =>
    match (Json.parse? text).bind (ofJson? base) with
    | none => .error (invalid path)
    | some config => .ok config

/-- Read the word for a truth value in any case, with blanks around it. -/
def switch? (word : String) : Option Bool :=
  match String.ofList (Text.toLowerAscii (Text.trim word.toList)) with
  | "1" => some true
  | "true" => some true
  | "yes" => some true
  | "on" => some true
  | "0" => some false
  | "false" => some false
  | "no" => some false
  | "off" => some false
  | _ => none

/-- A variable that should hold a truth value. -/
def readSwitch (name word : String) : Except Error Bool :=
  match switch? word with
  | some value => .ok value
  | none => .error (.config (name ++ " must be a boolean, got " ++ Text.quote word))

/-- A timeout written in a variable. -/
def readTimeout (word : String) : Except Error UInt32 :=
  match Text.readNumeral? UInt32.size (Text.trim word.toList) with
  | some seconds => .ok (UInt32.ofNat seconds)
  | none => .error (.config ("PGDECK_CONNECT_TIMEOUT must be a number, got " ++ Text.quote word))

/-- Move the data directory; derived directories move with it. -/
def moveDataDir (dataDir : String) (config : ConsoleConfig) : ConsoleConfig :=
  { config with
    dataDir
    logDir :=
      if Path.same config.logDir (logsUnder config.dataDir) then logsUnder dataDir
      else config.logDir
    jobsDir :=
      if Path.same config.jobsDir (jobsUnder config.dataDir) then jobsUnder dataDir
      else config.jobsDir }

/-- A change of the settings that can be refused. -/
abbrev Change := ConsoleConfig → Except Error ConsoleConfig

/-- The change that a variable asks for, nothing when it is not set. -/
def changeBy (value : Option String) (change : String → Change) : Change :=
  match value with
  | none => .ok
  | some word => change word

/-- The changes that the environment asks for, in the order in which they are made. -/
def envChanges (environment : String → Option String) : List Change := [
  changeBy (environment "PGDECK_STORE_SECRETS_IN_SESSION") fun word config => do
    let value ← readSwitch "PGDECK_STORE_SECRETS_IN_SESSION" word
    return { config with storeSecretsInSession := value },
  changeBy (environment "PGDECK_SUPPORT_SSH_TUNNEL") fun word config => do
    let value ← readSwitch "PGDECK_SUPPORT_SSH_TUNNEL" word
    return { config with supportSshTunnel := value },
  changeBy (environment "PGDECK_APPLICATION_NAME") fun word config =>
    .ok { config with applicationName := word },
  changeBy (environment "PGDECK_CONNECT_TIMEOUT") fun word config => do
    let seconds ← readTimeout word
    return { config with defaultConnectTimeoutSecs := seconds },
  changeBy (environment "PGDECK_DATA_DIR") fun word config => .ok (config.moveDataDir word),
  changeBy (environment "PGDECK_LOG_DIR") fun word config => .ok { config with logDir := word },
  changeBy (environment "PGDECK_JOBS_DIR") fun word config => .ok { config with jobsDir := word },
  changeBy (environment "PGDECK_EXECUTOR") fun word config =>
    .ok { config with executorPath := word }]

/-- Make changes in order up to the first that is refused. -/
def applyChanges : List Change → ConsoleConfig → Option Error × ConsoleConfig
  | [], config => (none, config)
  | change :: rest, config =>
    match change config with
    | .error error => (some error, config)
    | .ok config => applyChanges rest config

/-- Apply the environment. A refused variable leaves the changes before it in place. -/
def applyEnv (environment : String → Option String) (config : ConsoleConfig) :
    Option Error × ConsoleConfig :=
  applyChanges (envChanges environment) config

/-- Defaults, then the file if it exists, then the environment. -/
def load (base : ConsoleConfig) (tree : FileTree) (path : Option String)
    (environment : String → Option String) : Except Error ConsoleConfig :=
  let start :=
    match path with
    | some path => if tree.pathExists path then fromFile base tree path else .ok base
    | none => .ok base
  match start with
  | .error error => .error error
  | .ok config =>
    match config.applyEnv environment with
    | (some error, _) => .error error
    | (none, config) => .ok config

end ConsoleConfig

end PgConsole
