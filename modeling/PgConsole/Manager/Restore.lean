import PgConsole.Manager.Connect

namespace PgConsole.Manager

/-!
# Saving and restoring managers

A snapshot records the registry with what each connection needs to come back. Restoring
registers the saved connections in the order of their key texts and reconnects those that
were connected and want to be. A missing decryption key leaves a connection registered; any
other failure removes it and ends the restore.
-/

variable {World : Type}

/-- The saved state of a registered connection. -/
def savedConnection (connection : Connection) : ConnectionSnapshot where
  connectionId := connection.key.id?
  database := connection.database
  flags := connection.flags
  wasConnected := connection.wasConnected

/-- The saved connections under the texts of their keys. -/
def savedConnections (manager : Manager) : SortedMap String ConnectionSnapshot :=
  .ofList (manager.registry.entries.filterMap fun entry =>
    (manager.connections[entry.2]?).map fun connection =>
      (entry.1.toText, savedConnection connection))

/-- The saved state of a manager; none when the server version is unknown or nothing is
registered. Secrets are kept only if the configuration allows it. -/
def snapshot (config : ConsoleConfig) (manager : Manager) : Option ManagerSnapshot :=
  match manager.serverInfo with
  | none => none
  | some info =>
    if manager.registry.isEmpty then none
    else some {
      version := snapshotVersion
      server := manager.server
      versionText := info.version
      versionNumber := info.number
      password := if config.storeSecretsInSession then manager.password else none
      tunnelPassword := if config.storeSecretsInSession then manager.tunnelPassword else none
      connections := manager.savedConnections }

/-- Take over version and secrets from a snapshot. -/
def takeOver (config : ConsoleConfig) (snapshot : ManagerSnapshot) (manager : Manager) : Manager :=
  { manager with
    serverInfo :=
      if snapshot.versionText.isEmpty then manager.serverInfo
      else some ⟨snapshot.versionText, snapshot.versionNumber⟩
    password :=
      if config.storeSecretsInSession then snapshot.password.or manager.password
      else manager.password
    tunnelPassword :=
      if config.storeSecretsInSession then snapshot.tunnelPassword.or manager.tunnelPassword
      else manager.tunnelPassword }

/-- Remove a connection from the registry and close its session. -/
def discard (services : Services World) (key : ConnectionKey) (manager : Manager)
    (world : World) : Manager × World :=
  match manager.registry.get? key with
  | none => (manager, world)
  | some number =>
    releaseConnection services number { manager with registry := manager.registry.erase key } world

/-- Register saved connections and reconnect them as they wish, in order. -/
def restoreEntries (services : Services World) :
    List (ConnectionKey × ConnectionSnapshot) → Manager → World →
      Except Error Unit × Manager × World
  | [], manager, world => (.ok (), manager, world)
  | (key, saved) :: rest, manager, world =>
    let (number, manager) := manager.register key saved.database saved.flags saved.wasConnected
    if !(saved.wasConnected && saved.flags.autoReconnect) ||
        manager.isLive services world number then
      restoreEntries services rest manager world
    else
      match manager.connect services number none world with
      | (.ok (), manager, world) => restoreEntries services rest manager world
      | (.error .cryptKeyMissing, manager, world) => restoreEntries services rest manager world
      | (.error error, manager, world) =>
        let (manager, world) := manager.discard services key world
        (.error error, manager, world)

/-- Rebuild the registry from a snapshot. -/
def restore (services : Services World) (snapshot : ManagerSnapshot) (manager : Manager)
    (world : World) : Except Error Unit × Manager × World :=
  match snapshot.checkVersion with
  | .error error => (.error error, manager, world)
  | .ok () =>
    match snapshot.entries with
    | .error error => (.error error, manager, world)
    | .ok entries =>
      restoreEntries services entries (manager.takeOver services.config snapshot) world

/-- Whether a connection wants to be reconnected. -/
def wantsReconnect (services : Services World) (world : World) (connection : Connection) : Bool :=
  connection.wasConnected && connection.flags.autoReconnect && !connection.isLive services world

/-- Reconnect the listed connections as they wish, up to the first hard failure. -/
def reconnectEach (services : Services World) :
    List Nat → Manager → World → Except Error Unit × Manager × World
  | [], manager, world => (.ok (), manager, world)
  | number :: rest, manager, world =>
    if (manager.connections[number]?).any (wantsReconnect services world) then
      match manager.connect services number none world with
      | (.ok (), manager, world) => reconnectEach services rest manager world
      | (.error .cryptKeyMissing, manager, world) => reconnectEach services rest manager world
      | (.error error, manager, world) => (.error error, manager, world)
    else reconnectEach services rest manager world

/-- Reconnect every registered connection that was connected and wants to be. -/
def restoreConnections (services : Services World) (manager : Manager) (world : World) :
    Except Error Unit × Manager × World :=
  reconnectEach services manager.registry.values manager world

end PgConsole.Manager
