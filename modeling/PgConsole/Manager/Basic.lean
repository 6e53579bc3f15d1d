import PgConsole.Connection.Request
import PgConsole.Snapshot
import PgConsole.Tunnel.Controller

namespace PgConsole

/-!
# Server managers

A manager owns everything that one session of the console knows about one server: its
identity and secrets, the version the server reported, the tunnel, a cache of database
descriptions, and the connections.

Callers may keep a connection after it has left the registry, so a manager remembers every
connection it has made, by number, and the registry maps keys to numbers. A connection's key,
database and flags never change.
-/

/-- One connection to one database. -/
structure Connection where
  key : ConnectionKey
  database : String
  flags : ConnectionFlags
  /-- The session, as long as it has not been released; it may be closed. -/
  session : Option Nat := none
  /-- The connection has connected at least once, perhaps before it was restored. -/
  wasConnected : Bool := false
  deriving DecidableEq, Repr

/-- What a connection looks like from outside. -/
inductive ConnectionState where
  | unconnected
  | connected
  | lost
  deriving DecidableEq, Repr

/-- Everything known about one server in one session. -/
structure Manager where
  server : Int32
  identity : ServerIdentity
  password : Option Secret
  tunnelPassword : Option Secret
  serverInfo : Option ServerInfo := none
  tunnel : TunnelController := {}
  /-- Every connection made so far; a connection's number is its place. -/
  connections : List Connection := []
  /-- The registered connections by key. -/
  registry : SortedMap ConnectionKey Nat := .empty
  /-- Database descriptions by oid. -/
  databases : SortedMap UInt32 DatabaseInfo := .empty
  /-- A connection has been handed out on request. -/
  touched : Bool := false
  deriving DecidableEq, Repr

namespace Connection

variable {World : Type}

/-- Whether the connection holds a session that is open. -/
def isLive (services : Services World) (world : World) (connection : Connection) : Bool :=
  connection.session.any fun session => !services.isClosed world session

/-- What the connection looks like from outside. -/
def state (services : Services World) (world : World) (connection : Connection) :
    ConnectionState :=
  if connection.isLive services world then .connected
  else if connection.wasConnected then .lost
  else .unconnected

/-- The error for a connection of a server that has no usable session. -/
def lostError (server : Int32) (connection : Connection) : Error :=
  .connectionLost server (some connection.database)
    (connection.key.id?.map fun id => Text.ofNat id.toNat)

end Connection

namespace Manager

variable {World : Type}

/-- The manager of a server before anything has happened. -/
def new (identity : ServerIdentity) : Manager where
  server := identity.id
  identity
  password := identity.password
  tunnelPassword := identity.tunnelPassword

/-- The bastion host, when tunnels are supported and the server uses one. -/
def tunnelHost? (config : ConsoleConfig) (identity : ServerIdentity) : Option String :=
  if config.supportSshTunnel then identity.tunnel.map TunnelSettings.host else none

/-- Whether some stored secret would need the decryption key. -/
def hasSecrets (manager : Manager) : Bool :=
  manager.password.isSome || manager.tunnelPassword.isSome

/-- The registered keys in order. -/
def keys (manager : Manager) : List ConnectionKey := manager.registry.keys

/-- The number of the connection registered under a key. -/
def get? (manager : Manager) (key : ConnectionKey) : Option Nat := manager.registry.get? key

/-- Register a connection under a key unless there is one, and give its number. -/
def register (manager : Manager) (key : ConnectionKey) (database : String)
    (flags : ConnectionFlags) (wasConnected : Bool) : Nat × Manager :=
  match manager.registry.get? key with
  | some number => (number, manager)
  | none =>
    let number := manager.connections.length
    (number, { manager with
      connections := manager.connections ++ [{ key, database, flags, wasConnected }]
      registry := manager.registry.insert key number })

/-- Whether a connection, given by number, holds an open session. -/
def isLive (services : Services World) (world : World) (manager : Manager) (number : Nat) : Bool :=
  (manager.connections[number]?).any (Connection.isLive services world)

/-- Replace a connection by a changed one. -/
def setConnection (manager : Manager) (number : Nat) (connection : Connection) : Manager :=
  { manager with connections := manager.connections.set number connection }

/-- Close a connection's session, if it holds one. -/
def releaseConnection (services : Services World) (number : Nat) (manager : Manager)
    (world : World) : Manager × World :=
  match manager.connections[number]? with
  | none => (manager, world)
  | some connection =>
    match connection.session with
    | none => (manager, world)
    | some session =>
      (manager.setConnection number { connection with session := none },
        services.close session world)

/-- Close the sessions of several connections, one after the other. -/
def releaseConnections (services : Services World) :
    List Nat → Manager → World → Manager × World
  | [], manager, world => (manager, world)
  | number :: rest, manager, world =>
    let (manager, world) := manager.releaseConnection services number world
    releaseConnections services rest manager world

/-- Drop what is known about the server, and its password; the tunnel password stays. -/
def clearServerState (services : Services World) (manager : Manager) (world : World) :
    Manager × World :=
  let (tunnel, world) := manager.tunnel.stop services world
  ({ manager with databases := .empty, serverInfo := none, password := none, tunnel }, world)

/-- Replace the identity and drop everything derived from the old one. -/
def update (services : Services World) (identity : ServerIdentity) (manager : Manager)
    (world : World) : Manager × World :=
  let (manager, world) := releaseConnections services manager.registry.values manager world
  let (tunnel, world) := manager.tunnel.stop services world
  ({ manager with
      identity
      password := identity.password
      tunnelPassword := identity.tunnelPassword
      serverInfo := none
      tunnel
      registry := .empty
      databases := .empty }, world)

/-- Replace the stored password. -/
def updatePassword (password : Secret) (manager : Manager) : Manager :=
  { manager with password := some password }

/-- The stored password in clear text. -/
def decryptedPassword (services : Services World) (world : World) (manager : Manager) :
    Except Error (Option String) :=
  match manager.password with
  | none => .ok none
  | some secret =>
    match secret.decryptWith (services.cryptKey world) with
    | .error error => .error error
    | .ok text => .ok (some text)

/-- What is known about the server, or the error for not knowing it. -/
def requireInfo (manager : Manager) : Except Error ServerInfo :=
  match manager.serverInfo with
  | some info => .ok info
  | none => .error .versionUnavailable

/-- The diagnostic form. -/
def debug (manager : Manager) : String :=
  Text.quoteRecord "ServerManager" [
    ("sid", Text.ofInt manager.server.toInt),
    ("connections", Text.quoteList ConnectionKey.debug manager.keys),
    ("server_info", Text.quoteOption ServerInfo.debug manager.serverInfo)]

end Manager

/-- The name of a state in diagnostic views. -/
def ConnectionState.debug : ConnectionState → String
  | .unconnected => "Unconnected"
  | .connected => "Connected"
  | .lost => "Lost"

/-- The diagnostic form of a connection in a given state. -/
def Connection.debug (state : ConnectionState) (connection : Connection) : String :=
  Text.quoteRecord "Connection" [
    ("key", connection.key.debug),
    ("database", Text.quote connection.database),
    ("flags", connection.flags.debug),
    ("state", state.debug)]

end PgConsole
