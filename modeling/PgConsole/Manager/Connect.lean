import PgConsole.Manager.Basic

namespace PgConsole.Manager

/-!
# Using connections

Opening the session of a connection, running statements on it and cancelling them. A
connection is given by its number, and works whether or not it is still registered.

A connection attempt first makes sure of the tunnel, then decrypts the password, then calls
the driver, then learns the server version if it is not known. Nothing but the tunnel changes
when one of these steps fails.
-/

variable {World : Type}

/-- There is no connection with this number. -/
def noConnection : Error := .internal "Unknown connection"

/-- Make sure of the tunnel, if the server needs one, and give its local port. -/
def ensureTunnel (services : Services World) (manager : Manager) (world : World) :
    Except Error (Option UInt16) × TunnelController × World :=
  match tunnelHost? services.config manager.identity with
  | none => (.ok none, manager.tunnel, world)
  | some host =>
    match manager.tunnel.ensure services manager.identity manager.tunnelPassword host world with
    | (.error error, tunnel, world) => (.error error, tunnel, world)
    | (.ok port, tunnel, world) => (.ok (some port), tunnel, world)

/-- The password for an attempt in clear text: the explicit one, or else the stored one. -/
def attemptPassword (key? : Option CryptKey) (explicit : Option Secret) (manager : Manager) :
    Except Error (Option String) :=
  match explicit.or manager.password with
  | none => .ok none
  | some secret =>
    match secret.decryptWith key? with
    | .error error => .error error
    | .ok text => .ok (some text)

/-- The parameters of an attempt. -/
def attemptParams (services : Services World) (manager : Manager) (connection : Connection)
    (password : Option String) (port : Option UInt16) : ConnectParams :=
  .forIdentity services.passfileText services.config manager.identity connection.database
    password port

/-- The server version: as known, or else as the new session reports it. -/
def learnInfo (services : Services World) (session : Nat) (manager : Manager) (world : World) :
    Except Error ServerInfo × World :=
  match manager.serverInfo with
  | some info => (.ok info, world)
  | none => services.serverInfo session world

/-- Store what a successful attempt has brought. -/
def adopt (number : Nat) (connection : Connection) (session : Nat) (info : ServerInfo)
    (explicit : Option Secret) (manager : Manager) : Manager :=
  { manager.setConnection number { connection with session := some session, wasConnected := true }
    with serverInfo := some info, password := explicit.or manager.password }

/-- Call the driver and store the new session. -/
def openSession (services : Services World) (number : Nat) (connection : Connection)
    (explicit : Option Secret) (params : ConnectParams) (manager : Manager) (world : World) :
    Except Error Unit × Manager × World :=
  match services.dial params world with
  | (.error error, world) => (.error error, manager, world)
  | (.ok session, world) =>
    match manager.learnInfo services session world with
    | (.error error, world) => (.error error, manager, world)
    | (.ok info, world) =>
      (.ok (), manager.adopt number connection session info explicit, world)

/-- Open the session of a connection unless it is open. An explicit password overrides the
stored one and replaces it on success. -/
def connect (services : Services World) (number : Nat) (explicit : Option Secret)
    (manager : Manager) (world : World) : Except Error Unit × Manager × World :=
  match manager.connections[number]? with
  | none => (.error noConnection, manager, world)
  | some connection =>
    if connection.isLive services world then (.ok (), manager, world)
    else
      match manager.ensureTunnel services world with
      | (.error error, tunnel, world) => (.error error, { manager with tunnel }, world)
      | (.ok port, tunnel, world) =>
        match manager.attemptPassword (services.cryptKey world) explicit with
        | .error error => (.error error, { manager with tunnel }, world)
        | .ok password =>
          openSession services number connection explicit
            (manager.attemptParams services connection password port)
            { manager with tunnel } world

/-- Run a statement on a connection. A failure that leaves the session closed is reported as
a lost connection. -/
def execute (services : Services World) (number : Nat) (sql : String) (manager : Manager)
    (world : World) : Except Error (List TextRow) × World :=
  match manager.connections[number]? with
  | none => (.error noConnection, world)
  | some connection =>
    match connection.session with
    | none => (.error (connection.lostError manager.server), world)
    | some session =>
      if services.isClosed world session then
        (.error (connection.lostError manager.server), world)
      else
        match services.query session sql world with
        | (.ok rows, world) => (.ok rows, world)
        | (.error error, world) =>
          if services.isClosed world session then
            (.error (connection.lostError manager.server), world)
          else (.error error, world)

/-- The first column of the first row of a statement's result. -/
def executeScalar (services : Services World) (number : Nat) (sql : String) (manager : Manager)
    (world : World) : Except Error (Option String) × World :=
  match manager.execute services number sql world with
  | (.error error, world) => (.error error, world)
  | (.ok rows, world) => (.ok (rows.head?.bind TextRow.first?), world)

/-- Cancel what a connection is running, if it holds a session. -/
def cancel (services : Services World) (number : Nat) (manager : Manager) (world : World) :
    Except Error Unit × World :=
  match (manager.connections[number]?).bind Connection.session with
  | none => (.ok (), world)
  | some session => services.cancel session world

end PgConsole.Manager
