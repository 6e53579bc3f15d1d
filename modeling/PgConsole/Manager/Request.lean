import PgConsole.Manager.Connect

namespace PgConsole.Manager

/-!
# Requests to a manager

Getting or registering the connection for a request, and releasing one connection or all of
them. A database given by oid is looked up through the maintenance database the first time
and remembered; an explicit name given together with a remembered oid renames it.
-/

variable {World : Type}

/-- The first server version whose catalogue has no last system oid. -/
def lastSystemOidGone : UInt32 := 150000

/-- The statement that describes a database by its oid. -/
def databaseQuery (oid version : UInt32) : String :=
  let lastSystemOid :=
    if lastSystemOidGone ≤ version then "NULL::oid AS datlastsysoid" else "db.datlastsysoid"
  "SELECT db.oid as did, db.datname, db.datallowconn, " ++
    "pg_encoding_to_char(db.encoding) AS serverencoding, " ++
    "has_database_privilege(db.oid, 'CREATE') as cancreate, " ++ lastSystemOid ++
    " FROM pg_database db WHERE db.oid = " ++ Text.ofNat oid.toNat

/-- Connect a connection unless it is connected. -/
def ensureConnected (services : Services World) (number : Nat) (manager : Manager)
    (world : World) : Except Error Unit × Manager × World :=
  if manager.isLive services world number then (.ok (), manager, world)
  else manager.connect services number none world

/-- Look a database up over a connection and remember it. -/
def fetchDatabase (services : Services World) (number : Nat) (oid : UInt32) (manager : Manager)
    (world : World) : Except Error String × Manager × World :=
  match manager.ensureConnected services number world with
  | (.error error, manager, world) => (.error error, manager, world)
  | (.ok (), manager, world) =>
    match manager.requireInfo with
    | .error error => (.error error, manager, world)
    | .ok info =>
      match manager.execute services number (databaseQuery oid info.number) world with
      | (.error error, world) => (.error error, manager, world)
      | (.ok rows, world) =>
        match rows.head?.bind DatabaseInfo.ofRow? with
        | none => (.error (.databaseNotFound oid), manager, world)
        | some found =>
          (.ok found.name, { manager with databases := manager.databases.insert oid found }, world)

/-- Rename a remembered database. -/
def renameDatabase (oid : UInt32) (name : String) (manager : Manager) : Manager :=
  { manager with databases := manager.databases.modify oid fun info => { info with name } }

/-- The name of the database that a request asks for; none when neither the request nor the
identity names one. -/
def resolveDatabase (services : Services World) (request : ConnectionRequest) (manager : Manager)
    (world : World) : Except Error (Option String) × Manager × World :=
  match request.database, request.oid with
  | some name, some oid => (.ok (some name), manager.renameDatabase oid name, world)
  | some name, none => (.ok (some name), manager, world)
  | none, none => (.ok manager.identity.maintenanceDatabase, manager, world)
  | none, some oid =>
    match manager.databases.get? oid with
    | some info => (.ok (some info.name), manager, world)
    | none =>
      match manager.identity.maintenanceDatabase with
      | none => (.ok none, manager, world)
      | some maintenance =>
        let (number, manager) := manager.register (.db maintenance) maintenance {} false
        match manager.fetchDatabase services number oid world with
        | (.error error, manager, world) => (.error error, manager, world)
        | (.ok name, manager, world) => (.ok (some name), manager, world)

/-- No database to connect to: the tunnel is checked first, then the connection is lost. -/
def noDatabase (services : Services World) (request : ConnectionRequest) (manager : Manager)
    (world : World) : Error × Manager :=
  let lost := Error.connectionLost manager.server none
    (request.connectionId.map fun id => Text.ofNat id.toNat)
  match tunnelHost? services.config manager.identity with
  | none => (lost, manager)
  | some host =>
    match manager.tunnel.checkAlive services host world with
    | (.error error, tunnel) => (error, { manager with tunnel })
    | (.ok (), tunnel) => (lost, { manager with tunnel })

/-- The number of the connection for a request, which is registered if it is new. Nothing is
handed out while a secret is stored and the key for it is missing. -/
def connection (services : Services World) (request : ConnectionRequest) (manager : Manager)
    (world : World) : Except Error Nat × Manager × World :=
  match manager.resolveDatabase services request world with
  | (.error error, manager, world) => (.error error, manager, world)
  | (.ok database?, manager, world) =>
    if manager.hasSecrets && (services.cryptKey world).isNone then
      (.error .cryptKeyMissing, manager, world)
    else
      match database? with
      | none =>
        let (error, manager) := manager.noDatabase services request world
        (.error error, manager, world)
      | some database =>
        let (number, manager) :=
          manager.register (.ofRequest request.connectionId database) database request.flags false
        (.ok number, { manager with touched := true }, world)

/-- Cancel and close every listed connection. Only explicit connections that are live are
cancelled, and a failed cancel does not matter. -/
def releaseEach (services : Services World) :
    List (ConnectionKey × Nat) → Manager → World → Manager × World
  | [], manager, world => (manager, world)
  | (key, number) :: rest, manager, world =>
    let world :=
      if key.isExplicit && manager.isLive services world number then
        (manager.cancel services number world).2
      else world
    let (manager, world) := manager.releaseConnection services number world
    releaseEach services rest manager world

/-- Release everything. -/
def releaseAll (services : Services World) (manager : Manager) (world : World) :
    Manager × World :=
  let (manager, world) := releaseEach services manager.registry.entries manager world
  clearServerState services { manager with registry := .empty } world

/-- The key that a request names, if it names one: the explicit number wins, then the database
remembered for the oid, then the database name. An unknown oid names nothing. -/
def releaseKey? (request : ReleaseRequest) (manager : Manager) : Option ConnectionKey :=
  match request.oid with
  | some oid =>
    match manager.databases.get? oid with
    | none => none
    | some info => some (.ofRequest request.connectionId info.name)
  | none =>
    match request.connectionId, request.database with
    | some id, _ => some (.conn id)
    | none, some name => some (.db name)
    | none, none => none

/-- Forget the database with the given oid, if there is one. -/
def forgetDatabase (oid : Option UInt32) (manager : Manager) : Manager :=
  match oid with
  | none => manager
  | some oid => { manager with databases := manager.databases.erase oid }

/-- Release the connection under a key. -/
def releaseKey (services : Services World) (key : ConnectionKey) (number : Nat)
    (oid : Option UInt32) (manager : Manager) (world : World) : Manager × World :=
  let (manager, world) := releaseConnection services number
    { manager with registry := manager.registry.erase key } world
  let manager := manager.forgetDatabase oid
  if manager.registry.isEmpty then manager.clearServerState services world else (manager, world)

/-- Release what a request names; the answer says whether anything was released. -/
def release (services : Services World) (request : ReleaseRequest) (manager : Manager)
    (world : World) : Bool × Manager × World :=
  if request.isAll then (true, manager.releaseAll services world)
  else
    match manager.releaseKey? request with
    | none => (false, manager, world)
    | some key =>
      match manager.registry.get? key with
      | none => (false, manager, world)
      | some number => (true, manager.releaseKey services key number request.oid world)

end PgConsole.Manager
