import PgConsole.Manager.Request
import PgConsole.Manager.Restore

namespace PgConsole

/-!
# Sessions

A session of the console holds the managers of the servers used in it. Between requests the
managers live in a store, as one snapshot under one key. A manager is restored from the store
the first time its server is used; servers that are not loaded keep their stored state.
-/

/-- A key-value store that belongs to one session. -/
abbrev Store := SortedMap String Json

/-- The managers of one session, by server. -/
structure Session where
  id : String
  managers : SortedMap Int32 Manager := .empty

namespace Session

variable {World : Type}

/-- The stored snapshot, or an empty one when nothing is stored. -/
def storedSnapshot (store : Store) : Except Error SessionSnapshot :=
  match store.get? SessionSnapshot.storeKey with
  | none => .ok .empty
  | some value => SessionSnapshot.fromValue value

/-- Put a snapshot into the store; one without servers is removed from it. -/
def writeSnapshot (snapshot : SessionSnapshot) (store : Store) : Store :=
  if snapshot.managers.isEmpty then store.erase SessionSnapshot.storeKey
  else store.insert SessionSnapshot.storeKey snapshot.toJson

/-- Replace the manager of a server. -/
def setManager (session : Session) (server : Int32) (manager : Manager) : Session :=
  { session with managers := session.managers.insert server manager }

/-- Load the manager of a server unless it is loaded, restoring it from the store. A restore
that fails leaves the manager loaded with what had been restored. -/
def load (services : Services World) (identity : ServerIdentity) (store : Store)
    (session : Session) (world : World) : Except Error Unit × Session × World :=
  if session.managers.contains identity.id then (.ok (), session, world)
  else
    match storedSnapshot store with
    | .error error => (.error error, session, world)
    | .ok snapshot =>
      match snapshot.managers.get? identity.id with
      | none => (.ok (), session.setManager identity.id (.new identity), world)
      | some saved =>
        match (Manager.new identity).restore services saved world with
        | (result, manager, world) => (result, session.setManager identity.id manager, world)

/-- Apply an edited identity to a loaded manager; the answer says whether there is one. -/
def updateServer (services : Services World) (identity : ServerIdentity) (session : Session)
    (world : World) : Bool × Session × World :=
  match session.managers.get? identity.id with
  | none => (false, session, world)
  | some manager =>
    let (manager, world) := manager.update services identity world
    (true, session.setManager identity.id manager, world)

/-- The servers with a loaded manager. -/
def servers (session : Session) : List Int32 := session.managers.keys

/-- Bring a stored snapshot up to date with the loaded managers. -/
def mergeSnapshots (config : ConsoleConfig) (loaded : List (Int32 × Manager))
    (snapshot : SessionSnapshot) : SessionSnapshot :=
  loaded.foldl
    (fun snapshot entry =>
      match entry.2.snapshot config with
      | some saved => { snapshot with managers := snapshot.managers.insert entry.1 saved }
      | none => { snapshot with managers := snapshot.managers.erase entry.1 })
    snapshot

/-- Write the loaded managers into the store. -/
def persist (config : ConsoleConfig) (session : Session) (store : Store) :
    Except Error Unit × Store :=
  match storedSnapshot store with
  | .error error => (.error error, store)
  | .ok snapshot =>
    (.ok (), writeSnapshot (mergeSnapshots config session.managers.entries snapshot) store)

/-- Forget the stored state of one server. -/
def forgetStored (server : Int32) (store : Store) : Except Error Unit × Store :=
  match storedSnapshot store with
  | .error error => (.error error, store)
  | .ok snapshot =>
    if snapshot.managers.contains server then
      (.ok (), writeSnapshot { snapshot with managers := snapshot.managers.erase server } store)
    else (.ok (), store)

/-- What removing a server leaves. -/
structure Removal (World : Type) where
  result : Except Error Unit
  session : Session
  /-- The released manager; callers may still hold its connections. -/
  released : Option Manager
  store : Store
  world : World

/-- Release and forget one server, here and in the store. -/
def remove (services : Services World) (server : Int32) (store : Store) (session : Session)
    (world : World) : Removal World :=
  let (result, rest) := forgetStored server store
  match session.managers.get? server with
  | none => ⟨result, session, none, rest, world⟩
  | some manager =>
    let (manager, world) := manager.releaseAll services world
    ⟨result, { session with managers := session.managers.erase server }, some manager, rest, world⟩

/-- Release the given managers one after the other. -/
def releaseManagers (services : Services World) :
    List (Int32 × Manager) → World → List (Int32 × Manager) × World
  | [], world => ([], world)
  | (server, manager) :: rest, world =>
    let (manager, world) := manager.releaseAll services world
    let (rest, world) := releaseManagers services rest world
    ((server, manager) :: rest, world)

/-- Release every connection of every loaded manager. -/
def releaseAll (services : Services World) (session : Session) (world : World) :
    Session × World :=
  let (managers, world) := releaseManagers services session.managers.entries world
  ({ session with managers := .ofList managers }, world)

/-- The diagnostic form. -/
def debug (session : Session) : String :=
  Text.quoteRecord "SessionManagers" [
    ("session_id", Text.quote session.id),
    ("servers", Text.quoteList (fun server => Text.ofInt server.toInt) session.servers)]

end Session

end PgConsole
