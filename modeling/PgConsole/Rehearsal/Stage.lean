import PgConsole.Session.Console

namespace PgConsole.Rehearsal

/-!
# A stage for rehearsals

A console, managers that stand outside any session, and everything a rehearsal keeps hold of:
stores by name, one tunnel controller, and handles on connections. A handle stays valid when
its manager leaves the stage: such a manager is retired, not dropped.
-/

/-- Where a manager stands. -/
inductive Place where
  | standalone (name : String)
  | inSession (session : String) (server : Int32)
  deriving DecidableEq, Repr

/-- A handle on a connection: the manager it came from and its number there. -/
structure Handle where
  owner : Nat
  number : Nat
  deriving DecidableEq, Repr

/-- Everything a rehearsal works with. -/
structure Stage (World : Type) where
  world : World
  console : Console := {}
  standalone : SortedMap String Manager := .empty
  controller : TunnelController := {}
  stores : SortedMap String Store := .empty
  /-- The manager that stands at each place, by number. -/
  owners : List (Place × Nat) := []
  /-- Managers that have left the stage, by number. -/
  retired : List (Nat × Manager) := []
  nextOwner : Nat := 0
  handles : List Handle := []

namespace Stage

variable {World : Type}

/-- The manager at a place. -/
def manager? (stage : Stage World) : Place → Option Manager
  | .standalone name => stage.standalone.get? name
  | .inSession session server =>
    (stage.console.sessions.get? session).bind fun session => session.managers.get? server

/-- Change the manager at a place. -/
def setManager (stage : Stage World) (place : Place) (manager : Manager) : Stage World :=
  match place with
  | .standalone name => { stage with standalone := stage.standalone.insert name manager }
  | .inSession id server =>
    let session := (stage.console.session id).setManager server manager
    { stage with console := stage.console.keep session }

/-- Number the manager at a place if it has just arrived there. -/
def enroll (stage : Stage World) (place : Place) : Stage World :=
  if (stage.owners.lookup place).isSome || (stage.manager? place).isNone then stage
  else { stage with
    owners := (place, stage.nextOwner) :: stage.owners
    nextOwner := stage.nextOwner + 1 }

/-- Let the manager that stood at a place leave, as it was at the end. -/
def retire (stage : Stage World) (place : Place) (manager : Manager) : Stage World :=
  match stage.owners.lookup place with
  | none => stage
  | some owner => { stage with
      owners := stage.owners.filter fun entry => entry.1 != place
      retired := (owner, manager) :: stage.retired }

/-- The place of a numbered manager, while it is on stage. -/
def placeOf? (stage : Stage World) (owner : Nat) : Option Place :=
  (stage.owners.find? fun entry => entry.2 == owner).map Prod.fst

/-- A numbered manager, on stage or retired. -/
def owner? (stage : Stage World) (owner : Nat) : Option Manager :=
  match stage.placeOf? owner with
  | some place => stage.manager? place
  | none => stage.retired.lookup owner

/-- Change a numbered manager. -/
def setOwner (stage : Stage World) (owner : Nat) (manager : Manager) : Stage World :=
  match stage.placeOf? owner with
  | some place => stage.setManager place manager
  | none => { stage with
      retired := (owner, manager) :: stage.retired.filter fun entry => entry.1 != owner }

/-- Act on the manager at a place. -/
def withManager {α : Type} (stage : Stage World) (place : Place)
    (act : Manager → World → α × Manager × World) : Option (α × Stage World) :=
  match stage.manager? place with
  | none => none
  | some manager =>
    let (answer, manager, world) := act manager stage.world
    some (answer, { stage with world }.setManager place manager)

/-- The connection behind a handle number, taken modulo the number of handles. -/
def handle? (stage : Stage World) (index : Nat) : Option Handle :=
  stage.handles[index % stage.handles.length]?

/-- Act on the connection behind a handle. -/
def withHandle {α : Type} (stage : Stage World) (index : Nat)
    (act : Nat → Manager → World → α × Manager × World) : Option (α × Stage World) :=
  match stage.handle? index with
  | none => none
  | some handle =>
    match stage.owner? handle.owner with
    | none => none
    | some manager =>
      let (answer, manager, world) := act handle.number manager stage.world
      some (answer, { stage with world }.setOwner handle.owner manager)

/-- The index of the handle on a connection of the manager at a place, which is new the first
time. -/
def handleOn (stage : Stage World) (place : Place) (number : Nat) : Nat × Stage World :=
  let handle : Handle := ⟨(stage.owners.lookup place).getD 0, number⟩
  match stage.handles.idxOf? handle with
  | some index => (index, stage)
  | none => (stage.handles.length, { stage with handles := stage.handles ++ [handle] })

/-- Bring on a standalone manager. One that stood there before is retired while handles on its
connections are held; otherwise nothing refers to it any more and its tunnel is stopped. -/
def bringOn (services : Services World) (name : String) (identity : ServerIdentity)
    (stage : Stage World) : Stage World :=
  let place := Place.standalone name
  let stage :=
    match stage.standalone.get? name with
    | none => stage
    | some manager =>
      let held := stage.handles.any fun handle =>
        stage.owners.lookup place = some handle.owner
      let world :=
        if held then stage.world else (manager.tunnel.stop services stage.world).2
      { stage with world }.retire place manager
  ({ stage with standalone := stage.standalone.insert name (.new identity) }).enroll place

/-- The store with a name. -/
def store (stage : Stage World) (name : String) : Store := (stage.stores.get? name).getD .empty

/-- Replace the store with a name. -/
def setStore (stage : Stage World) (name : String) (store : Store) : Stage World :=
  { stage with stores := stage.stores.insert name store }

/-- Load a server in a session, restoring it from a store. -/
def loadServer (services : Services World) (session store : String) (identity : ServerIdentity)
    (stage : Stage World) : Except Error Unit × Stage World :=
  let (result, loaded, world) :=
    (stage.console.session session).load services identity (stage.store store) stage.world
  (result, { stage with world, console := stage.console.keep loaded }.enroll
    (.inSession session identity.id))

/-- Apply an edited identity in a session. -/
def updateServer (services : Services World) (session : String) (identity : ServerIdentity)
    (stage : Stage World) : Bool × Stage World :=
  let (found, updated, world) :=
    (stage.console.session session).updateServer services identity stage.world
  (found, { stage with world, console := stage.console.keep updated })

/-- Write a session's managers into a store. -/
def persist (config : ConsoleConfig) (session store : String) (stage : Stage World) :
    Except Error Unit × Stage World :=
  let stage := { stage with console := stage.console.address session }
  let (result, written) := (stage.console.session session).persist config (stage.store store)
  (result, stage.setStore store written)

/-- Remove a server from a session and a store. -/
def removeServer (services : Services World) (session store : String) (server : Int32)
    (stage : Stage World) : Except Error Unit × Stage World :=
  let removal := (stage.console.session session).remove services server (stage.store store)
    stage.world
  let stage := { stage with world := removal.world, console := stage.console.keep removal.session }
  let stage := stage.setStore store removal.store
  match removal.released with
  | none => (removal.result, stage)
  | some manager => (removal.result, stage.retire (.inSession session server) manager)

/-- Release all connections of a session. -/
def releaseSession (services : Services World) (session : String) (stage : Stage World) :
    Stage World :=
  let (released, world) := (stage.console.session session).releaseAll services stage.world
  { stage with world, console := stage.console.keep released }

/-- Retire the managers of a session that has left the console. -/
def retireSession (session : Session) (stage : Stage World) : Stage World :=
  session.managers.entries.foldl
    (fun stage entry => stage.retire (.inSession session.id entry.1) entry.2) stage

/-- End a session; the answer says whether there was one. -/
def endSession (services : Services World) (session : String) (stage : Stage World) :
    Bool × Stage World :=
  match stage.console.endSession services session stage.world with
  | (none, _, _) => (false, stage)
  | (some ended, console, world) =>
    (true, { stage with world, console }.retireSession ended)

/-- Replace the console by a new one; the managers of its sessions leave the stage. -/
def restart (stage : Stage World) : Stage World :=
  let stage := stage.console.sessions.values.foldl
    (fun stage session => stage.retireSession session) stage
  { stage with console := {} }

end Stage

end PgConsole.Rehearsal
