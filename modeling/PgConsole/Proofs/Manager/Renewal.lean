import PgConsole.Proofs.Manager.Release

namespace PgConsole

/-!
# An updated manager is a new one

An update gives a manager the state of a new manager of the same identity, except that it has
been handed out before.  The connections made before the update stay with their callers, so they
still come first when the next ones are numbered.  `Manager.following` puts connections in front
of those of a manager in this way, and everything that callers can do commutes with it once
numbers are moved up accordingly (`interact_following`).

`update_like_new` says what an update leaves, which calls it makes, and that from then on callers
cannot tell the manager from a new one.  It does not say what callers see who go on using a
connection from before the update.
-/

/-- The same interaction with a connection that has so many more connections before it. -/
def Interaction.moved (count : Nat) : Interaction → Interaction
  | .connect number explicit => .connect (count + number) explicit
  | .releaseSession number => .releaseSession (count + number)
  | .execute number sql => .execute (count + number) sql
  | .executeScalar number sql => .executeScalar (count + number) sql
  | .cancel number => .cancel (count + number)
  | interaction => interaction

/-- The same reply about a connection that has so many more connections before it. -/
def Reply.moved (count : Nat) : Reply → Reply
  | .connection number => .connection (count + number)
  | reply => reply

namespace Manager

variable {World : Type}

/-- What callers are told by one interaction after the other, each in the world it finds, and the
worlds that are left. -/
def conversation (services : Services World) :
    List (World × Interaction) → Manager → List (Except Error Reply × World)
  | [], _ => []
  | (world, interaction) :: rest, manager =>
    let outcome := manager.interact services interaction world
    (outcome.1, outcome.2.2) :: conversation services rest outcome.2.1

/-- The manager with earlier connections before its own, perhaps handed out before. -/
def following (earlier : List Connection) (touched : Bool) (manager : Manager) : Manager :=
  { manager with
    connections := earlier ++ manager.connections
    registry := manager.registry.mapValues fun _ number => earlier.length + number
    touched := touched || manager.touched }

/-- What comes of a call, with earlier connections in the manager. -/
def behind {α : Type} (earlier : List Connection) (touched : Bool)
    (outcome : α × Manager × World) : α × Manager × World :=
  (outcome.1, outcome.2.1.following earlier touched, outcome.2.2)

section Commutes

variable (services : Services World) (earlier : List Connection) (touched : Bool)

@[simp] theorem getElem?_following (number : Nat) (manager : Manager) :
    (manager.following earlier touched).connections[earlier.length + number]? =
      manager.connections[number]? := by
  rw [following, List.getElem?_append_right (Nat.le_add_right _ _), Nat.add_sub_cancel_left]

theorem get?_following (key : ConnectionKey) (manager : Manager) :
    (manager.following earlier touched).registry.get? key =
      (manager.registry.get? key).map (earlier.length + ·) :=
  SortedMap.get?_mapValues _ _ _

theorem values_following (manager : Manager) :
    (manager.following earlier touched).registry.values =
      manager.registry.values.map (earlier.length + ·) := by
  simp only [following, SortedMap.values, SortedMap.mapValues, List.map_map]
  rfl

theorem setConnection_following (number : Nat) (connection : Connection) (manager : Manager) :
    (manager.following earlier touched).setConnection (earlier.length + number) connection =
      (manager.setConnection number connection).following earlier touched := by
  simp only [setConnection, following, List.set_append_right _ _ (Nat.le_add_right _ _),
    Nat.add_sub_cancel_left]

theorem erase_following (key : ConnectionKey) (manager : Manager) :
    { manager.following earlier touched with
      registry := (manager.following earlier touched).registry.erase key } =
      ({ manager with registry := manager.registry.erase key }).following earlier touched := by
  simp only [following, SortedMap.mapValues_erase]

@[simp] theorem isLive_following (world : World) (number : Nat) (manager : Manager) :
    (manager.following earlier touched).isLive services world (earlier.length + number) =
      manager.isLive services world number := by
  rw [isLive, isLive, getElem?_following]

/-! ## Releasing -/

theorem releaseConnection_following (number : Nat) (manager : Manager) (world : World) :
    (manager.following earlier touched).releaseConnection services (earlier.length + number) world =
      ((manager.releaseConnection services number world).1.following earlier touched,
        (manager.releaseConnection services number world).2) := by
  unfold releaseConnection
  rw [getElem?_following]
  cases manager.connections[number]? with
  | none => rfl
  | some connection =>
      dsimp only
      cases connection.session with
      | none => rfl
      | some session => simp only [setConnection_following]

theorem releaseConnections_following (numbers : List Nat) (manager : Manager) (world : World) :
    releaseConnections services (numbers.map (earlier.length + ·))
        (manager.following earlier touched) world =
      ((releaseConnections services numbers manager world).1.following earlier touched,
        (releaseConnections services numbers manager world).2) := by
  induction numbers generalizing manager world with
  | nil => rfl
  | cons number rest ih =>
      simp only [List.map_cons, releaseConnections, releaseConnection_following, ih]

@[simp] theorem cancel_following (number : Nat) (manager : Manager) (world : World) :
    (manager.following earlier touched).cancel services (earlier.length + number) world =
      manager.cancel services number world := by
  simp only [cancel, getElem?_following]

theorem releaseEach_following (entries : List (ConnectionKey × Nat)) (manager : Manager)
    (world : World) :
    releaseEach services (entries.map fun entry => (entry.1, earlier.length + entry.2))
        (manager.following earlier touched) world =
      ((releaseEach services entries manager world).1.following earlier touched,
        (releaseEach services entries manager world).2) := by
  induction entries generalizing manager world with
  | nil => rfl
  | cons entry rest ih =>
      simp only [List.map_cons, releaseEach, isLive_following, cancel_following,
        releaseConnection_following, ih]

theorem clearServerState_following (manager : Manager) (world : World) :
    clearServerState services (manager.following earlier touched) world =
      ((clearServerState services manager world).1.following earlier touched,
        (clearServerState services manager world).2) := rfl

theorem update_following (identity : ServerIdentity) (manager : Manager) (world : World) :
    (manager.following earlier touched).update services identity world =
      ((manager.update services identity world).1.following earlier touched,
        (manager.update services identity world).2) := by
  simp only [update, values_following, releaseConnections_following]
  rfl

theorem releaseKey_following (key : ConnectionKey) (number : Nat) (oid : Option UInt32)
    (manager : Manager) (world : World) :
    (manager.following earlier touched).releaseKey services key (earlier.length + number) oid world =
      ((manager.releaseKey services key number oid world).1.following earlier touched,
        (manager.releaseKey services key number oid world).2) := by
  have hForget : ∀ released : Manager, (released.following earlier touched).forgetDatabase oid =
      (released.forgetDatabase oid).following earlier touched := by
    intro released
    cases oid <;> rfl
  unfold releaseKey
  rw [erase_following, releaseConnection_following]
  simp only [hForget, clearServerState_following]
  generalize (releaseConnection services number
    { manager with registry := manager.registry.erase key } world).1.forgetDatabase oid = forgotten
  have hEmpty : (forgotten.following earlier touched).registry.isEmpty =
      forgotten.registry.isEmpty := SortedMap.isEmpty_mapValues _ _
  rw [hEmpty]
  split <;> rfl

theorem release_following (request : ReleaseRequest) (manager : Manager) (world : World) :
    (manager.following earlier touched).release services request world =
      behind earlier touched (manager.release services request world) := by
  have hKey : (manager.following earlier touched).releaseKey? request =
    manager.releaseKey? request := rfl
  have hEntries : (manager.following earlier touched).registry.entries =
    manager.registry.entries.map fun entry => (entry.1, earlier.length + entry.2) := rfl
  unfold release
  by_cases hAll : request.isAll = true
  · simp only [if_pos hAll, releaseAll, hEntries, releaseEach_following]
    rfl
  · simp only [if_neg hAll, hKey, get?_following]
    cases manager.releaseKey? request with
    | none => rfl
    | some key =>
        dsimp only
        cases manager.registry.get? key with
        | none => rfl
        | some number =>
            simp only [Option.map_some, releaseKey_following]
            rfl

/-! ## Connecting -/

theorem register_following (key : ConnectionKey) (database : String) (flags : ConnectionFlags)
    (wasConnected : Bool) (manager : Manager) :
    (manager.following earlier touched).register key database flags wasConnected =
      (earlier.length + (manager.register key database flags wasConnected).1,
        (manager.register key database flags wasConnected).2.following earlier touched) := by
  unfold register
  rw [get?_following]
  cases manager.registry.get? key with
  | some number => rfl
  | none =>
      simp only [Option.map_none, following, List.length_append, List.append_assoc,
        SortedMap.mapValues_insert]

theorem discard_following (key : ConnectionKey) (manager : Manager) (world : World) :
    (manager.following earlier touched).discard services key world =
      ((manager.discard services key world).1.following earlier touched,
        (manager.discard services key world).2) := by
  unfold discard
  rw [get?_following, erase_following]
  cases manager.registry.get? key with
  | none => rfl
  | some number => exact releaseConnection_following services earlier touched number _ world

theorem adopt_following (number : Nat) (connection : Connection) (session : Nat)
    (info : ServerInfo) (explicit : Option Secret) (manager : Manager) :
    adopt (earlier.length + number) connection session info explicit
        (manager.following earlier touched) =
      (adopt number connection session info explicit manager).following earlier touched := by
  unfold adopt
  rw [setConnection_following]
  rfl

theorem openSession_following (number : Nat) (connection : Connection) (explicit : Option Secret)
    (params : ConnectParams) (manager : Manager) (world : World) :
    openSession services (earlier.length + number) connection explicit params
        (manager.following earlier touched) world =
      behind earlier touched
        (openSession services number connection explicit params manager world) := by
  unfold openSession
  generalize services.dial params world = dialled
  obtain ⟨answer, after⟩ := dialled
  cases answer with
  | error _ => rfl
  | ok session =>
      have hInfo : (manager.following earlier touched).learnInfo services session after =
        manager.learnInfo services session after := rfl
      simp only [hInfo, adopt_following]
      generalize manager.learnInfo services session after = learned
      obtain ⟨info, final⟩ := learned
      cases info <;> rfl

theorem connect_following (number : Nat) (explicit : Option Secret) (manager : Manager)
    (world : World) :
    (manager.following earlier touched).connect services (earlier.length + number) explicit world =
      behind earlier touched (manager.connect services number explicit world) := by
  -- the tunnel, the password and the parameters do not depend on other connections
  have hTunnel : (manager.following earlier touched).ensureTunnel services world =
    manager.ensureTunnel services world := rfl
  have hPassword : ∀ key?, (manager.following earlier touched).attemptPassword key? explicit =
    manager.attemptPassword key? explicit := fun _ => rfl
  have hParams : (manager.following earlier touched).attemptParams services =
    manager.attemptParams services := rfl
  unfold connect
  rw [getElem?_following, hTunnel, hParams]
  cases manager.connections[number]? with
  | none => rfl
  | some connection =>
      dsimp only
      split
      · rfl
      · generalize manager.ensureTunnel services world = raised
        obtain ⟨result, tunnel, middle⟩ := raised
        cases result with
        | error _ => rfl
        | ok port =>
            simp only [hPassword]
            cases manager.attemptPassword (services.cryptKey middle) explicit with
            | error _ => rfl
            | ok password =>
                exact openSession_following services earlier touched number connection explicit _
                  { manager with tunnel } middle

@[simp] theorem execute_following (number : Nat) (sql : String) (manager : Manager)
    (world : World) :
    (manager.following earlier touched).execute services (earlier.length + number) sql world =
      manager.execute services number sql world := by
  simp only [execute, getElem?_following]
  rfl

@[simp] theorem executeScalar_following (number : Nat) (sql : String) (manager : Manager)
    (world : World) :
    (manager.following earlier touched).executeScalar services (earlier.length + number) sql world =
      manager.executeScalar services number sql world := by
  simp only [executeScalar, execute_following]

/-! ## Requests for connections -/

theorem ensureConnected_following (number : Nat) (manager : Manager) (world : World) :
    (manager.following earlier touched).ensureConnected services (earlier.length + number) world =
      behind earlier touched (manager.ensureConnected services number world) := by
  unfold ensureConnected
  rw [isLive_following, connect_following]
  split <;> rfl

theorem fetchDatabase_following (number : Nat) (oid : UInt32) (manager : Manager)
    (world : World) :
    (manager.following earlier touched).fetchDatabase services (earlier.length + number) oid world =
      behind earlier touched (manager.fetchDatabase services number oid world) := by
  unfold fetchDatabase
  rw [ensureConnected_following]
  generalize manager.ensureConnected services number world = ensured
  obtain ⟨result, connected, middle⟩ := ensured
  cases result with
  | error _ => rfl
  | ok _ =>
      have hInfo : (connected.following earlier touched).requireInfo = connected.requireInfo := rfl
      simp only [behind, hInfo]
      cases connected.requireInfo with
      | error _ => rfl
      | ok info =>
          simp only [execute_following]
          generalize connected.execute services number (databaseQuery oid info.number) middle =
            answer
          obtain ⟨rows, after⟩ := answer
          cases rows with
          | error _ => rfl
          | ok rows =>
              dsimp only
              cases rows.head?.bind DatabaseInfo.ofRow? <;> rfl

theorem resolveDatabase_following (request : ConnectionRequest) (manager : Manager)
    (world : World) :
    (manager.following earlier touched).resolveDatabase services request world =
      behind earlier touched (manager.resolveDatabase services request world) := by
  have hIdentity : (manager.following earlier touched).identity = manager.identity := rfl
  have hDatabases : (manager.following earlier touched).databases = manager.databases := rfl
  unfold resolveDatabase
  rw [hIdentity, hDatabases]
  cases request.database with
  | some name => cases request.oid <;> rfl
  | none =>
      cases request.oid with
      | none => rfl
      | some oid =>
          dsimp only
          cases manager.databases.get? oid with
          | some info => rfl
          | none =>
              dsimp only
              cases manager.identity.maintenanceDatabase with
              | none => rfl
              | some maintenance =>
                  simp only [register_following, fetchDatabase_following]
                  generalize fetchDatabase services _ oid _ world = fetched
                  obtain ⟨result, found, after⟩ := fetched
                  cases result <;> rfl

theorem noDatabase_following (request : ConnectionRequest) (manager : Manager) (world : World) :
    (manager.following earlier touched).noDatabase services request world =
      ((manager.noDatabase services request world).1,
        (manager.noDatabase services request world).2.following earlier touched) := by
  have hIdentity : (manager.following earlier touched).identity = manager.identity := rfl
  have hTunnel : (manager.following earlier touched).tunnel = manager.tunnel := rfl
  unfold noDatabase
  rw [hIdentity, hTunnel]
  cases tunnelHost? services.config manager.identity with
  | none => rfl
  | some host =>
      dsimp only
      generalize manager.tunnel.checkAlive services host world = checked
      obtain ⟨result, tunnel⟩ := checked
      cases result <;> rfl

/-- A connection is handed out under its moved number. -/
theorem connection_following (request : ConnectionRequest) (manager : Manager)
    (world : World) :
    (manager.following earlier touched).connection services request world =
      behind earlier touched
        (((manager.connection services request world).1.map (earlier.length + ·)),
          (manager.connection services request world).2) := by
  unfold connection
  rw [resolveDatabase_following]
  generalize manager.resolveDatabase services request world = outcome
  obtain ⟨result, resolved, after⟩ := outcome
  cases result with
  | error _ => rfl
  | ok database? =>
      have hSecrets : (resolved.following earlier touched).hasSecrets = resolved.hasSecrets := rfl
      simp only [behind, hSecrets]
      split
      · rfl
      · cases database? with
        | none => simp only [noDatabase_following, Except.map]
        | some database =>
            -- a connection that is handed out touches the manager in any case
            simp only [register_following, Except.map]
            simp only [following, Bool.or_true]

/-! ## Restoring -/

theorem restoreEntries_following (entries : List (ConnectionKey × ConnectionSnapshot))
    (manager : Manager) (world : World) :
    restoreEntries services entries (manager.following earlier touched) world =
      behind earlier touched (restoreEntries services entries manager world) := by
  induction entries generalizing manager world with
  | nil => rfl
  | cons entry rest ih =>
      obtain ⟨key, saved⟩ := entry
      simp only [restoreEntries, register_following]
      generalize manager.register key saved.database saved.flags saved.wasConnected = registration
      obtain ⟨number, registered⟩ := registration
      dsimp only
      rw [isLive_following, connect_following]
      split
      · exact ih registered world
      · generalize registered.connect services number none world = outcome
        obtain ⟨result, connected, after⟩ := outcome
        cases result with
        | ok _ => exact ih connected after
        | error error =>
            cases error with
            | cryptKeyMissing => exact ih connected after
            | _ => simp only [behind, discard_following]

theorem restore_following (snapshot : ManagerSnapshot) (manager : Manager) (world : World) :
    (manager.following earlier touched).restore services snapshot world =
      behind earlier touched (manager.restore services snapshot world) := by
  have hTaken : (manager.following earlier touched).takeOver services.config snapshot =
    (manager.takeOver services.config snapshot).following earlier touched := rfl
  unfold restore
  rw [hTaken]
  cases snapshot.checkVersion with
  | error _ => rfl
  | ok _ =>
      cases snapshot.entries with
      | error _ => rfl
      | ok entries => exact restoreEntries_following services earlier touched entries _ world

theorem reconnectEach_following (numbers : List Nat) (manager : Manager) (world : World) :
    reconnectEach services (numbers.map (earlier.length + ·)) (manager.following earlier touched)
        world =
      behind earlier touched (reconnectEach services numbers manager world) := by
  induction numbers generalizing manager world with
  | nil => rfl
  | cons number rest ih =>
      simp only [List.map_cons, reconnectEach, getElem?_following, connect_following]
      split
      · generalize manager.connect services number none world = outcome
        obtain ⟨result, connected, after⟩ := outcome
        cases result with
        | ok _ => exact ih connected after
        | error error =>
            cases error with
            | cryptKeyMissing => exact ih connected after
            | _ => rfl
      · exact ih manager world

theorem restoreConnections_following (manager : Manager) (world : World) :
    (manager.following earlier touched).restoreConnections services world =
      behind earlier touched (manager.restoreConnections services world) := by
  unfold restoreConnections
  rw [values_following]
  exact reconnectEach_following services earlier touched _ manager world

/-- What is saved of a manager does not depend on connections that are not registered. -/
theorem snapshot_following (config : ConsoleConfig) (manager : Manager) :
    (manager.following earlier touched).snapshot config = manager.snapshot config := by
  have hEntries : (manager.following earlier touched).registry.entries =
    manager.registry.entries.map fun entry => (entry.1, earlier.length + entry.2) := rfl
  have hSaved : (manager.following earlier touched).savedConnections =
      manager.savedConnections := by
    simp only [savedConnections, hEntries, List.filterMap_map, Function.comp_def,
      getElem?_following]
  have hEmpty : (manager.following earlier touched).registry.isEmpty =
    manager.registry.isEmpty := SortedMap.isEmpty_mapValues _ _
  unfold snapshot
  rw [hSaved, hEmpty]
  rfl

/-! ## Whole runs -/

/-- An interaction comes to the same with earlier connections in the manager, once numbers are
moved up. -/
theorem interact_following (interaction : Interaction) (manager : Manager) (world : World) :
    (manager.following earlier touched).interact services (interaction.moved earlier.length) world =
      behind earlier touched
        ((manager.interact services interaction world).1.map (Reply.moved earlier.length),
          (manager.interact services interaction world).2) := by
  cases interaction with
  | update identity =>
      simp only [Interaction.moved, interact, update_following]
      rfl
  | connection request =>
      simp only [Interaction.moved, interact, connection_following]
      cases (manager.connection services request world).1 <;> rfl
  | release request =>
      simp only [Interaction.moved, interact, release_following]
      rfl
  | restore snapshot =>
      simp only [Interaction.moved, interact, restore_following, behind]
      cases (manager.restore services snapshot world).1 <;> rfl
  | restoreConnections =>
      simp only [Interaction.moved, interact, restoreConnections_following, behind]
      cases (manager.restoreConnections services world).1 <;> rfl
  | connect number explicit =>
      simp only [Interaction.moved, interact, connect_following, behind]
      cases (manager.connect services number explicit world).1 <;> rfl
  | releaseSession number =>
      simp only [Interaction.moved, interact, releaseConnection_following]
      rfl
  | execute number sql =>
      simp only [Interaction.moved, interact, execute_following]
      cases (manager.execute services number sql world).1 <;> rfl
  | executeScalar number sql =>
      simp only [Interaction.moved, interact, executeScalar_following]
      cases (manager.executeScalar services number sql world).1 <;> rfl
  | cancel number =>
      simp only [Interaction.moved, interact, cancel_following]
      cases (manager.cancel services number world).1 <;> rfl

/-- A whole run with earlier connections in the manager: the same replies, the same worlds, and
in the end the same manager. -/
theorem conversation_following (steps : List (World × Interaction)) (manager : Manager) :
    conversation services (steps.map fun step => (step.1, step.2.moved earlier.length))
        (manager.following earlier touched) =
      (conversation services steps manager).map
        (fun answer => (answer.1.map (Reply.moved earlier.length), answer.2)) ∧
    interactAll services (steps.map fun step => (step.1, step.2.moved earlier.length))
        (manager.following earlier touched) =
      (interactAll services steps manager).following earlier touched := by
  induction steps generalizing manager with
  | nil => exact ⟨rfl, rfl⟩
  | cons step rest ih =>
      obtain ⟨world, interaction⟩ := step
      have hStep := interact_following services earlier touched interaction manager world
      obtain ⟨hReplies, hManager⟩ := ih (manager.interact services interaction world).2.1
      constructor
      · simp only [List.map_cons, conversation, hStep]
        rw [← hReplies]
        rfl
      · simp only [List.map_cons, interactAll, List.foldl_cons, hStep]
        exact hManager

end Commutes

/-! ## Updates -/

/-- The sessions of several connections, with none listed twice, are closed one after the other. -/
theorem releaseConnections_calls (services : Services World) {numbers : List Nat}
    (hDistinct : numbers.Nodup) (manager : Manager) (world : Recorded World) :
    (releaseConnections services.recorded numbers manager world).2.calls =
      world.calls ++ (numbers.filterMap manager.sessionOf?).map .close := by
  induction numbers generalizing manager world with
  | nil => simp [releaseConnections]
  | cons number rest ih =>
      obtain ⟨hFirst, hRest⟩ := List.nodup_cons.mp hDistinct
      -- the connections that come after this one hold what they held before
      have hSessions : ∀ other ∈ rest,
          (manager.releaseConnection services.recorded number world).1.sessionOf? other =
            manager.sessionOf? other := by
        intro other hOther
        rw [sessionOf?_releaseConnection, if_neg]
        rintro rfl
        exact hFirst hOther
      rw [releaseConnections, ih hRest, releaseConnection_calls, List.filterMap_congr hSessions,
        List.append_assoc, List.filterMap_cons]
      cases manager.sessionOf? number <;> rfl

theorem releaseConnections_tunnel (services : Services World) (numbers : List Nat)
    (manager : Manager) (world : World) :
    (releaseConnections services numbers manager world).1.tunnel = manager.tunnel := by
  obtain ⟨connections, hReleased, -⟩ := releaseConnections_frame services numbers manager world
  rw [hReleased]

/-- An update closes the sessions of registered connections, then stops the tunnel. -/
theorem update_calls (services : Services World) (identity : ServerIdentity) {manager : Manager}
    (hKeyed : manager.Keyed) (world : Recorded World) :
    (manager.update services.recorded identity world).2.calls =
      world.calls ++ (manager.registry.values.filterMap manager.sessionOf?).map .close ++
        manager.tunnel.handle.toList.map .stopTunnel := by
  unfold update
  rw [← releaseConnections_calls services hKeyed.nodup_values manager world,
    ← releaseConnections_tunnel services.recorded manager.registry.values manager world]
  exact stop_calls services _ _

/-- A manager of the same server is as good as new after an update, except that it stays
touched. -/
theorem update_eq_new (services : Services World) {identity : ServerIdentity} {manager : Manager}
    (hServer : identity.id = manager.server) (world : World) :
    (manager.update services identity world).1 =
      { new identity with
        connections := (manager.update services identity world).1.connections
        touched := manager.touched } := by
  obtain ⟨connections, hUpdated⟩ := update_frame services identity manager world
  rw [hUpdated, new, hServer]

/-- A new manager may well follow connections made by another one. -/
theorem following_new (identity : ServerIdentity) (connections : List Connection)
    (touched : Bool) :
    (new identity).following connections touched =
      { new identity with connections, touched } := by
  simp [following, new]

/-- With nothing registered and no tunnel, an update makes no call. -/
theorem update_of_new (services : Services World) (identity : ServerIdentity)
    (connections : List Connection) (touched : Bool) (world : World) :
    ({ new identity with connections, touched } : Manager).update services identity world =
      ({ new identity with connections, touched }, world) := rfl

/-- An update makes a manager of the same server new.  Nothing is left of what it knew but that it
has been handed out; every connection that was registered has lost its session, which was closed,
and the tunnel is stopped.  A second update changes nothing and makes no call.  Whatever callers do
from then on, they get the replies of a new manager and leave the same worlds, with the numbers of
their connections moved up by those made before; and what would be saved is the same. -/
theorem update_like_new (services : Services World) {manager : Manager}
    (hArisen : Arisen services.recorded manager) {identity : ServerIdentity}
    (hServer : identity.id = manager.server) (world : Recorded World) :
    let updated := (manager.update services.recorded identity world).1
    let count := updated.connections.length
    updated = { new identity with connections := updated.connections, touched := manager.touched } ∧
      (∀ number, updated.sessionOf? number =
        if number ∈ manager.registry.values then none else manager.sessionOf? number) ∧
      (manager.update services.recorded identity world).2.calls =
        world.calls ++ (manager.registry.values.filterMap manager.sessionOf?).map .close ++
          manager.tunnel.handle.toList.map .stopTunnel ∧
      (∀ later, updated.update services.recorded identity later = (updated, later)) ∧
      ∀ steps : List (Recorded World × Interaction),
        let moved := steps.map fun step => (step.1, step.2.moved count)
        conversation services.recorded moved updated =
            (conversation services.recorded steps (new identity)).map
              (fun answer => (answer.1.map (Reply.moved count), answer.2)) ∧
          interactAll services.recorded moved updated =
            (interactAll services.recorded steps (new identity)).following
              updated.connections manager.touched ∧
          (interactAll services.recorded moved updated).snapshot services.config =
            (interactAll services.recorded steps (new identity)).snapshot services.config := by
  intro updated count
  have hNew : updated =
      { new identity with connections := updated.connections, touched := manager.touched } :=
    update_eq_new services.recorded hServer world
  have hFollowing : updated = (new identity).following updated.connections manager.touched := by
    rw [following_new]
    exact hNew
  refine ⟨hNew, ?_, update_calls services identity hArisen.keyed world, ?_, ?_⟩
  · intro number
    exact sessionOf?_releaseConnections services.recorded manager.registry.values number manager world
  · intro later
    rw [hNew]
    exact update_of_new services.recorded identity _ _ later
  · intro steps moved
    obtain ⟨hReplies, hManager⟩ := conversation_following services.recorded updated.connections
      manager.touched steps (new identity)
    rw [← hFollowing] at hReplies hManager
    refine ⟨hReplies, hManager, ?_⟩
    rw [hManager, snapshot_following]

/-- The same for a manager with an open session, a tunnel and a restored password: all three are
gone, and the next connection opens as it does for a new manager, under the next number. -/
theorem update_like_new_after_restore :
    let services := Services.steady (.standard "" "") (.ok 7)
      (.ok [[("ver", some "PostgreSQL 16.2"), ("sversion", some "160002")]]) (.ok ⟨0, 50000⟩)
    let identity : ServerIdentity :=
      { id := 1, name := "main", host := "db.internal", username := "app"
        tunnel := some { host := "bastion", username := "ops" } }
    let saved : ManagerSnapshot :=
      { version := snapshotVersion, server := 1, versionText := "", versionNumber := 0
        password := some ⟨[1, 2, 3]⟩, tunnelPassword := none, connections := .empty }
    let world : Recorded Unit := ⟨(), []⟩
    let manager := interactAll services.recorded
      [(world, .connection { database := some "app" }), (world, .connect 0 none),
        (world, .restore saved)] (new identity)
    let outcome := manager.update services.recorded identity world
    (Arisen services.recorded manager ∧ identity.id = manager.server) ∧
      (manager.password = some ⟨[1, 2, 3]⟩ ∧ manager.sessionOf? 0 = some 7 ∧
        manager.tunnel.handle = some ⟨0, 50000⟩) ∧
      (outcome.1.password = none ∧ outcome.1.sessionOf? 0 = none ∧
        outcome.2.calls = [.close 7, .stopTunnel ⟨0, 50000⟩]) ∧
      conversation services.recorded
          [(world, .connection { database := some "app" }), (world, .connect 1 none)] outcome.1 =
        (conversation services.recorded
          [(world, .connection { database := some "app" }), (world, .connect 0 none)]
            (new identity)).map fun answer => (answer.1.map (Reply.moved 1), answer.2) := by
  intro services identity saved world manager outcome
  have hArisen : Arisen services.recorded manager := (Arisen.new identity).interactAll _
  have hServer : identity.id = manager.server := by decide +kernel
  have hPassword : manager.password = some ⟨[1, 2, 3]⟩ := by decide +kernel
  have hSession : manager.sessionOf? 0 = some 7 := by decide +kernel
  have hTunnel : manager.tunnel.handle = some ⟨0, 50000⟩ := by decide +kernel
  have hValues : manager.registry.values = [0] := by decide +kernel
  have hCount : outcome.1.connections.length = 1 := by decide +kernel
  obtain ⟨hNew, hSessions, hCalls, -, hLater⟩ := update_like_new services hArisen hServer world
  rw [hValues, hTunnel] at hCalls
  obtain ⟨hReplies, -⟩ := hLater
    [(world, .connection { database := some "app" }), (world, .connect 0 none)]
  refine ⟨⟨hArisen, hServer⟩, ⟨hPassword, hSession, hTunnel⟩, ⟨?_, ?_, ?_⟩, ?_⟩
  · exact congrArg Manager.password hNew
  · rw [hSessions, hValues]
    rfl
  · rw [hCalls, List.filterMap_cons, hSession]
    rfl
  · rw [hCount] at hReplies
    exact hReplies

end Manager

end PgConsole
