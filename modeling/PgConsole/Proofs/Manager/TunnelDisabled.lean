import PgConsole.Proofs.Manager.Calls
import PgConsole.Proofs.Manager.Interaction

namespace PgConsole.Manager

/-!
# Tunnel settings while tunnels are not supported

Where the configuration does not support tunnels, the tunnel settings of an identity should make
no difference.  `withTunnel` puts other settings and another tunnel password into a manager, and
every part of a manager commutes with it while tunnels are not supported, with one exception: a
request for a connection is refused for lack of the decryption key as long as any secret is
stored, and the tunnel password counts.

`same_answers_iff` states exactly when two managers whose identities differ in the tunnel alone
answer every call alike and have the driver called alike: unless a request for a connection finds
the key missing while no password is stored and one of the two has a tunnel password.
-/

variable {World : Type}

/-- The manager with other tunnel settings and another tunnel password. -/
def withTunnel (tunnel : Option TunnelSettings) (password : Option Secret) (manager : Manager) :
    Manager :=
  { manager with identity := { manager.identity with tunnel }, tunnelPassword := password }

/-- What comes of a call, with other tunnel settings in the manager. -/
def retunnel {α : Type} (tunnel : Option TunnelSettings) (password : Option Secret)
    (outcome : α × Manager × World) : α × Manager × World :=
  (outcome.1, outcome.2.1.withTunnel tunnel password, outcome.2.2)

/-- The managers differ in tunnel settings and tunnel password at most. -/
def SameButTunnel (first second : Manager) : Prop :=
  second = first.withTunnel second.identity.tunnel second.tunnelPassword

section Commutes

variable (services : Services World) (tunnel : Option TunnelSettings) (password : Option Secret)

theorem releaseConnection_withTunnel (number : Nat) (manager : Manager) (world : World) :
    (manager.withTunnel tunnel password).releaseConnection services number world =
      ((manager.releaseConnection services number world).1.withTunnel tunnel password,
        (manager.releaseConnection services number world).2) := by
  simp only [releaseConnection, withTunnel]
  cases manager.connections[number]? with
  | none => rfl
  | some connection =>
      dsimp only
      cases connection.session <;> rfl

theorem releaseConnections_withTunnel (numbers : List Nat) (manager : Manager) (world : World) :
    releaseConnections services numbers (manager.withTunnel tunnel password) world =
      ((releaseConnections services numbers manager world).1.withTunnel tunnel password,
        (releaseConnections services numbers manager world).2) := by
  induction numbers generalizing manager world with
  | nil => rfl
  | cons number rest ih => simp only [releaseConnections, releaseConnection_withTunnel, ih]

theorem releaseEach_withTunnel (entries : List (ConnectionKey × Nat)) (manager : Manager)
    (world : World) :
    releaseEach services entries (manager.withTunnel tunnel password) world =
      ((releaseEach services entries manager world).1.withTunnel tunnel password,
        (releaseEach services entries manager world).2) := by
  induction entries generalizing manager world with
  | nil => rfl
  | cons entry rest ih =>
      -- whether and what is cancelled depends on the connections alone
      have hLive : (manager.withTunnel tunnel password).isLive services world entry.2 =
        manager.isLive services world entry.2 := rfl
      have hCancel : (manager.withTunnel tunnel password).cancel services entry.2 world =
        manager.cancel services entry.2 world := rfl
      simp only [releaseEach, hLive, hCancel, releaseConnection_withTunnel, ih]

theorem clearServerState_withTunnel (manager : Manager) (world : World) :
    clearServerState services (manager.withTunnel tunnel password) world =
      ((clearServerState services manager world).1.withTunnel tunnel password,
        (clearServerState services manager world).2) := rfl

theorem releaseKey_withTunnel (key : ConnectionKey) (number : Nat) (oid : Option UInt32)
    (manager : Manager) (world : World) :
    (manager.withTunnel tunnel password).releaseKey services key number oid world =
      ((manager.releaseKey services key number oid world).1.withTunnel tunnel password,
        (manager.releaseKey services key number oid world).2) := by
  have hErase : { manager.withTunnel tunnel password with
      registry := (manager.withTunnel tunnel password).registry.erase key } =
      ({ manager with registry := manager.registry.erase key }).withTunnel tunnel password := rfl
  have hForget : ∀ released : Manager, (released.withTunnel tunnel password).forgetDatabase oid =
      (released.forgetDatabase oid).withTunnel tunnel password := by
    intro released
    cases oid <;> rfl
  unfold releaseKey
  rw [hErase, releaseConnection_withTunnel]
  simp only [hForget, clearServerState_withTunnel]
  generalize (releaseConnection services number
    { manager with registry := manager.registry.erase key } world).1.forgetDatabase oid = forgotten
  have hRegistry : (forgotten.withTunnel tunnel password).registry = forgotten.registry := rfl
  rw [hRegistry]
  split <;> rfl

theorem release_withTunnel (request : ReleaseRequest) (manager : Manager) (world : World) :
    (manager.withTunnel tunnel password).release services request world =
      retunnel tunnel password (manager.release services request world) := by
  have hKey : (manager.withTunnel tunnel password).releaseKey? request =
    manager.releaseKey? request := rfl
  have hRegistry : (manager.withTunnel tunnel password).registry = manager.registry := rfl
  unfold release
  by_cases hAll : request.isAll = true
  · simp only [if_pos hAll, releaseAll, hRegistry, releaseEach_withTunnel]
    rfl
  · simp only [if_neg hAll, hKey, hRegistry]
    cases manager.releaseKey? request with
    | none => rfl
    | some key =>
        dsimp only
        cases manager.registry.get? key with
        | none => rfl
        | some number =>
            simp only [releaseKey_withTunnel]
            rfl

theorem register_withTunnel (key : ConnectionKey) (database : String) (flags : ConnectionFlags)
    (wasConnected : Bool) (manager : Manager) :
    (manager.withTunnel tunnel password).register key database flags wasConnected =
      ((manager.register key database flags wasConnected).1,
        (manager.register key database flags wasConnected).2.withTunnel tunnel password) := by
  simp only [register, withTunnel]
  cases manager.registry.get? key <;> rfl

theorem discard_withTunnel (key : ConnectionKey) (manager : Manager) (world : World) :
    (manager.withTunnel tunnel password).discard services key world =
      ((manager.discard services key world).1.withTunnel tunnel password,
        (manager.discard services key world).2) := by
  have hErase : { manager.withTunnel tunnel password with
      registry := (manager.withTunnel tunnel password).registry.erase key } =
      ({ manager with registry := manager.registry.erase key }).withTunnel tunnel password := rfl
  have hRegistry : (manager.withTunnel tunnel password).registry.get? key =
    manager.registry.get? key := rfl
  unfold discard
  rw [hErase, hRegistry]
  cases manager.registry.get? key with
  | none => rfl
  | some number => exact releaseConnection_withTunnel services tunnel password number _ world

/-- An update puts its own tunnel settings in. -/
theorem update_withTunnel (identity : ServerIdentity) (manager : Manager) (world : World) :
    (manager.withTunnel tunnel password).update services identity world =
      manager.update services identity world := by
  have hRegistry : (manager.withTunnel tunnel password).registry = manager.registry := rfl
  simp only [update, hRegistry, releaseConnections_withTunnel]
  rfl

theorem openSession_withTunnel (number : Nat) (connection : Connection) (explicit : Option Secret)
    (params : ConnectParams) (manager : Manager) (world : World) :
    openSession services number connection explicit params (manager.withTunnel tunnel password)
        world =
      retunnel tunnel password
        (openSession services number connection explicit params manager world) := by
  unfold openSession
  generalize services.dial params world = dialled
  obtain ⟨answer, after⟩ := dialled
  cases answer with
  | error _ => rfl
  | ok session =>
      have hInfo : (manager.withTunnel tunnel password).learnInfo services session after =
        manager.learnInfo services session after := rfl
      simp only [hInfo]
      generalize manager.learnInfo services session after = learned
      obtain ⟨info, final⟩ := learned
      cases info <;> rfl

variable {services} (hDisabled : services.config.supportSshTunnel = false)
include hDisabled

theorem tunnelHost?_of_disabled (identity : ServerIdentity) :
    tunnelHost? services.config identity = none := by
  simp only [tunnelHost?, hDisabled, Bool.false_eq_true, if_false]

/-- A connection attempt needs no tunnel. -/
theorem connect_of_disabled (number : Nat) (explicit : Option Secret) (manager : Manager)
    (world : World) :
    manager.connect services number explicit world =
      match manager.connections[number]? with
      | none => (.error noConnection, manager, world)
      | some connection =>
        if connection.isLive services world then (.ok (), manager, world)
        else
          match manager.attemptPassword (services.cryptKey world) explicit with
          | .error error => (.error error, manager, world)
          | .ok text =>
            openSession services number connection explicit
              (manager.attemptParams services connection text none) manager world := by
  unfold connect
  rewrite [ensureTunnel_of_none (tunnelHost?_of_disabled hDisabled manager.identity)]
  rfl

theorem connect_withTunnel (number : Nat) (explicit : Option Secret) (manager : Manager)
    (world : World) :
    (manager.withTunnel tunnel password).connect services number explicit world =
      retunnel tunnel password (manager.connect services number explicit world) := by
  -- connections, password and parameters do not depend on the tunnel settings
  have hConnections : (manager.withTunnel tunnel password).connections = manager.connections := rfl
  have hPassword : (manager.withTunnel tunnel password).attemptPassword (services.cryptKey world)
    explicit = manager.attemptPassword (services.cryptKey world) explicit := rfl
  have hParams : (manager.withTunnel tunnel password).attemptParams services =
    manager.attemptParams services := rfl
  rw [connect_of_disabled hDisabled, connect_of_disabled hDisabled, hConnections, hPassword,
    hParams]
  cases manager.connections[number]? with
  | none => rfl
  | some connection =>
      dsimp only
      split
      · rfl
      · cases manager.attemptPassword (services.cryptKey world) explicit with
        | error _ => rfl
        | ok text =>
            exact openSession_withTunnel services tunnel password number connection explicit _
              manager world

theorem fetchDatabase_withTunnel (number : Nat) (oid : UInt32) (manager : Manager)
    (world : World) :
    (manager.withTunnel tunnel password).fetchDatabase services number oid world =
      retunnel tunnel password (manager.fetchDatabase services number oid world) := by
  have hEnsured : (manager.withTunnel tunnel password).ensureConnected services number world =
      retunnel tunnel password (manager.ensureConnected services number world) := by
    have hLive : (manager.withTunnel tunnel password).isLive services world number =
      manager.isLive services world number := rfl
    unfold ensureConnected
    rw [hLive, connect_withTunnel tunnel password hDisabled]
    split <;> rfl
  unfold fetchDatabase
  rw [hEnsured]
  generalize manager.ensureConnected services number world = ensured
  obtain ⟨result, connected, middle⟩ := ensured
  cases result with
  | error _ => rfl
  | ok _ =>
      have hInfo : (connected.withTunnel tunnel password).requireInfo = connected.requireInfo := rfl
      simp only [retunnel, hInfo]
      cases connected.requireInfo with
      | error _ => rfl
      | ok info =>
          have hExecute : (connected.withTunnel tunnel password).execute services number
            (databaseQuery oid info.number) middle =
            connected.execute services number (databaseQuery oid info.number) middle := rfl
          simp only [hExecute]
          generalize connected.execute services number (databaseQuery oid info.number) middle =
            answer
          obtain ⟨rows, after⟩ := answer
          cases rows with
          | error _ => rfl
          | ok rows =>
              dsimp only
              cases rows.head?.bind DatabaseInfo.ofRow? <;> rfl

theorem resolveDatabase_withTunnel (request : ConnectionRequest) (manager : Manager)
    (world : World) :
    (manager.withTunnel tunnel password).resolveDatabase services request world =
      retunnel tunnel password (manager.resolveDatabase services request world) := by
  have hMaintenance : (manager.withTunnel tunnel password).identity.maintenanceDatabase =
    manager.identity.maintenanceDatabase := rfl
  have hDatabases : (manager.withTunnel tunnel password).databases = manager.databases := rfl
  unfold resolveDatabase
  rw [hMaintenance, hDatabases]
  cases request.database with
  | some name => cases request.oid <;> rfl
  | none =>
      cases request.oid with
      | none => rfl
      | some oid =>
          dsimp only
          cases manager.databases.get? oid with
          | some info => rfl
          | none =>
              dsimp only
              cases manager.identity.maintenanceDatabase with
              | none => rfl
              | some maintenance =>
                  simp only [register_withTunnel,
                    fetchDatabase_withTunnel tunnel password hDisabled]
                  generalize fetchDatabase services _ oid _ world = fetched
                  obtain ⟨result, found, after⟩ := fetched
                  cases result <;> rfl

theorem noDatabase_withTunnel (request : ConnectionRequest) (manager : Manager) (world : World) :
    (manager.withTunnel tunnel password).noDatabase services request world =
      ((manager.noDatabase services request world).1,
        (manager.noDatabase services request world).2.withTunnel tunnel password) := by
  simp only [noDatabase, tunnelHost?_of_disabled hDisabled]
  rfl

theorem restoreEntries_withTunnel (entries : List (ConnectionKey × ConnectionSnapshot))
    (manager : Manager) (world : World) :
    restoreEntries services entries (manager.withTunnel tunnel password) world =
      retunnel tunnel password (restoreEntries services entries manager world) := by
  induction entries generalizing manager world with
  | nil => rfl
  | cons entry rest ih =>
      obtain ⟨key, saved⟩ := entry
      simp only [restoreEntries, register_withTunnel]
      generalize manager.register key saved.database saved.flags saved.wasConnected = registration
      obtain ⟨number, registered⟩ := registration
      have hLive : (registered.withTunnel tunnel password).isLive services world number =
        registered.isLive services world number := rfl
      dsimp only
      rw [hLive, connect_withTunnel tunnel password hDisabled]
      split
      · exact ih registered world
      · generalize registered.connect services number none world = outcome
        obtain ⟨result, connected, after⟩ := outcome
        cases result with
        | ok _ => exact ih connected after
        | error error =>
            cases error with
            | cryptKeyMissing => exact ih connected after
            | _ => simp only [retunnel, discard_withTunnel]

theorem reconnectEach_withTunnel (numbers : List Nat) (manager : Manager) (world : World) :
    reconnectEach services numbers (manager.withTunnel tunnel password) world =
      retunnel tunnel password (reconnectEach services numbers manager world) := by
  induction numbers generalizing manager world with
  | nil => rfl
  | cons number rest ih =>
      have hConnections : (manager.withTunnel tunnel password).connections = manager.connections :=
        rfl
      simp only [reconnectEach, hConnections, connect_withTunnel tunnel password hDisabled]
      split
      · generalize manager.connect services number none world = outcome
        obtain ⟨result, connected, after⟩ := outcome
        cases result with
        | ok _ => exact ih connected after
        | error error =>
            cases error with
            | cryptKeyMissing => exact ih connected after
            | _ => rfl
      · exact ih manager world

theorem restore_withTunnel (snapshot : ManagerSnapshot) (manager : Manager) (world : World) :
    ∃ taken, (manager.withTunnel tunnel password).restore services snapshot world =
      retunnel tunnel taken (manager.restore services snapshot world) := by
  unfold restore
  cases snapshot.checkVersion with
  | error _ => exact ⟨password, rfl⟩
  | ok _ =>
      cases snapshot.entries with
      | error _ => exact ⟨password, rfl⟩
      | ok entries =>
          -- the tunnel password is taken over from the snapshot, if that has one
          let taken := if services.config.storeSecretsInSession then
            snapshot.tunnelPassword.or password else password
          have hTaken : (manager.withTunnel tunnel password).takeOver services.config snapshot =
            (manager.takeOver services.config snapshot).withTunnel tunnel taken := rfl
          refine ⟨taken, ?_⟩
          simp only [hTaken]
          exact restoreEntries_withTunnel tunnel taken hDisabled entries _ world

/-- Looking a database up leaves the tunnel password alone. -/
theorem tunnelPassword_resolveDatabase (request : ConnectionRequest) (manager : Manager)
    (world : World) :
    (manager.resolveDatabase services request world).2.1.tunnelPassword =
      manager.tunnelPassword := by
  have hSelf := resolveDatabase_withTunnel manager.identity.tunnel manager.tunnelPassword hDisabled
    request manager world
  exact congrArg (fun outcome => outcome.2.1.tunnelPassword) hSelf

end Commutes

/-! ## Requests for connections -/

/-- A request for a connection comes to the point where stored secrets matter, while the
decryption key is missing and no password is stored, and only one of the managers has a tunnel
password. -/
structure Exposed (services : Services World) (request : ConnectionRequest)
    (first second : Manager) (world : World) : Prop where
  locked : ∃ database? resolved after,
    first.resolveDatabase services request world = (.ok database?, resolved, after) ∧
      resolved.password = none ∧ services.cryptKey after = none
  differ : first.tunnelPassword.isSome ≠ second.tunnelPassword.isSome

section Requests

variable {services : Services World} {request : ConnectionRequest} {manager resolved : Manager}
  {database? : Option String} {world after : World}

/-- A stored secret without its key keeps connections from being handed out. -/
theorem connection_of_locked
    (hResolve : manager.resolveDatabase services request world = (.ok database?, resolved, after))
    (hKey : services.cryptKey after = none) (hSecrets : resolved.hasSecrets = true) :
    (manager.connection services request world).1 = .error .cryptKeyMissing := by
  simp [connection, hResolve, hKey, hSecrets]

/-- Without a stored secret the key is not missed. -/
theorem connection_of_no_secrets (hDisabled : services.config.supportSshTunnel = false)
    (hResolve : manager.resolveDatabase services request world = (.ok database?, resolved, after))
    (hSecrets : resolved.hasSecrets = false) :
    (manager.connection services request world).1 ≠ .error .cryptKeyMissing := by
  simp only [connection, hResolve, hSecrets, Bool.false_and, Bool.false_eq_true, if_false]
  cases database? with
  | none =>
      simp only [noDatabase, tunnelHost?_of_disabled hDisabled]
      intro hMissing
      cases hMissing
  | some database =>
      intro hMissing
      cases hMissing

theorem connection_withTunnel (hDisabled : services.config.supportSshTunnel = false)
    (tunnel : Option TunnelSettings) (password : Option Secret) (request : ConnectionRequest)
    (manager : Manager) (world : World)
    (hSafe : ¬Exposed services request manager (manager.withTunnel tunnel password) world) :
    (manager.withTunnel tunnel password).connection services request world =
      retunnel tunnel password (manager.connection services request world) := by
  have hPassword := tunnelPassword_resolveDatabase hDisabled request manager world
  have hResolve := resolveDatabase_withTunnel tunnel password hDisabled request manager world
  unfold connection
  rw [hResolve]
  cases hOutcome : manager.resolveDatabase services request world with
  | mk result rest =>
      obtain ⟨resolved, after⟩ := rest
      rw [hOutcome] at hPassword
      dsimp only at hPassword
      cases result with
      | error _ => rfl
      | ok database? =>
          have hSame : ((resolved.withTunnel tunnel password).hasSecrets &&
              (services.cryptKey after).isNone) =
              (resolved.hasSecrets && (services.cryptKey after).isNone) := by
            cases hKey : services.cryptKey after with
            | some key => simp
            | none =>
                by_cases hStored : resolved.password = none
                · -- only the tunnel passwords are left, and both managers have one or none
                  have hBoth : manager.tunnelPassword.isSome = password.isSome :=
                    Decidable.byContradiction fun hDiffer =>
                      hSafe ⟨⟨database?, resolved, after, hOutcome, hStored, hKey⟩, hDiffer⟩
                  simp only [hasSecrets, withTunnel, hPassword, hBoth]
                · simp only [hasSecrets, withTunnel, Option.isSome_iff_ne_none.mpr hStored,
                    Bool.true_or]
          simp only [retunnel, hSame]
          split
          · rfl
          · cases database? with
            | none =>
                simp only [noDatabase_withTunnel tunnel password hDisabled]
            | some database =>
                simp only [register_withTunnel]
                rfl

/-- An exposed request is answered differently. -/
theorem Exposed.connection_ne (hDisabled : services.config.supportSshTunnel = false)
    {first second : Manager} (hSame : SameButTunnel first second)
    (h : Exposed services request first second world) :
    (first.connection services request world).1 ≠ (second.connection services request world).1 := by
  obtain ⟨⟨database?, resolved, after, hFirst, hStored, hKey⟩, hDiffer⟩ := h
  have hPassword := tunnelPassword_resolveDatabase hDisabled request first world
  have hSecond := resolveDatabase_withTunnel second.identity.tunnel second.tunnelPassword hDisabled
    request first world
  rw [← hSame, hFirst] at hSecond
  rw [hFirst] at hPassword
  dsimp only at hPassword
  have hFirstSecrets : resolved.hasSecrets = first.tunnelPassword.isSome := by
    simp only [hasSecrets, hStored, hPassword, Option.isSome_none, Bool.false_or]
  have hSecondSecrets : (resolved.withTunnel second.identity.tunnel
      second.tunnelPassword).hasSecrets = second.tunnelPassword.isSome := by
    simp only [hasSecrets, withTunnel, hStored, Option.isSome_none, Bool.false_or]
  -- the one that has a tunnel password is refused, the other is not
  cases hOwn : first.tunnelPassword.isSome with
  | true =>
      rw [hOwn] at hFirstSecrets hDiffer
      have hOther : second.tunnelPassword.isSome = false := Bool.eq_false_iff.mpr hDiffer.symm
      rw [connection_of_locked hFirst hKey hFirstSecrets]
      exact (connection_of_no_secrets hDisabled hSecond (hSecondSecrets.trans hOther)).symm
  | false =>
      rw [hOwn] at hFirstSecrets hDiffer
      have hOther : second.tunnelPassword.isSome = true := Bool.ne_false_iff.mp hDiffer.symm
      rw [connection_of_locked hSecond hKey (hSecondSecrets.trans hOther)]
      exact connection_of_no_secrets hDisabled hFirst hFirstSecrets

end Requests

/-! ## Whole runs -/

/-- What callers are told by one interaction after the other, each with the parameters that the
driver has been called with meanwhile. -/
def answers (services : Services World) :
    List (Recorded World × Interaction) → Manager → List (Except Error Reply × List ConnectParams)
  | [], _ => []
  | (world, interaction) :: rest, manager =>
    let outcome := manager.interact services.recorded interaction world
    (outcome.1, dialled (outcome.2.2.calls.drop world.calls.length)) ::
      answers services rest outcome.2.1

/-- The same answer and the same world, and managers that differ in the tunnel at most. -/
structure Alike {α : Type} (first second : α × Manager × World) : Prop where
  result : second.1 = first.1
  managers : SameButTunnel first.2.1 second.2.1
  world : second.2.2 = first.2.2

theorem alike_retunnel {α : Type} (tunnel : Option TunnelSettings) (password : Option Secret)
    (outcome : α × Manager × World) : Alike outcome (retunnel tunnel password outcome) :=
  ⟨rfl, rfl, rfl⟩

theorem Alike.map {α β : Type} {first second : α × Manager × World} (h : Alike first second)
    (f : α → β) : Alike (f first.1, first.2) (f second.1, second.2) :=
  ⟨congrArg f h.result, h.managers, h.world⟩

/-- The request of an interaction finds the managers exposed. -/
def ExposedTo (services : Services World) (interaction : Interaction) (first second : Manager)
    (world : World) : Prop :=
  ∃ request, interaction = .connection request ∧ Exposed services request first second world

/-- Unless it exposes them, an interaction treats two managers alike that differ in the tunnel. -/
theorem SameButTunnel.interact {services : Services World}
    (hDisabled : services.config.supportSshTunnel = false) {first second : Manager}
    (h : SameButTunnel first second) (interaction : Interaction) (world : World)
    (hSafe : ¬ExposedTo services interaction first second world) :
    Alike (first.interact services interaction world)
      (second.interact services interaction world) := by
  obtain ⟨tunnel, password, rfl⟩ : ∃ tunnel password, second = first.withTunnel tunnel password :=
    ⟨_, _, h⟩
  cases interaction with
  | update identity =>
      simp only [Manager.interact, update_withTunnel]
      exact ⟨rfl, rfl, rfl⟩
  | connection request =>
      have hRequest : ¬Exposed services request first (first.withTunnel tunnel password) world :=
        fun hExposed => hSafe ⟨request, rfl, hExposed⟩
      have hSame := connection_withTunnel hDisabled tunnel password request first world hRequest
      simp only [Manager.interact, hSame]
      exact (alike_retunnel tunnel password _).map _
  | release request =>
      simp only [Manager.interact, release_withTunnel]
      exact (alike_retunnel tunnel password _).map fun found => Except.ok (Reply.released found)
  | restore snapshot =>
      obtain ⟨taken, hRestore⟩ :=
        restore_withTunnel tunnel password hDisabled snapshot first world
      simp only [Manager.interact, hRestore]
      exact (alike_retunnel tunnel taken _).map _
  | restoreConnections =>
      have hRestore : (first.withTunnel tunnel password).restoreConnections services world =
          retunnel tunnel password (first.restoreConnections services world) :=
        reconnectEach_withTunnel tunnel password hDisabled _ first world
      simp only [Manager.interact, hRestore]
      exact (alike_retunnel tunnel password _).map _
  | connect number explicit =>
      simp only [Manager.interact, connect_withTunnel tunnel password hDisabled]
      exact (alike_retunnel tunnel password _).map _
  | releaseSession number =>
      simp only [Manager.interact, releaseConnection_withTunnel]
      exact ⟨rfl, rfl, rfl⟩
  | execute number sql => exact ⟨rfl, rfl, rfl⟩
  | executeScalar number sql => exact ⟨rfl, rfl, rfl⟩
  | cancel number => exact ⟨rfl, rfl, rfl⟩

/-- Some request of a run finds the managers exposed. -/
def ExposedAlong (services : Services World) (steps : List (World × Interaction))
    (first second : Manager) : Prop :=
  ∃ before step after, steps = before ++ step :: after ∧
    ExposedTo services step.2 (interactAll services before first)
      (interactAll services before second) step.1

theorem exposedAlong_cons {services : Services World} {step : World × Interaction}
    {rest : List (World × Interaction)} {first second : Manager} :
    ExposedAlong services (step :: rest) first second ↔
      ExposedTo services step.2 first second step.1 ∨
        ExposedAlong services rest (first.interact services step.2 step.1).2.1
          (second.interact services step.2 step.1).2.1 :=
  exists_between_cons

/-- Managers that differ in the tunnel alone answer alike exactly as long as they are not
exposed. -/
theorem SameButTunnel.answers_iff {services : Services World}
    (hDisabled : services.config.supportSshTunnel = false)
    (steps : List (Recorded World × Interaction)) {first second : Manager}
    (h : SameButTunnel first second) :
    answers services steps first = answers services steps second ↔
      ¬ExposedAlong services.recorded steps first second := by
  have hRecorded : services.recorded.config.supportSshTunnel = false := hDisabled
  induction steps generalizing first second with
  | nil =>
      refine ⟨?_, fun _ => rfl⟩
      rintro - ⟨before, step, after, hSteps, -⟩
      simp at hSteps
  | cons step rest ih =>
      obtain ⟨world, interaction⟩ := step
      rw [exposedAlong_cons, not_or]
      by_cases hExposed : ExposedTo services.recorded interaction first second world
      · -- the answers differ here
        refine ⟨?_, fun hSafe => absurd hExposed hSafe.1⟩
        intro hSame
        obtain ⟨request, rfl, hRequest⟩ := hExposed
        obtain ⟨hFirst, -⟩ := List.cons.inj hSame
        have hResult := congrArg Prod.fst hFirst
        refine absurd ?_ (hRequest.connection_ne hRecorded h)
        simp only [Manager.interact] at hResult
        revert hResult
        cases (first.connection services.recorded request world).1 <;>
          cases (second.connection services.recorded request world).1 <;>
          simp [Except.map]
      · have hAlike := h.interact hRecorded interaction world hExposed
        simp only [answers, List.cons.injEq, hAlike.result, hAlike.world, true_and]
        exact (ih hAlike.managers).trans ⟨fun hRest => ⟨hExposed, hRest⟩, fun hBoth => hBoth.2⟩

/-- Where tunnels are not supported, new managers of two identities that differ in the tunnel alone
answer every call of a run alike, with the same driver calls, exactly unless some request for a
connection finds them exposed. -/
theorem same_answers_iff (services : Services World)
    (hDisabled : services.config.supportSshTunnel = false) (identity : ServerIdentity)
    (tunnel : Option TunnelSettings) (steps : List (Recorded World × Interaction)) :
    answers services steps (.new identity) =
        answers services steps (.new { identity with tunnel }) ↔
      ¬ExposedAlong services.recorded steps (.new identity) (.new { identity with tunnel }) := by
  have hSame : SameButTunnel (.new identity) (.new { identity with tunnel }) := rfl
  exact hSame.answers_iff hDisabled steps

/-- Tunnel settings without a password make no difference to a connection that is requested and
opened. -/
theorem same_answers_without_tunnel_password :
    let services := Services.steady
      { ConsoleConfig.standard "" "" with supportSshTunnel := false } (.ok 0)
      (.ok [[("ver", some "PostgreSQL 16.2"), ("sversion", some "160002")]]) (.ok ⟨0, 50000⟩)
    let identity : ServerIdentity :=
      { id := 1, name := "main", host := "db.internal", username := "app" }
    let tunnel : Option TunnelSettings := some { host := "bastion", username := "ops" }
    let steps : List (Recorded Unit × Interaction) :=
      [(⟨(), []⟩, .connection { database := some "app" }), (⟨(), []⟩, .connect 0 none)]
    services.config.supportSshTunnel = false ∧
      (answers services steps (.new identity)).map (fun answer => answer.2.length) = [0, 1] ∧
      ¬ExposedAlong services.recorded steps (.new identity) (.new { identity with tunnel }) := by
  intro services identity tunnel steps
  exact ⟨rfl, rfl, (same_answers_iff services rfl identity tunnel steps).mp rfl⟩

/-- A tunnel password that nothing will ever use keeps a connection from being handed out. -/
theorem refused_for_unused_tunnel_password :
    let services := Services.steady
      { ConsoleConfig.standard "" "" with supportSshTunnel := false } (.ok 0)
      (.ok [[("ver", some "PostgreSQL 16.2"), ("sversion", some "160002")]]) (.ok ⟨0, 50000⟩)
    let identity : ServerIdentity :=
      { id := 1, name := "main", host := "db.internal", username := "app" }
    let tunnel : Option TunnelSettings :=
      some { host := "bastion", username := "ops", password := some ⟨[1, 2, 3]⟩ }
    let steps : List (Recorded Unit × Interaction) :=
      [(⟨(), []⟩, .connection { database := some "app" })]
    answers services steps (.new identity) = [(.ok (.connection 0), [])] ∧
      answers services steps (.new { identity with tunnel }) = [(.error .cryptKeyMissing, [])] :=
  ⟨rfl, rfl⟩

end PgConsole.Manager
