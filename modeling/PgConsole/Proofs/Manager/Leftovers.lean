import PgConsole.Proofs.Manager.Restore

namespace PgConsole

/-!
# Server state without connections

The server state of a manager is its tunnel, the descriptions of databases and the version of
the server.  It goes with the last connection that is released, with a full release and with an
update.  One operation can leave it behind in a manager without connections: a restore, when its
only connection fails and is discarded, or when the snapshot has a version and no connections.

`Manager.EmptyCase` lists what an operation that ends without connections can have done.
`stranded_run_iff` derives from it exactly which runs end with server state and no connection:
those with such a restore, after which nothing has cleared the state or registered a connection.
-/

/-- The operation drops all server state. -/
def Operation.clears : Operation → Bool
  | .update _ => true
  | .release request => request.isAll
  | _ => false

namespace Manager

variable {World : Type} (services : Services World)

/-- Nothing is left of the server state. -/
structure Clean (manager : Manager) : Prop where
  notCreated : manager.tunnel.created = false
  noHandle : manager.tunnel.handle = none
  noDatabases : manager.databases.isEmpty = true
  noInfo : manager.serverInfo = none

/-- There is server state, but no connection. -/
structure Stranded (manager : Manager) : Prop where
  empty : manager.registry.isEmpty = true
  left : ¬manager.Clean

/-- Connections and server state are as before; a dead tunnel may have been noticed and a
database renamed. -/
structure Undisturbed (before after : Manager) : Prop where
  registry : after.registry = before.registry
  created : after.tunnel.created = true → before.tunnel.created = true
  handle : after.tunnel.handle = before.tunnel.handle
  databases : after.databases.isEmpty = before.databases.isEmpty
  info : after.serverInfo = before.serverInfo

/-- The restores that leave server state behind. -/
inductive Strands (snapshot : ManagerSnapshot) (manager : Manager) (world : World) : Prop where
  /-- The snapshot has a version and no connections, and there were none before. -/
  | unpopulated (hCheck : snapshot.checkVersion = .ok ()) (hEntries : snapshot.entries = .ok [])
      (hEmpty : manager.registry.isEmpty = true) (hVersion : snapshot.versionText.isEmpty = false)
  /-- The last attempt fails, for another reason than a missing key, on the only connection
  there is, and leaves server state. -/
  | refused (earlier : List (Attempt World)) (attempt : Attempt World) (key : ConnectionKey)
      (error : Error)
      (hAttempts : manager.attempts services (.restore snapshot) world = earlier ++ [attempt])
      (hError : (attempt.outcome services).1 = .error error) (hHard : error ≠ .cryptKeyMissing)
      (hKey : attempt.manager.get? key = some attempt.number)
      (hOnly : ∀ other ∈ attempt.manager.keys, other = key)
      (hLeft : ¬(attempt.outcome services).2.1.Clean)

/-- An operation that makes no attempt, registers nothing and clears nothing. -/
structure Passes (operation : Operation) (manager : Manager) (world : World) : Prop where
  quiet : manager.attempts services operation world = []
  empty : (manager.perform services operation world).2.1.registry.isEmpty = true
  kept : operation.clears = false

/-- A run of such operations. -/
def PassesAll : List (World × Operation) → Manager → Prop
  | [], _ => True
  | (world, operation) :: rest, manager =>
    Passes services operation manager world ∧
      PassesAll rest (manager.perform services operation world).2.1

theorem clean_new (identity : ServerIdentity) : (new identity).Clean := ⟨rfl, rfl, rfl, rfl⟩

theorem Undisturbed.refl (manager : Manager) : Undisturbed manager manager :=
  ⟨rfl, fun h => h, rfl, rfl, rfl⟩

/-- What passes undisturbed is clean exactly when it was before. -/
theorem Undisturbed.clean_iff {before after : Manager} (h : Undisturbed before after)
    (hSound : before.Sound) : after.Clean ↔ before.Clean := by
  constructor
  · rintro ⟨-, hHandle, hDatabases, hInfo⟩
    rw [h.handle] at hHandle
    refine ⟨?_, hHandle, h.databases.symm.trans hDatabases, h.info.symm.trans hInfo⟩
    -- a dead tunnel may have lost its mark, but its handle is still held
    cases hCreated : before.tunnel.created with
    | false => rfl
    | true =>
        obtain ⟨handle, hHeld, -⟩ := hSound.tunnel hCreated
        rw [hHandle] at hHeld
        cases hHeld
  · rintro ⟨hCreated, hHandle, hDatabases, hInfo⟩
    refine ⟨?_, h.handle.trans hHandle, h.databases.trans hDatabases, h.info.trans hInfo⟩
    cases hAfter : after.tunnel.created with
    | false => rfl
    | true =>
        rw [h.created hAfter] at hCreated
        cases hCreated

theorem ensureConnected_registry (number : Nat) (manager : Manager) (world : World) :
    (manager.ensureConnected services number world).2.1.registry = manager.registry :=
  ensureConnected_view services (connect_registry services) number manager world

theorem fetchDatabase_registry (number : Nat) (oid : UInt32) (manager : Manager)
    (world : World) :
    (manager.fetchDatabase services number oid world).2.1.registry = manager.registry := by
  have hEnsured := ensureConnected_registry services number manager world
  unfold fetchDatabase
  generalize manager.ensureConnected services number world = ensured at hEnsured ⊢
  obtain ⟨result, connected, middle⟩ := ensured
  cases result with
  | error _ => exact hEnsured
  | ok _ =>
      dsimp only
      split
      · exact hEnsured
      · split
        · exact hEnsured
        · split <;> exact hEnsured

theorem reconnectEach_registry (numbers : List Nat) (manager : Manager) (world : World) :
    (reconnectEach services numbers manager world).2.1.registry = manager.registry :=
  reconnectEach_view services (connect_registry services) numbers manager world

theorem register_not_empty (manager : Manager) (key : ConnectionKey) (database : String)
    (flags : ConnectionFlags) (wasConnected : Bool) :
    (manager.register key database flags wasConnected).2.registry.isEmpty = false := by
  rw [Bool.eq_false_iff]
  intro hEmpty
  have hNone := SortedMap.isEmpty_iff_get?.mp hEmpty key
  rw [register_get?_self] at hNone
  cases hNone

/-- A database that is found without registering a connection is found without an attempt. -/
theorem resolveDatabase_of_empty {request : ConnectionRequest} {manager : Manager} {world : World}
    (hEmpty : (manager.resolveDatabase services request world).2.1.registry.isEmpty = true) :
    manager.lookupAttempts services request world = [] ∧
      Undisturbed manager (manager.resolveDatabase services request world).2.1 := by
  unfold resolveDatabase at hEmpty ⊢
  unfold lookupAttempts
  cases hDatabase : request.database with
  | some name =>
      cases request.oid with
      | none => exact ⟨rfl, .refl manager⟩
      | some oid =>
          exact ⟨rfl, rfl, fun h => h, rfl, SortedMap.isEmpty_modify .., rfl⟩
  | none =>
      cases hOid : request.oid with
      | none => exact ⟨rfl, .refl manager⟩
      | some oid =>
          cases hFound : manager.databases.get? oid with
          | some info =>
              simp only [hFound]
              exact ⟨trivial, .refl manager⟩
          | none =>
              cases hMaintenance : manager.identity.maintenanceDatabase with
              | none =>
                  simp only [hFound]
                  exact ⟨trivial, .refl manager⟩
              | some maintenance =>
                  -- the maintenance database is registered and stays so
                  have hRegistered := register_not_empty manager (.db maintenance) maintenance {} false
                  have hFetched := fetchDatabase_registry services
                    (manager.register (.db maintenance) maintenance {} false).1 oid
                    (manager.register (.db maintenance) maintenance {} false).2 world
                  rw [← hFetched] at hRegistered
                  simp only [hDatabase, hOid, hFound, hMaintenance] at hEmpty
                  split at hEmpty <;> rename_i hOutcome <;> rw [hOutcome] at hRegistered <;>
                    rw [hRegistered] at hEmpty <;> cases hEmpty

theorem undisturbed_noDatabase (request : ConnectionRequest) (manager : Manager) (world : World) :
    Undisturbed manager (manager.noDatabase services request world).2 := by
  unfold noDatabase
  cases tunnelHost? services.config manager.identity with
  | none => exact .refl manager
  | some host =>
      by_cases hAlive : manager.tunnel.isAlive services world = true
      · simp only [TunnelController.checkAlive, if_pos hAlive]
        exact .refl manager
      · simp only [TunnelController.checkAlive, if_neg hAlive]
        refine ⟨rfl, ?_, rfl, rfl, rfl⟩
        intro hCreated
        cases hCreated

/-- A request that ends without a connection has changed nothing much. -/
theorem connection_of_empty {request : ConnectionRequest} {manager : Manager} {world : World}
    (hEmpty : (manager.connection services request world).2.1.registry.isEmpty = true) :
    manager.lookupAttempts services request world = [] ∧
      Undisturbed manager (manager.connection services request world).2.1 := by
  have hResolve := @resolveDatabase_of_empty World services request manager world
  unfold connection at hEmpty ⊢
  generalize manager.resolveDatabase services request world = resolution at hResolve hEmpty ⊢
  obtain ⟨result, resolved, middle⟩ := resolution
  cases result with
  | error _ => exact hResolve hEmpty
  | ok database? =>
      dsimp only at hResolve hEmpty ⊢
      by_cases hLocked : (resolved.hasSecrets && (services.cryptKey middle).isNone) = true
      · simp only [if_pos hLocked] at hEmpty ⊢
        exact hResolve hEmpty
      · simp only [if_neg hLocked] at hEmpty ⊢
        cases database? with
        | some database =>
            have hRegistered := register_not_empty resolved
              (.ofRequest request.connectionId database) database request.flags false
            dsimp only at hEmpty
            rw [hRegistered] at hEmpty
            cases hEmpty
        | none =>
            have hSame := undisturbed_noDatabase services request resolved middle
            dsimp only at hEmpty ⊢
            rw [hSame.registry] at hEmpty
            obtain ⟨hNone, hFirst⟩ := hResolve hEmpty
            refine ⟨hNone, hSame.registry.trans hFirst.registry, ?_, hSame.handle.trans hFirst.handle,
              hSame.databases.trans hFirst.databases, hSame.info.trans hFirst.info⟩
            exact fun hCreated => hFirst.created (hSame.created hCreated)

/-- What an operation that ends without connections can have done. -/
inductive EmptyCase (operation : Operation) (manager : Manager) (world : World) : Prop where
  /-- Everything has been dropped. -/
  | cleared (hClears : operation.clears = true)
      (hClean : (manager.perform services operation world).2.1.Clean)
  /-- The last connection has been released. -/
  | released (hBefore : manager.registry.isEmpty = false)
      (hClean : (manager.perform services operation world).2.1.Clean)
  /-- There was nothing to do. -/
  | undisturbed (hKept : operation.clears = false)
      (hNone : manager.attempts services operation world = [])
      (hSame : Undisturbed manager (manager.perform services operation world).2.1)
  /-- A version without connections has been restored. -/
  | unpopulated (snapshot : ManagerSnapshot) (hOperation : operation = .restore snapshot)
      (hCheck : snapshot.checkVersion = .ok ()) (hEntries : snapshot.entries = .ok [])
      (hEmpty : manager.registry.isEmpty = true) (hVersion : snapshot.versionText.isEmpty = false)
  /-- The only connection has been refused and discarded. -/
  | refused (snapshot : ManagerSnapshot) (earlier : List (Attempt World))
      (attempt : Attempt World) (key : ConnectionKey) (error : Error)
      (hOperation : operation = .restore snapshot)
      (hAttempts : manager.attempts services (.restore snapshot) world = earlier ++ [attempt])
      (hError : (attempt.outcome services).1 = .error error) (hHard : error ≠ .cryptKeyMissing)
      (hKey : attempt.manager.get? key = some attempt.number)
      (hOnly : ∀ other ∈ attempt.manager.keys, other = key)
      (hResult : (manager.perform services operation world).2.1 =
        ((attempt.outcome services).2.1.discard services key (attempt.outcome services).2.2).1)

/-- Without connections a release by key finds nothing. -/
theorem release_of_empty {request : ReleaseRequest} {manager : Manager}
    (hEmpty : manager.registry.isEmpty = true) (hPart : request.isAll = false) (world : World) :
    manager.release services request world = (false, manager, world) := by
  have hNone := SortedMap.isEmpty_iff_get?.mp hEmpty
  unfold release
  rw [hPart]
  simp only [Bool.false_eq_true, if_false]
  cases manager.releaseKey? request with
  | none => rfl
  | some key => simp only [hNone key]

theorem emptyCase_release {request : ReleaseRequest} {manager : Manager} {world : World}
    (hEmpty : (manager.perform services (.release request) world).2.1.registry.isEmpty = true) :
    EmptyCase services (.release request) manager world := by
  cases hAll : request.isAll with
  | true =>
      obtain ⟨connections, hReleased, -⟩ := releaseAll_frame services manager world
      refine .cleared hAll ?_
      simp only [perform, release, hAll, if_true, hReleased]
      exact ⟨rfl, rfl, rfl, rfl⟩
  | false =>
      cases hBefore : manager.registry.isEmpty with
      | true =>
          refine .undisturbed hAll rfl ?_
          simp only [perform, release_of_empty services hBefore hAll]
          exact .refl manager
      | false =>
          refine .released hBefore ?_
          have hReleased := release_case services request manager world
          simp only [perform] at hEmpty ⊢
          generalize (manager.release services request world).2.1 = after at hReleased hEmpty ⊢
          cases hReleased with
          | nothing =>
              rw [hBefore] at hEmpty
              cases hEmpty
          | one _ hLeft =>
              rw [hLeft] at hEmpty
              cases hEmpty
          | last => exact ⟨rfl, rfl, rfl, rfl⟩

/-- What was registered before an only connection was discarded. -/
theorem eq_of_mem_keys_of_erase {manager : Manager} {key other : ConnectionKey}
    (hErased : (manager.registry.erase key).isEmpty = true) (hMem : other ∈ manager.keys) :
    other = key := by
  obtain ⟨number, hNumber⟩ := SortedMap.mem_keys_iff.mp hMem
  by_cases hKey : other = key
  · exact hKey
  · have hNone := SortedMap.isEmpty_iff_get?.mp hErased other
    rw [SortedMap.get?_erase_of_ne _ hKey, hNumber] at hNone
    cases hNone

theorem emptyCase_restore {snapshot : ManagerSnapshot} {manager : Manager} {world : World}
    (hEmpty : (manager.perform services (.restore snapshot) world).2.1.registry.isEmpty = true) :
    EmptyCase services (.restore snapshot) manager world := by
  cases hCheck : snapshot.checkVersion with
  | error _ =>
      refine .undisturbed rfl ?_ ?_
      · simp only [attempts, hCheck]
      · simp only [perform, restore, hCheck]
        exact .refl manager
  | ok _ =>
      cases hEntries : snapshot.entries with
      | error _ =>
          refine .undisturbed rfl ?_ ?_
          · simp only [attempts, hCheck, hEntries]
          · simp only [perform, restore, hCheck, hEntries]
            exact .refl manager
      | ok entries =>
          have hPerform : manager.perform services (.restore snapshot) world =
              restoreEntries services entries (manager.takeOver services.config snapshot) world := by
            simp only [perform, restore, hCheck, hEntries]
          have hAttempts : manager.attempts services (.restore snapshot) world =
              restoreAttempts services entries (manager.takeOver services.config snapshot) world := by
            simp only [attempts, hCheck, hEntries]
          cases restoreEntries_case services entries (manager.takeOver services.config snapshot)
              world with
          | complete _ _ _ hAdded =>
              -- every entry is registered, so there was none
              cases entries with
              | cons entry rest =>
                  obtain ⟨number, hNumber⟩ := hAdded entry List.mem_cons_self
                  rw [hPerform] at hEmpty
                  rw [SortedMap.isEmpty_iff_get?.mp hEmpty entry.1] at hNumber
                  cases hNumber
              | nil =>
                  have hTaken : (manager.perform services (.restore snapshot) world).2.1 =
                      manager.takeOver services.config snapshot := by
                    rw [hPerform]
                    rfl
                  rw [hTaken] at hEmpty
                  cases hVersion : snapshot.versionText.isEmpty with
                  | false => exact .unpopulated snapshot rfl hCheck hEntries hEmpty hVersion
                  | true =>
                      refine .undisturbed rfl hAttempts ?_
                      rw [hTaken]
                      refine ⟨rfl, fun h => h, rfl, rfl, ?_⟩
                      simp only [takeOver, hVersion, if_true]
          | failed earlier attempt key error hFailed _ hError hHard hKey _ hResult =>
              have hFinal : (manager.perform services (.restore snapshot) world).2.1 =
                  ((attempt.outcome services).2.1.discard services key
                    (attempt.outcome services).2.2).1 := by
                rw [hPerform, hResult]
              obtain ⟨connections, hDiscarded⟩ := discard_outcome services hKey
              refine .refused snapshot earlier attempt key error rfl (hAttempts.trans hFailed) hError
                hHard hKey ?_ hFinal
              intro other hMem
              rw [hFinal, hDiscarded] at hEmpty
              exact eq_of_mem_keys_of_erase hEmpty hMem

theorem emptyCase_perform {operation : Operation} {manager : Manager} {world : World}
    (hEmpty : (manager.perform services operation world).2.1.registry.isEmpty = true) :
    EmptyCase services operation manager world := by
  cases operation with
  | update identity =>
      obtain ⟨connections, hUpdated⟩ := update_frame services identity manager world
      refine .cleared rfl ?_
      simp only [perform, hUpdated]
      exact ⟨rfl, rfl, rfl, rfl⟩
  | connection request =>
      have hPerform : (manager.perform services (.connection request) world).2.1 =
          (manager.connection services request world).2.1 := by
        simp only [perform]
        split <;> rename_i hOutcome <;> rw [hOutcome]
      rw [hPerform] at hEmpty
      obtain ⟨hNone, hSame⟩ := connection_of_empty services hEmpty
      refine .undisturbed rfl hNone ?_
      rw [hPerform]
      exact hSame
  | connect key explicit =>
      have hAbsent : manager.get? key = none := by
        cases hNumber : manager.get? key with
        | none => rfl
        | some number =>
            simp only [perform, hNumber, connect_registry] at hEmpty
            exact absurd hNumber (by rw [get?, SortedMap.isEmpty_iff_get?.mp hEmpty]; simp)
      refine .undisturbed rfl ?_ ?_
      · simp only [attempts, hAbsent]
      · simp only [perform, hAbsent]
        exact .refl manager
  | release request => exact emptyCase_release services hEmpty
  | restore snapshot => exact emptyCase_restore services hEmpty
  | restoreConnections =>
      have hBefore : manager.registry.isEmpty = true := by
        simpa only [perform, restoreConnections, reconnectEach_registry] using hEmpty
      have hValues : manager.registry.values = [] := by
        rw [SortedMap.eq_empty_of_isEmpty hBefore, SortedMap.values_empty]
      refine .undisturbed rfl ?_ ?_
      · simp only [attempts, hValues, reconnectAttempts]
      · simp only [perform, restoreConnections, hValues, reconnectEach]
        exact .refl manager

/-- The server state does not depend on what is registered. -/
theorem clean_with_iff {manager : Manager} {connections : List Connection}
    {registry : SortedMap ConnectionKey Nat} :
    Clean { manager with connections, registry } ↔ manager.Clean := by
  constructor
  · intro h
    exact ⟨h.notCreated, h.noHandle, h.noDatabases, h.noInfo⟩
  · intro h
    exact ⟨h.notCreated, h.noHandle, h.noDatabases, h.noInfo⟩

/-- Nothing is registered any more once the only connection is gone. -/
theorem isEmpty_erase_of_only {manager : Manager} {key : ConnectionKey}
    (hOnly : ∀ other ∈ manager.keys, other = key) :
    (manager.registry.erase key).isEmpty = true := by
  refine SortedMap.isEmpty_iff_get?.mpr ?_
  intro other
  by_cases hSame : other = key
  · subst hSame
    exact SortedMap.get?_erase_self ..
  · cases hFound : manager.registry.get? other with
    | none => exact (SortedMap.get?_erase_of_ne _ hSame).trans hFound
    | some found => exact absurd (hOnly other (SortedMap.mem_keys_iff.mpr ⟨found, hFound⟩)) hSame

/-- A snapshot with a version makes the version known. -/
theorem not_clean_takeOver {snapshot : ManagerSnapshot}
    (hVersion : snapshot.versionText.isEmpty = false) (config : ConsoleConfig)
    (manager : Manager) : ¬(manager.takeOver config snapshot).Clean := by
  intro hClean
  have hInfo := hClean.noInfo
  simp only [takeOver, hVersion, Bool.false_eq_true, if_false] at hInfo
  cases hInfo

/-- A restore that leaves server state behind does so. -/
theorem Strands.stranded {snapshot : ManagerSnapshot} {manager : Manager} {world : World}
    (h : Strands services snapshot manager world) :
    (manager.perform services (.restore snapshot) world).2.1.Stranded := by
  cases h with
  | unpopulated hCheck hEntries hEmpty hVersion =>
      simp only [perform, restore, hCheck, hEntries, restoreEntries]
      exact ⟨hEmpty, not_clean_takeOver hVersion services.config manager⟩
  | refused earlier attempt key error hAttempts hError hHard hKey hOnly hLeft =>
      cases hCheck : snapshot.checkVersion with
      | error _ => simp [attempts, hCheck] at hAttempts
      | ok _ =>
          cases hEntries : snapshot.entries with
          | error _ => simp [attempts, hCheck, hEntries] at hAttempts
          | ok entries =>
              simp only [attempts, hCheck, hEntries] at hAttempts
              simp only [perform, restore, hCheck, hEntries]
              cases restoreEntries_case services entries
                  (manager.takeOver services.config snapshot) world with
              | complete _ hTolerated =>
                  have hLast := hTolerated attempt (by simp [hAttempts])
                  rw [Attempt.Tolerated, hError] at hLast
                  rcases hLast with hOk | hKeyMissing
                  · cases hOk
                  · cases hKeyMissing
                    exact absurd rfl hHard
              | failed _ last lastKey _ hFailed _ _ _ hLastKey _ hResult =>
                  obtain ⟨-, hSame⟩ := List.append_inj' (hAttempts.symm.trans hFailed) rfl
                  cases hSame
                  have hLastOnly : lastKey = key :=
                    hOnly lastKey (SortedMap.mem_keys_iff.mpr ⟨_, hLastKey⟩)
                  subst hLastOnly
                  obtain ⟨connections, hDiscarded⟩ := discard_outcome services hLastKey
                  rw [hResult, hDiscarded]
                  refine ⟨isEmpty_erase_of_only hOnly, ?_⟩
                  rw [clean_with_iff]
                  exact hLeft

/-- A stranded manager stays so through operations that do nothing about it. -/
theorem Passes.stranded {operation : Operation} {manager : Manager} {world : World}
    (h : Passes services operation manager world) (hSound : manager.Sound)
    (hStranded : manager.Stranded) : (manager.perform services operation world).2.1.Stranded := by
  refine ⟨h.empty, ?_⟩
  cases emptyCase_perform services h.empty with
  | cleared hClears _ =>
      rw [h.kept] at hClears
      cases hClears
  | released hBefore _ =>
      rw [hStranded.empty] at hBefore
      cases hBefore
  | undisturbed _ _ hSame =>
      rw [hSame.clean_iff hSound]
      exact hStranded.left
  | unpopulated snapshot hOperation hCheck hEntries hEmpty hVersion =>
      subst hOperation
      exact (Strands.unpopulated hCheck hEntries hEmpty hVersion : Strands services snapshot
        manager world).stranded.left
  | refused snapshot earlier attempt key error hOperation hAttempts =>
      subst hOperation
      have hQuiet := h.quiet
      rw [hAttempts] at hQuiet
      exact absurd hQuiet (List.append_ne_nil_of_right_ne_nil earlier (List.cons_ne_nil attempt []))

/-- An operation that ends in a stranded manager is a restore that leaves server state behind,
or has found the manager stranded and done nothing about it. -/
theorem strands_or_passes {operation : Operation} {manager : Manager} {world : World}
    (hSound : manager.Sound)
    (hStranded : (manager.perform services operation world).2.1.Stranded) :
    (∃ snapshot, operation = .restore snapshot ∧ Strands services snapshot manager world) ∨
      manager.Stranded ∧ Passes services operation manager world := by
  cases emptyCase_perform services hStranded.empty with
  | cleared _ hClean => exact absurd hClean hStranded.left
  | released _ hClean => exact absurd hClean hStranded.left
  | undisturbed hKept hNone hSame =>
      refine .inr ⟨⟨?_, ?_⟩, hNone, hStranded.empty, hKept⟩
      · rw [← hSame.registry]
        exact hStranded.empty
      · rw [← hSame.clean_iff hSound]
        exact hStranded.left
  | unpopulated snapshot hOperation hCheck hEntries hEmpty hVersion =>
      exact .inl ⟨snapshot, hOperation, .unpopulated hCheck hEntries hEmpty hVersion⟩
  | refused snapshot earlier attempt key error hOperation hAttempts hError hHard hKey hOnly
      hResult =>
      refine .inl ⟨snapshot, hOperation,
        .refused earlier attempt key error hAttempts hError hHard hKey hOnly ?_⟩
      obtain ⟨connections, hDiscarded⟩ := discard_outcome services hKey
      have hLeft := hStranded.left
      rw [hResult, hDiscarded, clean_with_iff] at hLeft
      exact hLeft

theorem PassesAll.stranded {steps : List (World × Operation)} {manager : Manager}
    (h : PassesAll services steps manager) (hSound : manager.Sound)
    (hStranded : manager.Stranded) : (run services steps manager).Stranded := by
  induction steps generalizing manager with
  | nil => exact hStranded
  | cons step rest ih =>
      obtain ⟨world, operation⟩ := step
      exact ih h.2 (hSound.perform services operation world).1
        (h.1.stranded services hSound hStranded)

/-- A run that ends in a stranded manager has found it stranded and done nothing about it, or
has a restore that leaves server state behind and does nothing about it after that. -/
theorem strands_of_stranded_run {steps : List (World × Operation)} {manager : Manager}
    (hSound : manager.Sound) (hStranded : (run services steps manager).Stranded) :
    manager.Stranded ∧ PassesAll services steps manager ∨
      ∃ before world snapshot after, steps = before ++ (world, .restore snapshot) :: after ∧
        Strands services snapshot (run services before manager) world ∧
        PassesAll services after
          ((run services before manager).perform services (.restore snapshot) world).2.1 := by
  induction steps generalizing manager with
  | nil => exact .inl ⟨hStranded, trivial⟩
  | cons step rest ih =>
      obtain ⟨world, operation⟩ := step
      have hNext := (hSound.perform services operation world).1
      -- either the first step already left the manager stranded, or a later restore did
      rcases ih hNext hStranded with ⟨hThen, hPasses⟩ | hLater
      · rcases strands_or_passes services hSound hThen with ⟨snapshot, rfl, hStrands⟩ | hFirst
        · exact .inr ⟨[], world, snapshot, rest, rfl, hStrands, hPasses⟩
        · exact .inl ⟨hFirst.1, hFirst.2, hPasses⟩
      · obtain ⟨before, later, snapshot, after, rfl, hStrands, hPasses⟩ := hLater
        exact .inr ⟨(world, operation) :: before, later, snapshot, after, rfl, hStrands, hPasses⟩

/-- A run ends with server state and no connection exactly when one of its restores leaves
server state behind, and after that restore no operation attempts a connection, registers one
or clears the server state. -/
theorem stranded_run_iff (identity : ServerIdentity) (steps : List (World × Operation)) :
    (run services steps (.new identity)).Stranded ↔
      ∃ before world snapshot after, steps = before ++ (world, .restore snapshot) :: after ∧
        Strands services snapshot (run services before (.new identity)) world ∧
        PassesAll services after
          ((run services before (.new identity)).perform services (.restore snapshot) world).2.1 := by
  constructor
  · intro hStranded
    rcases strands_of_stranded_run services (sound_new identity) hStranded with ⟨hNew, -⟩ | hLater
    · exact absurd (clean_new identity) hNew.left
    · exact hLater
  · rintro ⟨before, world, snapshot, after, rfl, hStrands, hPasses⟩
    have hBefore := (sound_new identity).run services before
    have hRestored := (hBefore.perform services (.restore snapshot) world).1
    have hFinal := hPasses.stranded services hRestored hStrands.stranded
    rw [run, List.foldl_append, List.foldl_cons]
    exact hFinal

/-- A driver that refuses the only connection of a snapshot leaves the version of the server
known in a manager without connections. -/
theorem stranded_by_refusal :
    let services := Services.steady (.standard "" "")
      (.error (.connection "could not connect to database app" false)) (.ok []) (.ok ⟨0, 50000⟩)
    let identity : ServerIdentity :=
      { id := 1, name := "main", host := "db.internal", username := "app" }
    let snapshot : ManagerSnapshot :=
      { version := 1, server := 1, versionText := "PostgreSQL 16.2", versionNumber := 160002
        password := none, tunnelPassword := none
        connections := .ofList [("DB:app", ⟨none, "app", {}, true⟩)] }
    (run services [((), .restore snapshot)] (.new identity)).Stranded := by
  intro services identity snapshot
  refine ⟨by decide +kernel, ?_⟩
  intro hClean
  have hInfo : (run services [((), .restore snapshot)] (.new identity)).serverInfo ≠ none := by
    decide +kernel
  exact hInfo hClean.noInfo

end Manager

end PgConsole
