import PgConsole.Proofs.Session.Store

namespace PgConsole.Session

/-!
# A restart

A session that is persisted and loaded again in a new process gets its registry back: the same
keys, and under each key a connection with the same database, the same flags and the same
memory of having been connected.  Exactly the connections that were connected and want it are
attempted again, and if the load succeeds, each of these attempts has succeeded or waits for the
decryption key (`restart_reproduces`).

The session keeps a manager under its server, while a snapshot is looked up under the id of an
identity.  The two agree unless an update has brought in the identity of another server; then
the saved registry is not found again (`not_reproduced_after_foreign_update`).
-/

variable {World : Type}

/-- The calls of `Manager.connect` that loading a manager makes. -/
def loadAttempts (services : Services World) (identity : ServerIdentity) (store : Store)
    (session : Session) (world : World) : List (Attempt World) :=
  if session.managers.contains identity.id then []
  else
    match storedSnapshot store with
    | .error _ => []
    | .ok snapshot =>
      match snapshot.managers.get? identity.id with
      | none => []
      | some saved => (Manager.new identity).attempts services (.restore saved) world

/-- Loading a stored server into a new session restores a new manager from its snapshot. -/
theorem load_of_stored (services : Services World) {identity : ServerIdentity} {store : Store}
    {snapshot : SessionSnapshot} {saved : ManagerSnapshot}
    (hStored : storedSnapshot store = .ok snapshot)
    (hSaved : snapshot.managers.get? identity.id = some saved) (id : String) (world : World) :
    load services identity store { id } world =
        (((Manager.new identity).restore services saved world).1,
          setManager { id } identity.id ((Manager.new identity).restore services saved world).2.1,
          ((Manager.new identity).restore services saved world).2.2) ∧
      loadAttempts services identity store { id } world =
        (Manager.new identity).attempts services (.restore saved) world := by
  have hAbsent : (({ id } : Session).managers.contains identity.id) = false := rfl
  refine ⟨?_, ?_⟩
  · simp only [load, hAbsent, Bool.false_eq_true, if_false, hStored, hSaved]
  · simp only [loadAttempts, hAbsent, Bool.false_eq_true, if_false, hStored, hSaved]

end PgConsole.Session

namespace PgConsole.Manager

variable {World : Type}

/-- In a sound manager the keys are those of its connections. -/
theorem Sound.mem_keys_iff {manager : Manager} (h : manager.Sound) {key : ConnectionKey} :
    key ∈ manager.keys ↔ ((manager.connectionAt? key).map Connection.lasting).isSome = true := by
  rw [keys, SortedMap.mem_keys_iff, Option.isSome_map, connectionAt?, get?]
  cases hNumber : manager.registry.get? key with
  | none => simp
  | some number =>
      have hBound := h.registered hNumber
      simp [hBound]

/-- What a fresh manager has after it has been restored from a snapshot. -/
structure Restored (services : Services World) (manager fresh : Manager)
    (attempts : List (Attempt World)) : Prop where
  keys : fresh.keys = manager.keys
  lasting : ∀ key, (fresh.connectionAt? key).map Connection.lasting =
    (manager.connectionAt? key).map Connection.lasting
  /-- Every attempt is for one of the keys whose connections want it, and each of these has
  exactly one. -/
  attempted : ∃ wanted : List ConnectionKey, attempts.map Attempt.key? = wanted.map some ∧
    wanted.Nodup ∧ ∀ key, key ∈ wanted ↔ ∃ connection,
      manager.connectionAt? key = some connection ∧
        connection.wasConnected = true ∧ connection.flags.autoReconnect = true
  tolerated : ∀ attempt ∈ attempts, attempt.Tolerated services
  info : ∀ info, manager.serverInfo = some info → info.version.isEmpty = false →
    fresh.serverInfo = some info

/-- A restore from a snapshot that comes through gives back what was saved. -/
theorem restored_of_snapshot (services : Services World) {manager : Manager}
    (hSound : manager.Sound) {saved : ManagerSnapshot}
    (hSaved : manager.snapshot services.config = some saved) (identity : ServerIdentity)
    {world : World} (hOk : ((new identity).restore services saved world).1 = .ok ()) :
    Restored services manager ((new identity).restore services saved world).2.1
      ((new identity).attempts services (.restore saved) world) := by
  have hCheck := checkVersion_snapshot hSaved
  obtain ⟨entries, hEntries, hDistinct, hLookup⟩ := entries_snapshot hSaved
  have hRestore : (new identity).restore services saved world =
      restoreEntries services entries ((new identity).takeOver services.config saved) world := by
    simp only [restore, hCheck, hEntries]
  have hAttempts : (new identity).attempts services (.restore saved) world =
      restoreAttempts services entries ((new identity).takeOver services.config saved) world := by
    simp only [attempts, hCheck, hEntries]
  have hFreshSound : ((new identity).takeOver services.config saved).Sound :=
    ⟨(sound_new identity).registered, (sound_new identity).tunnel⟩
  have hResultSound : ((new identity).restore services saved world).2.1.Sound :=
    ((sound_new identity).perform services (.restore saved) world).1
  rw [hRestore] at hOk hResultSound
  rw [hRestore, hAttempts]
  -- nothing is registered in a new manager, so every saved connection is absent
  have hReproduces := restoreEntries_of_absent services hDistinct hFreshSound (fun _ _ => rfl) hOk
  have hLasting : ∀ key, ((restoreEntries services entries
      ((new identity).takeOver services.config saved) world).2.1.connectionAt? key).map
        Connection.lasting = (manager.connectionAt? key).map Connection.lasting := by
    intro key
    rw [hReproduces.lasting key, hLookup key, Option.map_map]
    exact Option.or_none
  refine ⟨?_, hLasting, ?_, ?_, ?_⟩
  · refine SortedMap.keys_ext ?_
    intro key
    exact hResultSound.mem_keys_iff.trans ((hLasting key).symm ▸ hSound.mem_keys_iff.symm)
  · refine ⟨(entries.filter fun entry => entry.2.wantsConnection).map Prod.fst, ?_, ?_, ?_⟩
    · rw [hReproduces.attempts, List.map_map]
      rfl
    · exact List.pairwise_map.mpr (hDistinct.filter _)
    · intro key
      simp only [List.mem_map, List.mem_filter]
      constructor
      · rintro ⟨⟨_, written⟩, ⟨hMem, hWants⟩, rfl⟩
        have hFound := (SortedMap.lookup_eq_some_iff hDistinct).mpr hMem
        rw [hLookup, Option.map_eq_some_iff] at hFound
        obtain ⟨connection, hConnection, rfl⟩ := hFound
        obtain ⟨hConnected, hAuto⟩ := Bool.and_eq_true_iff.mp hWants
        exact ⟨connection, hConnection, hConnected, hAuto⟩
      · rintro ⟨connection, hConnection, hConnected, hAuto⟩
        have hFound : SortedMap.lookup key entries = some (savedConnection connection) := by
          rw [hLookup, hConnection]
          rfl
        refine ⟨(key, savedConnection connection), ⟨?_, ?_⟩, rfl⟩
        · exact (SortedMap.lookup_eq_some_iff hDistinct).mp hFound
        · exact Bool.and_eq_true_iff.mpr ⟨hConnected, hAuto⟩
  · cases restoreEntries_case services entries ((new identity).takeOver services.config saved)
        world with
    | complete _ hTolerated => exact hTolerated
    | failed _ _ _ _ _ _ _ _ _ _ hResult =>
        rw [hResult] at hOk
        cases hOk
  · intro info hInfo hVersion
    obtain ⟨known, hKnown, -, hText, hNumber, -⟩ := eq_of_snapshot hSaved
    obtain rfl : known = info := Option.some.inj (hKnown.symm.trans hInfo)
    refine serverInfo_restoreEntries services entries ?_ world hOk
    simp only [takeOver, hText, hNumber, hVersion, Bool.false_eq_true, if_false]

end PgConsole.Manager

namespace PgConsole.Session

variable {World : Type}

/-- A reachable manager of a session is reproduced by a restart.  Persisting the session into a
store that can be read succeeds, and whenever a new session then loads an identity of the same
server successfully, its manager has the keys and what lasts of the connections, exactly the
connections that want it have been attempted, none of these attempts has failed but for lack of
the decryption key, and a version that was known and not empty is known again. -/
theorem restart_reproduces (services : Services World) {manager : Manager}
    (hReachable : Manager.Reachable services manager) {session : Session}
    (hLoaded : session.managers.get? manager.server = some manager)
    (hSnapshot : (manager.snapshot services.config).isSome = true) {store : Store}
    (hStore : ∃ stored, storedSnapshot store = .ok stored) {identity : ServerIdentity}
    (hIdentity : identity.id = manager.server) (id : String) (world : World) :
    ∃ written, session.persist services.config store = (.ok (), written) ∧
      ∀ restarted after, load services identity written { id } world = (.ok (), restarted, after) →
        ∃ fresh, restarted.managers.get? manager.server = some fresh ∧
          Manager.Trace services (.new identity) world
            (loadAttempts services identity written { id } world) fresh after ∧
          Manager.Restored services manager fresh
            (loadAttempts services identity written { id } world) := by
  obtain ⟨stored, hStored⟩ := hStore
  obtain ⟨saved, hSaved⟩ := Option.isSome_iff_exists.mp hSnapshot
  obtain ⟨written, merged, hPersist, hWritten, hMerged⟩ :=
    storedSnapshot_persist hStored hLoaded hSaved
  refine ⟨written, hPersist, ?_⟩
  intro restarted after hLoad
  have hFound : merged.managers.get? identity.id = some saved := by
    rw [hMerged, hIdentity, hLoaded]
    exact hSaved
  obtain ⟨hResult, hAttempts⟩ := load_of_stored services hWritten hFound id world
  rw [hResult] at hLoad
  obtain ⟨hOk, hSession⟩ := Prod.mk.inj hLoad
  obtain ⟨rfl, rfl⟩ := Prod.mk.inj hSession
  refine ⟨((Manager.new identity).restore services saved world).2.1, ?_, ?_, ?_⟩
  · rw [setManager, hIdentity]
    exact SortedMap.get?_insert_self ..
  · rw [hAttempts]
    refine Manager.trace_perform services ?_ (.new identity) world
    intro _ hUpdate
    cases hUpdate
  · rw [hAttempts]
    exact Manager.restored_of_snapshot services (hReachable.sound services) hSaved identity hOk

/-- The same for a connection that has connected, with a driver that works: the load succeeds. -/
theorem restart_reproduces_steady :
    let services := Services.steady (.standard "" "") (.ok 0)
      (.ok [[("ver", some "PostgreSQL 16.2"), ("sversion", some "160002")]]) (.ok ⟨0, 50000⟩)
    let identity : ServerIdentity :=
      { id := 1, name := "main", host := "db.internal", username := "app" }
    let manager := Manager.run services
      [((), .connection { database := some "app" }), ((), .connect (.db "app") none)] (.new identity)
    let session : Session := setManager { id := "s" } 1 manager
    (manager.keys = [.db "app"] ∧ session.managers.get? manager.server = some manager ∧
        (manager.snapshot services.config).isSome = true ∧ identity.id = manager.server) ∧
      ∃ written restarted fresh, session.persist services.config .empty = (.ok (), written) ∧
        load services identity written { id := "s" } () = (.ok (), restarted, ()) ∧
        restarted.managers.get? manager.server = some fresh ∧
        Manager.Restored services manager fresh
          (loadAttempts services identity written { id := "s" } ()) := by
  intro services identity manager session
  have hKeys : manager.keys = [.db "app"] := by decide +kernel
  have hServer : manager.server = 1 := by decide +kernel
  have hLoaded : session.managers.get? manager.server = some manager := by
    rw [hServer]
    exact SortedMap.get?_insert_self ..
  have hSnapshot : (manager.snapshot services.config).isSome = true := by decide +kernel
  have hIdentity : identity.id = manager.server := by decide +kernel
  have hStored : storedSnapshot .empty = .ok .empty := rfl
  refine ⟨⟨hKeys, hLoaded, hSnapshot, hIdentity⟩, ?_⟩
  obtain ⟨saved, hSaved⟩ := Option.isSome_iff_exists.mp hSnapshot
  obtain ⟨found, merged, hFound, hWritten, hMerged⟩ :=
    storedSnapshot_persist hStored hLoaded hSaved
  obtain ⟨written, hPersist, hRestart⟩ :=
    restart_reproduces services ⟨identity, _, rfl⟩ hLoaded hSnapshot ⟨.empty, hStored⟩ hIdentity
      "s" ()
  obtain rfl : found = written := congrArg Prod.snd (hFound.symm.trans hPersist)
  have hEntry : merged.managers.get? identity.id = some saved := by
    rw [hMerged, hIdentity, hLoaded]
    exact hSaved
  have hRestores : (manager.snapshot services.config).all
      (fun saved => ((Manager.new identity).restore services saved ()).1.isOk) = true := by
    decide +kernel
  rw [hSaved, Option.all_some] at hRestores
  obtain ⟨hLoad, -⟩ := load_of_stored services hWritten hEntry "s" ()
  cases hOk : ((Manager.new identity).restore services saved ()).1 with
  | error _ =>
      rw [hOk] at hRestores
      cases hRestores
  | ok _ =>
      rw [hOk] at hLoad
      obtain ⟨fresh, hFresh, -, hRestored⟩ := hRestart _ _ hLoad
      exact ⟨found, _, fresh, hPersist, hLoad, hFresh, hRestored⟩

/-- After an update with the identity of another server, loading that identity finds nothing of
what was saved. -/
theorem not_reproduced_after_foreign_update :
    let services := Services.steady (.standard "" "") (.ok 0)
      (.ok [[("ver", some "PostgreSQL 16.2"), ("sversion", some "160002")]]) (.ok ⟨0, 50000⟩)
    let identity : ServerIdentity :=
      { id := 1, name := "main", host := "db.internal", username := "app" }
    let manager := Manager.run services
      [((), .update { identity with id := 2 }), ((), .connection { database := some "app" }),
        ((), .connect (.db "app") none)] (.new identity)
    let session : Session := setManager { id := "s" } 1 manager
    (Manager.Reachable services manager ∧ session.managers.get? manager.server = some manager ∧
        (manager.snapshot services.config).isSome = true) ∧
      ∃ written restarted fresh, session.persist services.config .empty = (.ok (), written) ∧
        load services manager.identity written { id := "s" } () = (.ok (), restarted, ()) ∧
        restarted.managers.get? manager.identity.id = some fresh ∧ fresh.keys ≠ manager.keys := by
  intro services identity manager session
  have hServer : manager.server = 1 := by decide +kernel
  have hOther : manager.identity.id = 2 := by decide +kernel
  have hKeys : manager.keys = [.db "app"] := by decide +kernel
  have hLoaded : session.managers.get? manager.server = some manager := by
    rw [hServer]
    exact SortedMap.get?_insert_self ..
  have hSnapshot : (manager.snapshot services.config).isSome = true := by decide +kernel
  refine ⟨⟨⟨identity, _, rfl⟩, hLoaded, hSnapshot⟩, ?_⟩
  obtain ⟨saved, hSaved⟩ := Option.isSome_iff_exists.mp hSnapshot
  have hStored : storedSnapshot .empty = .ok .empty := rfl
  obtain ⟨written, merged, hPersist, hWritten, hMerged⟩ :=
    storedSnapshot_persist hStored hLoaded hSaved
  have hNone : merged.managers.get? manager.identity.id = none := by
    have hUnloaded : session.managers.get? 2 = none :=
      SortedMap.get?_insert_of_ne _ (by decide) manager
    rw [hOther, hMerged, hUnloaded]
    rfl
  refine ⟨written, setManager { id := "s" } manager.identity.id (.new manager.identity),
    .new manager.identity, hPersist, ?_, SortedMap.get?_insert_self .., ?_⟩
  · have hAbsent : (({ id := "s" } : Session).managers.contains manager.identity.id) = false := rfl
    simp only [load, hAbsent, Bool.false_eq_true, if_false, hWritten, hNone]
  · rw [hKeys]
    simp [Manager.keys, Manager.new]

end PgConsole.Session
