import PgConsole.Proofs.Session.Frame

namespace PgConsole

/-!
# Secrets that are not to be stored

A configuration can forbid to keep secrets with a session.  Then passwords neither leave a manager
through a snapshot nor enter one from a snapshot that was written before they were forbidden.
Both are statements about two values that are equal without their secrets: the snapshots of two
such managers are equal (`Manager.snapshot_withoutSecrets`), and restoring two such snapshots does
the same (`Manager.restore_withoutSecrets`).

In a store, the entry of a loaded server is replaced by the snapshot of its manager or removed
(`Session.storedAs_persist`), so no older entry with a secret is left there.
-/

variable {World : Type}

/-- The same settings without the password. -/
def TunnelSettings.withoutSecrets (settings : TunnelSettings) : TunnelSettings :=
  { settings with password := none }

/-- The same identity without its passwords. -/
def ServerIdentity.withoutSecrets (identity : ServerIdentity) : ServerIdentity :=
  { identity with
    password := none
    tunnel := identity.tunnel.map TunnelSettings.withoutSecrets }

namespace ManagerSnapshot

/-- The same snapshot without its passwords. -/
def withoutSecrets (snapshot : ManagerSnapshot) : ManagerSnapshot :=
  { snapshot with password := none, tunnelPassword := none }

@[simp] theorem checkVersion_withoutSecrets (snapshot : ManagerSnapshot) :
    snapshot.withoutSecrets.checkVersion = snapshot.checkVersion := rfl

@[simp] theorem entries_withoutSecrets (snapshot : ManagerSnapshot) :
    snapshot.withoutSecrets.entries = snapshot.entries := rfl

/-- The field for the password is written exactly if there is one. -/
theorem get?_password_toJson (snapshot : ManagerSnapshot) :
    snapshot.toJson.get? "password" = snapshot.password.map Secret.toJson := by
  cases hPassword : snapshot.password <;> cases hTunnel : snapshot.tunnelPassword <;>
    simp [toJson, Json.get?, List.lookup_cons, hPassword, hTunnel]

/-- The field for the tunnel password is written exactly if there is one. -/
theorem get?_tunnelPassword_toJson (snapshot : ManagerSnapshot) :
    snapshot.toJson.get? "tunnel_password" = snapshot.tunnelPassword.map Secret.toJson := by
  cases hPassword : snapshot.password <;> cases hTunnel : snapshot.tunnelPassword <;>
    simp [toJson, Json.get?, List.lookup_cons, hPassword, hTunnel]

end ManagerSnapshot

namespace Manager

/-- The same manager without its passwords, nor those in the identity it was made for. -/
def withoutSecrets (manager : Manager) : Manager :=
  { manager with
    identity := manager.identity.withoutSecrets
    password := none
    tunnelPassword := none }

section Policy

variable {config : ConsoleConfig} (hPolicy : config.storeSecretsInSession = false)

include hPolicy

/-- A snapshot says nothing about the secrets of a manager. -/
theorem snapshot_withoutSecrets (manager : Manager) :
    manager.withoutSecrets.snapshot config = manager.snapshot config := by
  simp [snapshot, withoutSecrets, savedConnections, hPolicy]

/-- There is no secret in a snapshot. -/
theorem no_secrets_of_snapshot {manager : Manager} {saved : ManagerSnapshot}
    (hSaved : manager.snapshot config = some saved) :
    saved.password = none ∧ saved.tunnelPassword = none := by
  simp only [snapshot, hPolicy] at hSaved
  split at hSaved
  · cases hSaved
  · split at hSaved
    · cases hSaved
    · cases hSaved
      exact ⟨rfl, rfl⟩

/-- The secrets of a snapshot are not taken over. -/
theorem takeOver_withoutSecrets (saved : ManagerSnapshot) (manager : Manager) :
    manager.takeOver config saved.withoutSecrets = manager.takeOver config saved := by
  simp [takeOver, ManagerSnapshot.withoutSecrets, hPolicy]

end Policy

/-- Restoring a snapshot does not depend on its secrets. -/
theorem restore_withoutSecrets {services : Services World}
    (hPolicy : services.config.storeSecretsInSession = false) (saved : ManagerSnapshot)
    (manager : Manager) (world : World) :
    manager.restore services saved.withoutSecrets world =
      manager.restore services saved world := by
  simp only [restore, ManagerSnapshot.checkVersion_withoutSecrets,
    ManagerSnapshot.entries_withoutSecrets, takeOver_withoutSecrets hPolicy]

end Manager

namespace Session

/-- A value stands in a store as an entry of a server, under whatever name the server has there. -/
def StoredAs (store : Store) (server : Int32) (entry : Json) : Prop :=
  ∃ value fields name, store.get? SessionSnapshot.storeKey = some value ∧
    value.get? "managers" = some (.object fields) ∧ (name, entry) ∈ fields ∧
      SessionSnapshot.serverOfName? name = some server

/-- The entries of a written snapshot are the snapshots of its servers. -/
theorem storedAs_writeSnapshot (snapshot : SessionSnapshot) (store : Store) (server : Int32)
    (entry : Json) :
    StoredAs (writeSnapshot snapshot store) server entry ↔
      ∃ saved, snapshot.managers.get? server = some saved ∧ entry = saved.toJson := by
  have hManagers : snapshot.toJson.get? "managers" =
      some (.object (snapshot.managers.entries.map fun item =>
        (Text.ofInt item.1.toInt, item.2.toJson))) := by
    simp [SessionSnapshot.toJson, Json.get?, List.lookup_cons]
  constructor
  · rintro ⟨value, fields, name, hValue, hFields, hMem, hName⟩
    rw [eq_toJson_of_writeSnapshot_get? store hValue, hManagers] at hFields
    cases hFields
    obtain ⟨⟨written, saved⟩, hSaved, hEqual⟩ := List.mem_map.mp hMem
    cases hEqual
    -- the name was written for a server, and it is read as this one only
    rw [SessionSnapshot.serverOfName?_ofInt] at hName
    cases hName
    exact ⟨saved, SortedMap.get?_eq_some_iff.mpr hSaved, rfl⟩
  · rintro ⟨saved, hSaved, rfl⟩
    have hServers : ¬ snapshot.managers.isEmpty = true := by
      intro hEmpty
      rw [SortedMap.isEmpty_iff_get?.mp hEmpty server] at hSaved
      cases hSaved
    refine ⟨snapshot.toJson, _, Text.ofInt server.toInt, ?_, hManagers, ?_,
      SessionSnapshot.serverOfName?_ofInt server⟩
    · rw [writeSnapshot, if_neg hServers, SortedMap.get?_insert_self]
    · exact List.mem_map.mpr ⟨(server, saved), SortedMap.get?_eq_some_iff.mp hSaved, rfl⟩

/-- After persisting, the entry of a loaded server is the snapshot of its manager, if there is
one. -/
theorem storedAs_persist {config : ConsoleConfig} {session : Session} {store written : Store}
    (hPersist : session.persist config store = (.ok (), written)) {server : Int32}
    {manager : Manager} (hLoaded : session.managers.get? server = some manager) (entry : Json) :
    StoredAs written server entry ↔
      ∃ saved, manager.snapshot config = some saved ∧ entry = saved.toJson := by
  cases hStored : storedSnapshot store with
  | error error =>
      rw [persist_of_error config session hStored] at hPersist
      cases hPersist
  | ok stored =>
      rw [persist_of_ok config session hStored] at hPersist
      obtain rfl := congrArg Prod.snd hPersist
      have hLookup : SortedMap.lookup server session.managers.entries = some manager := hLoaded
      rw [storedAs_writeSnapshot, get?_mergeSnapshots config session.managers.distinct, hLookup]

/-- The last step of a run that ends in persisting. -/
theorem Situation.persist_of_act {services : Services World} {situation final : Situation}
    {world : World} (hFinal : situation.act services .persist world = (.ok (), final)) :
    final.session.persist services.config situation.store = (.ok (), final.store) := by
  obtain ⟨hResult, rfl⟩ := Prod.mk.inj hFinal
  exact Prod.ext hResult rfl

/-- Where secrets are not to be stored: managers that differ in secrets only have the same
snapshot; snapshots that differ in secrets only are restored into a manager with the same result,
the same calls to the outside and the same state; and when a run of a new session over any store
ends in persisting, the entry of a loaded server holds no secret, neither as it is read nor as it
stands in the store. -/
theorem secrets_stay_out {services : Services World}
    (hPolicy : services.config.storeSecretsInSession = false) :
    (∀ left right : Manager, left.withoutSecrets = right.withoutSecrets →
      left.snapshot services.config = right.snapshot services.config) ∧
    (∀ (left right : ManagerSnapshot) (manager : Manager) (world : Recorded World),
      left.withoutSecrets = right.withoutSecrets →
        manager.restore services.recorded left world =
          manager.restore services.recorded right world) ∧
    ∀ (id : String) (initial : Store) (steps : List (World × Action World)) (world : World)
      (final : Situation),
      (Situation.run services steps ⟨{ id }, initial⟩).act services .persist world =
          (.ok (), final) →
        ∀ server manager, final.session.managers.get? server = some manager →
          (∀ saved, stored? final.store server = some saved →
            saved.password = none ∧ saved.tunnelPassword = none) ∧
          ∀ entry, StoredAs final.store server entry →
            entry.get? "password" = none ∧ entry.get? "tunnel_password" = none := by
  refine ⟨?_, ?_, ?_⟩
  · intro left right hSame
    rw [← Manager.snapshot_withoutSecrets hPolicy left, hSame,
      Manager.snapshot_withoutSecrets hPolicy right]
  · intro left right manager world hSame
    have hRecorded : services.recorded.config.storeSecretsInSession = false := hPolicy
    rw [← Manager.restore_withoutSecrets hRecorded left, hSame,
      Manager.restore_withoutSecrets hRecorded right]
  · intro id initial steps world final hFinal server manager hLoaded
    have hPersist := Situation.persist_of_act hFinal
    refine ⟨?_, ?_⟩
    · intro saved hSaved
      rw [(persisted_of_ok services.config _ hPersist).loaded server manager hLoaded] at hSaved
      exact Manager.no_secrets_of_snapshot hPolicy hSaved
    · intro entry hEntry
      obtain ⟨saved, hSaved, rfl⟩ := (storedAs_persist hPersist hLoaded entry).mp hEntry
      obtain ⟨hPassword, hTunnel⟩ := Manager.no_secrets_of_snapshot hPolicy hSaved
      rw [ManagerSnapshot.get?_password_toJson, ManagerSnapshot.get?_tunnelPassword_toJson,
        hPassword, hTunnel]
      exact ⟨rfl, rfl⟩

/-- An entry that was stored with both passwords is restored without them into a manager that has
a password of its own, and written back without any. -/
theorem stored_passwords_dropped :
    let config := { ConsoleConfig.standard "" "" with storeSecretsInSession := false }
    let services := Services.steady config (.ok 0)
      (.ok [[("ver", some "PostgreSQL 16.2"), ("sversion", some "160002")]]) (.ok ⟨0, 50000⟩)
    let saved : ManagerSnapshot :=
      ⟨1, 1, "PostgreSQL 16.2", 160002, some ⟨[1]⟩, some ⟨[2]⟩,
        .ofList [("DB:app", ⟨none, "app", {}, true⟩)]⟩
    let identity : ServerIdentity :=
      { id := 1, name := "main", host := "db.internal", username := "app", password := some ⟨[3]⟩ }
    let initial := writeSnapshot ⟨1, .ofList [(1, saved)]⟩ .empty
    let ended := (Situation.run services [((), .load identity)] ⟨{ id := "s" }, initial⟩).act
      services .persist ()
    config.storeSecretsInSession = false ∧
    (Manager.new identity).withoutSecrets =
        (Manager.new { identity with password := none }).withoutSecrets ∧
      (Manager.new identity).snapshot config =
        (Manager.new { identity with password := none }).snapshot config ∧
    saved.withoutSecrets = { saved with password := none }.withoutSecrets ∧
      (Manager.new identity).restore services.recorded saved ⟨(), []⟩ =
        (Manager.new identity).restore services.recorded { saved with password := none }
          ⟨(), []⟩ ∧
    stored? initial 1 = some saved ∧ ended.1 = .ok () ∧
      ∃ manager entry, ended.2.session.managers.get? 1 = some manager ∧
        manager.password = some ⟨[3]⟩ ∧ StoredAs ended.2.store 1 entry ∧
        entry.get? "password" = none ∧ entry.get? "tunnel_password" = none := by
  intro config services saved identity initial ended
  have hPolicy : services.config.storeSecretsInSession = false := rfl
  obtain ⟨hSnapshot, hRestore, hPersisted⟩ := secrets_stay_out hPolicy
  have hReadable : SessionSnapshot.Readable ⟨1, .ofList [(1, saved)]⟩ := by
    rw [SessionSnapshot.readable_iff]
    decide
  have hInitial : storedSnapshot initial = .ok ⟨1, .ofList [(1, saved)]⟩ :=
    storedSnapshot_writeSnapshot hReadable (by decide) .empty
  have hOk : ended.1 = .ok () :=
    congrArg Prod.fst (persist_of_ok services.config _ hInitial)
  have hEnded : ended = (.ok (), ended.2) := Prod.ext hOk rfl
  -- the entry stayed registered for want of a key, with the version it was stored with
  have hWritten : stored? ended.2.store 1 = some saved.withoutSecrets := by decide +kernel
  obtain ⟨manager, hLoaded, hPassword⟩ : ∃ manager,
      ended.2.session.managers.get? 1 = some manager ∧ manager.password = some ⟨[3]⟩ := by
    have hFound : (ended.2.session.managers.get? 1).map Manager.password =
        some (some ⟨[3]⟩) := by decide +kernel
    exact Option.map_eq_some_iff.mp hFound
  have hPersist := Situation.persist_of_act hEnded
  have hSaved : manager.snapshot services.config = some saved.withoutSecrets :=
    ((persisted_of_ok services.config _ hPersist).loaded 1 manager hLoaded).symm.trans hWritten
  have hEntry : StoredAs ended.2.store 1 saved.withoutSecrets.toJson :=
    (storedAs_persist hPersist hLoaded _).mpr ⟨_, hSaved, rfl⟩
  have hNone := (hPersisted "s" initial [((), .load identity)] () ended.2 hEnded 1 manager
    hLoaded).2 _ hEntry
  refine ⟨rfl, rfl, hSnapshot _ _ rfl, rfl, hRestore _ _ _ _ rfl, ?_, hOk, manager, _, hLoaded,
    hPassword, hEntry, hNone⟩
  rw [stored?_of_ok hInitial]
  rfl

end Session

end PgConsole
