import PgConsole.Proofs.Manager.Registry
import PgConsole.Proofs.Manager.Resolve

namespace PgConsole

/-!
# Getting or registering a connection

A request is answered with the connection under the key of the database that it asks for
(`Manager.Resolves`), and registers that connection if it is new.  Nothing that is registered is
removed or replaced.  Besides that key, a request can add the key of the connection over which it
looks an oid up (`ConnectionRequest.AsksOver`).

That connection is registered before its flags can come from the request: an oid may turn out to be
the maintenance database's own, and then the connection that is handed out has the flags that
lookups use (`Manager.looked_up_maintenance_database`).

`Manager.Reached` is what holds once the database of a request has been searched, however that has
ended; `connection_gets_or_registers` adds the last step.
-/

/-- The key of the connection over which the oid of a request has to be looked up. -/
def ConnectionRequest.AsksOver (request : ConnectionRequest) (manager : Manager)
    (key : ConnectionKey) : Prop :=
  ∃ oid maintenance, request.LooksUp manager oid maintenance ∧ key = .db maintenance

namespace Manager

variable {World : Type} {services : Services World}

/-- The database that a request asks for. -/
inductive Resolves (services : Services World) (request : ConnectionRequest) (manager : Manager)
    (world : World) : String → Prop where
  | named {name : String} (hName : request.database = some name) :
      Resolves services request manager world name
  | maintenance {name : String} (hName : request.database = none) (hOid : request.oid = none)
      (hMaintenance : manager.identity.maintenanceDatabase = some name) :
      Resolves services request manager world name
  | remembered {oid : UInt32} {info : DatabaseInfo} (hName : request.database = none)
      (hOid : request.oid = some oid) (hInfo : manager.databases.get? oid = some info) :
      Resolves services request manager world info.name
  | described {oid : UInt32} {maintenance : String} {found : DatabaseInfo} {connected : Manager}
      {final : World} (hLooksUp : request.LooksUp manager oid maintenance)
      (hDescribes : Describes services (manager.forLookup maintenance).1 oid
        (manager.forLookup maintenance).2 world found connected final) :
      Resolves services request manager world found.name

/-! ## Asking over a connection -/

/-- Registry and secrets are kept, and connections stay in their places. -/
structure Retains (first second : Manager) : Prop where
  registry : second.registry = first.registry
  secrets : second.hasSecrets = first.hasSecrets
  onward : Onward first second

theorem retains_connect (number : Nat) (manager : Manager) (world : World) :
    Retains manager (manager.connect services number none world).2.1 := by
  refine ⟨connect_registry services number none manager world, ?_,
    (advances_connect services number none manager world).onward⟩
  have hCase := connect_case services number none manager world
  generalize manager.connect services number none world = outcome at hCase ⊢
  cases hCase <;> rfl

theorem retains_ensureConnected (number : Nat) (manager : Manager) (world : World) :
    Retains manager (manager.ensureConnected services number world).2.1 := by
  unfold ensureConnected
  split
  · exact ⟨rfl, rfl, .refl manager⟩
  · exact retains_connect number manager world

/-- A lookup registers nothing, whether it succeeds or not. -/
theorem FetchCase.retains {number : Nat} {oid : UInt32} {manager : Manager} {world : World}
    {outcome : Except Error String × Manager × World}
    (h : FetchCase services number oid manager world outcome) : Retains manager outcome.2.1 := by
  have hConnected := @retains_ensureConnected _ services number manager world
  cases h with
  | unconnected hEnsure
  | uninformed hEnsure _
  | unanswered hEnsure _ _
  | absent hEnsure _ _ _ =>
      rw [hEnsure] at hConnected
      exact hConnected
  | found hDescribes =>
      obtain ⟨middle, info, rows, hEnsure, -⟩ := hDescribes.answered
      rw [hEnsure] at hConnected
      exact ⟨hConnected.registry, hConnected.secrets, hConnected.onward⟩

/-! ## Searching the database -/

/-- What holds after the database of a request has been searched. -/
structure Reached (request : ConnectionRequest) (before after : Manager) : Prop where
  kept : ∀ {key : ConnectionKey} {number : Nat},
    before.get? key = some number → after.get? key = some number
  onward : Onward before after
  secrets : after.hasSecrets = before.hasSecrets
  /-- The connection over which the request asks is registered. -/
  asked : ∀ {key : ConnectionKey}, request.AsksOver before key → after.get? key ≠ none
  /-- Nothing else is new; a new one has the flags of lookups. -/
  added : ∀ {key : ConnectionKey} {number : Nat}, before.get? key = none →
    after.get? key = some number → request.AsksOver before key ∧
      ∃ connection, after.connections[number]? = some connection ∧ connection.key = key ∧
        connection.key = .db connection.database ∧ connection.flags = {}

theorem reached_of_known {request : ConnectionRequest} {manager : Manager}
    (hKnown : ∀ oid maintenance, ¬request.LooksUp manager oid maintenance)
    (databases : SortedMap UInt32 DatabaseInfo) :
    Reached request manager { manager with databases } := by
  refine ⟨fun h => h, fun number before hBefore => ⟨before, hBefore, .refl before⟩, rfl, ?_, ?_⟩
  · rintro key ⟨oid, maintenance, hLooksUp, -⟩
    exact absurd hLooksUp (hKnown oid maintenance)
  · intro key number hNew hFound
    exact absurd (hNew.symm.trans hFound) (by simp)

theorem reached_of_lookup {request : ConnectionRequest} {manager after : Manager} {oid : UInt32}
    {maintenance : String} (hLooksUp : request.LooksUp manager oid maintenance)
    (hAfter : Retains (manager.forLookup maintenance).2 after) :
    Reached request manager after := by
  have hRegistry : ∀ key, after.get? key = (manager.forLookup maintenance).2.get? key := by
    intro key
    rw [get?, hAfter.registry]
    rfl
  have hSelf : after.get? (.db maintenance) = some (manager.forLookup maintenance).1 := by
    rw [hRegistry]
    exact register_get?_self manager (.db maintenance) maintenance {} false
  have hRegistered := advances_register (.db maintenance) maintenance {} false manager
  refine ⟨?_, hRegistered.onward.trans hAfter.onward, ?_, ?_, ?_⟩
  · intro key number hFound
    rw [hRegistry]
    exact register_get?_of_some hFound (.db maintenance) maintenance {} false
  · obtain ⟨connections, registry, hFrame⟩ :=
      register_frame (.db maintenance) maintenance {} false manager
    rw [hAfter.secrets, forLookup, hFrame]
    rfl
  · -- a request asks over one connection only
    rintro key ⟨other, name, hOther, rfl⟩
    obtain rfl : maintenance = name := Option.some.inj (hLooksUp.known.symm.trans hOther.known)
    rw [hSelf]
    simp
  · intro key number hNew hFound
    by_cases hKey : .db maintenance = key
    · subst hKey
      obtain rfl : (manager.forLookup maintenance).1 = number :=
        Option.some.inj (hSelf.symm.trans hFound)
      have hPlace := register_of_absent hNew maintenance {} false
      obtain ⟨connection, hConnection, hContinues⟩ := hAfter.onward _ _ hPlace
      refine ⟨⟨oid, maintenance, hLooksUp, rfl⟩, connection, hConnection, hContinues.key, ?_,
        hContinues.flags⟩
      rw [hContinues.key, hContinues.database]
    · -- any other key leads where it led before
      rw [hRegistry, forLookup, get?, get?_register_of_ne manager hKey] at hFound
      exact absurd (hNew.symm.trans hFound) (by simp)

theorem ResolveCase.reached {request : ConnectionRequest} {manager : Manager} {world : World}
    {outcome : Except Error (Option String) × Manager × World}
    (h : ResolveCase services request manager world outcome) :
    Reached request manager outcome.2.1 := by
  cases h with
  | @named name hName =>
      have hKnown : ∀ oid maintenance, ¬request.LooksUp manager oid maintenance := by
        intro oid maintenance hLooksUp
        exact absurd (hName.symm.trans hLooksUp.unnamed) (by simp)
      cases request.oid with
      | none => exact reached_of_known hKnown manager.databases
      | some oid => exact reached_of_known hKnown _
  | unnamed hName hOid =>
      refine reached_of_known ?_ manager.databases
      intro oid maintenance hLooksUp
      exact absurd (hOid.symm.trans hLooksUp.given) (by simp)
  | remembered hName hOid hInfo =>
      refine reached_of_known ?_ manager.databases
      intro oid maintenance hLooksUp
      obtain rfl := Option.some.inj (hOid.symm.trans hLooksUp.given)
      exact absurd (hInfo.symm.trans hLooksUp.unknown) (by simp)
  | nowhere hName hOid hInfo hMaintenance =>
      refine reached_of_known ?_ manager.databases
      intro oid maintenance hLooksUp
      exact absurd (hMaintenance.symm.trans hLooksUp.known) (by simp)
  | unfound hLooksUp hFetch => exact reached_of_lookup hLooksUp hFetch.retains
  | found hLooksUp hFetch => exact reached_of_lookup hLooksUp hFetch.retains

theorem ResolveCase.resolves {request : ConnectionRequest} {manager resolved : Manager}
    {world final : World} {database : String}
    (h : ResolveCase services request manager world (.ok (some database), resolved, final)) :
    Resolves services request manager world database := by
  generalize hOutcome : ((.ok (some database), resolved, final) :
    Except Error (Option String) × Manager × World) = outcome at h
  cases h with
  | named hName =>
      cases hOutcome
      exact .named hName
  | unnamed hName hOid =>
      obtain ⟨hMaintenance, -⟩ := Prod.mk.inj hOutcome
      exact .maintenance hName hOid (Except.ok.inj hMaintenance).symm
  | remembered hName hOid hInfo =>
      cases hOutcome
      exact .remembered hName hOid hInfo
  | nowhere => cases hOutcome
  | unfound => cases hOutcome
  | found hLooksUp hFetch =>
      cases hOutcome
      cases hFetch with
      | found hDescribes => exact .described hLooksUp hDescribes

/-! ## Handing out -/

/-- The connection with a number has been handed out for a database, under a key. -/
structure HandedOut (request : ConnectionRequest) (database : String) (key : ConnectionKey)
    (number : Nat) (before after : Manager) : Prop where
  registered : after.get? key = some number
  /-- The keys that have been added. -/
  added : ∀ other ∈ after.keys, other ∈ before.keys ∨ other = key ∨ request.AsksOver before other
  /-- A new connection is for that database.  Its flags are those of the request, unless it has
  served to find the database. -/
  new : before.get? key = none → ∃ connection, after.connections[number]? = some connection ∧
    connection.key = key ∧ connection.database = database ∧
    (¬request.AsksOver before key → connection.flags = request.flags) ∧
    (request.AsksOver before key → connection.flags = {})

theorem Reached.mem_keys {request : ConnectionRequest} {before after : Manager}
    (h : Reached request before after) {key : ConnectionKey} (hKey : key ∈ after.keys) :
    key ∈ before.keys ∨ request.AsksOver before key := by
  obtain ⟨number, hFound⟩ := SortedMap.mem_keys_iff.mp hKey
  cases hOld : before.get? key with
  | some old => exact .inl (SortedMap.mem_keys_iff.mpr ⟨old, hOld⟩)
  | none => exact .inr (h.added hOld hFound).1

theorem eq_of_ofRequest {id : Option UInt64} {database other : String}
    (h : ConnectionKey.ofRequest id database = .db other) : database = other := by
  cases id with
  | none => exact ConnectionKey.db.inj h
  | some id => cases h

theorem handedOut_register {request : ConnectionRequest} {before resolved : Manager}
    (hReached : Reached request before resolved) (database : String) :
    HandedOut request database (.ofRequest request.connectionId database)
      (resolved.register (.ofRequest request.connectionId database) database request.flags false).1
      before
      { (resolved.register (.ofRequest request.connectionId database) database
          request.flags false).2 with touched := true } := by
  generalize hKey : ConnectionKey.ofRequest request.connectionId database = key
  refine ⟨register_get?_self resolved key database request.flags false, ?_, ?_⟩
  · intro other hOther
    obtain ⟨number, hFound⟩ := SortedMap.mem_keys_iff.mp hOther
    by_cases hSame : key = other
    · exact .inr (.inl hSame.symm)
    · dsimp only at hFound
      rw [get?_register_of_ne resolved hSame] at hFound
      exact (hReached.mem_keys (SortedMap.mem_keys_iff.mpr ⟨number, hFound⟩)).imp_right .inr
  · intro hNew
    cases hOld : resolved.get? key with
    | some number =>
        -- the search for the database has registered the connection already
        obtain ⟨hAsks, connection, hConnection, hSame, hDatabase, hFlags⟩ := hReached.added hNew hOld
        have hOld : resolved.registry.get? key = some number := hOld
        rw [register, hOld]
        refine ⟨connection, hConnection, hSame, ?_, fun hNot => absurd hAsks hNot, fun _ => hFlags⟩
        rw [hDatabase] at hSame
        exact (eq_of_ofRequest (hKey.trans hSame.symm)).symm
    | none =>
        -- the key is new even after the search, so the search has not asked over it
        refine ⟨_, register_of_absent hOld database request.flags false, rfl, rfl, fun _ => rfl, ?_⟩
        intro hAsks
        exact absurd hOld (hReached.asked hAsks)

/-- A request removes and replaces nothing.  What it hands out is registered under the key of the
database that it asks for, and that key and the one over which it asks are all that it can add; a
request that fails adds the latter at most.  While a secret is stored and its key is missing,
nothing is handed out. -/
theorem connection_gets_or_registers (services : Services World) (request : ConnectionRequest)
    (manager : Manager) (world : World) :
    let outcome := manager.connection services request world
    let after := outcome.2.1
    (∀ key number, manager.get? key = some number → after.get? key = some number) ∧
      Onward manager after ∧
      (∀ number, outcome.1 = .ok number → ∃ database,
        Resolves services request manager world database ∧
        HandedOut request database (.ofRequest request.connectionId database) number manager
          after) ∧
      (∀ error, outcome.1 = .error error →
        ∀ key ∈ after.keys, key ∈ manager.keys ∨ request.AsksOver manager key) ∧
      (manager.hasSecrets = true → services.cryptKey outcome.2.2 = none →
        ∀ number, outcome.1 ≠ .ok number) := by
  intro outcome after
  have hCase := connection_case services request manager world
  change RequestCase services request manager world outcome at hCase
  clear_value outcome
  cases hCase with
  -- whatever ends in an error leaves what the search for the database has left
  | unresolved hResolve
  | locked hResolve _ _
  | lost hResolve _ =>
      have hReached := hResolve.reached
      exact ⟨fun _ _ => hReached.kept, hReached.onward, nofun, fun _ _ _ => hReached.mem_keys,
        fun _ _ _ => nofun⟩
  | @handedOut database resolved final hResolve hOpen =>
      have hReached := hResolve.reached
      have hRegister := advances_register (.ofRequest request.connectionId database) database
        request.flags false resolved
      refine ⟨?_, hReached.onward.trans hRegister.onward, ?_, nofun, ?_⟩
      · intro key number hFound
        exact register_get?_of_some (hReached.kept hFound) _ database request.flags false
      · intro number hNumber
        cases hNumber
        exact ⟨database, hResolve.resolves, handedOut_register hReached database⟩
      · intro hSecrets hLocked
        rw [← hReached.secrets] at hSecrets
        exact absurd hLocked (hOpen hSecrets)

/-- An oid that is looked up and found: the connection for its database is handed out with the
flags of the request, beside the one over which it was looked up. -/
theorem registered_beside_maintenance_database :
    let services := Services.steady (.standard "" "") (.ok 0)
      (.ok [[("ver", some "PostgreSQL 16.2"), ("sversion", some "160002"), ("did", some "5"),
        ("datname", some "app")]]) (.ok ⟨0, 50000⟩)
    let manager := Manager.new
      { id := 1, name := "main", host := "db.internal", username := "app" }
    let request : ConnectionRequest := { oid := some 5, autoReconnect := false }
    let outcome := manager.connection services request ()
    outcome.1.toOption = some 1 ∧ outcome.2.1.keys = [.db "app", .db "postgres"] ∧
      ∃ database, Resolves services request manager () database ∧
        HandedOut request database (.ofRequest none database) 1 manager outcome.2.1 := by
  intro services manager request outcome
  have hOk : outcome.1.toOption = some 1 := by decide +kernel
  refine ⟨hOk, by decide +kernel, ?_⟩
  have hHanded := (connection_gets_or_registers services request manager ()).2.2.1
  cases hResult : outcome.1 with
  | error error =>
      rw [hResult] at hOk
      cases hOk
  | ok number =>
      rw [hResult] at hOk
      cases hOk
      exact hHanded 1 hResult

/-- An oid that turns out to be that of the maintenance database: its connection is new, and is
handed out with the flags of lookups although the request gives others. -/
theorem looked_up_maintenance_database :
    let services := Services.steady (.standard "" "") (.ok 0)
      (.ok [[("ver", some "PostgreSQL 16.2"), ("sversion", some "160002"), ("did", some "5"),
        ("datname", some "postgres")]]) (.ok ⟨0, 50000⟩)
    let identity : ServerIdentity :=
      { id := 1, name := "main", host := "db.internal", username := "app" }
    let request : ConnectionRequest := { oid := some 5, autoReconnect := false }
    let resolved := (Manager.new identity).resolveDatabase services request ()
    let outcome := (Manager.new identity).connection services request ()
    Arisen services (.new identity) ∧ resolved.1.toOption = some (some "postgres") ∧
      (Manager.new identity).get? (.ofRequest none "postgres") = none ∧
      outcome.1.toOption = some 0 ∧ outcome.2.1.get? (.ofRequest none "postgres") = some 0 ∧
      (outcome.2.1.connectionAt? (.ofRequest none "postgres")).map Connection.flags = some {} ∧
      request.flags ≠ {} := by
  intro services identity request resolved outcome
  refine ⟨.new identity, ?_⟩
  decide +kernel

end Manager

end PgConsole
