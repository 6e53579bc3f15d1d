import Mathlib.Data.List.Basic
import PgConsole.Proofs.Manager.Calls
import PgConsole.Proofs.Manager.Registry

namespace PgConsole

/-!
# What a release takes away

A request to release something names one key, or everything.  `ReleaseRequest.Names` says which
key that is, `Manager.ReleasedKey` what is left once its connection has been released, and
`Manager.ReleasedAll` what is left after a full release; both say which calls are made.
`release_takes_what_is_named` is the outcome for every manager that callers can come to have and
for every request.

The order of the steps inside a full release matters to the calls only: connections are released
one after the other, and since no two keys share a connection, each finds its session as it was in
the beginning (`Manager.releaseEach_calls`).
-/

/-- A call that cancels a statement. -/
def Call.isCancel : Call → Bool
  | .cancel _ => true
  | _ => false

/-- The key that a request names: an explicit number wins, then the name remembered for the oid,
then the database name.  A request with an oid that is not remembered names nothing. -/
inductive ReleaseRequest.Names (manager : Manager) (request : ReleaseRequest) :
    ConnectionKey → Prop where
  | number {id : UInt64} (hId : request.connectionId = some id)
      (hKnown : ∀ oid, request.oid = some oid → manager.databases.get? oid ≠ none) :
      Names manager request (.conn id)
  | remembered {oid : UInt32} {info : DatabaseInfo} (hId : request.connectionId = none)
      (hOid : request.oid = some oid) (hInfo : manager.databases.get? oid = some info) :
      Names manager request (.db info.name)
  | database {name : String} (hId : request.connectionId = none) (hOid : request.oid = none)
      (hName : request.database = some name) :
      Names manager request (.db name)

theorem ReleaseRequest.isAll_iff {request : ReleaseRequest} :
    request.isAll = true ↔ request = {} := by
  obtain ⟨database, connectionId, oid⟩ := request
  simp [isAll, and_assoc]

namespace Manager

variable {World : Type} (services : Services World)

theorem releaseKey?_eq_some_iff {manager : Manager} {request : ReleaseRequest}
    {key : ConnectionKey} :
    manager.releaseKey? request = some key ↔ request.Names manager key := by
  unfold releaseKey?
  constructor
  · intro hKey
    cases hOid : request.oid with
    | some oid =>
        simp only [hOid] at hKey
        cases hInfo : manager.databases.get? oid with
        | none =>
            rw [hInfo] at hKey
            cases hKey
        | some info =>
            simp only [hInfo, Option.some.injEq] at hKey
            cases hId : request.connectionId with
            | some id =>
                rw [hId] at hKey
                subst hKey
                refine .number hId ?_
                intro other hOther
                rw [hOid, Option.some.injEq] at hOther
                rw [← hOther, hInfo]
                simp
            | none =>
                rw [hId] at hKey
                subst hKey
                exact .remembered hId hOid hInfo
    | none =>
        simp only [hOid] at hKey
        cases hId : request.connectionId with
        | some id =>
            simp only [hId, Option.some.injEq] at hKey
            subst hKey
            refine .number hId ?_
            intro other hOther
            rw [hOid] at hOther
            cases hOther
        | none =>
            cases hName : request.database with
            | none =>
                simp only [hId, hName] at hKey
                cases hKey
            | some name =>
                simp only [hId, hName, Option.some.injEq] at hKey
                subst hKey
                exact .database hId hOid hName
  · intro hNames
    cases hNames with
    | number hId hKnown =>
        cases hOid : request.oid with
        | none => simp only [hId]
        | some oid =>
            obtain ⟨info, hInfo⟩ := Option.ne_none_iff_exists'.mp (hKnown oid hOid)
            simp only [hInfo, hId, ConnectionKey.ofRequest]
    | remembered hId hOid hInfo => simp only [hOid, hInfo, hId, ConnectionKey.ofRequest]
    | database hId hOid hName => simp only [hOid, hId, hName]

/-! ## The calls of single steps -/

theorem releaseConnection_calls (number : Nat) (manager : Manager)
    (world : Recorded World) :
    (manager.releaseConnection services.recorded number world).2.calls =
      world.calls ++ (manager.sessionOf? number).toList.map .close := by
  unfold releaseConnection sessionOf?
  cases manager.connections[number]? with
  | none => simp
  | some connection =>
      rw [Option.bind_some]
      cases hSession : connection.session with
      | none => simp [hSession]
      | some session =>
          simp only [hSession]
          rfl

theorem stop_calls (controller : TunnelController)
    (world : Recorded World) :
    (controller.stop services.recorded world).2.calls =
      world.calls ++ controller.handle.toList.map .stopTunnel := by
  unfold TunnelController.stop
  cases controller.handle with
  | none => simp
  | some handle => rfl

theorem cancel_calls (number : Nat) (manager : Manager)
    (world : Recorded World) :
    (manager.cancel services.recorded number world).2.calls =
      world.calls ++ (manager.sessionOf? number).toList.map .cancel := by
  unfold cancel sessionOf?
  cases (manager.connections[number]?).bind Connection.session with
  | none => simp
  | some session => rfl

/-- Before an explicit connection is released, what it runs may be cancelled. -/
theorem exists_cancels (key : ConnectionKey) (number : Nat) (manager : Manager)
    (world : Recorded World) :
    ∃ cancels : List Call,
      (if key.isExplicit && manager.isLive services.recorded world number then
        (manager.cancel services.recorded number world).2 else world).calls =
          world.calls ++ cancels ∧
      (cancels.filter fun call => !call.isCancel) = [] ∧
      ∀ session, .cancel session ∈ cancels →
        (∃ id, key = .conn id) ∧ manager.sessionOf? number = some session := by
  by_cases hCancel : (key.isExplicit && manager.isLive services.recorded world number) = true
  · rw [if_pos hCancel, cancel_calls]
    refine ⟨_, rfl, ?_, ?_⟩
    · cases manager.sessionOf? number <;> rfl
    · intro session hMem
      cases key with
      | conn id => exact ⟨⟨id, rfl⟩, by simpa using hMem⟩
      | db name => cases hCancel
  · rw [if_neg hCancel]
    exact ⟨[], by simp, rfl, by simp⟩

/-! ## Releasing one connection after the other -/

theorem releaseEach_connections (entries : List (ConnectionKey × Nat)) (manager : Manager)
    (world : World) (place : Nat) :
    (releaseEach services entries manager world).1.connections[place]? =
      if place ∈ entries.map Prod.snd then
        (manager.connections[place]?).map Connection.withoutSession
      else manager.connections[place]? := by
  induction entries generalizing manager world with
  | nil => simp [releaseEach]
  | cons entry rest ih =>
      obtain ⟨key, number⟩ := entry
      rw [releaseEach, ih]
      by_cases hFirst : place = number
      · subst hFirst
        rw [releaseConnection_there, Option.map_map]
        -- losing a session twice is losing it once
        have hTwice : Connection.withoutSession ∘ Connection.withoutSession =
            Connection.withoutSession := rfl
        rw [hTwice, ite_self, if_pos (by simp)]
      · rw [releaseConnection_elsewhere number manager _ hFirst]
        simp only [List.map_cons, List.mem_cons, hFirst, false_or]

/-- The calls of a release of several connections, with none twice: the session of each is closed,
and before that the statements of explicit ones may be cancelled. -/
theorem releaseEach_calls {entries : List (ConnectionKey × Nat)}
    (hDistinct : (entries.map Prod.snd).Nodup) (manager : Manager) (world : Recorded World) :
    ∃ calls,
      (releaseEach services.recorded entries manager world).2.calls = world.calls ++ calls ∧
      (calls.filter fun call => !call.isCancel) =
        ((entries.map Prod.snd).filterMap manager.sessionOf?).map .close ∧
      ∀ session, .cancel session ∈ calls → ∃ id number, (.conn id, number) ∈ entries ∧
        manager.sessionOf? number = some session := by
  induction entries generalizing manager world with
  | nil => exact ⟨[], by simp [releaseEach], rfl, by simp⟩
  | cons entry rest ih =>
      obtain ⟨key, number⟩ := entry
      obtain ⟨hFirst, hRest⟩ := List.nodup_cons.mp hDistinct
      have hCancelled := exists_cancels services key number manager world
      rw [releaseEach]
      generalize (if key.isExplicit && manager.isLive services.recorded world number then
        (manager.cancel services.recorded number world).2 else world) = cancelled at hCancelled ⊢
      obtain ⟨cancels, hCalls, hNone, hExplicit⟩ := hCancelled
      have hClosed := releaseConnection_calls services number manager cancelled
      -- the connections that come after this one hold what they held before
      have hSessions : ∀ other ∈ rest.map Prod.snd,
          (manager.releaseConnection services.recorded number cancelled).1.sessionOf? other =
            manager.sessionOf? other := by
        intro other hOther
        rw [sessionOf?_releaseConnection, if_neg]
        rintro rfl
        exact hFirst hOther
      obtain ⟨calls, hLater, hCloses, hCancels⟩ := ih hRest
        (manager.releaseConnection services.recorded number cancelled).1
        (manager.releaseConnection services.recorded number cancelled).2
      refine ⟨cancels ++ (manager.sessionOf? number).toList.map .close ++ calls, ?_, ?_, ?_⟩
      · rw [hLater, hClosed, hCalls]
        simp only [List.append_assoc]
      · rw [List.filter_append, List.filter_append, hNone, hCloses, List.map_cons,
          List.filterMap_cons, List.filterMap_congr hSessions]
        cases manager.sessionOf? number <;> rfl
      · intro session hMem
        rw [List.mem_append, List.mem_append] at hMem
        rcases hMem with (hMem | hMem) | hMem
        · obtain ⟨⟨id, rfl⟩, hSession⟩ := hExplicit session hMem
          exact ⟨id, number, List.mem_cons_self, hSession⟩
        · simp at hMem
        · obtain ⟨id, other, hOther, hSession⟩ := hCancels session hMem
          rw [hSessions other (List.mem_map_of_mem hOther)] at hSession
          exact ⟨id, other, List.mem_cons_of_mem _ hOther, hSession⟩

/-- No connection is registered twice. -/
theorem Keyed.nodup_values {manager : Manager} (h : manager.Keyed) :
    manager.registry.values.Nodup := by
  refine List.pairwise_map.mpr (manager.registry.distinct.imp_of_mem ?_)
  rintro ⟨first, number⟩ ⟨second, other⟩ hFirst hSecond hNe rfl
  exact hNe (h.unique (SortedMap.get?_eq_some_iff.mpr hFirst)
    (SortedMap.get?_eq_some_iff.mpr hSecond))

/-! ## What is left -/

/-- What a full release leaves, and the calls that it makes. -/
structure ReleasedAll (before after : Manager) (made : List Call) : Prop where
  registry : after.registry = .empty
  databases : after.databases = .empty
  serverInfo : after.serverInfo = none
  password : after.password = none
  tunnel : after.tunnel = {}
  /-- There is nothing left to save. -/
  snapshot : ∀ config, after.snapshot config = none
  /-- Connections that were registered hold no session any more; others hold what they held. -/
  connections : ∀ number : Nat, after.connections[number]? =
    if number ∈ before.registry.values then
      (before.connections[number]?).map Connection.withoutSession
    else before.connections[number]?
  others : (after.server, after.identity, after.tunnelPassword, after.touched) =
    (before.server, before.identity, before.tunnelPassword, before.touched)
  /-- Apart from what is cancelled, every session is closed once, and then the tunnel stopped. -/
  calls : (made.filter fun call => !call.isCancel) =
    (before.registry.values.filterMap before.sessionOf?).map .close ++
      before.tunnel.handle.toList.map .stopTunnel
  /-- Only explicit connections are asked to cancel. -/
  cancels : ∀ session, Call.cancel session ∈ made →
    ∃ id number, before.get? (.conn id) = some number ∧ before.sessionOf? number = some session

/-- What a release of one connection leaves, and the calls that it makes. -/
structure ReleasedKey (request : ReleaseRequest) (key : ConnectionKey) (number : Nat)
    (before after : Manager) (made : List Call) : Prop where
  registry : ∀ other, after.get? other = if key = other then none else before.get? other
  connection : after.connections[number]? =
    (before.connections[number]?).map Connection.withoutSession
  elsewhere : ∀ place, place ≠ number → after.connections[place]? = before.connections[place]?
  /-- The other keys lead where they led. -/
  connectionAt? : ∀ other, other ≠ key → after.connectionAt? other = before.connectionAt? other
  forgotten : ∀ oid, request.oid = some oid → after.databases.get? oid = none
  others : (after.server, after.identity, after.tunnelPassword, after.touched) =
    (before.server, before.identity, before.tunnelPassword, before.touched)
  /-- While something is registered, the server state is kept. -/
  kept : after.registry.isEmpty = false →
    after.serverInfo = before.serverInfo ∧ after.password = before.password ∧
      after.tunnel = before.tunnel ∧
      ∀ oid, request.oid ≠ some oid → after.databases.get? oid = before.databases.get? oid
  /-- It goes with the last connection. -/
  cleared : after.registry.isEmpty = true →
    after.serverInfo = none ∧ after.password = none ∧ after.tunnel = {} ∧ after.databases = .empty
  calls : made = (before.sessionOf? number).toList.map .close ++
    if after.registry.isEmpty then before.tunnel.handle.toList.map .stopTunnel else []

theorem releasedAll_releaseAll {manager : Manager} (hKeyed : manager.Keyed)
    (world : Recorded World) :
    ∃ made, (manager.releaseAll services.recorded world).2.calls = world.calls ++ made ∧
      ReleasedAll manager (manager.releaseAll services.recorded world).1 made := by
  obtain ⟨connections, hEach, -⟩ :=
    releaseEach_frame services.recorded manager.registry.entries manager world
  obtain ⟨made, hMade, hCloses, hCancels⟩ :=
    releaseEach_calls services hKeyed.nodup_values manager world
  have hPlaces :=
    releaseEach_connections services.recorded manager.registry.entries manager world
  unfold releaseAll clearServerState
  generalize releaseEach services.recorded manager.registry.entries manager world = closed
    at hEach hMade hPlaces ⊢
  obtain ⟨released, after⟩ := closed
  subst hEach
  -- what is left to do after the connections is to stop the tunnel
  have hStopped := stop_calls services manager.tunnel after
  refine ⟨made ++ manager.tunnel.handle.toList.map .stopTunnel, ?_, ?_⟩
  · rw [hStopped, hMade, List.append_assoc]
  · refine ⟨rfl, rfl, rfl, rfl, TunnelController.stop_controller _ _ _, fun _ => rfl, hPlaces, rfl,
      ?_, ?_⟩
    · rw [List.filter_append, hCloses]
      congr 1
      cases manager.tunnel.handle <;> rfl
    · intro session hMem
      have hMem : Call.cancel session ∈ made := by simpa using hMem
      obtain ⟨id, number, hEntry, hSession⟩ := hCancels session hMem
      exact ⟨id, number, SortedMap.get?_eq_some_iff.mpr hEntry, hSession⟩

/-- The oid of a request is forgotten, and nothing else. -/
theorem forgetDatabase_frame (oid : Option UInt32) (manager : Manager) :
    ∃ databases, manager.forgetDatabase oid = { manager with databases } ∧
      ∀ other, databases.get? other =
        if oid = some other then none else manager.databases.get? other := by
  cases oid with
  | none => exact ⟨manager.databases, rfl, fun _ => rfl⟩
  | some oid =>
      refine ⟨manager.databases.erase oid, rfl, ?_⟩
      intro other
      rw [SortedMap.get?_erase]
      simp only [Option.some.injEq]

theorem releasedKey_releaseKey {manager : Manager} (hKeyed : manager.Keyed)
    (request : ReleaseRequest) {key : ConnectionKey} {number : Nat}
    (hNumber : manager.registry.get? key = some number) (world : Recorded World) :
    ∃ made,
      (manager.releaseKey services.recorded key number request.oid world).2.calls =
        world.calls ++ made ∧
      ReleasedKey request key number manager
        (manager.releaseKey services.recorded key number request.oid world).1 made := by
  obtain ⟨connections, hClosed, hThere, hElsewhere⟩ :=
    @releaseConnection_exact _ services.recorded number
      { manager with registry := manager.registry.erase key } world
  have hCalls := releaseConnection_calls services number
    { manager with registry := manager.registry.erase key } world
  unfold releaseKey
  generalize releaseConnection services.recorded number
    { manager with registry := manager.registry.erase key } world = closed at hClosed hCalls ⊢
  obtain ⟨released, after⟩ := closed
  subst hClosed
  obtain ⟨databases, hForgotten, hDatabases⟩ := forgetDatabase_frame request.oid
    { manager with connections, registry := manager.registry.erase key }
  simp only [hForgotten]
  -- the server state is cleared or kept; registry and connections are the same either way
  by_cases hEmpty : (manager.registry.erase key).isEmpty = true
  · simp only [if_pos hEmpty]
    refine ⟨(manager.sessionOf? number).toList.map .close ++
      manager.tunnel.handle.toList.map .stopTunnel, ?_, ?_⟩
    · rw [clearServerState, stop_calls, hCalls, List.append_assoc]
      rfl
    · simp only [clearServerState, TunnelController.stop_controller]
      refine ⟨manager.registry.get?_erase key, hThere, hElsewhere, ?_, fun _ _ => rfl, rfl, ?_,
        fun _ => ⟨rfl, rfl, rfl, rfl⟩, ?_⟩
      · intro other hOther
        exact hKeyed.connectionAt?_erase hNumber rfl hElsewhere (Ne.symm hOther)
      · intro hLeft
        rw [hEmpty] at hLeft
        cases hLeft
      · rw [if_pos hEmpty]
  · simp only [if_neg hEmpty]
    refine ⟨(manager.sessionOf? number).toList.map .close, hCalls, manager.registry.get?_erase key,
      hThere, hElsewhere, ?_, ?_, rfl, fun _ => ⟨rfl, rfl, rfl, ?_⟩,
      fun hNone => absurd hNone hEmpty, ?_⟩
    · intro other hOther
      exact hKeyed.connectionAt?_erase hNumber rfl hElsewhere (Ne.symm hOther)
    · intro oid hOid
      rw [hDatabases, if_pos hOid]
    · intro oid hOid
      rw [hDatabases, if_neg hOid]
    · rw [if_neg hEmpty, List.append_nil]

/-! ## The whole request -/

theorem release_of_key {request : ReleaseRequest} (hSome : request ≠ {}) {manager : Manager}
    {key : ConnectionKey} {number : Nat} (hNames : request.Names manager key)
    (hNumber : manager.get? key = some number) (world : World) :
    manager.release services request world =
      (true, manager.releaseKey services key number request.oid world) := by
  rw [release, if_neg (mt ReleaseRequest.isAll_iff.mp hSome),
    releaseKey?_eq_some_iff.mpr hNames]
  simp only [show manager.registry.get? key = some number from hNumber]

theorem release_of_absent {request : ReleaseRequest} (hSome : request ≠ {}) {manager : Manager}
    (hAbsent : ∀ key ∈ manager.keys, ¬request.Names manager key) (world : World) :
    manager.release services request world = (false, manager, world) := by
  rw [release, if_neg (mt ReleaseRequest.isAll_iff.mp hSome)]
  cases hKey : manager.releaseKey? request with
  | none => rfl
  | some key =>
      cases hNumber : manager.registry.get? key with
      | none => simp only [hNumber]
      | some number =>
          have hMem : key ∈ manager.keys := SortedMap.mem_keys_iff.mpr ⟨number, hNumber⟩
          exact absurd (releaseKey?_eq_some_iff.mp hKey) (hAbsent key hMem)

/-- A release never fails.  An empty request takes everything and clears the server state.  Any
other request takes the connection under the key that it names, and the server state only with the
last connection; where no such key is registered nothing changes, and no call is made. -/
theorem release_takes_what_is_named {manager : Manager}
    (hArisen : Arisen services.recorded manager) (request : ReleaseRequest)
    (world : Recorded World) :
    let outcome := manager.release services.recorded request world
    (manager.interact services.recorded (.release request) world).1 = .ok (.released outcome.1) ∧
      (request = {} → outcome.1 = true ∧
        ∃ made, outcome.2.2.calls = world.calls ++ made ∧
          ReleasedAll manager outcome.2.1 made) ∧
      (request ≠ {} →
        (outcome.1 = true ↔ ∃ key ∈ manager.keys, request.Names manager key) ∧
        (outcome.1 = false → outcome.2 = (manager, world)) ∧
        (outcome.1 = true → ∃ key number made, request.Names manager key ∧
          manager.get? key = some number ∧ outcome.2.2.calls = world.calls ++ made ∧
          ReleasedKey request key number manager outcome.2.1 made)) := by
  intro outcome
  have hKeyed := hArisen.keyed
  refine ⟨rfl, ?_, ?_⟩
  · rintro rfl
    exact ⟨rfl, releasedAll_releaseAll services hKeyed world⟩
  · intro hSome
    -- nothing happens unless the named key is registered
    by_cases hKnown : ∃ key ∈ manager.keys, request.Names manager key
    · obtain ⟨key, hMem, hNames⟩ := hKnown
      obtain ⟨number, hNumber⟩ := SortedMap.mem_keys_iff.mp hMem
      obtain ⟨made, hMade, hReleased⟩ :=
        releasedKey_releaseKey services hKeyed request hNumber world
      have hOutcome : outcome = _ := release_of_key services.recorded hSome hNames hNumber world
      rw [hOutcome]
      refine ⟨⟨fun _ => ⟨key, hMem, hNames⟩, fun _ => rfl⟩, nofun, fun _ => ?_⟩
      exact ⟨key, number, made, hNames, hNumber, hMade, hReleased⟩
    · have hAbsent : ∀ key ∈ manager.keys, ¬request.Names manager key := by
        intro key hMem hNames
        exact hKnown ⟨key, hMem, hNames⟩
      have hOutcome : outcome = _ := release_of_absent services.recorded hSome hAbsent world
      rw [hOutcome]
      exact ⟨⟨nofun, fun h => absurd h hKnown⟩, fun _ => rfl, nofun⟩

/-- Two connections with their sessions.  The explicit one goes by its number, though the request
names the other database: its session is closed and the other one stays.  An empty request takes
both, and cancels what the explicit one runs. -/
theorem released_by_number_and_all :
    let services : Services Unit :=
      { Services.steady (.standard "" "") (.ok 0)
          (.ok [[("ver", some "PostgreSQL 16.2"), ("sversion", some "160002")]])
          (.ok ⟨0, 50000⟩) with
        dial := fun params world => (.ok (if params.database = "beta" then 5 else 4), world) }
    let identity : ServerIdentity :=
      { id := 1, name := "main", host := "db.internal", username := "app" }
    let manager := interactAll services.recorded
      [(⟨(), []⟩, .connection { database := some "alpha" }),
        (⟨(), []⟩, .connection { database := some "beta", connectionId := some 7 }),
        (⟨(), []⟩, .connect 0 none), (⟨(), []⟩, .connect 1 none)] (.new identity)
    let request : ReleaseRequest := { database := some "alpha", connectionId := some 7 }
    let one := manager.release services.recorded request ⟨(), []⟩
    let all := manager.release services.recorded {} ⟨(), []⟩
    (one.2.1.keys = [.db "alpha"] ∧ one.2.2.calls = [.close 5] ∧
      ReleasedKey request (.conn 7) 1 manager one.2.1 one.2.2.calls) ∧
      (all.2.2.calls = [.cancel 5, .close 5, .close 4] ∧
        ReleasedAll manager all.2.1 all.2.2.calls) := by
  intro services identity manager request
  dsimp only
  have hArisen : Arisen services.recorded manager := (Arisen.new identity).interactAll _
  obtain ⟨-, -, hOne⟩ := release_takes_what_is_named services hArisen request ⟨(), []⟩
  obtain ⟨-, hAll, -⟩ := release_takes_what_is_named services hArisen {} ⟨(), []⟩
  have hReleased : (manager.release services.recorded request ⟨(), []⟩).1 = true := by
    decide +kernel
  obtain ⟨key, number, made, hNames, hNumber, hMade, hKey⟩ := (hOne (by decide)).2.2 hReleased
  obtain ⟨-, cancelled, hCancelled, hEverything⟩ := hAll rfl
  have hSeven : key = .conn 7 := by
    cases hNames with
    | number hId _ =>
        cases hId
        rfl
    | remembered hId _ _ => cases hId
    | database hId _ _ => cases hId
  subst hSeven
  have hPlace : number = 1 := by
    have hSecond : manager.get? (.conn 7) = some 1 := by decide +kernel
    rw [hSecond] at hNumber
    cases hNumber
    rfl
  subst hPlace
  rw [List.nil_append] at hMade hCancelled
  rw [← hMade] at hKey
  rw [← hCancelled] at hEverything
  exact ⟨⟨by decide +kernel, by decide +kernel, hKey⟩, by decide +kernel, hEverything⟩

end Manager

end PgConsole
