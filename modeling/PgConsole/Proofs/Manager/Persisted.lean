import PgConsole.Proofs.Manager.Snapshot

namespace PgConsole

/-!
# Live connections are saved

A snapshot exists only while the version of the server is known, and it says of a connection that
it was connected only if that has been noted.  A manager is attested when every connection that
holds a session has it noted, and when the version is known as long as a registered connection
holds a session.  Every way of using a manager keeps this: what forgets the version also empties
the registry.  So a live connection is in the snapshot (`live_connection_persisted`).

Callers use a manager through its operations and may release the session of a registered
connection themselves.  Sessions can be closed by the server at any time, since every use comes
with the world it finds.
-/

/-- What callers do with a manager and with the connections that it has registered. -/
inductive Usage where
  | operation (operation : Operation)
  /-- Release the session of what is registered under a key; it stays registered. -/
  | releaseSession (key : ConnectionKey)
  deriving DecidableEq, Repr

namespace Connection

/-- The connection without its session. -/
def withoutSession (connection : Connection) : Connection := { connection with session := none }

/-- A later state of a connection. -/
structure Continues (before after : Connection) : Prop where
  key : after.key = before.key
  database : after.database = before.database
  flags : after.flags = before.flags
  remembers : before.wasConnected = true → after.wasConnected = true

theorem Continues.refl (connection : Connection) : Continues connection connection :=
  ⟨rfl, rfl, rfl, fun h => h⟩

theorem Continues.trans {first second third : Connection} (h : Continues first second)
    (h' : Continues second third) : Continues first third :=
  ⟨h'.key.trans h.key, h'.database.trans h.database, h'.flags.trans h.flags,
    fun hBefore => h'.remembers (h.remembers hBefore)⟩

theorem continues_withoutSession (connection : Connection) :
    Continues connection connection.withoutSession :=
  ⟨rfl, rfl, rfl, fun h => h⟩

/-- A session that is held has been noted. -/
def Noted (connection : Connection) : Prop :=
  connection.session.isSome = true → connection.wasConnected = true

theorem session_isSome_of_isLive {World : Type} {services : Services World} {world : World}
    {connection : Connection} (h : connection.isLive services world = true) :
    connection.session.isSome = true := by
  unfold isLive at h
  cases hSession : connection.session with
  | none =>
      rw [hSession] at h
      cases h
  | some session => rfl

end Connection

namespace Manager

variable {World : Type} (services : Services World)

/-! ## Uses of a manager -/

/-- Do one thing with a manager. -/
def use (usage : Usage) (manager : Manager) (world : World) : Manager × World :=
  match usage with
  | .operation operation => (manager.perform services operation world).2
  | .releaseSession key =>
    match manager.get? key with
    | some number => manager.releaseConnection services number world
    | none => (manager, world)

/-- One use after the other, each in the world it finds. -/
def useAll (steps : List (World × Usage)) (manager : Manager) : Manager :=
  steps.foldl (fun manager step => (manager.use services step.2 step.1).1) manager

/-- A manager that some uses of a new manager lead to. -/
def Used (manager : Manager) : Prop :=
  ∃ identity steps, useAll services steps (.new identity) = manager

/-! ## Connections stay in their places -/

/-- Every connection stands where it stood, perhaps without its session. -/
def Settled (before after : List Connection) : Prop :=
  ∀ number : Nat, after[number]? = before[number]? ∨
    after[number]? = before[number]?.map Connection.withoutSession

theorem Settled.refl (connections : List Connection) : Settled connections connections :=
  fun _ => .inl rfl

theorem Settled.trans {first second third : List Connection} (h : Settled first second)
    (h' : Settled second third) : Settled first third := by
  intro number
  rcases h' number with hLater | hLater <;> rcases h number with hEarlier | hEarlier <;>
    rw [hLater, hEarlier]
  · exact .inl rfl
  · exact .inr rfl
  · exact .inr rfl
  · right
    rw [Option.map_map]
    rfl

/-- Closing sessions takes no connection away, and adds none. -/
theorem Settled.exists_before {before after : List Connection} (h : Settled before after)
    {number : Nat} {connection : Connection} (hAfter : after[number]? = some connection) :
    ∃ old, before[number]? = some old ∧ (connection = old ∨ connection = old.withoutSession) := by
  rcases h number with hSame | hClosed
  · exact ⟨connection, hSame ▸ hAfter, .inl rfl⟩
  · rw [hClosed, Option.map_eq_some_iff] at hAfter
    obtain ⟨old, hOld, rfl⟩ := hAfter
    exact ⟨old, hOld, .inr rfl⟩

theorem settled_releaseConnection (number : Nat) (manager : Manager) (world : World) :
    Settled manager.connections
      (manager.releaseConnection services number world).1.connections := by
  unfold releaseConnection
  split
  · exact .refl _
  · rename_i connection hFound
    split
    · exact .refl _
    · intro other
      by_cases hOther : number = other
      · subst hOther
        have hBound := (List.getElem?_eq_some_iff.mp hFound).1
        right
        simp only [setConnection, List.getElem?_set_self hBound, hFound]
        rfl
      · left
        simp only [setConnection, List.getElem?_set_ne hOther]

theorem settled_releaseConnections (numbers : List Nat) (manager : Manager) (world : World) :
    Settled manager.connections
      (releaseConnections services numbers manager world).1.connections := by
  induction numbers generalizing manager world with
  | nil => exact .refl _
  | cons number rest ih =>
      rw [releaseConnections]
      exact (settled_releaseConnection services number manager world).trans (ih _ _)

theorem settled_releaseEach (entries : List (ConnectionKey × Nat)) (manager : Manager)
    (world : World) :
    Settled manager.connections (releaseEach services entries manager world).1.connections := by
  induction entries generalizing manager world with
  | nil => exact .refl _
  | cons entry rest ih =>
      rw [releaseEach]
      exact (settled_releaseConnection services entry.2 manager _).trans (ih _ _)

theorem settled_releaseKey (key : ConnectionKey) (number : Nat) (oid : Option UInt32)
    (manager : Manager) (world : World) :
    Settled manager.connections
      (manager.releaseKey services key number oid world).1.connections := by
  have hClosed := settled_releaseConnection services number
    { manager with registry := manager.registry.erase key } world
  have hForget : ∀ released : Manager,
      (released.forgetDatabase oid).connections = released.connections := by
    intro released
    cases oid <;> rfl
  unfold releaseKey
  dsimp only
  split
  · simp only [clearServerState, hForget]
    exact hClosed
  · rw [hForget]
    exact hClosed

theorem settled_release (request : ReleaseRequest) (manager : Manager) (world : World) :
    Settled manager.connections (manager.release services request world).2.1.connections := by
  unfold release
  split
  · exact settled_releaseEach services manager.registry.entries manager world
  · split
    · exact .refl _
    · split
      · exact .refl _
      · exact settled_releaseKey services _ _ _ manager world

theorem settled_discard (key : ConnectionKey) (manager : Manager) (world : World) :
    Settled manager.connections (manager.discard services key world).1.connections := by
  unfold discard
  split
  · exact .refl _
  · exact settled_releaseConnection services _
      { manager with registry := manager.registry.erase key } world

theorem settled_update (identity : ServerIdentity) (manager : Manager) (world : World) :
    Settled manager.connections (manager.update services identity world).1.connections :=
  settled_releaseConnections services manager.registry.values manager world

/-! ## Attested managers -/

/-- Every session has been noted, and while a registered connection holds one, the version of the
server is known. -/
structure Attested (manager : Manager) : Prop where
  sound : manager.Sound
  noted : ∀ connection ∈ manager.connections, connection.Noted
  informed : ∀ {key : ConnectionKey} {number : Nat} {connection : Connection},
    manager.registry.get? key = some number → manager.connections[number]? = some connection →
      connection.session.isSome = true → manager.serverInfo.isSome = true

/-- Connections stay in their places and what has been noted of them stays noted. -/
def Onward (first second : Manager) : Prop :=
  ∀ (number : Nat) (before : Connection), first.connections[number]? = some before →
    ∃ after, second.connections[number]? = some after ∧ before.Continues after

theorem Onward.refl (manager : Manager) : Onward manager manager :=
  fun _ before hBefore => ⟨before, hBefore, .refl before⟩

theorem Onward.trans {first second third : Manager} (h : Onward first second)
    (h' : Onward second third) : Onward first third := by
  intro number before hBefore
  obtain ⟨between, hBetween, hFirst⟩ := h number before hBefore
  obtain ⟨after, hAfter, hSecond⟩ := h' number between hBetween
  exact ⟨after, hAfter, hFirst.trans hSecond⟩

/-- A move that keeps a manager attested and leads onward. -/
structure Advances (first second : Manager) : Prop where
  attested : first.Attested → second.Attested
  onward : Onward first second

theorem Advances.refl (manager : Manager) : Advances manager manager := ⟨id, .refl manager⟩

theorem Advances.trans {first second third : Manager} (h : Advances first second)
    (h' : Advances second third) : Advances first third :=
  ⟨fun hFirst => h'.attested (h.attested hFirst), h.onward.trans h'.onward⟩

/-- Closing sessions leads onward. -/
theorem onward_of_settled {first second : Manager}
    (hSettled : Settled first.connections second.connections) : Onward first second := by
  intro number before hBefore
  rcases hSettled number with hSame | hClosed
  · exact ⟨before, hSame.trans hBefore, .refl before⟩
  · refine ⟨before.withoutSession, ?_, before.continues_withoutSession⟩
    rw [hClosed, hBefore]
    rfl

/-- Closing sessions and taking connections out of the registry keeps a manager attested, as long
as the version is forgotten only together with the last connection. -/
theorem advances_of_settled {first second : Manager}
    (hSettled : Settled first.connections second.connections)
    (hSound : first.Sound → second.Sound)
    (hKept : ∀ {key : ConnectionKey} {number : Nat}, second.registry.get? key = some number →
      first.registry.get? key = some number ∧
        (first.serverInfo.isSome = true → second.serverInfo.isSome = true)) :
    Advances first second := by
  refine ⟨fun h => ⟨hSound h.sound, ?_, ?_⟩, onward_of_settled hSettled⟩
  · intro connection hMem hSession
    obtain ⟨number, hNumber⟩ := List.getElem?_of_mem hMem
    obtain ⟨old, hOld, rfl | rfl⟩ := hSettled.exists_before hNumber
    · exact h.noted _ (List.mem_of_getElem? hOld) hSession
    · cases hSession
  · intro key number connection hFound hNumber hSession
    obtain ⟨hOldKey, hInfo⟩ := hKept hFound
    obtain ⟨old, hOld, rfl | rfl⟩ := hSettled.exists_before hNumber
    · exact hInfo (h.informed hOldKey hOld hSession)
    · cases hSession

/-- Whatever else changes, a manager with the same connections that knows no less of its server
stays attested. -/
theorem advances_of_same {first second : Manager}
    (hConnections : second.connections = first.connections)
    (hRegistry : second.registry = first.registry)
    (hTunnel : first.tunnel.Sound → second.tunnel.Sound)
    (hInfo : first.serverInfo.isSome = true → second.serverInfo.isSome = true) :
    Advances first second := by
  refine advances_of_settled (hConnections ▸ .refl _) ?_ ?_
  · intro hSound
    refine ⟨?_, hTunnel hSound.tunnel⟩
    intro key number hFound
    rw [hRegistry] at hFound
    rw [hConnections]
    exact hSound.registered hFound
  · intro key number hFound
    exact ⟨hRegistry ▸ hFound, hInfo⟩

/-! ## Moves -/

theorem advances_release (request : ReleaseRequest) (manager : Manager) (world : World) :
    Advances manager (manager.release services request world).2.1 := by
  have hReleased := release_case services request manager world
  have hSettled := settled_release services request manager world
  generalize (manager.release services request world).2.1 = after at hReleased hSettled
  refine advances_of_settled hSettled (fun h => h.released hReleased) ?_
  intro key number hFound
  cases hReleased with
  | nothing => exact ⟨hFound, id⟩
  | one => exact ⟨get?_of_erase hFound, id⟩
  | last => cases hFound

theorem advances_update (identity : ServerIdentity) (manager : Manager) (world : World) :
    Advances manager (manager.update services identity world).1 := by
  refine advances_of_settled (settled_update services identity manager world)
    (fun _ => sound_update services manager identity world) ?_
  intro key number hFound
  obtain ⟨connections, hUpdate⟩ := update_frame services identity manager world
  rw [hUpdate] at hFound
  cases hFound

theorem advances_discard (key : ConnectionKey) (manager : Manager) (world : World) :
    Advances manager (manager.discard services key world).1 := by
  refine advances_of_settled (settled_discard services key manager world)
    (fun h => h.discard services key world) ?_
  intro other number hFound
  obtain ⟨connections, registry, hDiscarded, -, hSub⟩ := discard_frame services key manager world
  rw [hDiscarded] at hFound ⊢
  exact ⟨hSub hFound, id⟩

theorem advances_releaseConnection (number : Nat) (manager : Manager) (world : World) :
    Advances manager (manager.releaseConnection services number world).1 := by
  have hSettled := settled_releaseConnection services number manager world
  obtain ⟨connections, hReleased, hLength⟩ :=
    releaseConnection_frame services number manager world
  rw [hReleased] at hSettled ⊢
  refine advances_of_settled hSettled ?_ (fun hFound => ⟨hFound, id⟩)
  intro hSound
  refine ⟨?_, hSound.tunnel⟩
  intro key found hFound
  have hBound := hSound.registered hFound
  rw [hLength]
  exact hBound

/-- A new connection holds no session. -/
theorem advances_register (key : ConnectionKey) (database : String) (flags : ConnectionFlags)
    (wasConnected : Bool) (manager : Manager) :
    Advances manager (manager.register key database flags wasConnected).2 := by
  have hSound := fun h : manager.Sound => h.register key database flags wasConnected
  revert hSound
  unfold register
  split
  · exact fun _ => .refl manager
  · intro hSound
    constructor
    · intro h
      refine ⟨hSound h.sound, ?_, ?_⟩
      · intro connection hMem hSession
        rcases List.mem_append.mp hMem with hOld | hNew
        · exact h.noted connection hOld hSession
        · rw [List.mem_singleton.mp hNew] at hSession
          cases hSession
      · intro other number connection hFound hNumber hSession
        by_cases hBound : number < manager.connections.length
        · -- an old number, and so an old key
          have hOther : key ≠ other := by
            rintro rfl
            simp only [SortedMap.get?_insert_self, Option.some.injEq] at hFound
            omega
          simp only [SortedMap.get?_insert_of_ne _ hOther] at hFound
          rw [List.getElem?_append_left hBound] at hNumber
          exact h.informed hFound hNumber hSession
        · rw [List.getElem?_append_right (Nat.le_of_not_lt hBound)] at hNumber
          have hNew := List.mem_singleton.mp (List.mem_of_getElem? hNumber)
          rw [hNew] at hSession
          cases hSession
    · intro number before hBefore
      have hBound := (List.getElem?_eq_some_iff.mp hBefore).1
      exact ⟨before, (List.getElem?_append_left hBound).trans hBefore, .refl before⟩

/-- A session that is opened is noted, and the version is known from then on. -/
theorem advances_adopt {manager : Manager} {number : Nat} {connection : Connection}
    (hFound : manager.connections[number]? = some connection) (session : Nat) (info : ServerInfo)
    (explicit : Option Secret) :
    Advances manager (manager.adopt number connection session info explicit) := by
  have hBound := (List.getElem?_eq_some_iff.mp hFound).1
  constructor
  · intro h
    refine ⟨⟨?_, h.sound.tunnel⟩, ?_, fun _ _ _ => rfl⟩
    · intro key registered hRegistered
      have hOld := h.sound.registered hRegistered
      simpa [adopt, setConnection] using hOld
    · intro other hMem hSession
      rcases List.mem_or_eq_of_mem_set hMem with hOld | rfl
      · exact h.noted other hOld hSession
      · rfl
  · intro place before hBefore
    by_cases hPlace : number = place
    · subst hPlace
      obtain rfl : connection = before := Option.some.inj (hFound.symm.trans hBefore)
      exact ⟨_, List.getElem?_set_self hBound, rfl, rfl, rfl, fun _ => rfl⟩
    · exact ⟨before, (List.getElem?_set_ne hPlace).trans hBefore, .refl before⟩

theorem advances_tunnel {manager : Manager} {tunnel : TunnelController}
    (hTunnel : manager.Sound → tunnel.Sound) : Advances manager { manager with tunnel } := by
  refine ⟨fun h => ?_, fun _ before hBefore => ⟨before, hBefore, .refl before⟩⟩
  exact ⟨⟨h.sound.registered, hTunnel h.sound⟩, h.noted, h.informed⟩

theorem advances_connect (number : Nat) (explicit : Option Secret) (manager : Manager)
    (world : World) :
    Advances manager (manager.connect services number explicit world).2.1 := by
  have hEnsured := fun h : manager.Sound => h.ensureTunnel services world
  have hCase := connect_case services number explicit manager world
  generalize manager.connect services number explicit world = outcome at hCase ⊢
  cases hCase with
  | unknown => exact .refl manager
  | live => exact .refl manager
  | noTunnel _ _ hTunnel
  | noPassword _ _ hTunnel _
  | refused _ _ hTunnel _ _
  | unversioned _ _ hTunnel _ _ _ =>
      rw [hTunnel] at hEnsured
      exact advances_tunnel hEnsured
  | opened hFound _ hTunnel _ _ _ =>
      rw [hTunnel] at hEnsured
      refine (advances_tunnel hEnsured).trans (advances_adopt ?_ _ _ explicit)
      exact hFound

theorem advances_quiet {first second : Manager} {start final : World}
    (hMove : Quiet services first start second final) : Advances first second := by
  cases hMove with
  | release request => exact advances_release services request first start
  | register key database flags wasConnected =>
      exact advances_register key database flags wasConnected first
  | rename => exact advances_of_same rfl rfl id id
  | remember => exact advances_of_same rfl rfl id id
  | execute => exact .refl first
  | checkTunnel host =>
      exact advances_tunnel fun hSound => hSound.tunnel.checkAlive services host start
  | touch => exact advances_of_same rfl rfl id id
  | takeOver snapshot =>
      refine advances_of_same rfl rfl id ?_
      intro hInfo
      unfold takeOver
      dsimp only
      split
      · exact hInfo
      · rfl
  | discard key => exact advances_discard services key first start

theorem advances_perform (operation : Operation) (manager : Manager) (world : World) :
    Advances manager (manager.perform services operation world).2.1 := by
  rcases operation.update_or_other with ⟨identity, rfl⟩ | hOther
  · exact advances_update services identity manager world
  · exact ((trace_perform services hOther manager world).invariant (Advances manager)
      (fun hMove hSoFar => hSoFar.trans (advances_quiet services hMove))
      (fun _ number explicit later hSoFar =>
        hSoFar.trans (advances_connect services number explicit _ later)) (.refl manager)).1

/-- Every use of a manager keeps it attested and leads onward. -/
theorem advances_use (usage : Usage) (manager : Manager) (world : World) :
    Advances manager (manager.use services usage world).1 := by
  cases usage with
  | operation operation => exact advances_perform services operation manager world
  | releaseSession key =>
      unfold use
      dsimp only
      split
      · exact advances_releaseConnection services _ manager world
      · exact .refl manager

theorem advances_useAll (steps : List (World × Usage)) (manager : Manager) :
    Advances manager (useAll services steps manager) := by
  induction steps generalizing manager with
  | nil => exact .refl manager
  | cons step rest ih => exact (advances_use services step.2 manager step.1).trans (ih _)

theorem attested_new (identity : ServerIdentity) : (new identity).Attested := by
  refine ⟨sound_new identity, ?_, ?_⟩
  · intro connection hMem
    cases hMem
  · intro key number connection hFound
    cases hFound

theorem Used.attested {manager : Manager} (h : Used services manager) : manager.Attested := by
  obtain ⟨identity, steps, rfl⟩ := h
  exact (advances_useAll services steps (.new identity)).attested (attested_new identity)

/-! ## Snapshots of attested managers -/

/-- A manager that knows the version of its server and has a connection has a snapshot, and that
connection is in it. -/
theorem exists_snapshot {config : ConsoleConfig} {manager : Manager} {key : ConnectionKey}
    {connection : Connection} (hInfo : manager.serverInfo.isSome = true)
    (hFound : manager.connectionAt? key = some connection) :
    ∃ saved, manager.snapshot config = some saved ∧
      saved.connections.get? key.toText = some (savedConnection connection) := by
  obtain ⟨info, hKnown⟩ := Option.isSome_iff_exists.mp hInfo
  have hOccupied : manager.registry.isEmpty = false := by
    obtain ⟨number, hNumber, -⟩ := Option.bind_eq_some_iff.mp hFound
    rw [← Bool.not_eq_true, SortedMap.isEmpty_iff_get?]
    intro hEmpty
    rw [get?, hEmpty key] at hNumber
    cases hNumber
  obtain ⟨saved, hSaved⟩ : ∃ saved, manager.snapshot config = some saved := by
    simp [snapshot, hKnown, hOccupied]
  obtain ⟨-, -, -, -, -, hConnections⟩ := eq_of_snapshot hSaved
  refine ⟨saved, hSaved, ?_⟩
  rw [hConnections, get?_savedConnections]
  exact ⟨key, connection, rfl, hFound, rfl⟩

/-- Whatever has been done with a manager, a registered connection with a live session has been
noted as connected and the version of the server is known.  So there is a snapshot, and under the
text of the connection's key it holds the same database and flags, and that it was connected.
Whatever is done next, no connection changes its database or its flags, and one that was
connected does not turn into one that was not. -/
theorem live_connection_persisted {manager : Manager} (hUsed : Used services manager) :
    (∀ (world : World) (key : ConnectionKey) (connection : Connection),
      manager.connectionAt? key = some connection → connection.isLive services world = true →
        connection.wasConnected = true ∧ manager.serverInfo.isSome = true ∧
          ∃ saved written, manager.snapshot services.config = some saved ∧
            saved.connections.get? key.toText = some written ∧
            written.database = connection.database ∧ written.flags = connection.flags ∧
            written.wasConnected = true) ∧
      ∀ steps, Onward manager (useAll services steps manager) := by
  have hAttested := hUsed.attested services
  refine ⟨?_, fun steps => (advances_useAll services steps manager).onward⟩
  intro world key connection hFound hLive
  have hSession := Connection.session_isSome_of_isLive hLive
  obtain ⟨number, hNumber, hPlace⟩ := Option.bind_eq_some_iff.mp hFound
  have hConnected : connection.wasConnected = true :=
    hAttested.noted connection (List.mem_of_getElem? hPlace) hSession
  have hInfo := hAttested.informed hNumber hPlace hSession
  obtain ⟨saved, hSaved, hWritten⟩ := exists_snapshot hInfo hFound
  exact ⟨hConnected, hInfo, saved, savedConnection connection, hSaved, hWritten, rfl, rfl,
    hConnected⟩

/-- The same for a connection that has been opened twice, its first session having been released
by a caller. -/
theorem live_connection_persisted_reopened :
    let services := Services.steady (.standard "" "") (.ok 0)
      (.ok [[("ver", some "PostgreSQL 16.2"), ("sversion", some "160002")]]) (.ok ⟨0, 50000⟩)
    let identity : ServerIdentity :=
      { id := 1, name := "main", host := "db.internal", username := "app" }
    let manager := useAll services
      [((), .operation (.connection { database := some "app" })),
        ((), .operation (.connect (.db "app") none)), ((), .releaseSession (.db "app")),
        ((), .operation (.connect (.db "app") none))] (.new identity)
    ∃ connection saved written, manager.connectionAt? (.db "app") = some connection ∧
      connection.isLive services () = true ∧ manager.snapshot services.config = some saved ∧
      saved.connections.get? (ConnectionKey.db "app").toText = some written ∧
      written.database = "app" ∧ written.wasConnected = true := by
  intro services identity manager
  have hFound : manager.connectionAt? (.db "app") =
      some { key := .db "app", database := "app", flags := {}, session := some 0,
             wasConnected := true } := by decide +kernel
  have hPersisted :=
    (live_connection_persisted services ⟨identity, _, rfl⟩).1 () (.db "app") _ hFound (by decide)
  obtain ⟨-, -, saved, written, hSaved, hWritten, hDatabase, -, hConnected⟩ := hPersisted
  exact ⟨_, saved, written, hFound, by decide, hSaved, hWritten, hDatabase, hConnected⟩

end Manager

end PgConsole
