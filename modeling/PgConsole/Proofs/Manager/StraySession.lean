import PgConsole.Proofs.Manager.Interaction
import PgConsole.Proofs.Manager.Restore

namespace PgConsole

/-!
# Sessions outside the registry

A session is stray when it is held by a connection that is not registered.  A manager opens
sessions for registered connections only and closes the session of every connection that it takes
out of the registry, so nothing that it does on its own makes a session stray, or ends one that is
(`Manager.KeepsStrays`).  A caller who has kept a connection can connect it again after it has left
the registry, and only that makes a session stray.

`Manager.stray_step` says what one interaction does about strays, and `Manager.stray_run` follows a
run with it.  `sessions_registered_or_reopened` is the outcome for every run of a new manager, and
`reopened_after_release` an open session that is not registered.
-/

namespace Manager

variable {World : Type} (services : Services World)

/-- Some key leads to the connection. -/
def Registered (manager : Manager) (number : Nat) : Prop :=
  ∃ key, manager.registry.get? key = some number

/-- The session that a connection holds. -/
def sessionOf? (manager : Manager) (number : Nat) : Option Nat :=
  (manager.connections[number]?).bind Connection.session

/-- The connection holds a session and is not registered. -/
structure Stray (manager : Manager) (number : Nat) : Prop where
  held : manager.sessionOf? number ≠ none
  unregistered : ¬manager.Registered number

/-- Exactly the connections that were stray are stray. -/
def KeepsStrays (first second : Manager) : Prop :=
  ∀ number, second.Stray number ↔ first.Stray number

theorem KeepsStrays.refl (manager : Manager) : KeepsStrays manager manager := fun _ => .rfl

theorem KeepsStrays.trans {first second third : Manager} (h : KeepsStrays first second)
    (h' : KeepsStrays second third) : KeepsStrays first third :=
  fun number => (h' number).trans (h number)

theorem stray_congr {first second : Manager} {number : Nat}
    (hSession : second.sessionOf? number = first.sessionOf? number)
    (hRegistered : second.Registered number ↔ first.Registered number) :
    second.Stray number ↔ first.Stray number :=
  ⟨fun h => ⟨hSession ▸ h.held, fun hFirst => h.unregistered (hRegistered.mpr hFirst)⟩,
    fun h => ⟨hSession ▸ h.held, fun hSecond => h.unregistered (hRegistered.mp hSecond)⟩⟩

/-- Registry and connections decide which connections are stray. -/
theorem keepsStrays_of_same {first second : Manager}
    (hConnections : second.connections = first.connections)
    (hRegistry : second.registry = first.registry) : KeepsStrays first second := by
  intro number
  refine stray_congr ?_ ?_
  · rw [sessionOf?, hConnections, sessionOf?]
  · rw [Registered, hRegistry, Registered]

/-! ## Closing sessions -/

theorem sessionOf?_releaseConnection (number other : Nat) (manager : Manager) (world : World) :
    (manager.releaseConnection services number world).1.sessionOf? other =
      if number = other then none else manager.sessionOf? other := by
  unfold releaseConnection sessionOf?
  by_cases hOther : number = other
  · subst hOther
    rw [if_pos rfl]
    cases hFound : manager.connections[number]? with
    | none => simp only [hFound, Option.bind_none]
    | some connection =>
        cases hSession : connection.session with
        | none => simp only [hSession, hFound, Option.bind_some]
        | some session =>
            have hBound := (List.getElem?_eq_some_iff.mp hFound).1
            simp only [hSession, setConnection, List.getElem?_set_self hBound, Option.bind_some]
  · rw [if_neg hOther]
    cases manager.connections[number]? with
    | none => rfl
    | some connection =>
        cases hSession : connection.session with
        | none => simp only [hSession]
        | some session => simp only [hSession, setConnection, List.getElem?_set_ne hOther]

theorem sessionOf?_releaseConnections (numbers : List Nat) (other : Nat) (manager : Manager)
    (world : World) :
    (releaseConnections services numbers manager world).1.sessionOf? other =
      if other ∈ numbers then none else manager.sessionOf? other := by
  induction numbers generalizing manager world with
  | nil => simp [releaseConnections]
  | cons number rest ih =>
      rw [releaseConnections, ih, sessionOf?_releaseConnection]
      by_cases hRest : other ∈ rest
      · simp [hRest]
      · by_cases hFirst : number = other
        · simp [hFirst]
        · simp [hRest, hFirst, Ne.symm hFirst]

/-- Whether statements are cancelled on the way makes no difference to the sessions. -/
theorem sessionOf?_releaseEach (entries : List (ConnectionKey × Nat)) (other : Nat)
    (manager : Manager) (world : World) :
    (releaseEach services entries manager world).1.sessionOf? other =
      if other ∈ entries.map Prod.snd then none else manager.sessionOf? other := by
  induction entries generalizing manager world with
  | nil => simp [releaseEach]
  | cons entry rest ih =>
      obtain ⟨key, number⟩ := entry
      rw [releaseEach, ih, sessionOf?_releaseConnection]
      by_cases hRest : other ∈ rest.map Prod.snd
      · simp only [List.map_cons, List.mem_cons, hRest, or_true, if_true]
      · by_cases hFirst : number = other
        · simp [hFirst]
        · simp only [List.map_cons, List.mem_cons, hRest, Ne.symm hFirst, hFirst, or_self, if_false]

/-- Taking everything out of the registry makes nothing stray if all of it is closed. -/
theorem keepsStrays_of_emptied {first second : Manager} (hRegistry : second.registry = .empty)
    (hSessions : ∀ number, second.sessionOf? number =
      if number ∈ first.registry.values then none else first.sessionOf? number) :
    KeepsStrays first second := by
  intro number
  have hUnregistered : ¬second.Registered number := by
    rintro ⟨key, hFound⟩
    rw [hRegistry] at hFound
    cases hFound
  by_cases hMem : number ∈ first.registry.values
  · -- closed, and registered before
    have hClosed : second.sessionOf? number = none := by
      rw [hSessions, if_pos hMem]
    exact ⟨fun h => absurd hClosed h.held,
      fun h => absurd (SortedMap.mem_values_iff.mp hMem) h.unregistered⟩
  · have hBefore : ¬first.Registered number :=
      fun hRegistered => hMem (SortedMap.mem_values_iff.mpr hRegistered)
    refine stray_congr ?_ (iff_of_false hUnregistered hBefore)
    rw [hSessions, if_neg hMem]

/-- The same for a single key. -/
theorem keepsStrays_of_erased {first second : Manager} {key : ConnectionKey} {number : Nat}
    (hFound : first.registry.get? key = some number)
    (hRegistry : second.registry = first.registry.erase key)
    (hSessions : ∀ other, second.sessionOf? other =
      if number = other then none else first.sessionOf? other) :
    KeepsStrays first second := by
  intro other
  by_cases hOther : number = other
  · subst hOther
    have hClosed : second.sessionOf? number = none := by
      rw [hSessions, if_pos rfl]
    exact ⟨fun h => absurd hClosed h.held, fun h => absurd ⟨key, hFound⟩ h.unregistered⟩
  · refine stray_congr ?_ ⟨?_, ?_⟩
    · rw [hSessions, if_neg hOther]
    · rintro ⟨otherKey, hLeft⟩
      rw [hRegistry] at hLeft
      exact ⟨otherKey, get?_of_erase hLeft⟩
    · -- no key of another connection is gone
      rintro ⟨otherKey, hLeft⟩
      have hKey : otherKey ≠ key := by
        rintro rfl
        rw [hFound] at hLeft
        exact hOther (Option.some.inj hLeft)
      refine ⟨otherKey, ?_⟩
      rw [hRegistry, SortedMap.get?_erase_of_ne _ hKey]
      exact hLeft

theorem keepsStrays_releaseKey {key : ConnectionKey} {number : Nat} {manager : Manager}
    (hFound : manager.registry.get? key = some number) (oid : Option UInt32) (world : World) :
    KeepsStrays manager (manager.releaseKey services key number oid world).1 := by
  have hForget : ∀ released : Manager,
      (released.forgetDatabase oid).connections = released.connections ∧
        (released.forgetDatabase oid).registry = released.registry := by
    intro released
    cases oid <;> exact ⟨rfl, rfl⟩
  have hErased : KeepsStrays manager (releaseConnection services number
      { manager with registry := manager.registry.erase key } world).1 := by
    obtain ⟨connections, hFrame, -⟩ := releaseConnection_frame services number
      { manager with registry := manager.registry.erase key } world
    refine keepsStrays_of_erased hFound ?_ ?_
    · rw [hFrame]
    · intro other
      rw [sessionOf?_releaseConnection]
      rfl
  obtain ⟨hConnections, hRegistry⟩ := hForget (releaseConnection services number
    { manager with registry := manager.registry.erase key } world).1
  refine hErased.trans ?_
  unfold releaseKey
  dsimp only
  split
  · exact keepsStrays_of_same hConnections hRegistry
  · exact keepsStrays_of_same hConnections hRegistry

theorem keepsStrays_release (request : ReleaseRequest) (manager : Manager) (world : World) :
    KeepsStrays manager (manager.release services request world).2.1 := by
  unfold release
  split
  · exact keepsStrays_of_emptied rfl
      fun number => sessionOf?_releaseEach services manager.registry.entries number manager world
  · split
    · exact .refl manager
    · split
      · exact .refl manager
      · rename_i hFound
        exact keepsStrays_releaseKey services hFound request.oid world

theorem keepsStrays_discard (key : ConnectionKey) (manager : Manager) (world : World) :
    KeepsStrays manager (manager.discard services key world).1 := by
  unfold discard
  split
  · exact .refl manager
  · rename_i number hFound
    obtain ⟨connections, hFrame, -⟩ := releaseConnection_frame services number
      { manager with registry := manager.registry.erase key } world
    refine keepsStrays_of_erased hFound ?_ ?_
    · rw [hFrame]
    · intro other
      rw [sessionOf?_releaseConnection]
      rfl

theorem keepsStrays_update (identity : ServerIdentity) (manager : Manager) (world : World) :
    KeepsStrays manager (manager.update services identity world).1 := by
  refine keepsStrays_of_emptied rfl ?_
  intro number
  exact sessionOf?_releaseConnections services manager.registry.values number manager world

/-! ## Registering and connecting -/

/-- A new connection is registered and holds no session. -/
theorem keepsStrays_register (key : ConnectionKey) (database : String) (flags : ConnectionFlags)
    (wasConnected : Bool) (manager : Manager) :
    KeepsStrays manager (manager.register key database flags wasConnected).2 := by
  unfold register
  split
  · exact .refl manager
  · rename_i hAbsent
    intro number
    have hSession : ({ manager with
        connections := manager.connections ++ [{ key, database, flags, wasConnected }]
        registry := manager.registry.insert key manager.connections.length } : Manager).sessionOf?
          number = manager.sessionOf? number := by
      simp only [sessionOf?]
      by_cases hBound : number < manager.connections.length
      · rw [List.getElem?_append_left hBound]
      · rw [List.getElem?_append_right (Nat.le_of_not_lt hBound),
          List.getElem?_eq_none (Nat.le_of_not_lt hBound)]
        cases number - manager.connections.length <;> rfl
    constructor
    · rintro ⟨hHeld, hUnregistered⟩
      refine ⟨hSession ▸ hHeld, ?_⟩
      rintro ⟨other, hOther⟩
      have hNe : key ≠ other := by
        rintro rfl
        rw [hAbsent] at hOther
        cases hOther
      exact hUnregistered ⟨other, (SortedMap.get?_insert_of_ne _ hNe _).trans hOther⟩
    · rintro ⟨hHeld, hUnregistered⟩
      refine ⟨hSession ▸ hHeld, ?_⟩
      rintro ⟨other, hOther⟩
      by_cases hKey : key = other
      · -- the new number is the next one, under which there was no session
        subst hKey
        rw [SortedMap.get?_insert_self, Option.some.injEq] at hOther
        subst hOther
        exact hHeld (by simp [sessionOf?])
      · rw [SortedMap.get?_insert_of_ne _ hKey] at hOther
        exact hUnregistered ⟨other, hOther⟩

theorem registered_register (key : ConnectionKey) (database : String) (flags : ConnectionFlags)
    (wasConnected : Bool) (manager : Manager) :
    (manager.register key database flags wasConnected).2.Registered
      (manager.register key database flags wasConnected).1 :=
  ⟨key, register_get?_self manager key database flags wasConnected⟩

@[simp] theorem registered_connect {number : Nat} {explicit : Option Secret} {manager : Manager}
    {world : World} {other : Nat} :
    (manager.connect services number explicit world).2.1.Registered other ↔
      manager.Registered other := by
  rw [Registered, connect_registry, Registered]

/-- An attempt is about the session of its own connection. -/
theorem sessionOf?_connect_of_ne {number other : Nat} (hOther : number ≠ other)
    (explicit : Option Secret) (manager : Manager) (world : World) :
    (manager.connect services number explicit world).2.1.sessionOf? other =
      manager.sessionOf? other := by
  have hCase := connect_case services number explicit manager world
  generalize manager.connect services number explicit world = outcome at hCase ⊢
  cases hCase with
  | opened => simp only [sessionOf?, adopt, setConnection, List.getElem?_set_ne hOther]
  | _ => rfl

/-- The connection holds a session after an attempt that succeeds, and what it held before after
one that fails. -/
theorem held_connect_iff (number : Nat) (explicit : Option Secret) (manager : Manager)
    (world : World) :
    (manager.connect services number explicit world).2.1.sessionOf? number ≠ none ↔
      manager.sessionOf? number ≠ none ∨
        (manager.connect services number explicit world).1 = .ok () := by
  have hCase := connect_case services number explicit manager world
  generalize manager.connect services number explicit world = outcome at hCase ⊢
  cases hCase with
  | @live connection hFound hLive =>
      have hHeld : manager.sessionOf? number ≠ none := by
        rw [sessionOf?, hFound, Option.bind_some]
        intro hNone
        rw [Connection.isLive, hNone] at hLive
        cases hLive
      exact ⟨fun h => .inl h, fun _ => hHeld⟩
  | opened hFound =>
      have hBound := (List.getElem?_eq_some_iff.mp hFound).1
      simp [sessionOf?, adopt, setConnection, hBound]
  | unknown | noTunnel | noPassword | refused | unversioned =>
      refine ⟨fun h => .inl h, ?_⟩
      rintro (hHeld | hOk)
      · exact hHeld
      · cases hOk

/-- After an attempt a connection is stray if it was before, or if the attempt has opened a session
for it while it was not registered. -/
theorem stray_connect (number : Nat) (explicit : Option Secret) (manager : Manager) (world : World)
    (other : Nat) :
    (manager.connect services number explicit world).2.1.Stray other ↔
      manager.Stray other ∨ number = other ∧ ¬manager.Registered number ∧
        (manager.connect services number explicit world).1 = .ok () := by
  by_cases hOther : number = other
  · subst hOther
    have hHeld := held_connect_iff services number explicit manager world
    constructor
    · rintro ⟨hAfter, hUnregistered⟩
      rw [registered_connect] at hUnregistered
      rcases hHeld.mp hAfter with hBefore | hOk
      · exact .inl ⟨hBefore, hUnregistered⟩
      · exact .inr ⟨rfl, hUnregistered, hOk⟩
    · rintro (⟨hBefore, hUnregistered⟩ | ⟨-, hUnregistered, hOk⟩)
      · exact ⟨hHeld.mpr (.inl hBefore), by rwa [registered_connect]⟩
      · exact ⟨hHeld.mpr (.inr hOk), by rwa [registered_connect]⟩
  · rw [stray_congr (sessionOf?_connect_of_ne services hOther explicit manager world)
      (registered_connect services)]
    simp [hOther]

theorem keepsStrays_connect {number : Nat} {manager : Manager}
    (hRegistered : manager.Registered number) (explicit : Option Secret) (world : World) :
    KeepsStrays manager (manager.connect services number explicit world).2.1 := by
  intro other
  rw [stray_connect]
  simp [hRegistered]

/-- After the session of a connection has been released, exactly the others that were stray
are. -/
theorem stray_releaseConnection (number : Nat) (manager : Manager) (world : World) (other : Nat) :
    (manager.releaseConnection services number world).1.Stray other ↔
      manager.Stray other ∧ number ≠ other := by
  have hSession := sessionOf?_releaseConnection services number other manager world
  obtain ⟨connections, hFrame, -⟩ := releaseConnection_frame services number manager world
  by_cases hOther : number = other
  · rw [if_pos hOther] at hSession
    exact ⟨fun h => absurd hSession h.held, fun h => absurd hOther h.2⟩
  · rw [if_neg hOther] at hSession
    have hRegistered : (manager.releaseConnection services number world).1.Registered other ↔
        manager.Registered other := by
      rw [Registered, hFrame, Registered]
    rw [stray_congr hSession hRegistered]
    exact ⟨fun h => ⟨h, hOther⟩, And.left⟩

/-! ## What a manager does on its own -/

theorem registered_restoreAttempts (entries : List (ConnectionKey × ConnectionSnapshot))
    (manager : Manager) (world : World) :
    ∀ attempt ∈ restoreAttempts services entries manager world,
      attempt.manager.Registered attempt.number := by
  induction entries generalizing manager world with
  | nil =>
      intro attempt hMem
      cases hMem
  | cons entry rest ih =>
      obtain ⟨key, saved⟩ := entry
      have hNew := registered_register key saved.database saved.flags saved.wasConnected manager
      rw [restoreAttempts]
      generalize manager.register key saved.database saved.flags saved.wasConnected = registration
        at hNew ⊢
      obtain ⟨number, registered⟩ := registration
      dsimp only
      split
      · exact ih registered world
      · intro attempt hMem
        rcases List.mem_cons.mp hMem with rfl | hMem
        · exact hNew
        · split at hMem
          · exact ih _ _ attempt hMem
          · exact ih _ _ attempt hMem
          · cases hMem

theorem registered_reconnectAttempts (numbers : List Nat) (manager : Manager) (world : World)
    (hNumbers : ∀ number ∈ numbers, manager.Registered number) :
    ∀ attempt ∈ reconnectAttempts services numbers manager world,
      attempt.manager.Registered attempt.number := by
  induction numbers generalizing manager world with
  | nil =>
      intro attempt hMem
      cases hMem
  | cons number rest ih =>
      have hRest : ∀ number ∈ rest, manager.Registered number :=
        fun number hMem => hNumbers number (List.mem_cons_of_mem _ hMem)
      have hLater : ∀ other ∈ rest,
          (manager.connect services number none world).2.1.Registered other :=
        fun other hMem => (registered_connect services).mpr (hRest other hMem)
      rw [reconnectAttempts]
      split
      · intro attempt hMem
        rcases List.mem_cons.mp hMem with rfl | hMem
        · exact hNumbers _ List.mem_cons_self
        · split at hMem
          · rename_i hConnect
            rw [hConnect] at hLater
            exact ih _ _ hLater attempt hMem
          · rename_i hConnect
            rw [hConnect] at hLater
            exact ih _ _ hLater attempt hMem
          · cases hMem
      · exact ih manager world hRest

/-- A manager attempts to connect registered connections only. -/
theorem registered_attempts {operation : Operation} {manager : Manager} {world : World} :
    ∀ attempt ∈ manager.attempts services operation world,
      attempt.manager.Registered attempt.number := by
  intro attempt hMem
  cases operation with
  | update identity => cases hMem
  | release request => cases hMem
  | connection request =>
      simp only [attempts, lookupAttempts] at hMem
      split at hMem
      · split at hMem
        · rename_i maintenance _ _
          split at hMem
          · cases hMem
          · rw [List.mem_singleton.mp hMem]
            exact registered_register (.db maintenance) maintenance {} false manager
        · cases hMem
      · cases hMem
  | connect key explicit =>
      simp only [attempts] at hMem
      split at hMem
      · rename_i number hNumber
        rw [List.mem_singleton.mp hMem]
        exact ⟨key, hNumber⟩
      · cases hMem
  | restore snapshot =>
      simp only [attempts] at hMem
      split at hMem
      · exact registered_restoreAttempts services _ _ world attempt hMem
      · cases hMem
  | restoreConnections =>
      refine registered_reconnectAttempts services manager.registry.values manager world ?_ attempt
        hMem
      intro number hNumber
      exact SortedMap.mem_values_iff.mp hNumber

theorem Quiet.keepsStrays {first second : Manager} {start final : World}
    (hMove : Quiet services first start second final) : KeepsStrays first second := by
  cases hMove with
  | release request => exact keepsStrays_release services request first start
  | register key database flags wasConnected =>
      exact keepsStrays_register key database flags wasConnected first
  | discard key => exact keepsStrays_discard services key first start
  | rename | remember | execute | checkTunnel | touch | takeOver =>
      exact keepsStrays_of_same rfl rfl

theorem Trace.keepsStrays {first last : Manager} {start final : World}
    {attempts : List (Attempt World)} (hTrace : Trace services first start attempts last final)
    (hRegistered : ∀ attempt ∈ attempts, attempt.manager.Registered attempt.number) :
    KeepsStrays first last := by
  induction hTrace with
  | done => exact .refl _
  | quiet hMove _ ih => exact (Quiet.keepsStrays services hMove).trans (ih hRegistered)
  | attempt number explicit _ ih =>
      have hFirst := hRegistered _ List.mem_cons_self
      refine (keepsStrays_connect services hFirst explicit _).trans (ih ?_)
      intro attempt hMem
      exact hRegistered attempt (List.mem_cons_of_mem _ hMem)

/-- Nothing that a manager does on its own makes a session stray, or ends one that is. -/
theorem keepsStrays_perform (operation : Operation) (manager : Manager) (world : World) :
    KeepsStrays manager (manager.perform services operation world).2.1 := by
  rcases operation.update_or_other with ⟨identity, rfl⟩ | hOther
  · exact keepsStrays_update services identity manager world
  · exact (trace_perform services hOther manager world).keepsStrays services
      (registered_attempts services)

/-! ## What callers do -/

/-- The interaction connects a connection that is not registered, and succeeds. -/
def Reopens (interaction : Interaction) (manager : Manager) (world : World) (number : Nat) : Prop :=
  ∃ explicit, interaction = .connect number explicit ∧ ¬manager.Registered number ∧
    (manager.connect services number explicit world).1 = .ok ()

/-- After an interaction a connection is stray if it was before and has not been released, or if
it has been reopened. -/
theorem stray_step (interaction : Interaction) (manager : Manager) (world : World) (number : Nat) :
    (manager.interact services interaction world).2.1.Stray number ↔
      manager.Stray number ∧ interaction ≠ .releaseSession number ∨
        Reopens services interaction manager world number := by
  cases hOperation : interaction.operation? with
  | some operation =>
      have hKeeps := keepsStrays_perform services operation manager world number
      rw [interact_of_operation services hOperation, hKeeps]
      cases interaction <;> cases hOperation <;> simp [Reopens]
  | none =>
      cases interaction with
      | update | connection | release | restore | restoreConnections => cases hOperation
      | execute | executeScalar | cancel => simp [interact, Reopens]
      | connect other explicit =>
          simp only [interact, stray_connect, Reopens]
          constructor
          · rintro (hStray | ⟨rfl, hReopened⟩)
            · exact .inl ⟨hStray, by simp⟩
            · exact .inr ⟨explicit, rfl, hReopened⟩
          · rintro (⟨hStray, -⟩ | ⟨_, hConnect, hReopened⟩)
            · exact .inl hStray
            · cases hConnect
              exact .inr ⟨rfl, hReopened⟩
      | releaseSession other => simp [interact, stray_releaseConnection, Reopens]

/-- A connection that is not registered is connected in the course of a run, and its session is not
released after that. -/
def ReopenedAlong (steps : List (World × Interaction)) (manager : Manager) (number : Nat) : Prop :=
  ∃ before step after, steps = before ++ step :: after ∧
    Reopens services step.2 (interactAll services before manager) step.1 number ∧
    ∀ later ∈ after, later.2 ≠ .releaseSession number

theorem reopenedAlong_cons {step : World × Interaction} {rest : List (World × Interaction)}
    {manager : Manager} {number : Nat} :
    ReopenedAlong services (step :: rest) manager number ↔
      (Reopens services step.2 manager step.1 number ∧
          ∀ later ∈ rest, later.2 ≠ .releaseSession number) ∨
        ReopenedAlong services rest (manager.interact services step.2 step.1).2.1 number :=
  exists_between_cons

/-- After a run a connection is stray if it was before and has never been released, or if it has
been reopened. -/
theorem stray_run (steps : List (World × Interaction)) (manager : Manager) (number : Nat) :
    (interactAll services steps manager).Stray number ↔
      (manager.Stray number ∧ ∀ step ∈ steps, step.2 ≠ .releaseSession number) ∨
        ReopenedAlong services steps manager number := by
  induction steps generalizing manager with
  | nil =>
      have hNever : ¬ReopenedAlong services [] manager number := by
        rintro ⟨before, step, after, hSteps, -⟩
        simp at hSteps
      simp [interactAll, hNever]
  | cons step rest ih =>
      obtain ⟨world, interaction⟩ := step
      have hRun : interactAll services ((world, interaction) :: rest) manager =
        interactAll services rest (manager.interact services interaction world).2.1 := rfl
      rw [hRun, ih, stray_step, reopenedAlong_cons, List.forall_mem_cons]
      constructor
      · rintro (⟨⟨hStray, hFirst⟩ | hReopens, hRest⟩ | hLater)
        · exact .inl ⟨hStray, hFirst, hRest⟩
        · exact .inr (.inl ⟨hReopens, hRest⟩)
        · exact .inr (.inr hLater)
      · rintro (⟨hStray, hFirst, hRest⟩ | ⟨hReopens, hRest⟩ | hLater)
        · exact .inl ⟨.inl ⟨hStray, hFirst⟩, hRest⟩
        · exact .inl ⟨.inr hReopens, hRest⟩
        · exact .inr hLater

theorem not_stray_new (identity : ServerIdentity) (number : Nat) :
    ¬(new identity).Stray number := by
  intro hStray
  exact hStray.held rfl

/-- Once everything has left the registry, what holds a session was stray before. -/
theorem KeepsStrays.of_emptied {first second : Manager} (h : KeepsStrays first second)
    (hEmpty : second.registry = .empty) {number : Nat} (hHeld : second.sessionOf? number ≠ none) :
    first.Stray number := by
  refine (h number).mp ⟨hHeld, ?_⟩
  rintro ⟨key, hFound⟩
  rw [hEmpty] at hFound
  cases hFound

/-- Whatever is done with a new manager and with the connections that it hands out, an open session
belongs to a connection that is registered, or that a caller has connected while it was not and not
released since; and such a connection is not registered and does hold a session.  A full release
or an update leaves no session but in connections of the second kind. -/
theorem sessions_registered_or_reopened (identity : ServerIdentity)
    (steps : List (World × Interaction)) :
    let manager := interactAll services steps (.new identity)
    (∀ (world : World) (number : Nat) (connection : Connection),
      manager.connections[number]? = some connection → connection.isLive services world = true →
        manager.Registered number ∨ ReopenedAlong services steps (.new identity) number) ∧
    (∀ number, ReopenedAlong services steps (.new identity) number → manager.Stray number) ∧
    (∀ (replacement : ServerIdentity) (world : World) (number : Nat),
      (manager.update services replacement world).1.sessionOf? number ≠ none →
        ReopenedAlong services steps (.new identity) number) ∧
    ∀ (world : World) (number : Nat),
      (manager.release services {} world).2.1.sessionOf? number ≠ none →
        ReopenedAlong services steps (.new identity) number := by
  intro manager
  have hStray : ∀ number, manager.Stray number ↔
      ReopenedAlong services steps (.new identity) number := by
    intro number
    rw [stray_run]
    simp [not_stray_new]
  refine ⟨?_, fun number => (hStray number).mpr, ?_, ?_⟩
  · intro world number connection hFound hLive
    by_cases hRegistered : manager.Registered number
    · exact .inl hRegistered
    · refine .inr ((hStray number).mp ⟨?_, hRegistered⟩)
      rw [sessionOf?, hFound, Option.bind_some]
      intro hNone
      rw [Connection.isLive, hNone] at hLive
      cases hLive
  · intro replacement world number hHeld
    have hKeeps := keepsStrays_update services replacement manager world
    exact (hStray number).mp (hKeeps.of_emptied rfl hHeld)
  · intro world number hHeld
    have hKeeps := keepsStrays_release services {} manager world
    exact (hStray number).mp (hKeeps.of_emptied rfl hHeld)

/-- A connection that is opened again after a release of its own key: its session is open, the
connection is not registered, and so a caller has reopened it. -/
theorem session_reopened_by_caller :
    let services := Services.steady (.standard "" "") (.ok 0)
      (.ok [[("ver", some "PostgreSQL 16.2"), ("sversion", some "160002")]]) (.ok ⟨0, 50000⟩)
    let identity : ServerIdentity :=
      { id := 1, name := "main", host := "db.internal", username := "app" }
    let steps : List (Unit × Interaction) :=
      [((), .connection { database := some "app" }), ((), .connection { database := some "log" }),
        ((), .connect 0 none), ((), .release { database := some "app" }), ((), .connect 0 none)]
    let manager := interactAll services steps (.new identity)
    ∃ connection, manager.connections[0]? = some connection ∧
      connection.isLive services () = true ∧ manager.keys = [.db "log"] ∧
      ReopenedAlong services steps (.new identity) 0 := by
  intro services identity steps manager
  have hFound : manager.connections[0]? =
      some { key := .db "app", database := "app", flags := {}, session := some 0
             wasConnected := true } := by decide +kernel
  have hUnregistered : ¬manager.Registered 0 := by
    intro hRegistered
    have hValues : (0 : Nat) ∉ manager.registry.values := by decide +kernel
    exact hValues (SortedMap.mem_values_iff.mpr hRegistered)
  refine ⟨_, hFound, rfl, by decide +kernel, ?_⟩
  exact ((sessions_registered_or_reopened services identity steps).1 () 0 _ hFound rfl).resolve_left
    hUnregistered

/-- A connection that a caller opens again after a full release is not registered, and another full
release leaves its session open. -/
theorem reopened_after_release :
    let services := Services.steady (.standard "" "") (.ok 0)
      (.ok [[("ver", some "PostgreSQL 16.2"), ("sversion", some "160002")]]) (.ok ⟨0, 50000⟩)
    let identity : ServerIdentity :=
      { id := 1, name := "main", host := "db.internal", username := "app" }
    let manager := interactAll services
      [((), .connection { database := some "app" }), ((), .connect 0 none), ((), .release {}),
        ((), .connect 0 none), ((), .release {})] (.new identity)
    ∃ connection, manager.connections[0]? = some connection ∧
      connection.isLive services () = true ∧ ¬manager.Registered 0 := by
  intro services identity manager
  have hFound : manager.connections[0]? =
      some { key := .db "app", database := "app", flags := {}, session := some 0
             wasConnected := true } := by decide +kernel
  refine ⟨_, hFound, rfl, ?_⟩
  intro hRegistered
  have hValues : (0 : Nat) ∉ manager.registry.values := by decide +kernel
  exact hValues (SortedMap.mem_values_iff.mpr hRegistered)

end Manager

end PgConsole
