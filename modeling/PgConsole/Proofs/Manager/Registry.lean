import PgConsole.Proofs.Manager.Persisted
import PgConsole.Proofs.Manager.StraySession

namespace PgConsole

/-!
# Where the keys of a registry lead

Every key of a registry leads to a connection that bears it (`Manager.Keyed`), so two keys never
share a connection, and what is done to the connection of one key is not seen under another
(`Manager.connectionAt?_of_elsewhere`).  `Manager.Arisen` describes the managers that callers can
come to have; all of them are keyed (`Manager.Arisen.keyed`).
-/

namespace Manager

variable {World : Type} {services : Services World}

/-- A manager that callers can come to have: a new one, or one that they have used, whatever world
each use has found. -/
inductive Arisen (services : Services World) : Manager → Prop where
  | new (identity : ServerIdentity) : Arisen services (.new identity)
  | interact {manager : Manager} (interaction : Interaction) (world : World)
      (hBefore : Arisen services manager) :
      Arisen services (manager.interact services interaction world).2.1
  | updatePassword {manager : Manager} (password : Secret) (hBefore : Arisen services manager) :
      Arisen services (manager.updatePassword password)

theorem Arisen.interactAll {manager : Manager} (h : Arisen services manager)
    (steps : List (World × Interaction)) :
    Arisen services (Manager.interactAll services steps manager) := by
  induction steps generalizing manager with
  | nil => exact h
  | cons step rest ih => exact ih (h.interact step.2 step.1)

/-- Every key leads to a connection that bears it. -/
structure Keyed (manager : Manager) : Prop where
  leads : ∀ {key : ConnectionKey} {number : Nat}, manager.registry.get? key = some number →
    ∃ connection, manager.connections[number]? = some connection ∧ connection.key = key

/-- No connection is registered under two keys. -/
theorem Keyed.unique {manager : Manager} (h : manager.Keyed) {first second : ConnectionKey}
    {number : Nat} (hFirst : manager.registry.get? first = some number)
    (hSecond : manager.registry.get? second = some number) : first = second := by
  obtain ⟨connection, hFound, hKey⟩ := h.leads hFirst
  obtain ⟨other, hOther, hOtherKey⟩ := h.leads hSecond
  rw [hFound] at hOther
  cases hOther
  exact hKey.symm.trans hOtherKey

theorem Keyed.connectionAt?_eq_some {manager : Manager} (h : manager.Keyed) {key : ConnectionKey}
    {number : Nat} (hFound : manager.registry.get? key = some number) :
    ∃ connection, manager.connections[number]? = some connection ∧
      manager.connectionAt? key = some connection ∧ connection.key = key := by
  obtain ⟨connection, hConnection, hKey⟩ := h.leads hFound
  refine ⟨connection, hConnection, ?_, hKey⟩
  rw [connectionAt?, get?, hFound]
  exact hConnection

/-! ## What is done to one connection -/

/-- A change of one connection is not seen under the keys of others. -/
theorem connectionAt?_of_elsewhere {first second : Manager} {number : Nat} {other : ConnectionKey}
    (hRegistry : second.registry.get? other = first.registry.get? other)
    (hConnections : ∀ place, place ≠ number →
      second.connections[place]? = first.connections[place]?)
    (hOther : first.registry.get? other ≠ some number) :
    second.connectionAt? other = first.connectionAt? other := by
  rw [connectionAt?, connectionAt?, get?, get?, hRegistry]
  cases hFound : first.registry.get? other with
  | none => rfl
  | some place =>
      refine hConnections place ?_
      rintro rfl
      exact hOther hFound

theorem releaseConnection_elsewhere (number : Nat) (manager : Manager) (world : World)
    {place : Nat} (hPlace : place ≠ number) :
    (manager.releaseConnection services number world).1.connections[place]? =
      manager.connections[place]? := by
  unfold releaseConnection
  split
  · rfl
  · split
    · rfl
    · exact List.getElem?_set_ne (Ne.symm hPlace)

/-- The connection itself has lost its session, if it held one. -/
theorem releaseConnection_there (number : Nat) (manager : Manager) (world : World) :
    (manager.releaseConnection services number world).1.connections[number]? =
      (manager.connections[number]?).map Connection.withoutSession := by
  unfold releaseConnection
  cases hFound : manager.connections[number]? with
  | none => exact hFound
  | some connection =>
      cases hSession : connection.session with
      | none =>
          simp only [hSession, hFound, Option.map_some, Connection.withoutSession]
          rw [← hSession]
      | some session =>
          have hBound := (List.getElem?_eq_some_iff.mp hFound).1
          simp only [hSession, setConnection, List.getElem?_set_self hBound, Option.map_some,
            Connection.withoutSession]

theorem connect_elsewhere (number : Nat) (explicit : Option Secret) (manager : Manager)
    (world : World) {place : Nat} (hPlace : place ≠ number) :
    (manager.connect services number explicit world).2.1.connections[place]? =
      manager.connections[place]? := by
  have hCase := connect_case services number explicit manager world
  generalize manager.connect services number explicit world = outcome at hCase ⊢
  cases hCase with
  | opened => exact List.getElem?_set_ne (Ne.symm hPlace)
  | _ => rfl

theorem get?_register_of_ne (manager : Manager) {key other : ConnectionKey} (hNe : key ≠ other)
    (database : String) (flags : ConnectionFlags) (wasConnected : Bool) :
    (manager.register key database flags wasConnected).2.registry.get? other =
      manager.registry.get? other := by
  unfold register
  split
  · rfl
  · exact SortedMap.get?_insert_of_ne _ hNe _

/-- What is registered under a key is not seen under another. -/
theorem Keyed.connectionAt?_register {manager : Manager} (h : manager.Keyed)
    {key other : ConnectionKey} (hNe : key ≠ other) (database : String) (flags : ConnectionFlags)
    (wasConnected : Bool) :
    (manager.register key database flags wasConnected).2.connectionAt? other =
      manager.connectionAt? other := by
  refine connectionAt?_register_of_ne ?_ hNe database flags wasConnected
  intro number hFound
  obtain ⟨connection, hPlace, -⟩ := h.leads hFound
  exact (List.getElem?_eq_some_iff.mp hPlace).1

theorem Keyed.connectionAt?_connect {manager : Manager} (h : manager.Keyed)
    {key other : ConnectionKey} {number : Nat} (hNumber : manager.registry.get? key = some number)
    (hNe : key ≠ other) (explicit : Option Secret) (world : World) :
    (manager.connect services number explicit world).2.1.connectionAt? other =
      manager.connectionAt? other := by
  refine connectionAt?_of_elsewhere ?_
    (fun _ hPlace => connect_elsewhere number explicit manager world hPlace)
    (fun hOther => hNe (h.unique hNumber hOther))
  rw [connect_registry]

/-- Closing a session changes the connection that held it, and nothing else. -/
theorem releaseConnection_exact (number : Nat) (manager : Manager) (world : World) :
    ∃ connections, (manager.releaseConnection services number world).1 =
        { manager with connections } ∧
      connections[number]? = (manager.connections[number]?).map Connection.withoutSession ∧
      ∀ place, place ≠ number → connections[place]? = manager.connections[place]? := by
  obtain ⟨connections, hFrame, -⟩ := releaseConnection_frame services number manager world
  have hThere := @releaseConnection_there _ services number manager world
  have hElsewhere := @releaseConnection_elsewhere _ services number manager world
  rw [hFrame] at hThere
  refine ⟨connections, hFrame, hThere, ?_⟩
  intro place hPlace
  have hSame := hElsewhere hPlace
  rwa [hFrame] at hSame

/-- A key that is taken out, and a change of its connection, are not seen under another key. -/
theorem Keyed.connectionAt?_erase {manager after : Manager} (h : manager.Keyed)
    {key other : ConnectionKey} {number : Nat} (hNumber : manager.registry.get? key = some number)
    (hErased : after.registry = manager.registry.erase key)
    (hElsewhere : ∀ place, place ≠ number →
      after.connections[place]? = manager.connections[place]?) (hNe : key ≠ other) :
    after.connectionAt? other = manager.connectionAt? other := by
  refine connectionAt?_of_elsewhere ?_ hElsewhere (fun hOther => hNe (h.unique hNumber hOther))
  rw [hErased]
  exact SortedMap.get?_erase_of_ne _ (Ne.symm hNe)

/-- A connection that is taken out of the registry and released leaves the others as they are. -/
theorem Keyed.connectionAt?_discard {manager : Manager} (h : manager.Keyed)
    {key other : ConnectionKey} (hNe : key ≠ other) (world : World) :
    (manager.discard services key world).1.connectionAt? other = manager.connectionAt? other := by
  unfold discard
  split
  · rfl
  · rename_i number hNumber
    obtain ⟨connections, hFrame, -, hElsewhere⟩ := @releaseConnection_exact _ services number
      { manager with registry := manager.registry.erase key } world
    rw [hFrame]
    exact h.connectionAt?_erase hNumber rfl hElsewhere hNe

/-- A key that still leads to the same number leads to a later state of the same connection. -/
theorem connectionAt?_of_onward {first second : Manager} (hOnward : Onward first second)
    {key : ConnectionKey}
    (hKept : ∀ {number}, first.registry.get? key = some number →
      second.registry.get? key = some number)
    {before : Connection} (hBefore : first.connectionAt? key = some before) :
    ∃ after, second.connectionAt? key = some after ∧ before.Continues after := by
  obtain ⟨number, hNumber, hPlace⟩ := Option.bind_eq_some_iff.mp hBefore
  obtain ⟨after, hAfter, hContinues⟩ := hOnward number before hPlace
  refine ⟨after, ?_, hContinues⟩
  rw [connectionAt?, get?, hKept hNumber]
  exact hAfter

/-! ## Every manager is keyed -/

/-- A registry that has only lost keys leads to the same connections. -/
theorem Keyed.of_onward {first second : Manager} (h : first.Keyed) (hOnward : Onward first second)
    (hRegistry : ∀ {key : ConnectionKey} {number : Nat},
      second.registry.get? key = some number → first.registry.get? key = some number) :
    second.Keyed := by
  constructor
  intro key number hFound
  obtain ⟨before, hBefore, hKey⟩ := h.leads (hRegistry hFound)
  obtain ⟨after, hAfter, hContinues⟩ := hOnward number before hBefore
  exact ⟨after, hAfter, hContinues.key.trans hKey⟩

theorem Keyed.register {manager : Manager} (h : manager.Keyed) (key : ConnectionKey)
    (database : String) (flags : ConnectionFlags) (wasConnected : Bool) :
    (manager.register key database flags wasConnected).2.Keyed := by
  constructor
  intro other number hFound
  by_cases hNe : key = other
  · subst hNe
    cases hOld : manager.registry.get? key with
    | none =>
        rw [register_get?_self, Option.some.injEq] at hFound
        refine ⟨{ key, database, flags, wasConnected }, ?_, rfl⟩
        rw [← hFound]
        exact register_of_absent hOld database flags wasConnected
    | some old =>
        have hSame := register_get?_of_some hOld key database flags wasConnected
        rw [hSame] at hFound
        cases hFound
        simp only [Manager.register, hOld]
        exact h.leads hOld
  · rw [get?_register_of_ne manager hNe] at hFound
    obtain ⟨connection, hConnection, hKey⟩ := h.leads hFound
    obtain ⟨after, hAfter, hContinues⟩ :=
      (advances_register key database flags wasConnected manager).onward number connection hConnection
    exact ⟨after, hAfter, hContinues.key.trans hKey⟩

theorem Keyed.connect {manager : Manager} (h : manager.Keyed) (number : Nat)
    (explicit : Option Secret) (world : World) :
    (manager.connect services number explicit world).2.1.Keyed := by
  refine h.of_onward (advances_connect services number explicit manager world).onward ?_
  intro key found hFound
  rwa [connect_registry] at hFound

theorem Keyed.discard {manager : Manager} (h : manager.Keyed) (key : ConnectionKey)
    (world : World) : (manager.discard services key world).1.Keyed := by
  refine h.of_onward (advances_discard services key manager world).onward ?_
  intro other number hFound
  obtain ⟨connections, registry, hFrame, -, hLess⟩ := discard_frame services key manager world
  rw [hFrame] at hFound
  exact hLess hFound

theorem Keyed.release {manager : Manager} (h : manager.Keyed) (request : ReleaseRequest)
    (world : World) : (manager.release services request world).2.1.Keyed := by
  refine h.of_onward (advances_release services request manager world).onward ?_
  intro key number hFound
  have hCase := release_case services request manager world
  generalize (manager.release services request world).2.1 = released at hCase hFound
  cases hCase with
  | nothing => exact hFound
  | one => exact get?_of_erase hFound
  | last => cases hFound

theorem Keyed.quiet {first second : Manager} {start final : World}
    (hMove : Quiet services first start second final) (h : first.Keyed) : second.Keyed := by
  cases hMove with
  | release request => exact h.release request start
  | register key database flags wasConnected => exact h.register key database flags wasConnected
  | discard key => exact h.discard key start
  | rename | remember | execute | checkTunnel | touch | takeOver => exact ⟨h.leads⟩

theorem keyed_of_empty {manager : Manager} (hEmpty : manager.registry = .empty) :
    manager.Keyed := by
  constructor
  intro key number hFound
  rw [hEmpty] at hFound
  cases hFound

theorem Keyed.perform {manager : Manager} (h : manager.Keyed) (operation : Operation)
    (world : World) : (manager.perform services operation world).2.1.Keyed := by
  rcases operation.update_or_other with ⟨identity, rfl⟩ | hOther
  · exact keyed_of_empty rfl
  · exact ((trace_perform services hOther manager world).invariant Keyed
      (fun hMove hBefore => hBefore.quiet hMove)
      (fun _ number explicit later hBefore => hBefore.connect number explicit later) h).1

/-- Whatever callers do, every key leads to a connection that bears it. -/
theorem Keyed.interact {manager : Manager} (h : manager.Keyed) (interaction : Interaction)
    (world : World) : (manager.interact services interaction world).2.1.Keyed := by
  cases hOperation : interaction.operation? with
  | some operation =>
      rw [interact_of_operation services hOperation]
      exact h.perform operation world
  | none =>
      cases interaction with
      | update | connection | release | restore | restoreConnections => cases hOperation
      | execute | executeScalar | cancel => exact h
      | connect number explicit => exact h.connect number explicit world
      | releaseSession number =>
          obtain ⟨connections, hFrame, -⟩ := releaseConnection_frame services number manager world
          refine h.of_onward (advances_releaseConnection services number manager world).onward ?_
          intro key found hFound
          simpa only [Manager.interact, hFrame] using hFound

theorem Arisen.keyed {manager : Manager} (h : Arisen services manager) : manager.Keyed := by
  induction h with
  | new identity => exact keyed_of_empty rfl
  | interact interaction world _ ih => exact ih.interact interaction world
  | updatePassword password _ ih => exact ⟨ih.leads⟩

end Manager

end PgConsole
