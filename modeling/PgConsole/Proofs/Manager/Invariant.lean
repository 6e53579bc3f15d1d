import PgConsole.Proofs.Manager.Connect
import PgConsole.Proofs.Manager.Operation
import PgConsole.Proofs.SortedMap

namespace PgConsole

/-!
# What holds in every reachable manager

A controller is sound when a tunnel that counts as created is held under the port that leads
into it.  A manager is sound when its tunnel is, and when the registry points to connections
that exist.  Every quiet move and every connection attempt keeps both, so they hold along
every run and at the start of every attempt (`Manager.Sound.perform`, `Manager.Reachable.sound`).
What a release and an update leave is listed once (`Manager.Released`, `Manager.update_frame`).
-/

namespace TunnelController

variable {World : Type}

/-- A tunnel that counts as created is held, under the port that leads into it. -/
def Sound (controller : TunnelController) : Prop :=
  controller.created = true →
    ∃ handle, controller.handle = some handle ∧ controller.localPort = handle.localPort

theorem sound_of_not_created {controller : TunnelController}
    (h : controller.created = false) : controller.Sound := by
  intro hCreated
  rw [h] at hCreated
  cases hCreated

@[simp] theorem stop_controller (services : Services World) (controller : TunnelController)
    (world : World) : (controller.stop services world).1 = {} := by
  unfold stop
  cases controller.handle <;> rfl

theorem Sound.checkAlive {controller : TunnelController} (h : controller.Sound)
    (services : Services World) (host : String) (world : World) :
    (controller.checkAlive services host world).2.Sound := by
  unfold TunnelController.checkAlive
  split
  · exact h
  · exact sound_of_not_created rfl

theorem Sound.ensure {controller : TunnelController} (h : controller.Sound)
    (services : Services World) (identity : ServerIdentity) (password : Option Secret)
    (host : String) (world : World) :
    (controller.ensure services identity password host world).2.1.Sound := by
  have hCase := ensure_case services identity password host controller world
  generalize controller.ensure services identity password host world = outcome at hCase
  cases hCase with
  | kept => exact h
  | dead => exact sound_of_not_created rfl
  | unprepared => exact h
  | unopened => exact sound_of_not_created rfl
  | stillborn => exact sound_of_not_created rfl
  | opened => exact fun _ => ⟨_, rfl, rfl⟩

end TunnelController

namespace Manager

variable {World : Type} (services : Services World)

/-- The registry points to connections that exist, and the tunnel is sound. -/
structure Sound (manager : Manager) : Prop where
  registered : ∀ {key : ConnectionKey} {number : Nat},
    manager.registry.get? key = some number → number < manager.connections.length
  tunnel : manager.tunnel.Sound

theorem Sound.ensureTunnel {manager : Manager} (h : manager.Sound)
    (services : Services World) (world : World) :
    (manager.ensureTunnel services world).2.1.Sound := by
  cases hHost : tunnelHost? services.config manager.identity with
  | none =>
      rw [ensureTunnel_of_none hHost]
      exact h.tunnel
  | some host =>
      rw [ensureTunnel_of_some hHost]
      exact h.tunnel.ensure services manager.identity manager.tunnelPassword host world

/-- Closing a session changes nothing but the connection that held it. -/
theorem releaseConnection_frame (number : Nat) (manager : Manager) (world : World) :
    ∃ connections, (manager.releaseConnection services number world).1 =
        { manager with connections } ∧
      connections.length = manager.connections.length := by
  unfold releaseConnection
  split
  · exact ⟨manager.connections, rfl, rfl⟩
  · split
    · exact ⟨manager.connections, rfl, rfl⟩
    · exact ⟨_, rfl, List.length_set⟩

theorem releaseConnections_frame (numbers : List Nat) (manager : Manager) (world : World) :
    ∃ connections, (releaseConnections services numbers manager world).1 =
        { manager with connections } ∧
      connections.length = manager.connections.length := by
  induction numbers generalizing manager world with
  | nil => exact ⟨manager.connections, rfl, rfl⟩
  | cons number rest ih =>
      obtain ⟨closed, hClosed, hLength⟩ :=
        releaseConnection_frame services number manager world
      obtain ⟨connections, hRest, hRestLength⟩ :=
        ih (manager.releaseConnection services number world).1
          (manager.releaseConnection services number world).2
      refine ⟨connections, ?_, ?_⟩
      · rw [releaseConnections, hRest, hClosed]
      · rw [hRestLength, hClosed, hLength]

theorem releaseEach_frame (entries : List (ConnectionKey × Nat)) (manager : Manager)
    (world : World) :
    ∃ connections, (releaseEach services entries manager world).1 =
        { manager with connections } ∧
      connections.length = manager.connections.length := by
  induction entries generalizing manager world with
  | nil => exact ⟨manager.connections, rfl, rfl⟩
  | cons entry rest ih =>
      obtain ⟨key, number⟩ := entry
      rw [releaseEach]
      -- whether the statement is cancelled matters to the world only
      generalize (if key.isExplicit && manager.isLive services world number then
        (manager.cancel services number world).2 else world) = cancelled
      obtain ⟨closed, hClosed, hLength⟩ :=
        releaseConnection_frame services number manager cancelled
      obtain ⟨connections, hRest, hRestLength⟩ :=
        ih (manager.releaseConnection services number cancelled).1
          (manager.releaseConnection services number cancelled).2
      refine ⟨connections, ?_, ?_⟩
      · rw [hRest, hClosed]
      · rw [hRestLength, hClosed, hLength]

theorem get?_of_erase {key other : ConnectionKey} {registry : SortedMap ConnectionKey Nat}
    {number : Nat} (h : (registry.erase key).get? other = some number) :
    registry.get? other = some number := by
  by_cases hKey : other = key
  · subst hKey
    simp at h
  · rwa [registry.get?_erase_of_ne hKey] at h

/-- Registering a connection adds at most one connection, under the next number. -/
theorem register_frame (key : ConnectionKey) (database : String) (flags : ConnectionFlags)
    (wasConnected : Bool) (manager : Manager) :
    ∃ connections registry, (manager.register key database flags wasConnected).2 =
      { manager with connections, registry } := by
  unfold register
  split
  · exact ⟨manager.connections, manager.registry, rfl⟩
  · exact ⟨_, _, rfl⟩

theorem Sound.register {manager : Manager} (h : manager.Sound) (key : ConnectionKey)
    (database : String) (flags : ConnectionFlags) (wasConnected : Bool) :
    (manager.register key database flags wasConnected).2.Sound := by
  unfold Manager.register
  split
  · exact h
  · refine ⟨?_, h.tunnel⟩
    intro other number hOther
    simp only [List.length_append, List.length_singleton]
    -- the new number is the old length, and the list has grown by one
    by_cases hKey : key = other
    · subst hKey
      simp only [SortedMap.get?_insert_self, Option.some.injEq] at hOther
      omega
    · simp only [SortedMap.get?_insert_of_ne _ hKey] at hOther
      have hOld := h.registered hOther
      omega

/-- What a release can leave.  The server state goes with the last connection. -/
inductive Released (manager : Manager) : Manager → Prop where
  /-- Nothing was named. -/
  | nothing : Released manager manager
  /-- One connection has gone, and others are left. -/
  | one {key : ConnectionKey} {connections : List Connection}
      {databases : SortedMap UInt32 DatabaseInfo}
      (hLength : connections.length = manager.connections.length)
      (hLeft : (manager.registry.erase key).isEmpty = false) :
      Released manager
        { manager with connections, registry := manager.registry.erase key, databases }
  /-- No connection is left. -/
  | last {connections : List Connection}
      (hLength : connections.length = manager.connections.length) :
      Released manager
        { manager with
          connections, registry := .empty, databases := .empty
          serverInfo := none, password := none, tunnel := {} }

/-- A full release leaves nothing of the server state. -/
theorem releaseAll_frame (manager : Manager) (world : World) :
    ∃ connections, (manager.releaseAll services world).1 =
        { manager with
          connections, registry := .empty, databases := .empty
          serverInfo := none, password := none, tunnel := {} } ∧
      connections.length = manager.connections.length := by
  obtain ⟨connections, hEach, hLength⟩ :=
    releaseEach_frame services manager.registry.entries manager world
  refine ⟨connections, ?_, hLength⟩
  unfold releaseAll clearServerState
  generalize releaseEach services manager.registry.entries manager world = closed at hEach ⊢
  obtain ⟨released, after⟩ := closed
  subst hEach
  simp only [TunnelController.stop_controller]

theorem releaseKey_case (key : ConnectionKey) (number : Nat) (oid : Option UInt32)
    (manager : Manager) (world : World) :
    Released manager (manager.releaseKey services key number oid world).1 := by
  obtain ⟨connections, hClosed, hLength⟩ := releaseConnection_frame services number
    { manager with registry := manager.registry.erase key } world
  unfold releaseKey
  generalize releaseConnection services number
    { manager with registry := manager.registry.erase key } world = closed at hClosed ⊢
  obtain ⟨released, after⟩ := closed
  subst hClosed
  have hForget : ∀ manager : Manager, ∃ databases,
      manager.forgetDatabase oid = { manager with databases } := by
    intro manager
    cases oid <;> exact ⟨_, rfl⟩
  obtain ⟨databases, hForgotten⟩ :=
    hForget { manager with connections, registry := manager.registry.erase key }
  simp only [hForgotten]
  by_cases hEmpty : (manager.registry.erase key).isEmpty = true
  · simp only [clearServerState, TunnelController.stop_controller,
      SortedMap.eq_empty_of_isEmpty hEmpty]
    exact .last hLength
  · simp only [if_neg hEmpty]
    exact .one hLength (by simpa using hEmpty)

theorem release_case (request : ReleaseRequest) (manager : Manager) (world : World) :
    Released manager (manager.release services request world).2.1 := by
  unfold release
  split
  · obtain ⟨connections, hAll, hLength⟩ := releaseAll_frame services manager world
    simp only [hAll]
    exact .last hLength
  · split
    · exact .nothing
    · split
      · exact .nothing
      · exact releaseKey_case services _ _ _ manager world

theorem Sound.released {manager after : Manager} (h : manager.Sound)
    (hReleased : Released manager after) : after.Sound := by
  cases hReleased with
  | nothing => exact h
  | one hLength _ =>
      refine ⟨?_, h.tunnel⟩
      intro other number hFound
      have hOld := h.registered (get?_of_erase hFound)
      rw [hLength]
      exact hOld
  | last =>
      refine ⟨?_, TunnelController.sound_of_not_created rfl⟩
      intro other number hFound
      simp at hFound

/-- An update leaves nothing of what it was before, except connections that nobody finds. -/
theorem update_frame (identity : ServerIdentity) (manager : Manager) (world : World) :
    ∃ connections, (manager.update services identity world).1 =
      { manager with
        identity, password := identity.password, tunnelPassword := identity.tunnelPassword
        connections, registry := .empty, databases := .empty, serverInfo := none, tunnel := {} } := by
  obtain ⟨connections, hClosed, -⟩ :=
    releaseConnections_frame services manager.registry.values manager world
  refine ⟨connections, ?_⟩
  unfold update
  generalize releaseConnections services manager.registry.values manager world = closed at hClosed ⊢
  obtain ⟨released, after⟩ := closed
  subst hClosed
  simp only [TunnelController.stop_controller]

/-- Discarding a connection touches nothing but registry and connections. -/
theorem discard_frame (key : ConnectionKey) (manager : Manager) (world : World) :
    ∃ connections registry, (manager.discard services key world).1 =
        { manager with connections, registry } ∧
      connections.length = manager.connections.length ∧
      ∀ {other number}, registry.get? other = some number →
        manager.registry.get? other = some number := by
  unfold discard
  split
  · refine ⟨manager.connections, manager.registry, rfl, rfl, ?_⟩
    intro other number hFound
    exact hFound
  · rename_i number _
    obtain ⟨connections, hClosed, hLength⟩ := releaseConnection_frame services number
      { manager with registry := manager.registry.erase key } world
    refine ⟨connections, manager.registry.erase key, hClosed, hLength, ?_⟩
    intro other found hFound
    exact get?_of_erase hFound

theorem Sound.discard {manager : Manager} (h : manager.Sound) (services : Services World)
    (key : ConnectionKey) (world : World) : (manager.discard services key world).1.Sound := by
  obtain ⟨connections, registry, hDiscarded, hLength, hSub⟩ :=
    discard_frame services key manager world
  rw [hDiscarded]
  refine ⟨?_, h.tunnel⟩
  intro other number hFound
  have hOld := h.registered (hSub hFound)
  rw [hLength]
  exact hOld

theorem sound_update (manager : Manager) (identity : ServerIdentity) (world : World) :
    (manager.update services identity world).1.Sound := by
  obtain ⟨connections, hUpdate⟩ := update_frame services identity manager world
  rw [hUpdate]
  refine ⟨?_, TunnelController.sound_of_not_created rfl⟩
  intro key number hFound
  simp at hFound

theorem Sound.quiet {first second : Manager} {start final : World}
    (hMove : Quiet services first start second final) (h : first.Sound) : second.Sound := by
  cases hMove with
  | release request => exact h.released (release_case services request first start)
  | register key database flags wasConnected => exact h.register key database flags wasConnected
  | rename oid name => exact ⟨h.registered, h.tunnel⟩
  | remember oid info => exact ⟨h.registered, h.tunnel⟩
  | execute number sql => exact h
  | checkTunnel host => exact ⟨h.registered, h.tunnel.checkAlive services host start⟩
  | touch => exact ⟨h.registered, h.tunnel⟩
  | takeOver snapshot => exact ⟨h.registered, h.tunnel⟩
  | discard key => exact h.discard services key start

theorem Sound.connect {manager : Manager} (h : manager.Sound) (services : Services World)
    (number : Nat) (explicit : Option Secret) (world : World) :
    (manager.connect services number explicit world).2.1.Sound := by
  have hEnsured := h.ensureTunnel services world
  have hCase := connect_case services number explicit manager world
  generalize manager.connect services number explicit world = outcome at hCase ⊢
  cases hCase with
  | unknown => exact h
  | live => exact h
  | noTunnel _ _ hTunnel
  | noPassword _ _ hTunnel _
  | refused _ _ hTunnel _ _
  | unversioned _ _ hTunnel _ _ _ =>
      rw [hTunnel] at hEnsured
      exact ⟨h.registered, hEnsured⟩
  | opened _ _ hTunnel _ _ _ =>
      rw [hTunnel] at hEnsured
      refine ⟨?_, hEnsured⟩
      intro key found hFound
      have hOld := h.registered hFound
      simpa [adopt, setConnection] using hOld

/-- An operation keeps a manager sound, and so every attempt starts from a sound manager. -/
theorem Sound.perform {manager : Manager} (h : manager.Sound) (services : Services World)
    (operation : Operation) (world : World) :
    (manager.perform services operation world).2.1.Sound ∧
      ∀ attempt ∈ manager.attempts services operation world, attempt.manager.Sound := by
  rcases operation.update_or_other with ⟨identity, rfl⟩ | hOther
  · exact ⟨sound_update services manager identity world, by simp [attempts]⟩
  · exact (trace_perform services hOther manager world).invariant Sound
      (fun hMove => Sound.quiet services hMove)
      (fun _ number explicit later hSound => hSound.connect services number explicit later) h

/-- Only an update changes the identity. -/
theorem Quiet.identity {first second : Manager} {start final : World}
    (hMove : Quiet services first start second final) : second.identity = first.identity := by
  cases hMove with
  | release request =>
      have hReleased := release_case services request first start
      generalize (first.release services request start).2.1 = after at hReleased
      cases hReleased <;> rfl
  | register key database flags wasConnected =>
      obtain ⟨connections, registry, hRegistered⟩ :=
        register_frame key database flags wasConnected first
      rw [hRegistered]
  | discard key =>
      obtain ⟨connections, registry, hDiscarded, -⟩ := discard_frame services key first start
      rw [hDiscarded]
  | rename => rfl
  | remember => rfl
  | execute => rfl
  | checkTunnel => rfl
  | touch => rfl
  | takeOver => rfl

theorem connect_identity (number : Nat) (explicit : Option Secret) (manager : Manager)
    (world : World) :
    (manager.connect services number explicit world).2.1.identity = manager.identity := by
  have hCase := connect_case services number explicit manager world
  generalize manager.connect services number explicit world = outcome at hCase ⊢
  cases hCase <;> rfl

theorem identity_attempts (operation : Operation) (manager : Manager) (world : World) :
    ∀ attempt ∈ manager.attempts services operation world,
      attempt.manager.identity = manager.identity := by
  rcases operation.update_or_other with ⟨identity, rfl⟩ | hOther
  · simp [attempts]
  · have hTrace := trace_perform services hOther manager world
    exact (hTrace.invariant (fun later => later.identity = manager.identity)
      (fun hMove hSame => (Quiet.identity services hMove).trans hSame)
      (fun _ _ _ _ hSame => (connect_identity services _ _ _ _).trans hSame) rfl).2

theorem sound_new (identity : ServerIdentity) : (new identity).Sound := by
  refine ⟨?_, TunnelController.sound_of_not_created rfl⟩
  intro key number hFound
  cases hFound

theorem Sound.run {manager : Manager} (h : manager.Sound) (services : Services World)
    (steps : List (World × Operation)) : (Manager.run services steps manager).Sound := by
  induction steps generalizing manager with
  | nil => exact h
  | cons step rest ih => exact ih (h.perform services step.2 step.1).1

theorem Reachable.sound {manager : Manager} (h : Reachable services manager) : manager.Sound := by
  obtain ⟨identity, steps, rfl⟩ := h
  exact (sound_new identity).run services steps

end Manager

end PgConsole
