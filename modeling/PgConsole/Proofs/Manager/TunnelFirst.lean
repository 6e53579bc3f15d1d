import PgConsole.Proofs.Manager.Calls
import PgConsole.Proofs.Manager.Interaction
import PgConsole.Proofs.Manager.Invariant

namespace PgConsole

/-!
# The tunnel comes before the driver

For a server behind a bastion host, no connection attempt reaches the driver around the
tunnel.  `Attempt.TunnelFirst` says so of one attempt: the driver is called only with the
tunnel step of the same attempt behind it, which left a held handle that reports active, and
the parameters dial the local end of that tunnel; an attempt whose tunnel cannot be created or
is dead ends without a driver call, as a lost tunnel or for lack of the decryption key, and
leaves a controller that opens a new tunnel next time.

`tunnel_before_driver` states it for every attempt that callers bring about in any run, those of
connections included that they have kept after a release.  Nothing is assumed of driver, forwarder
and network, except where the decryption key is concerned: that its lack is the only cause of the
error named after it holds for forwarders that report their own failures as such.
-/

/-- The forwarder reports its failures as failures to set a tunnel up. -/
def Services.ReportsSsh {World : Type} (services : Services World) : Prop :=
  ∀ (route : TunnelRoute) (password : Option String) (world : World) (error : Error),
    (services.openTunnel route password world).1 = .error error →
      ∃ message caused, error = .ssh message caused

namespace Attempt

variable {World : Type}

/-- The tunnel cannot be created, or is found dead. -/
def TunnelFails (services : Services World) (attempt : Attempt World) : Prop :=
  if attempt.manager.tunnel.created then
    attempt.manager.tunnel.isAlive services attempt.world = false
  else
    match attempt.manager.tunnel.create services attempt.manager.identity
      attempt.manager.tunnelPassword attempt.world with
    | (.error _, _, _) => True
    | (.ok (), tunnel, world) => tunnel.isAlive services world = false

/-- The tunnel step of an attempt. -/
def tunnelStep (services : Services World) (attempt : Attempt World) :
    Except Error (Option UInt16) × TunnelController × World :=
  attempt.manager.ensureTunnel services attempt.world

/-- The errors of an attempt that has no tunnel. -/
inductive LacksTunnel (services : Services World) (attempt : Attempt World) : Error → Prop where
  | lost {host : String} {reason : Option String}
      (hHost : Manager.tunnelHost? services.config attempt.manager.identity = some host) :
      LacksTunnel services attempt (.tunnelLost host reason)
  /-- The tunnel password waits for its key, unless the forwarder is the one to complain. -/
  | locked (hLocked : services.ReportsSsh →
        services.cryptKey attempt.world = none ∧ attempt.manager.tunnelPassword.isSome = true) :
      LacksTunnel services attempt .cryptKeyMissing

/-- The tunnel comes before the driver. -/
structure TunnelFirst (services : Services World) (attempt : Attempt (Recorded World)) : Prop where
  /-- A driver call follows right after the tunnel step, which left a held handle that reports
  active; it dials the local end of that tunnel, and the handle is still held in the end. -/
  behind : ∀ params ∈ dialled (attempt.calls services), ∃ handle later,
    (attempt.tunnelStep services.recorded).2.1.handle = some handle ∧
      services.recorded.isActive (attempt.tunnelStep services.recorded).2.2 handle = true ∧
      (attempt.outcome services.recorded).2.2.calls =
        (attempt.tunnelStep services.recorded).2.2.calls ++ .dial params :: later ∧
      (attempt.outcome services.recorded).2.1.tunnel.handle = some handle ∧
      params.hostaddr = some .loopback ∧ params.port = handle.localPort
  /-- Without a tunnel the driver is not called, and the controller no longer counts as
  created. -/
  refused : attempt.Idle services.recorded → attempt.TunnelFails services.recorded →
    dialled (attempt.calls services) = [] ∧
      (∃ error, (attempt.outcome services.recorded).1 = .error error ∧
        attempt.LacksTunnel services.recorded error) ∧
      (attempt.outcome services.recorded).2.1.tunnel.created = false
  /-- Unless a tunnel counts as created, a new one is asked for; the driver is not reached
  without that. -/
  reopened : attempt.Idle services.recorded → attempt.manager.tunnel.created = false →
    (∀ route text, TunnelController.prepare (services.cryptKey attempt.world.world)
        attempt.manager.identity attempt.manager.tunnelPassword = .ok (route, text) →
      opened (attempt.calls services) = [(route, text)]) ∧
    (dialled (attempt.calls services) ≠ [] → opened (attempt.calls services) ≠ [])

end Attempt

namespace TunnelController

variable {World : Type}

/-- A port is given only with a tunnel that is held, up and reached through that port. -/
theorem Sound.of_ensure_eq_ok {services : Services World} {identity : ServerIdentity}
    {password : Option Secret} {host : String} {controller : TunnelController} {world : World}
    {port : UInt16} (hSound : controller.Sound)
    (hPort : (controller.ensure services identity password host world).1 = .ok port) :
    ∃ handle,
      (controller.ensure services identity password host world).2.1.handle = some handle ∧
      services.isActive (controller.ensure services identity password host world).2.2 handle = true ∧
      port = handle.localPort := by
  have hCase := ensure_case services identity password host controller world
  generalize controller.ensure services identity password host world = outcome at hCase hPort ⊢
  cases hCase with
  | kept hCreated hAlive =>
      -- soundness ties the port of a kept tunnel to the handle that is up
      obtain ⟨handle, hHandle, hLocal⟩ := hSound hCreated
      have hActive : services.isActive world handle = true := by
        simpa only [isAlive, hHandle, Option.any_some] using hAlive
      cases hPort
      exact ⟨handle, hHandle, hActive, hLocal⟩
  | @opened route text handle after _ _ _ hActive =>
      cases hPort
      exact ⟨handle, rfl, hActive, rfl⟩
  | dead => cases hPort
  | unprepared => cases hPort
  | unopened => cases hPort
  | stillborn => cases hPort

/-- The decryption key is missed only when there is a password to decrypt. -/
theorem locked_of_prepare {key? : Option CryptKey} {identity : ServerIdentity}
    {password : Option Secret} (h : prepare key? identity password = .error .cryptKeyMissing) :
    key? = none ∧ password.isSome = true := by
  unfold prepare at h
  split at h
  · cases h
  · split at h
    · cases h
    · unfold clearPassword at h
      cases password with
      | none => cases h
      | some secret =>
          cases key? with
          | none => exact ⟨rfl, rfl⟩
          | some key =>
              dsimp only at h
              cases hDecrypt : secret.decrypt key <;> rw [hDecrypt] at h <;> cases h

end TunnelController

namespace Attempt

variable {World : Type} {services : Services World}

/-- Behind a bastion host, a tunnel step that succeeds gives the local port of a held tunnel that
is up. -/
theorem tunnelStep_eq_ok {attempt : Attempt World} {host : String} {port : Option UInt16}
    (hSound : attempt.manager.Sound)
    (hHost : Manager.tunnelHost? services.config attempt.manager.identity = some host)
    (hPort : (attempt.tunnelStep services).1 = .ok port) :
    ∃ handle, (attempt.tunnelStep services).2.1.handle = some handle ∧
      services.isActive (attempt.tunnelStep services).2.2 handle = true ∧
      port = some handle.localPort := by
  unfold Attempt.tunnelStep at hPort ⊢
  rw [Manager.ensureTunnel_of_some hHost] at hPort ⊢
  cases hEnsured : (attempt.manager.tunnel.ensure services attempt.manager.identity
      attempt.manager.tunnelPassword host attempt.world).1 with
  | error error =>
      rw [hEnsured] at hPort
      cases hPort
  | ok localPort =>
      rw [hEnsured] at hPort
      cases hPort
      obtain ⟨handle, hHandle, hActive, hLocal⟩ := hSound.tunnel.of_ensure_eq_ok hEnsured
      exact ⟨handle, hHandle, hActive, congrArg some hLocal⟩

/-- What becomes of a failure to create the tunnel. -/
theorem lacksTunnel_lostBy {attempt : Attempt World} {host : String} {error : Error}
    (hHost : Manager.tunnelHost? services.config attempt.manager.identity = some host)
    (hLocked : error = .cryptKeyMissing → services.ReportsSsh →
      services.cryptKey attempt.world = none ∧ attempt.manager.tunnelPassword.isSome = true) :
    attempt.LacksTunnel services (TunnelController.lostBy host error) := by
  cases error with
  | cryptKeyMissing => exact .locked (hLocked rfl)
  | _ => exact .lost hHost

/-- A tunnel that fails fails the tunnel step and does not count as created after it. -/
theorem TunnelFails.tunnelStep {attempt : Attempt World} {host : String}
    (hHost : Manager.tunnelHost? services.config attempt.manager.identity = some host)
    (hFails : attempt.TunnelFails services) :
    ∃ error, (attempt.tunnelStep services).1 = .error error ∧
      attempt.LacksTunnel services error ∧ (attempt.tunnelStep services).2.1.created = false := by
  unfold Attempt.tunnelStep
  rw [Manager.ensureTunnel_of_some hHost]
  have hCase := TunnelController.ensure_case services attempt.manager.identity
    attempt.manager.tunnelPassword host attempt.manager.tunnel attempt.world
  generalize attempt.manager.tunnel.ensure services attempt.manager.identity
    attempt.manager.tunnelPassword host attempt.world = outcome at hCase ⊢
  unfold TunnelFails at hFails
  cases hCase with
  | kept hCreated hAlive =>
      rw [if_pos hCreated, hAlive] at hFails
      cases hFails
  | dead => exact ⟨.tunnelLost host none, rfl, .lost hHost, rfl⟩
  | unprepared hCreated hPrepare =>
      refine ⟨_, rfl, lacksTunnel_lostBy hHost ?_, hCreated⟩
      rintro rfl _
      exact TunnelController.locked_of_prepare hPrepare
  | @unopened route text error after _ _ hOpen =>
      refine ⟨_, rfl, lacksTunnel_lostBy hHost ?_, rfl⟩
      rintro rfl hReports
      -- a forwarder that reports its own failures never misses the key
      obtain ⟨message, caused, hSsh⟩ := hReports route text
        (attempt.manager.tunnel.stop services attempt.world).2 .cryptKeyMissing
        (congrArg (fun opening => opening.1) hOpen)
      cases hSsh
  | stillborn => exact ⟨.tunnelLost host none, rfl, .lost hHost, rfl⟩
  | opened hCreated hPrepare hOpen hActive =>
      rw [hCreated] at hFails
      simp only [Bool.false_eq_true, if_false, TunnelController.create, hPrepare, hOpen,
        TunnelController.isAlive, Option.any_some, hActive, Bool.true_eq_false] at hFails

/-- An idle connection without a tunnel step to build on goes no further. -/
theorem Idle.outcome_of_error {attempt : Attempt World} (hIdle : attempt.Idle services)
    {error : Error} (hError : (attempt.tunnelStep services).1 = .error error) :
    attempt.outcome services =
      (.error error, { attempt.manager with tunnel := (attempt.tunnelStep services).2.1 },
        (attempt.tunnelStep services).2.2) := by
  obtain ⟨connection, hFound, hNotLive⟩ := hIdle
  have hStep : attempt.manager.ensureTunnel services attempt.world =
      (.error error, (attempt.tunnelStep services).2) := by
    rw [← hError]
    rfl
  simp only [Attempt.outcome, Manager.connect, hFound, hNotLive, hStep, Bool.false_eq_true, if_false]

section Recorded

variable {attempt : Attempt (Recorded World)} {host : String}

/-- The calls of an idle attempt are those of its tunnel step and later ones that open no
tunnel. -/
theorem Idle.calls_outcome (hIdle : attempt.Idle services.recorded) :
    ∃ later, (attempt.outcome services.recorded).2.2.calls =
      (attempt.tunnelStep services.recorded).2.2.calls ++ later ∧ opened later = [] := by
  rcases Manager.connect_calls services attempt with ⟨hBusy, -⟩ | hTunnel | ⟨params, hDials⟩
  · exact absurd hIdle hBusy
  · exact ⟨[], by rw [List.append_nil]; exact hTunnel, rfl⟩
  · obtain ⟨later, hLater, -, hOpened⟩ := hDials.calls
    exact ⟨.dial params :: later, hLater, hOpened⟩

/-- A driver call is the one that follows the tunnel step. -/
theorem dialsOnce_of_mem {params : ConnectParams} (hMem : params ∈ dialled (attempt.calls services)) :
    Manager.DialsOnce services attempt params := by
  obtain ⟨tunnelCalls, hTunnelCalls, hQuiet⟩ :=
    Manager.ensureTunnel_calls services attempt.manager attempt.world
  rcases Manager.connect_calls services attempt with ⟨-, hNone⟩ | hTunnel | ⟨called, hDials⟩
  · have hCalls : attempt.calls services = [] := calls_eq (by rw [hNone, List.append_nil])
    rw [hCalls] at hMem
    cases hMem
  · rw [calls_eq (hTunnel.trans hTunnelCalls), hQuiet] at hMem
    cases hMem
  · obtain ⟨later, hLater, hLaterDialled, -⟩ := hDials.calls
    have hCalls : attempt.calls services = tunnelCalls ++ .dial called :: later :=
      calls_eq (by rw [hLater, hTunnelCalls, List.append_assoc])
    have hOne : dialled (.dial called :: later) = [called] := by
      simp only [dialled, List.filterMap_cons, Call.dial?]
      rw [← dialled, hLaterDialled]
    rw [hCalls, dialled_append, hQuiet, hOne] at hMem
    rw [List.mem_singleton.mp hMem]
    exact hDials

/-- Without a tunnel the driver is not called. -/
theorem Idle.dialled_of_error (hIdle : attempt.Idle services.recorded) {error : Error}
    (hError : (attempt.tunnelStep services.recorded).1 = .error error) :
    dialled (attempt.calls services) = [] := by
  obtain ⟨tunnelCalls, hTunnelCalls, hQuiet⟩ :=
    Manager.ensureTunnel_calls services attempt.manager attempt.world
  have hOutcome := hIdle.outcome_of_error hError
  have hCalls : attempt.calls services = tunnelCalls := by
    refine calls_eq ?_
    rw [hOutcome]
    exact hTunnelCalls
  rw [hCalls, hQuiet]

/-- Unless a tunnel counts as created, the tunnel step asks for one as soon as it can. -/
theorem opened_tunnelStep
    (hHost : Manager.tunnelHost? services.config attempt.manager.identity = some host)
    (hCreated : attempt.manager.tunnel.created = false) {route : TunnelRoute}
    {text : Option String}
    (hPrepare : TunnelController.prepare (services.cryptKey attempt.world.world)
      attempt.manager.identity attempt.manager.tunnelPassword = .ok (route, text)) :
    ∃ calls, (attempt.tunnelStep services.recorded).2.2.calls = attempt.world.calls ++ calls ∧
      opened calls = [(route, text)] := by
  have hRecorded : Manager.tunnelHost? services.recorded.config attempt.manager.identity =
      some host := hHost
  unfold Attempt.tunnelStep
  rw [Manager.ensureTunnel_of_some hRecorded]
  have hCase := TunnelController.ensure_case services.recorded attempt.manager.identity
    attempt.manager.tunnelPassword host attempt.manager.tunnel attempt.world
  generalize attempt.manager.tunnel.ensure services.recorded attempt.manager.identity
    attempt.manager.tunnelPassword host attempt.world = outcome at hCase ⊢
  have hAsked : ∀ {route' text'}, TunnelController.prepare (services.recorded.cryptKey attempt.world)
      attempt.manager.identity attempt.manager.tunnelPassword = .ok (route', text') →
      route' = route ∧ text' = text := by
    intro route' text' hSame
    have hBoth := hPrepare.symm.trans hSame
    cases hBoth
    exact ⟨rfl, rfl⟩
  cases hCase with
  | kept hKept | dead hKept =>
      rw [hCreated] at hKept
      cases hKept
  | unprepared _ hUnprepared =>
      have hBoth := hPrepare.symm.trans hUnprepared
      cases hBoth
  | unopened _ hSame hOpen | stillborn _ hSame hOpen _ | opened _ hSame hOpen _ =>
      obtain ⟨rfl, rfl⟩ := hAsked hSame
      obtain ⟨calls, hCalls, -, hOpened⟩ := Manager.openTunnel_calls services hOpen
      exact ⟨calls, hCalls, hOpened⟩

/-- An idle attempt without a created tunnel asks for exactly one, as soon as it can. -/
theorem Idle.opened_calls (hIdle : attempt.Idle services.recorded)
    (hHost : Manager.tunnelHost? services.config attempt.manager.identity = some host)
    (hCreated : attempt.manager.tunnel.created = false) {route : TunnelRoute}
    {text : Option String}
    (hPrepare : TunnelController.prepare (services.cryptKey attempt.world.world)
      attempt.manager.identity attempt.manager.tunnelPassword = .ok (route, text)) :
    opened (attempt.calls services) = [(route, text)] := by
  obtain ⟨calls, hCalls, hOpened⟩ := opened_tunnelStep hHost hCreated hPrepare
  obtain ⟨later, hLater, hLaterOpened⟩ := hIdle.calls_outcome
  have hAll : attempt.calls services = calls ++ later :=
    calls_eq (by rw [hLater, hCalls, List.append_assoc])
  rw [hAll, opened_append, hOpened, hLaterOpened, List.append_nil]

/-- A tunnel that cannot even be asked for fails. -/
theorem tunnelFails_of_unprepared (hCreated : attempt.manager.tunnel.created = false)
    {error : Error} (hPrepare : TunnelController.prepare (services.cryptKey attempt.world.world)
      attempt.manager.identity attempt.manager.tunnelPassword = .error error) :
    attempt.TunnelFails services.recorded := by
  have hUnprepared : TunnelController.prepare (services.recorded.cryptKey attempt.world)
      attempt.manager.identity attempt.manager.tunnelPassword = .error error := hPrepare
  simp only [TunnelFails, hCreated, Bool.false_eq_true, if_false, TunnelController.create,
    hUnprepared]

/-- Behind a bastion host the tunnel comes before the driver in every attempt of a sound
manager. -/
theorem tunnelFirst_of_sound (hSound : attempt.manager.Sound)
    (hHost : Manager.tunnelHost? services.config attempt.manager.identity = some host) :
    attempt.TunnelFirst services := by
  have hRecorded : Manager.tunnelHost? services.recorded.config attempt.manager.identity =
      some host := hHost
  refine ⟨?_, ?_, ?_⟩
  · intro params hMem
    have hDials := dialsOnce_of_mem hMem
    obtain ⟨connection, password, port, hPort, hParams⟩ := hDials.prepared
    obtain ⟨later, hLater, -⟩ := hDials.calls
    obtain ⟨handle, hHandle, hActive, rfl⟩ := tunnelStep_eq_ok hSound hRecorded hPort
    refine ⟨handle, later, hHandle, hActive, hLater, ?_, ?_, ?_⟩
    · rw [hDials.tunnel]
      exact hHandle
    · rw [hParams]
      rfl
    · rw [hParams]
      rfl
  · intro hIdle hFails
    obtain ⟨error, hError, hLacks, hCreated⟩ := hFails.tunnelStep hRecorded
    have hOutcome := hIdle.outcome_of_error hError
    refine ⟨hIdle.dialled_of_error hError, ⟨error, ?_, hLacks⟩, ?_⟩
    · rw [hOutcome]
    · rw [hOutcome]
      exact hCreated
  · intro hIdle hCreated
    refine ⟨fun route text hPrepare => hIdle.opened_calls hHost hCreated hPrepare, ?_⟩
    intro hDialled
    cases hPrepare : TunnelController.prepare (services.cryptKey attempt.world.world)
        attempt.manager.identity attempt.manager.tunnelPassword with
    | ok request =>
        obtain ⟨route, text⟩ := request
        rw [hIdle.opened_calls hHost hCreated hPrepare]
        exact List.cons_ne_nil _ _
    | error error =>
        -- the attempt fails before it gets to the driver
        have hFails := tunnelFails_of_unprepared hCreated hPrepare
        obtain ⟨cause, hError, -⟩ := hFails.tunnelStep hRecorded
        exact absurd (hIdle.dialled_of_error hError) hDialled

end Recorded

end Attempt

namespace Manager

variable {World : Type} (services : Services World)

/-- Only attempts make a tunnel count as created: one that does not at first, or after an
attempt, still does not when the next attempt starts, or at last. -/
def CreatedByAttempts : Bool → List (Attempt World) → Bool → Prop
  | first, [], last => first = false → last = false
  | first, attempt :: rest, last =>
    (first = false → attempt.manager.tunnel.created = false) ∧
      CreatedByAttempts (attempt.outcome services).2.1.tunnel.created rest last

theorem CreatedByAttempts.weaken {first earlier last : Bool} {attempts : List (Attempt World)}
    (hEarlier : earlier = false → first = false)
    (h : CreatedByAttempts services first attempts last) :
    CreatedByAttempts services earlier attempts last := by
  cases attempts with
  | nil => exact fun hFalse => h (hEarlier hFalse)
  | cons attempt rest => exact ⟨fun hFalse => h.1 (hEarlier hFalse), h.2⟩

theorem CreatedByAttempts.append {first middle last : Bool}
    {earlier later : List (Attempt World)}
    (hEarlier : CreatedByAttempts services first earlier middle)
    (hLater : CreatedByAttempts services middle later last) :
    CreatedByAttempts services first (earlier ++ later) last := by
  induction earlier generalizing first with
  | nil => exact hLater.weaken services hEarlier
  | cons attempt rest ih => exact ⟨hEarlier.1, ih hEarlier.2⟩

theorem Quiet.not_created {first second : Manager} {start final : World}
    (hMove : Quiet services first start second final) (hFirst : first.tunnel.created = false) :
    second.tunnel.created = false := by
  cases hMove with
  | release request =>
      have hReleased := release_case services request first start
      generalize (first.release services request start).2.1 = after at hReleased
      cases hReleased with
      | nothing => exact hFirst
      | one => exact hFirst
      | last => rfl
  | register key database flags wasConnected =>
      obtain ⟨connections, registry, hRegistered⟩ :=
        register_frame key database flags wasConnected first
      rw [hRegistered]
      exact hFirst
  | checkTunnel host =>
      simp only [TunnelController.checkAlive]
      split
      · exact hFirst
      · rfl
  | discard key =>
      obtain ⟨connections, registry, hDiscarded, -⟩ := discard_frame services key first start
      rw [hDiscarded]
      exact hFirst
  | rename => exact hFirst
  | remember => exact hFirst
  | execute => exact hFirst
  | touch => exact hFirst
  | takeOver => exact hFirst

theorem Trace.createdByAttempts {first last : Manager} {start final : World}
    {attempts : List (Attempt World)} (hTrace : Trace services first start attempts last final) :
    CreatedByAttempts services first.tunnel.created attempts last.tunnel.created := by
  induction hTrace with
  | done => exact fun hFalse => hFalse
  | quiet hMove _ ih => exact ih.weaken services (Quiet.not_created services hMove)
  | attempt number explicit _ ih => exact ⟨fun hFalse => hFalse, ih⟩

theorem createdByAttempts_perform (operation : Operation) (manager : Manager) (world : World) :
    CreatedByAttempts services manager.tunnel.created
      (manager.attempts services operation world)
      (manager.perform services operation world).2.1.tunnel.created := by
  rcases operation.update_or_other with ⟨identity, rfl⟩ | hOther
  · obtain ⟨connections, hUpdated⟩ := update_frame services identity manager world
    intro _
    simp only [perform, hUpdated]
  · exact (trace_perform services hOther manager world).createdByAttempts services

/-- A request that names no database has nothing done for it. -/
theorem resolveDatabase_eq_none {request : ConnectionRequest} {manager : Manager} {world : World}
    (hNone : (manager.resolveDatabase services request world).1 = .ok none) :
    manager.resolveDatabase services request world = (.ok none, manager, world) := by
  unfold resolveDatabase at hNone ⊢
  cases hDatabase : request.database with
  | some name => cases hOid : request.oid <;> simp [hDatabase, hOid] at hNone
  | none =>
      cases hOid : request.oid with
      | none =>
          simp only [hDatabase, hOid] at hNone ⊢
          rw [hNone]
      | some oid =>
          simp only [hDatabase, hOid] at hNone ⊢
          cases hFound : manager.databases.get? oid with
          | some info => simp [hFound] at hNone
          | none =>
              cases hMaintenance : manager.identity.maintenanceDatabase with
              | none => rfl
              | some maintenance =>
                  simp only [hFound, hMaintenance] at hNone
                  split at hNone <;> cases hNone

/-- A request that names no database finds a dead tunnel before anything else. -/
theorem connection_noDatabase {request : ConnectionRequest} {manager : Manager} {world : World}
    {host : String} (hHost : tunnelHost? services.config manager.identity = some host)
    (hNone : (manager.resolveDatabase services request world).1 = .ok none)
    (hUnlocked : (manager.hasSecrets && (services.cryptKey world).isNone) = false)
    (hDead : manager.tunnel.isAlive services world = false) :
    manager.connection services request world =
      (.error (.tunnelLost host none),
        { manager with tunnel := { manager.tunnel with created := false } }, world) := by
  have hResolved := resolveDatabase_eq_none services hNone
  simp only [connection, hResolved, hUnlocked, Bool.false_eq_true, if_false, noDatabase, hHost,
    TunnelController.checkAlive, hDead]

/-! ## What callers do -/

/-- What an interaction can be: an operation of the manager, a connection attempt, or the use of a
session, which leaves everything but the connections alone. -/
theorem interact_cases (interaction : Interaction) (manager : Manager) (world : World) :
    (∃ operation, interaction.operation? = some operation) ∨
      (∃ number explicit, interaction = .connect number explicit) ∨
      (manager.callerAttempts services interaction world = [] ∧
        ∃ connections, connections.length = manager.connections.length ∧
          (manager.interact services interaction world).2.1 = { manager with connections }) := by
  cases interaction with
  | update | connection | release | restore | restoreConnections => exact .inl ⟨_, rfl⟩
  | connect number explicit => exact .inr (.inl ⟨number, explicit, rfl⟩)
  | execute | executeScalar | cancel => exact .inr (.inr ⟨rfl, manager.connections, rfl, rfl⟩)
  | releaseSession number =>
      obtain ⟨connections, hClosed, hLength⟩ :=
        releaseConnection_frame services number manager world
      exact .inr (.inr ⟨rfl, connections, hLength, hClosed⟩)

/-- The driver is called by the attempts of an interaction alone. -/
theorem dialled_interact (interaction : Interaction) (manager : Manager) (world : Recorded World) :
    dialled (manager.interact services.recorded interaction world).2.2.calls =
      dialled world.calls ++ (manager.callerAttempts services.recorded interaction world).flatMap
        fun attempt => dialled (attempt.calls services) := by
  cases hOperation : interaction.operation? with
  | some operation =>
      rw [interact_of_operation services.recorded hOperation,
        callerAttempts_of_operation services.recorded hOperation]
      exact dialled_perform services operation manager world
  | none =>
      cases interaction with
      | update | connection | release | restore | restoreConnections => cases hOperation
      | connect number explicit =>
          have hCalls := outcome_calls services ⟨number, explicit, manager, world⟩
          simp only [Attempt.outcome] at hCalls
          simp [interact, callerAttempts, hCalls]
      | releaseSession number =>
          simpa [interact, callerAttempts, Interaction.operation?] using
            (releaseConnection_apart services number manager world).dialled_eq
      | execute number sql =>
          simpa [interact, callerAttempts, Interaction.operation?] using
            (execute_apart services number sql manager world).dialled_eq
      | executeScalar number sql =>
          simpa [interact, callerAttempts, Interaction.operation?] using
            (executeScalar_apart services number sql manager world).dialled_eq
      | cancel number =>
          simpa [interact, callerAttempts, Interaction.operation?] using
            (cancel_apart services number manager world).dialled_eq

/-- Whatever callers do keeps a manager sound, and so every attempt starts from a sound manager
with the same identity. -/
theorem Sound.interact {manager : Manager} (h : manager.Sound) (services : Services World)
    (interaction : Interaction) (world : World) :
    (manager.interact services interaction world).2.1.Sound ∧
      ∀ attempt ∈ manager.callerAttempts services interaction world,
        attempt.manager.Sound ∧ attempt.manager.identity = manager.identity := by
  rcases interact_cases services interaction manager world with
    ⟨operation, hOperation⟩ | ⟨number, explicit, rfl⟩ | ⟨hNone, connections, hLength, hFrame⟩
  · obtain ⟨hAfter, hAttempts⟩ := h.perform services operation world
    rw [interact_of_operation services hOperation, callerAttempts_of_operation services hOperation]
    refine ⟨hAfter, fun attempt hMem => ⟨hAttempts attempt hMem, ?_⟩⟩
    exact identity_attempts services operation manager world attempt hMem
  · refine ⟨h.connect services number explicit world, ?_⟩
    simpa [callerAttempts] using h
  · rw [hNone, hFrame]
    refine ⟨⟨fun hFound => ?_, h.tunnel⟩, by simp⟩
    rw [hLength]
    exact h.registered hFound

theorem Sound.interactAll {manager : Manager} (h : manager.Sound) (services : Services World)
    (steps : List (World × Interaction)) :
    (Manager.interactAll services steps manager).Sound := by
  induction steps generalizing manager with
  | nil => exact h
  | cons step rest ih => exact ih (h.interact services step.2 step.1).1

theorem createdByAttempts_interact (interaction : Interaction) (manager : Manager)
    (world : World) :
    CreatedByAttempts services manager.tunnel.created
      (manager.callerAttempts services interaction world)
      (manager.interact services interaction world).2.1.tunnel.created := by
  rcases interact_cases services interaction manager world with
    ⟨operation, hOperation⟩ | ⟨number, explicit, rfl⟩ | ⟨hNone, connections, -, hFrame⟩
  · rw [interact_of_operation services hOperation, callerAttempts_of_operation services hOperation]
    exact createdByAttempts_perform services operation manager world
  · exact ⟨fun hFalse => hFalse, fun hFalse => hFalse⟩
  · rw [hNone, hFrame]
    exact fun hFalse => hFalse

theorem createdByAttempts_interactAll (steps : List (World × Interaction)) (manager : Manager) :
    CreatedByAttempts services manager.tunnel.created (allAttempts services steps manager)
      (interactAll services steps manager).tunnel.created := by
  induction steps generalizing manager with
  | nil => exact fun hFalse => hFalse
  | cons step rest ih =>
      exact (createdByAttempts_interact services step.2 manager step.1).append services (ih _)

/-- The tunnel comes before the driver, in everything that callers do after any run, as soon as
tunnels are supported and the identity has settings for one: the driver is called by attempts
alone, these are all `Attempt.TunnelFirst`, a request that finds the tunnel dead is refused
without a call, and between attempts no tunnel comes to count as created. -/
theorem tunnel_before_driver (hSupport : services.config.supportSshTunnel = true)
    (identity : ServerIdentity) (steps : List (Recorded World × Interaction))
    (interaction : Interaction) (world : Recorded World)
    (hTunnel : (interactAll services.recorded steps (.new identity)).identity.tunnel.isSome =
      true) :
    let manager := interactAll services.recorded steps (.new identity)
    dialled (manager.interact services.recorded interaction world).2.2.calls =
        dialled world.calls ++ (manager.callerAttempts services.recorded interaction world).flatMap
          (fun attempt => dialled (attempt.calls services)) ∧
      (∀ attempt ∈ manager.callerAttempts services.recorded interaction world,
        attempt.TunnelFirst services) ∧
      (∀ request host, interaction = .connection request →
        tunnelHost? services.config manager.identity = some host →
        (manager.resolveDatabase services.recorded request world).1 = .ok none →
        (manager.hasSecrets && (services.cryptKey world.world).isNone) = false →
        manager.tunnel.isAlive services.recorded world = false →
        manager.interact services.recorded interaction world =
          (.error (.tunnelLost host none),
            { manager with tunnel := { manager.tunnel with created := false } }, world)) ∧
      CreatedByAttempts services.recorded false
        (allAttempts services.recorded (steps ++ [(world, interaction)]) (.new identity))
        (manager.interact services.recorded interaction world).2.1.tunnel.created := by
  intro manager
  have hSound : manager.Sound := (sound_new identity).interactAll services.recorded steps
  refine ⟨dialled_interact services interaction manager world, ?_, ?_, ?_⟩
  · intro attempt hMem
    obtain ⟨hAttemptSound, hIdentity⟩ :=
      (hSound.interact services.recorded interaction world).2 attempt hMem
    obtain ⟨settings, hSettings⟩ := Option.isSome_iff_exists.mp hTunnel
    have hHost : tunnelHost? services.config attempt.manager.identity = some settings.host := by
      rw [hIdentity]
      simp only [tunnelHost?, hSupport, if_true, manager, hSettings, Option.map_some]
    exact Attempt.tunnelFirst_of_sound hAttemptSound hHost
  · rintro request host rfl hHost hNone hUnlocked hDead
    simp only [interact, connection_noDatabase services.recorded hHost hNone hUnlocked hDead,
      Except.map]
  · have hRun := createdByAttempts_interactAll services.recorded (steps ++ [(world, interaction)])
      (.new identity)
    rw [interactAll, List.foldl_append] at hRun
    exact hRun

/-- A connection that has been kept is connected once more after its release, with a tunnel and a
driver that work. -/
theorem tunnel_before_driver_steady :
    let services := Services.steady (.standard "" "") (.ok 0)
      (.ok [[("ver", some "PostgreSQL 16.2"), ("sversion", some "160002")]]) (.ok ⟨0, 50000⟩)
    let identity : ServerIdentity :=
      { id := 1, name := "main", host := "db.internal", username := "app"
        tunnel := some { host := "bastion", username := "ops" } }
    let steps : List (Recorded Unit × Interaction) :=
      [(⟨(), []⟩, .connection { database := some "app" }), (⟨(), []⟩, .connect 0 none),
        (⟨(), []⟩, .release {})]
    let manager := interactAll services.recorded steps (.new identity)
    let attempts := manager.callerAttempts services.recorded (.connect 0 none) ⟨(), []⟩
    (services.config.supportSshTunnel = true ∧ manager.identity.tunnel.isSome = true) ∧
      manager.registry.isEmpty = true ∧ attempts.length = 1 ∧
      (dialled (manager.interact services.recorded (.connect 0 none) ⟨(), []⟩).2.2.calls).map
        (fun params => (params.hostaddr, params.port)) = [(some .loopback, 50000)] ∧
      ∀ attempt ∈ attempts, attempt.TunnelFirst services := by
  intro services identity steps manager attempts
  have hTunnel : manager.identity.tunnel.isSome = true := by decide +kernel
  exact ⟨⟨rfl, hTunnel⟩, by decide +kernel, by decide +kernel, by decide +kernel,
    (tunnel_before_driver services rfl identity steps (.connect 0 none) ⟨(), []⟩ hTunnel).2.1⟩

end Manager

end PgConsole
