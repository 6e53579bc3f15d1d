import PgConsole.Proofs.Manager.Connect
import PgConsole.Proofs.Manager.Operation

namespace PgConsole

/-!
# The calls that an operation makes

With recorded services the world holds every call made so far.  Calls are only ever added at
the end; `Attempt.calls` are those of one connection attempt.  The driver is called by
attempts alone: the driver calls of an operation are those of its attempts, in order
(`dialled_perform`).
-/

/-- The parameters of a call to the driver. -/
def Call.dial? : Call → Option ConnectParams
  | .dial params => some params
  | _ => none

/-- What the forwarder is asked for by a call. -/
def Call.openTunnel? : Call → Option (TunnelRoute × Option String)
  | .openTunnel route password => some (route, password)
  | _ => none

/-- The driver calls among some calls. -/
def dialled (calls : List Call) : List ConnectParams := calls.filterMap Call.dial?

/-- The tunnels asked for among some calls. -/
def opened (calls : List Call) : List (TunnelRoute × Option String) :=
  calls.filterMap Call.openTunnel?

@[simp] theorem dialled_append (first second : List Call) :
    dialled (first ++ second) = dialled first ++ dialled second :=
  List.filterMap_append

@[simp] theorem opened_append (first second : List Call) :
    opened (first ++ second) = opened first ++ opened second :=
  List.filterMap_append

namespace Recorded

variable {World : Type}

/-- Calls have been made, none of them to the driver or for a tunnel. -/
def Apart (before after : Recorded World) : Prop :=
  ∃ calls, after.calls = before.calls ++ calls ∧ dialled calls = [] ∧ opened calls = []

theorem Apart.refl (world : Recorded World) : Apart world world :=
  ⟨[], by simp, rfl, rfl⟩

theorem Apart.trans {first second third : Recorded World} (hFirst : Apart first second)
    (hSecond : Apart second third) : Apart first third := by
  obtain ⟨earlier, hEarlier, hDialled, hOpened⟩ := hFirst
  obtain ⟨later, hLater, hDialledLater, hOpenedLater⟩ := hSecond
  refine ⟨earlier ++ later, ?_, ?_, ?_⟩
  · rw [hLater, hEarlier, List.append_assoc]
  · rw [dialled_append, hDialled, hDialledLater, List.append_nil]
  · rw [opened_append, hOpened, hOpenedLater, List.append_nil]

theorem Apart.dialled_eq {before after : Recorded World} (h : Apart before after) :
    dialled after.calls = dialled before.calls := by
  obtain ⟨calls, hCalls, hDialled, -⟩ := h
  rw [hCalls, dialled_append, hDialled, List.append_nil]

end Recorded

/-- The calls that an attempt makes. -/
def Attempt.calls {World : Type} (services : Services World) (attempt : Attempt (Recorded World)) :
    List Call :=
  (attempt.outcome services.recorded).2.2.calls.drop attempt.world.calls.length

theorem Attempt.calls_eq {World : Type} {services : Services World}
    {attempt : Attempt (Recorded World)} {calls : List Call}
    (h : (attempt.outcome services.recorded).2.2.calls = attempt.world.calls ++ calls) :
    attempt.calls services = calls := by
  rw [Attempt.calls, h, List.drop_left]

/-- The connection exists and holds no open session. -/
def Attempt.Idle {World : Type} (services : Services World) (attempt : Attempt World) : Prop :=
  ∃ connection, attempt.manager.connections[attempt.number]? = some connection ∧
    connection.isLive services attempt.world = false

theorem TunnelController.stop_apart {World : Type} (services : Services World)
    (controller : TunnelController) (world : Recorded World) :
    world.Apart (controller.stop services.recorded world).2 := by
  unfold stop
  cases controller.handle with
  | none => exact .refl world
  | some handle => exact ⟨[.stopTunnel handle], rfl, rfl, rfl⟩

namespace Manager

variable {World : Type} (services : Services World)

theorem releaseConnection_apart (number : Nat) (manager : Manager) (world : Recorded World) :
    world.Apart (manager.releaseConnection services.recorded number world).2 := by
  unfold releaseConnection
  split
  · exact .refl world
  · split
    · exact .refl world
    · rename_i session _
      exact ⟨[.close session], rfl, rfl, rfl⟩

theorem cancel_apart (number : Nat) (manager : Manager) (world : Recorded World) :
    world.Apart (manager.cancel services.recorded number world).2 := by
  unfold cancel
  split
  · exact .refl world
  · rename_i session _
    exact ⟨[.cancel session], rfl, rfl, rfl⟩

theorem releaseConnections_apart (numbers : List Nat) (manager : Manager)
    (world : Recorded World) :
    world.Apart (releaseConnections services.recorded numbers manager world).2 := by
  induction numbers generalizing manager world with
  | nil => exact .refl world
  | cons number rest ih =>
      exact (releaseConnection_apart services number manager world).trans (ih _ _)

theorem releaseEach_apart (entries : List (ConnectionKey × Nat)) (manager : Manager)
    (world : Recorded World) :
    world.Apart (releaseEach services.recorded entries manager world).2 := by
  induction entries generalizing manager world with
  | nil => exact .refl world
  | cons entry rest ih =>
      obtain ⟨key, number⟩ := entry
      rw [releaseEach]
      have hCancel : world.Apart (if key.isExplicit && manager.isLive services.recorded world number
          then (manager.cancel services.recorded number world).2 else world) := by
        split
        · exact cancel_apart services number manager world
        · exact .refl world
      exact (hCancel.trans (releaseConnection_apart services number manager _)).trans (ih _ _)

theorem clearServerState_apart (manager : Manager) (world : Recorded World) :
    world.Apart (clearServerState services.recorded manager world).2 :=
  TunnelController.stop_apart services manager.tunnel world

theorem update_apart (identity : ServerIdentity) (manager : Manager) (world : Recorded World) :
    world.Apart (manager.update services.recorded identity world).2 :=
  (releaseConnections_apart services manager.registry.values manager world).trans
    (TunnelController.stop_apart services _ _)

theorem release_apart (request : ReleaseRequest) (manager : Manager) (world : Recorded World) :
    world.Apart (manager.release services.recorded request world).2.2 := by
  unfold release
  split
  · exact (releaseEach_apart services manager.registry.entries manager world).trans
      (clearServerState_apart services _ _)
  · cases manager.releaseKey? request with
    | none => exact .refl world
    | some key =>
        cases hNumber : manager.registry.get? key with
        | none =>
            simp only [hNumber]
            exact .refl world
        | some number =>
            have hClosed := releaseConnection_apart services number
              { manager with registry := manager.registry.erase key } world
            simp only [hNumber, releaseKey]
            split
            · exact hClosed.trans (clearServerState_apart services _ _)
            · exact hClosed

theorem execute_apart (number : Nat) (sql : String) (manager : Manager)
    (world : Recorded World) :
    world.Apart (manager.execute services.recorded number sql world).2 := by
  unfold execute
  split
  · exact .refl world
  · split
    · exact .refl world
    · rename_i session _
      split
      · exact .refl world
      · have hQuery : world.Apart (services.recorded.query session sql world).2 :=
          ⟨[.query session sql], rfl, rfl, rfl⟩
        generalize services.recorded.query session sql world = answer at hQuery ⊢
        obtain ⟨rows, after⟩ := answer
        cases rows with
        | ok _ => exact hQuery
        | error _ =>
            dsimp only
            split <;> exact hQuery

theorem executeScalar_apart (number : Nat) (sql : String) (manager : Manager)
    (world : Recorded World) :
    world.Apart (manager.executeScalar services.recorded number sql world).2 := by
  have hExecuted := execute_apart services number sql manager world
  unfold executeScalar
  generalize manager.execute services.recorded number sql world = outcome at hExecuted ⊢
  obtain ⟨_ | _, after⟩ := outcome <;> exact hExecuted

theorem discard_apart (key : ConnectionKey) (manager : Manager) (world : Recorded World) :
    world.Apart (manager.discard services.recorded key world).2 := by
  unfold discard
  split
  · exact .refl world
  · exact releaseConnection_apart services _ _ world

theorem Quiet.apart {first second : Manager} {start final : Recorded World}
    (hMove : Quiet services.recorded first start second final) : start.Apart final := by
  cases hMove with
  | release request => exact release_apart services request first start
  | execute number sql => exact execute_apart services number sql first start
  | discard key => exact discard_apart services key first start
  | register => exact .refl start
  | rename => exact .refl start
  | remember => exact .refl start
  | checkTunnel => exact .refl start
  | touch => exact .refl start
  | takeOver => exact .refl start

theorem learnInfo_apart (session : Nat) (manager : Manager) (world : Recorded World) :
    world.Apart (manager.learnInfo services.recorded session world).2 := by
  unfold learnInfo
  split
  · exact .refl world
  · unfold Services.serverInfo
    have hQuery : world.Apart (services.recorded.query session Services.versionQuery world).2 :=
      ⟨[.query session Services.versionQuery], rfl, rfl, rfl⟩
    generalize services.recorded.query session Services.versionQuery world = answer at hQuery ⊢
    obtain ⟨rows, after⟩ := answer
    cases rows <;> exact hQuery

/-- A tunnel that is asked for is the last call of the step that asks for it. -/
theorem openTunnel_calls {controller : TunnelController} {world after : Recorded World}
    {route : TunnelRoute} {text : Option String} {result : Except Error TunnelHandle}
    (hOpen : services.recorded.openTunnel route text
      (controller.stop services.recorded world).2 = (result, after)) :
    ∃ calls, after.calls = world.calls ++ calls ∧ dialled calls = [] ∧
      opened calls = [(route, text)] := by
  obtain ⟨stopped, hStopped, hDialled, hOpened⟩ :=
    TunnelController.stop_apart services controller world
  refine ⟨stopped ++ [.openTunnel route text], ?_, ?_, ?_⟩
  · have hAfter : after.calls =
        (controller.stop services.recorded world).2.calls ++ [.openTunnel route text] :=
      (congrArg (fun outcome => outcome.2.calls) hOpen).symm
    rw [hAfter, hStopped, List.append_assoc]
  · rw [dialled_append, hDialled]
    rfl
  · rw [opened_append, hOpened]
    rfl

/-- Making sure of the tunnel never calls the driver. -/
theorem ensureTunnel_calls (manager : Manager) (world : Recorded World) :
    ∃ calls, (manager.ensureTunnel services.recorded world).2.2.calls = world.calls ++ calls ∧
      dialled calls = [] := by
  cases hHost : tunnelHost? services.recorded.config manager.identity with
  | none =>
      rw [ensureTunnel_of_none hHost]
      exact ⟨[], by simp, rfl⟩
  | some host =>
      rw [ensureTunnel_of_some hHost]
      have hCase := TunnelController.ensure_case services.recorded manager.identity
        manager.tunnelPassword host manager.tunnel world
      generalize manager.tunnel.ensure services.recorded manager.identity manager.tunnelPassword host
        world = outcome at hCase ⊢
      cases hCase with
      | kept => exact ⟨[], by simp, rfl⟩
      | dead => exact ⟨[], by simp, rfl⟩
      | unprepared => exact ⟨[], by simp, rfl⟩
      | unopened _ _ hOpen
      | stillborn _ _ hOpen _
      | opened _ _ hOpen _ =>
          obtain ⟨calls, hCalls, hDialled, -⟩ := openTunnel_calls services hOpen
          exact ⟨calls, hCalls, hDialled⟩

theorem dial_calls {params : ConnectParams} {world after : Recorded World}
    {result : Except Error Nat} (hDial : services.recorded.dial params world = (result, after)) :
    after.calls = world.calls ++ [.dial params] :=
  (congrArg (fun outcome => outcome.2.calls) hDial).symm

/-- The driver is called at most once in an attempt, right after the tunnel step and with the
port that this step gave. -/
structure DialsOnce (attempt : Attempt (Recorded World)) (params : ConnectParams) : Prop where
  prepared : ∃ connection password port,
    (attempt.manager.ensureTunnel services.recorded attempt.world).1 = .ok port ∧
      params = attempt.manager.attemptParams services connection password port
  tunnel : (attempt.outcome services.recorded).2.1.tunnel =
    (attempt.manager.ensureTunnel services.recorded attempt.world).2.1
  calls : ∃ later, (attempt.outcome services.recorded).2.2.calls =
    (attempt.manager.ensureTunnel services.recorded attempt.world).2.2.calls ++
      .dial params :: later ∧ dialled later = [] ∧ opened later = []

/-- The calls of an attempt: none at all unless it is idle, those of the tunnel step alone, or
these and one driver call with what follows it. -/
theorem connect_calls (attempt : Attempt (Recorded World)) :
    ¬attempt.Idle services.recorded ∧
        (attempt.outcome services.recorded).2.2.calls = attempt.world.calls ∨
      (attempt.outcome services.recorded).2.2.calls =
        (attempt.manager.ensureTunnel services.recorded attempt.world).2.2.calls ∨
      ∃ params, DialsOnce services attempt params := by
  have hCase : ConnectCase services.recorded attempt.number attempt.explicit attempt.manager
      attempt.world (attempt.outcome services.recorded) := connect_case _ _ _ _ _
  generalize hOutcome : attempt.outcome services.recorded = outcome at hCase ⊢
  cases hCase with
  | unknown hNone =>
      refine .inl ⟨?_, rfl⟩
      rintro ⟨connection, hFound, -⟩
      rw [hNone] at hFound
      cases hFound
  | live hFound hLive =>
      refine .inl ⟨?_, rfl⟩
      rintro ⟨connection, hSame, hNotLive⟩
      rw [hFound] at hSame
      cases hSame
      rw [hLive] at hNotLive
      cases hNotLive
  | noTunnel _ _ hTunnel
  | noPassword _ _ hTunnel _ =>
      rw [hTunnel]
      exact .inr (.inl rfl)
  | @refused connection port password error tunnel middle after _ _ hTunnel _ hDial =>
      refine .inr (.inr ⟨attempt.manager.attemptParams services connection password port, ?_⟩)
      refine ⟨⟨connection, password, port, by rw [hTunnel], rfl⟩, by rw [hOutcome, hTunnel], ?_⟩
      refine ⟨[], ?_, rfl, rfl⟩
      rw [hOutcome, hTunnel]
      exact dial_calls services hDial
  | @unversioned connection port password session error tunnel middle after final
      _ _ hTunnel _ hDial hInfo
  | @opened connection port password session info tunnel middle after final
      _ _ hTunnel _ hDial hInfo =>
      -- what follows the driver call is at most a query for the version
      have hAfter := dial_calls services hDial
      obtain ⟨later, hLater, hDialled, hOpened⟩ :=
        learnInfo_apart services session attempt.manager after
      rw [hInfo, hAfter, List.append_assoc] at hLater
      refine .inr (.inr ⟨attempt.manager.attemptParams services connection password port, ?_⟩)
      refine ⟨⟨connection, password, port, by rw [hTunnel], rfl⟩, ?_, ?_⟩
      · rw [hOutcome]
        exact (congrArg (fun step => step.2.1) hTunnel).symm
      · refine ⟨later, ?_, hDialled, hOpened⟩
        rw [hOutcome, hTunnel]
        exact hLater

/-- An attempt only adds calls. -/
theorem outcome_calls (attempt : Attempt (Recorded World)) :
    (attempt.outcome services.recorded).2.2.calls =
      attempt.world.calls ++ attempt.calls services := by
  obtain ⟨tunnelCalls, hTunnelCalls, -⟩ :=
    ensureTunnel_calls services attempt.manager attempt.world
  have hExtends : ∃ calls, (attempt.outcome services.recorded).2.2.calls =
      attempt.world.calls ++ calls := by
    rcases connect_calls services attempt with ⟨-, hNone⟩ | hTunnel | ⟨params, hDials⟩
    · exact ⟨[], by simp [hNone]⟩
    · exact ⟨tunnelCalls, hTunnel.trans hTunnelCalls⟩
    · obtain ⟨later, hLater, -⟩ := hDials.calls
      refine ⟨tunnelCalls ++ .dial params :: later, ?_⟩
      rw [hLater, hTunnelCalls, List.append_assoc]
  obtain ⟨calls, hCalls⟩ := hExtends
  rw [Attempt.calls_eq hCalls, hCalls]

/-- Along a trace the driver is called by the attempts alone. -/
theorem Trace.dialled {first last : Manager} {start final : Recorded World}
    {attempts : List (Attempt (Recorded World))}
    (hTrace : Trace services.recorded first start attempts last final) :
    PgConsole.dialled final.calls =
      PgConsole.dialled start.calls ++
        attempts.flatMap fun attempt => PgConsole.dialled (attempt.calls services) := by
  induction hTrace with
  | done => simp
  | quiet hMove _ ih => rw [ih, (Quiet.apart services hMove).dialled_eq]
  | @attempt first third start final attempts number explicit _ ih =>
      have hCalls := outcome_calls services ⟨number, explicit, first, start⟩
      simp only [Attempt.outcome] at hCalls
      rw [ih, hCalls, dialled_append, List.flatMap_cons, List.append_assoc]

/-- The driver calls of an operation are those of its attempts, in order. -/
theorem dialled_perform (operation : Operation) (manager : Manager) (world : Recorded World) :
    dialled (manager.perform services.recorded operation world).2.2.calls =
      dialled world.calls ++ (manager.attempts services.recorded operation world).flatMap
        fun attempt => dialled (attempt.calls services) := by
  rcases operation.update_or_other with ⟨identity, rfl⟩ | hOther
  · simpa [attempts, perform] using (update_apart services identity manager world).dialled_eq
  · exact (trace_perform services.recorded hOther manager world).dialled services

end Manager

end PgConsole
