import PgConsole.Proofs.Manager.Invariant

namespace PgConsole

/-!
# At most one tunnel is open

A controller is used by creating, checking and stopping its tunnel, in any order and whatever
forwarder, key and network do in between.  `Services.watched` keeps the forwarder's answers and
the stops in order, so that tunnels can be told apart by their places in that record.

`TunnelController.SingleTunnel` is what every use keeps: the tunnels that were stopped, followed
by the one that is held, are exactly the tunnels that were opened, in the same order; and whenever
the forwarder was asked, every tunnel opened before had been stopped.  `at_most_one_forwarder`
states it of every run, together with what a create that fails leaves.
-/

/-- What forwarder and tunnels see of a controller. -/
inductive TunnelEvent where
  /-- The forwarder is asked for a tunnel, and answers. -/
  | asked (route : TunnelRoute) (password : Option String) (answer : Except Error TunnelHandle)
  /-- A tunnel is told to stop. -/
  | stopped (handle : TunnelHandle)

namespace TunnelEvent

/-- The tunnel that is opened by an event. -/
def opened? : TunnelEvent → Option TunnelHandle
  | .asked _ _ (.ok handle) => some handle
  | _ => none

/-- The tunnel that is stopped by an event. -/
def stopped? : TunnelEvent → Option TunnelHandle
  | .stopped handle => some handle
  | _ => none

end TunnelEvent

/-- The tunnels that were opened, in order. -/
def openedTunnels (events : List TunnelEvent) : List TunnelHandle :=
  events.filterMap TunnelEvent.opened?

/-- The tunnels that were told to stop, in order. -/
def stoppedTunnels (events : List TunnelEvent) : List TunnelHandle :=
  events.filterMap TunnelEvent.stopped?

@[simp] theorem openedTunnels_append (first second : List TunnelEvent) :
    openedTunnels (first ++ second) = openedTunnels first ++ openedTunnels second :=
  List.filterMap_append

@[simp] theorem stoppedTunnels_append (first second : List TunnelEvent) :
    stoppedTunnels (first ++ second) = stoppedTunnels first ++ stoppedTunnels second :=
  List.filterMap_append

/-- A world together with what forwarder and tunnels have seen so far, in order. -/
structure Watched (World : Type) where
  world : World
  events : List TunnelEvent

/-- The same services, with the forwarder's answers and the stops of its tunnels kept. -/
def Services.watched {World : Type} (services : Services World) : Services (Watched World) where
  config := services.config
  passfileText := services.passfileText
  cryptKey watched := services.cryptKey watched.world
  dial params watched :=
    (services.dial params watched.world).map id fun world => { watched with world }
  query session sql watched :=
    (services.query session sql watched.world).map id fun world => { watched with world }
  cancel session watched :=
    (services.cancel session watched.world).map id fun world => { watched with world }
  close session watched := { watched with world := services.close session watched.world }
  isClosed watched session := services.isClosed watched.world session
  openTunnel route password watched :=
    let (answer, world) := services.openTunnel route password watched.world
    (answer, ⟨world, watched.events ++ [.asked route password answer]⟩)
  isActive watched handle := services.isActive watched.world handle
  stopTunnel handle watched :=
    ⟨services.stopTunnel handle watched.world, watched.events ++ [.stopped handle]⟩

/-- What a controller is used for. -/
inductive TunnelAction where
  | create (identity : ServerIdentity) (password : Option Secret)
  | check (host : String)
  | stop

namespace TunnelController

variable {World : Type}

/-- Use a controller once. -/
def act (services : Services World) (action : TunnelAction) (controller : TunnelController)
    (world : World) : Except Error Unit × TunnelController × World :=
  match action with
  | .create identity password => controller.create services identity password world
  | .check host =>
    let (result, controller) := controller.checkAlive services host world
    (result, controller, world)
  | .stop => (.ok (), controller.stop services world)

/-- One use after the other, each in the world it finds; what forwarder and tunnels see is kept
from one use to the next. -/
def actAll (services : Services World) (steps : List (World × TunnelAction))
    (start : TunnelController × List TunnelEvent) : TunnelController × List TunnelEvent :=
  steps.foldl (fun state step =>
    let outcome := state.1.act services.watched step.2 ⟨step.1, state.2⟩
    (outcome.2.1, outcome.2.2.events)) start

/-! ## What a create that fails has done -/

/-- The reasons for which the forwarder cannot be asked, each with its error.  They are looked at
in this order. -/
inductive Unready (key? : Option CryptKey) (identity : ServerIdentity) (password : Option Secret) :
    Error → Prop where
  | noSettings (hTunnel : identity.tunnel = none) : Unready key? identity password notConfigured
  | noFile {tunnel : TunnelSettings} (hTunnel : identity.tunnel = some tunnel)
      (hAuth : tunnel.auth = .identityFile none) : Unready key? identity password noIdentityFile
  | noKey {tunnel : TunnelSettings} {secret : Secret} (hTunnel : identity.tunnel = some tunnel)
      (hAuth : tunnel.auth ≠ .identityFile none) (hPassword : password = some secret)
      (hKey : key? = none) : Unready key? identity password .cryptKeyMissing
  | sealed {tunnel : TunnelSettings} {secret : Secret} {key : CryptKey} {cause : Error}
      (hTunnel : identity.tunnel = some tunnel) (hAuth : tunnel.auth ≠ .identityFile none)
      (hPassword : password = some secret) (hKey : key? = some key)
      (hDecrypt : secret.decrypt key = .error cause) :
      Unready key? identity password (undecryptable cause)

theorem Unready.prepare {key? : Option CryptKey} {identity : ServerIdentity}
    {password : Option Secret} {error : Error} (h : Unready key? identity password error) :
    prepare key? identity password = .error error := by
  unfold TunnelController.prepare
  cases h with
  | noSettings hTunnel => simp only [hTunnel]
  | noFile hTunnel hAuth => simp only [hTunnel, hAuth, if_true]
  | noKey hTunnel hAuth hPassword hKey =>
      simp only [hTunnel, if_neg hAuth, hPassword, hKey, clearPassword]
  | sealed hTunnel hAuth hPassword hKey hDecrypt =>
      simp only [hTunnel, if_neg hAuth, hPassword, hKey, clearPassword, hDecrypt]

/-- Nothing else keeps the forwarder from being asked. -/
theorem unready_of_prepare {key? : Option CryptKey} {identity : ServerIdentity}
    {password : Option Secret} {error : Error}
    (h : TunnelController.prepare key? identity password = .error error) :
    Unready key? identity password error := by
  unfold TunnelController.prepare at h
  cases hTunnel : identity.tunnel with
  | none =>
      rw [hTunnel] at h
      cases h
      exact .noSettings hTunnel
  | some tunnel =>
      simp only [hTunnel] at h
      by_cases hAuth : tunnel.auth = .identityFile none
      · rw [if_pos hAuth] at h
        cases h
        exact .noFile hTunnel hAuth
      · rw [if_neg hAuth] at h
        cases hPassword : password with
        | none =>
            rw [hPassword] at h
            cases h
        | some secret =>
            rw [hPassword] at h
            cases hKey : key? with
            | none =>
                simp only [clearPassword, hKey] at h
                cases h
                exact .noKey hTunnel hAuth rfl rfl
            | some key =>
                simp only [clearPassword, hKey] at h
                cases hDecrypt : secret.decrypt key with
                | error cause =>
                    simp only [hDecrypt] at h
                    cases h
                    exact .sealed hTunnel hAuth rfl rfl hDecrypt
                | ok text =>
                    simp only [hDecrypt] at h
                    cases h

/-- Stopping tells the tunnel that is held, if there is one. -/
theorem stop_events (services : Services World) (controller : TunnelController)
    (watched : Watched World) :
    (controller.stop services.watched watched).2.events =
      watched.events ++ controller.handle.toList.map .stopped := by
  unfold stop
  cases controller.handle with
  | none => exact (List.append_nil _).symm
  | some handle => rfl

/-- The ways in which creating a tunnel can end, with what is seen of each. -/
inductive CreateCase (services : Services World) (identity : ServerIdentity)
    (password : Option Secret) (controller : TunnelController) (watched : Watched World) :
    Except Error Unit × TunnelController × Watched World → Prop where
  /-- The forwarder cannot be asked: nothing has happened. -/
  | unready {error : Error}
      (hUnready : Unready (services.cryptKey watched.world) identity password error) :
      CreateCase services identity password controller watched (.error error, controller, watched)
  /-- The forwarder was asked, after what was held had been stopped, and has refused. -/
  | refused {route : TunnelRoute} {text : Option String} {error : Error} {after : Watched World}
      (hReady : ∀ error, ¬Unready (services.cryptKey watched.world) identity password error)
      (hEvents : after.events = watched.events ++ controller.handle.toList.map .stopped ++
        [.asked route text (.error error)]) :
      CreateCase services identity password controller watched (.error error, {}, after)
  /-- The same, but the forwarder has opened a tunnel. -/
  | opened {route : TunnelRoute} {text : Option String} {handle : TunnelHandle}
      {after : Watched World}
      (hReady : ∀ error, ¬Unready (services.cryptKey watched.world) identity password error)
      (hEvents : after.events = watched.events ++ controller.handle.toList.map .stopped ++
        [.asked route text (.ok handle)]) :
      CreateCase services identity password controller watched
        (.ok (), ⟨some handle, handle.localPort, true⟩, after)

theorem create_case (services : Services World) (identity : ServerIdentity)
    (password : Option Secret) (controller : TunnelController) (watched : Watched World) :
    CreateCase services identity password controller watched
      (controller.create services.watched identity password watched) := by
  have hSame : services.watched.cryptKey watched = services.cryptKey watched.world := rfl
  unfold create
  rw [hSame]
  cases hPrepare : prepare (services.cryptKey watched.world) identity password with
  | error error => exact .unready (unready_of_prepare hPrepare)
  | ok request =>
      obtain ⟨route, text⟩ := request
      have hReady : ∀ error,
          ¬Unready (services.cryptKey watched.world) identity password error := by
        intro error hUnready
        rw [hUnready.prepare] at hPrepare
        cases hPrepare
      have hEvents : (services.watched.openTunnel route text
          (controller.stop services.watched watched).2).2.events =
            watched.events ++ controller.handle.toList.map .stopped ++
              [.asked route text (services.watched.openTunnel route text
                (controller.stop services.watched watched).2).1] := by
        rw [← stop_events services controller watched]
        rfl
      dsimp only
      generalize services.watched.openTunnel route text
        (controller.stop services.watched watched).2 = opening at hEvents ⊢
      obtain ⟨answer, after⟩ := opening
      cases answer with
      | error error => exact .refused hReady hEvents
      | ok handle => exact .opened hReady hEvents

/-! ## What every use keeps -/

/-- Whenever the forwarder was asked, what it had opened before had been stopped. -/
def AskedUnheld (events : List TunnelEvent) : Prop :=
  ∀ earlier later route password answer, events = earlier ++ .asked route password answer :: later →
    stoppedTunnels earlier = openedTunnels earlier

/-- The controller holds the only tunnel that has not been stopped. -/
structure SingleTunnel (controller : TunnelController) (events : List TunnelEvent) : Prop where
  sound : controller.Sound
  accounted : stoppedTunnels events ++ controller.handle.toList = openedTunnels events
  unheld : AskedUnheld events

theorem singleTunnel_new : SingleTunnel {} [] := by
  refine ⟨sound_of_not_created rfl, rfl, ?_⟩
  intro earlier later route password answer hEvents
  simp at hEvents

variable {controller : TunnelController} {events : List TunnelEvent}

/-- One more event: it is either the one in question or comes after it. -/
theorem AskedUnheld.concat (h : AskedUnheld events) {last : TunnelEvent}
    (hLast : ∀ route password answer, last = .asked route password answer →
      stoppedTunnels events = openedTunnels events) : AskedUnheld (events ++ [last]) := by
  intro earlier later route password answer hSplit
  rcases List.eq_nil_or_concat later with rfl | ⟨between, final, rfl⟩
  · obtain ⟨rfl, hSame⟩ := List.append_inj' hSplit rfl
    exact hLast route password answer (List.cons.inj hSame).1
  · have hShift : events ++ [last] =
        (earlier ++ .asked route password answer :: between) ++ [final] := by
      simpa using hSplit
    exact h earlier between route password answer (List.append_inj' hShift rfl).1

/-- Stopping leaves no tunnel that has not been stopped. -/
theorem SingleTunnel.stopped (h : SingleTunnel controller events) :
    SingleTunnel {} (events ++ controller.handle.toList.map .stopped) := by
  have hStops : stoppedTunnels (controller.handle.toList.map .stopped) =
      controller.handle.toList := by
    cases controller.handle <;> rfl
  have hOpens : openedTunnels (controller.handle.toList.map .stopped) = [] := by
    cases controller.handle <;> rfl
  refine ⟨sound_of_not_created rfl, ?_, ?_⟩
  · rw [stoppedTunnels_append, openedTunnels_append, hStops, hOpens, h.accounted]
    rfl
  · cases controller.handle with
    | none => simpa using h.unheld
    | some handle => exact h.unheld.concat fun _ _ _ hAsked => nomatch hAsked

/-- Without a held tunnel the forwarder may be asked; what it opens is held from then on. -/
theorem SingleTunnel.asked (h : SingleTunnel {} events) {after : TunnelController}
    (hSound : after.Sound) (route : TunnelRoute) (password : Option String)
    {answer : Except Error TunnelHandle}
    (hHeld : after.handle.toList = openedTunnels [.asked route password answer]) :
    SingleTunnel after (events ++ [.asked route password answer]) := by
  have hSettled : stoppedTunnels events = openedTunnels events := by
    simpa using h.accounted
  refine ⟨hSound, ?_, h.unheld.concat fun _ _ _ _ => hSettled⟩
  rw [stoppedTunnels_append, openedTunnels_append, hSettled, hHeld]
  simp [stoppedTunnels, TunnelEvent.stopped?]

theorem SingleTunnel.create (h : SingleTunnel controller events) (services : Services World)
    (identity : ServerIdentity) (password : Option Secret) (world : World) :
    SingleTunnel (controller.create services.watched identity password ⟨world, events⟩).2.1
      (controller.create services.watched identity password ⟨world, events⟩).2.2.events := by
  have hCase := create_case services identity password controller ⟨world, events⟩
  generalize controller.create services.watched identity password ⟨world, events⟩ = outcome
    at hCase ⊢
  cases hCase with
  | unready => exact h
  | @refused route text error after _ hEvents =>
      rw [hEvents]
      exact h.stopped.asked (sound_of_not_created rfl) route text rfl
  | @opened route text handle after _ hEvents =>
      rw [hEvents]
      exact h.stopped.asked (fun _ => ⟨handle, rfl, rfl⟩) route text rfl

/-- One use keeps a single tunnel. -/
theorem SingleTunnel.act (h : SingleTunnel controller events) (services : Services World)
    (action : TunnelAction) (world : World) :
    SingleTunnel (controller.act services.watched action ⟨world, events⟩).2.1
      (controller.act services.watched action ⟨world, events⟩).2.2.events := by
  cases action with
  | create identity password => exact h.create services identity password world
  | check host =>
      have hSound := h.sound.checkAlive services.watched host ⟨world, events⟩
      -- a dead tunnel stays held
      have hHandle : (controller.checkAlive services.watched host ⟨world, events⟩).2.handle =
          controller.handle := by
        unfold checkAlive
        split <;> rfl
      refine ⟨hSound, ?_, h.unheld⟩
      simp only [TunnelController.act, hHandle]
      exact h.accounted
  | stop =>
      simp only [TunnelController.act, stop_controller, stop_events]
      exact h.stopped

theorem SingleTunnel.actAll (services : Services World) (steps : List (World × TunnelAction))
    {start : TunnelController × List TunnelEvent} (h : SingleTunnel start.1 start.2) :
    SingleTunnel (actAll services steps start).1 (actAll services steps start).2 := by
  induction steps generalizing start with
  | nil => exact h
  | cons step rest ih => exact ih (h.act services step.2 step.1)

/-- A tunnel that was handed out once and is not held has been stopped once. -/
theorem SingleTunnel.count_stopped (h : SingleTunnel controller events) {handle : TunnelHandle}
    (hOnce : (openedTunnels events).count handle = 1) (hHeld : controller.handle ≠ some handle) :
    (stoppedTunnels events).count handle = 1 := by
  have hCount := congrArg (List.count handle) h.accounted
  have hOther : controller.handle.toList.count handle = 0 := by
    rw [List.count_eq_zero, Option.mem_toList]
    exact hHeld
  rw [List.count_append, hOther, hOnce] at hCount
  exact hCount

/-- After every sequence of uses a tunnel that counts as created is held under the port that leads
into it.  The tunnels stopped so far, followed by the held one, are the tunnels opened so far, in
order; so one that was handed out once and is not held has been stopped exactly once, and whenever
the forwarder was asked, everything it had opened before had been stopped.  A create that cannot
ask the forwarder changes nothing and is not seen outside; every other create stops what is held
and asks the forwarder once, and if that fails, the controller is left stopped. -/
theorem at_most_one_forwarder (services : Services World) (steps : List (World × TunnelAction)) :
    let controller := (actAll services steps ({}, [])).1
    let events := (actAll services steps ({}, [])).2
    (controller.created = true →
      ∃ handle, controller.handle = some handle ∧ controller.localPort = handle.localPort) ∧
    stoppedTunnels events ++ controller.handle.toList = openedTunnels events ∧
    (∀ handle, (openedTunnels events).count handle = 1 → controller.handle ≠ some handle →
      (stoppedTunnels events).count handle = 1) ∧
    (∀ earlier later route password answer,
      events = earlier ++ .asked route password answer :: later →
        stoppedTunnels earlier = openedTunnels earlier) ∧
    ∀ identity password world,
      (∀ error, Unready (services.cryptKey world) identity password error →
        controller.create services.watched identity password ⟨world, events⟩ =
          (.error error, controller, ⟨world, events⟩)) ∧
      ((∀ error, ¬Unready (services.cryptKey world) identity password error) →
        ∃ route text answer,
          (controller.create services.watched identity password ⟨world, events⟩).2.2.events =
            events ++ controller.handle.toList.map .stopped ++ [.asked route text answer] ∧
          ∀ error, answer = .error error →
            (controller.create services.watched identity password ⟨world, events⟩).1 =
              .error error ∧
            (controller.create services.watched identity password ⟨world, events⟩).2.1 = {}) := by
  intro controller events
  have hSingle : SingleTunnel controller events := singleTunnel_new.actAll services steps
  refine ⟨hSingle.sound, hSingle.accounted, fun _ => hSingle.count_stopped,
    hSingle.unheld, ?_⟩
  intro identity password world
  have hCase := create_case services identity password controller ⟨world, events⟩
  refine ⟨?_, ?_⟩
  · intro error hUnready
    have hSame : services.watched.cryptKey ⟨world, events⟩ = services.cryptKey world := rfl
    rw [create, hSame, hUnready.prepare]
  · intro hReady
    generalize controller.create services.watched identity password ⟨world, events⟩ = outcome
      at hCase ⊢
    cases hCase with
    | unready hUnready => exact absurd hUnready (hReady _)
    | @refused route text error after _ hEvents =>
        refine ⟨route, text, .error error, hEvents, ?_⟩
        rintro _ ⟨⟩
        exact ⟨rfl, rfl⟩
    | @opened route text handle after _ hEvents =>
        refine ⟨route, text, .ok handle, hEvents, ?_⟩
        rintro _ ⟨⟩

/-- The same where a tunnel is found dead and replaced: the dead one has been stopped once, and
the new one is held. -/
theorem dead_tunnel_replaced :
    let services : Services Nat :=
      { config := .standard "" "", passfileText := fun _ => none, cryptKey := fun _ => none
        dial := fun _ world => (.ok 0, world), query := fun _ _ world => (.ok [], world)
        cancel := fun _ world => (.ok (), world), close := fun _ world => world
        isClosed := fun _ _ => false, isActive := fun world handle => handle.number == world
        openTunnel := fun _ _ world => (.ok ⟨world, 50000⟩, world)
        stopTunnel := fun _ world => world }
    let identity : ServerIdentity :=
      { id := 1, name := "main", host := "db.internal", username := "app"
        tunnel := some { host := "bastion", username := "ops" } }
    let state := actAll services
      [(1, .create identity none), (2, .check "bastion"), (2, .create identity none)] ({}, [])
    (state.1.created = true ∧ (openedTunnels state.2).count ⟨1, 50000⟩ = 1 ∧
        state.1.handle ≠ some ⟨1, 50000⟩) ∧
      (stoppedTunnels state.2).count ⟨1, 50000⟩ = 1 ∧
      ∃ handle, state.1.handle = some handle ∧ state.1.localPort = handle.localPort := by
  intro services identity state
  have hCreated : state.1.created = true := by decide +kernel
  have hOnce : (openedTunnels state.2).count ⟨1, 50000⟩ = 1 := by decide +kernel
  have hOther : state.1.handle ≠ some ⟨1, 50000⟩ := by decide +kernel
  obtain ⟨hHeld, -, hStopped, -⟩ := at_most_one_forwarder services
    [(1, .create identity none), (2, .check "bastion"), (2, .create identity none)]
  exact ⟨⟨hCreated, hOnce, hOther⟩, hStopped _ hOnce hOther, hHeld hCreated⟩

end TunnelController

end PgConsole
