import PgConsole.Manager.Connect

namespace PgConsole

/-!
# What a connection attempt can come to

`TunnelController.EnsureCase` lists every way in which making sure of a tunnel can end, and
`Manager.ConnectCase` every way in which a connection attempt can end, each with all the
conditions that lead there and the state it leaves.  `ensure_case` and `connect_case` say that
the lists are complete.  Later proofs split an attempt with these and never open the
definitions.
-/

namespace TunnelController

variable {World : Type}

/-- The ways in which making sure of a tunnel can end. -/
inductive EnsureCase (services : Services World) (identity : ServerIdentity)
    (password : Option Secret) (host : String) (controller : TunnelController) (world : World) :
    Except Error UInt16 × TunnelController × World → Prop where
  /-- The tunnel that was created earlier is up. -/
  | kept (hCreated : controller.created = true)
      (hAlive : controller.isAlive services world = true) :
      EnsureCase services identity password host controller world
        (.ok controller.localPort, controller, world)
  /-- The tunnel that was created earlier is dead. -/
  | dead (hCreated : controller.created = true)
      (hDead : controller.isAlive services world = false) :
      EnsureCase services identity password host controller world
        (.error (.tunnelLost host none), { controller with created := false }, world)
  /-- The forwarder cannot be asked for a tunnel. -/
  | unprepared {error : Error} (hCreated : controller.created = false)
      (hPrepare : prepare (services.cryptKey world) identity password = .error error) :
      EnsureCase services identity password host controller world
        (.error (lostBy host error), controller, world)
  /-- The forwarder opens no tunnel. -/
  | unopened {route : TunnelRoute} {text : Option String} {error : Error} {after : World}
      (hCreated : controller.created = false)
      (hPrepare : prepare (services.cryptKey world) identity password = .ok (route, text))
      (hOpen : services.openTunnel route text (controller.stop services world).2 =
        (.error error, after)) :
      EnsureCase services identity password host controller world
        (.error (lostBy host error), {}, after)
  /-- The new tunnel is dead at once. -/
  | stillborn {route : TunnelRoute} {text : Option String} {handle : TunnelHandle} {after : World}
      (hCreated : controller.created = false)
      (hPrepare : prepare (services.cryptKey world) identity password = .ok (route, text))
      (hOpen : services.openTunnel route text (controller.stop services world).2 =
        (.ok handle, after))
      (hDead : services.isActive after handle = false) :
      EnsureCase services identity password host controller world
        (.error (.tunnelLost host none), ⟨some handle, handle.localPort, false⟩, after)
  /-- The new tunnel is up. -/
  | opened {route : TunnelRoute} {text : Option String} {handle : TunnelHandle} {after : World}
      (hCreated : controller.created = false)
      (hPrepare : prepare (services.cryptKey world) identity password = .ok (route, text))
      (hOpen : services.openTunnel route text (controller.stop services world).2 =
        (.ok handle, after))
      (hActive : services.isActive after handle = true) :
      EnsureCase services identity password host controller world
        (.ok handle.localPort, ⟨some handle, handle.localPort, true⟩, after)

theorem ensure_case (services : Services World) (identity : ServerIdentity)
    (password : Option Secret) (host : String) (controller : TunnelController) (world : World) :
    EnsureCase services identity password host controller world
      (controller.ensure services identity password host world) := by
  unfold ensure
  cases hCreated : controller.created with
  | true =>
      cases hAlive : controller.isAlive services world with
      | true =>
          simp only [checkedPort, checkAlive, hAlive, port?, hCreated, if_true]
          exact .kept hCreated hAlive
      | false =>
          simp only [checkedPort, checkAlive, hAlive, if_true, Bool.false_eq_true, if_false]
          exact .dead hCreated hAlive
  | false =>
      simp only [Bool.false_eq_true, if_false, create]
      cases hPrepare : prepare (services.cryptKey world) identity password with
      | error error => exact .unprepared hCreated hPrepare
      | ok request =>
          obtain ⟨route, text⟩ := request
          cases hOpen : services.openTunnel route text (controller.stop services world).2 with
          | mk result after =>
              cases result with
              | error error =>
                  simp only [hOpen]
                  exact .unopened hCreated hPrepare hOpen
              | ok handle =>
                  cases hActive : services.isActive after handle with
                  | true =>
                      simp only [hOpen, checkedPort, checkAlive, isAlive, Option.any_some, hActive,
                        port?, if_true]
                      exact .opened hCreated hPrepare hOpen hActive
                  | false =>
                      simp only [hOpen, checkedPort, checkAlive, isAlive, Option.any_some, hActive,
                        Bool.false_eq_true, if_false]
                      exact .stillborn hCreated hPrepare hOpen hActive

end TunnelController

namespace Manager

variable {World : Type}

/-- A server without a tunnel needs none. -/
theorem ensureTunnel_of_none {services : Services World} {manager : Manager}
    (hHost : tunnelHost? services.config manager.identity = none) (world : World) :
    manager.ensureTunnel services world = (.ok none, manager.tunnel, world) := by
  simp only [ensureTunnel, hHost]

/-- A server behind a bastion host has the controller make sure of its tunnel. -/
theorem ensureTunnel_of_some {services : Services World} {manager : Manager} {host : String}
    (hHost : tunnelHost? services.config manager.identity = some host) (world : World) :
    manager.ensureTunnel services world =
      ((manager.tunnel.ensure services manager.identity manager.tunnelPassword host world).1.map some,
        (manager.tunnel.ensure services manager.identity manager.tunnelPassword host world).2) := by
  simp only [ensureTunnel, hHost]
  generalize manager.tunnel.ensure services manager.identity manager.tunnelPassword host world =
    outcome
  obtain ⟨result, tunnel, after⟩ := outcome
  cases result <;> rfl

/-- The ways in which a connection attempt can end. -/
inductive ConnectCase (services : Services World) (number : Nat) (explicit : Option Secret)
    (manager : Manager) (world : World) : Except Error Unit × Manager × World → Prop where
  /-- There is no such connection. -/
  | unknown (hNone : manager.connections[number]? = none) :
      ConnectCase services number explicit manager world (.error noConnection, manager, world)
  /-- The connection holds an open session. -/
  | live {connection : Connection} (hFound : manager.connections[number]? = some connection)
      (hLive : connection.isLive services world = true) :
      ConnectCase services number explicit manager world (.ok (), manager, world)
  /-- There is no usable tunnel. -/
  | noTunnel {connection : Connection} {error : Error} {tunnel : TunnelController} {middle : World}
      (hFound : manager.connections[number]? = some connection)
      (hIdle : connection.isLive services world = false)
      (hTunnel : manager.ensureTunnel services world = (.error error, tunnel, middle)) :
      ConnectCase services number explicit manager world
        (.error error, { manager with tunnel }, middle)
  /-- The password cannot be decrypted. -/
  | noPassword {connection : Connection} {port : Option UInt16} {error : Error}
      {tunnel : TunnelController} {middle : World}
      (hFound : manager.connections[number]? = some connection)
      (hIdle : connection.isLive services world = false)
      (hTunnel : manager.ensureTunnel services world = (.ok port, tunnel, middle))
      (hPassword : manager.attemptPassword (services.cryptKey middle) explicit = .error error) :
      ConnectCase services number explicit manager world
        (.error error, { manager with tunnel }, middle)
  /-- The driver opens no session. -/
  | refused {connection : Connection} {port : Option UInt16} {password : Option String}
      {error : Error} {tunnel : TunnelController} {middle after : World}
      (hFound : manager.connections[number]? = some connection)
      (hIdle : connection.isLive services world = false)
      (hTunnel : manager.ensureTunnel services world = (.ok port, tunnel, middle))
      (hPassword : manager.attemptPassword (services.cryptKey middle) explicit = .ok password)
      (hDial : services.dial (manager.attemptParams services connection password port) middle =
        (.error error, after)) :
      ConnectCase services number explicit manager world
        (.error error, { manager with tunnel }, after)
  /-- The new session does not tell the version of the server. -/
  | unversioned {connection : Connection} {port : Option UInt16} {password : Option String}
      {session : Nat} {error : Error} {tunnel : TunnelController} {middle after final : World}
      (hFound : manager.connections[number]? = some connection)
      (hIdle : connection.isLive services world = false)
      (hTunnel : manager.ensureTunnel services world = (.ok port, tunnel, middle))
      (hPassword : manager.attemptPassword (services.cryptKey middle) explicit = .ok password)
      (hDial : services.dial (manager.attemptParams services connection password port) middle =
        (.ok session, after))
      (hInfo : manager.learnInfo services session after = (.error error, final)) :
      ConnectCase services number explicit manager world
        (.error error, { manager with tunnel }, final)
  /-- The new session is kept. -/
  | opened {connection : Connection} {port : Option UInt16} {password : Option String}
      {session : Nat} {info : ServerInfo} {tunnel : TunnelController} {middle after final : World}
      (hFound : manager.connections[number]? = some connection)
      (hIdle : connection.isLive services world = false)
      (hTunnel : manager.ensureTunnel services world = (.ok port, tunnel, middle))
      (hPassword : manager.attemptPassword (services.cryptKey middle) explicit = .ok password)
      (hDial : services.dial (manager.attemptParams services connection password port) middle =
        (.ok session, after))
      (hInfo : manager.learnInfo services session after = (.ok info, final)) :
      ConnectCase services number explicit manager world
        (.ok (), adopt number connection session info explicit { manager with tunnel }, final)

theorem connect_case (services : Services World) (number : Nat) (explicit : Option Secret)
    (manager : Manager) (world : World) :
    ConnectCase services number explicit manager world
      (manager.connect services number explicit world) := by
  unfold connect
  cases hFound : manager.connections[number]? with
  | none => exact .unknown hFound
  | some connection =>
      cases hLive : connection.isLive services world with
      | true =>
          simp only [hLive, if_true]
          exact .live hFound hLive
      | false =>
          simp only [hLive, Bool.false_eq_true, if_false]
          cases hTunnel : manager.ensureTunnel services world with
          | mk result rest =>
              obtain ⟨tunnel, middle⟩ := rest
              cases result with
              | error error => exact .noTunnel hFound hLive hTunnel
              | ok port =>
                  cases hPassword : manager.attemptPassword (services.cryptKey middle) explicit with
                  | error error =>
                      simp only [hPassword]
                      exact .noPassword hFound hLive hTunnel hPassword
                  | ok password =>
                      simp only [hPassword, openSession]
                      cases hDial : services.dial
                          (manager.attemptParams services connection password port) middle with
                      | mk dialled after =>
                          cases dialled with
                          | error error => exact .refused hFound hLive hTunnel hPassword hDial
                          | ok session =>
                              -- the version is learned from the manager with its new tunnel
                              have hSame : learnInfo services session { manager with tunnel } after =
                                  manager.learnInfo services session after := rfl
                              simp only [hSame]
                              cases hInfo : manager.learnInfo services session after with
                              | mk learned final =>
                                  cases learned with
                                  | error error =>
                                      exact .unversioned hFound hLive hTunnel hPassword hDial hInfo
                                  | ok info =>
                                      exact .opened hFound hLive hTunnel hPassword hDial hInfo

end Manager

end PgConsole
