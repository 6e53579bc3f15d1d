import PgConsole.Proofs.Manager.StraySession
import PgConsole.Proofs.Session.Restart
import PgConsole.Proofs.Tunnel.OneForwarder

namespace PgConsole

/-!
# Restoring before and after the secrets are unlocked

A restore without the decryption key registers every saved connection and leaves those that need
the key waiting.  Reconnecting after the key has come gives what a restore with the key would have
given at once, where driver and forwarder are dependable (`Services.Dependable`).

Both ways go through managers that are revived from the same beginning: `Manager.Reviving` says
what such a manager has at any time, and `Manager.Pending` which of its connections may still be
waiting.  Registering and attempting keep the first; a loop that has the key ends with nothing
pending.  Then the connections themselves decide what is open (`Reviving.sameView`), so it does not
matter in which order, and from which data, the two loops have worked.
-/

namespace Services

variable {World : Type}

/-- What is open in one world is still open in another. -/
structure Kept (services : Services World) (before after : World) : Prop where
  sessions : ∀ session, services.isClosed before session = false →
    services.isClosed after session = false
  tunnels : ∀ handle, services.isActive before handle = true → services.isActive after handle = true

/-- The same, and the key is available in both worlds or in none. -/
structure Spared (services : Services World) (before after : World) : Prop
    extends Kept services before after where
  cryptKey : services.cryptKey after = services.cryptKey before

theorem Spared.refl (services : Services World) (world : World) : services.Spared world world :=
  ⟨⟨fun _ => id, fun _ => id⟩, rfl⟩

theorem Spared.trans {services : Services World} {first second third : World}
    (h : services.Spared first second) (h' : services.Spared second third) :
    services.Spared first third :=
  ⟨⟨fun session hOpen => h'.sessions session (h.sessions session hOpen),
    fun handle hActive => h'.tunnels handle (h.tunnels handle hActive)⟩,
    h'.cryptKey.trans h.cryptKey⟩

/-- Driver and forwarder accept every attempt, every session tells the same version, and no call
ends what is open. -/
structure Dependable (services : Services World) (info : ServerInfo) : Prop where
  dials : ∀ params world, ∃ session after, services.dial params world = (.ok session, after) ∧
    services.isClosed after session = false ∧ services.Spared world after
  tells : ∀ session world, services.isClosed world session = false →
    ∃ rows after, services.query session versionQuery world = (.ok rows, after) ∧
      infoOfRows rows = .ok info ∧ services.Spared world after
  opens : ∀ route password world, ∃ handle after,
    services.openTunnel route password world = (.ok handle, after) ∧
      services.isActive after handle = true ∧ services.Spared world after

end Services

/-- The connection was connected and is to be so again. -/
def Connection.wants (connection : Connection) : Bool :=
  connection.wasConnected && connection.flags.autoReconnect

theorem Connection.isLive_of_none {World : Type} (services : Services World) (world : World)
    {connection : Connection} (hNone : connection.session = none) :
    connection.isLive services world = false := by
  rw [isLive, hNone, Option.any_none]

/-- The key opens what is stored. -/
def OpenedBy (key : CryptKey) (stored : Option Secret) : Prop :=
  ∀ secret, stored = some secret → ∃ text, secret.decrypt key = .ok text

/-! ## Tunnels -/

namespace TunnelController

variable {World : Type} {services : Services World} {info : ServerInfo}

/-- A tunnel has been created and is up. -/
def Up (services : Services World) (controller : TunnelController) (world : World) : Prop :=
  controller.created = true ∧ controller.isAlive services world = true

theorem Up.kept {controller : TunnelController} {before after : World}
    (h : controller.Up services before) (hKept : services.Kept before after) :
    controller.Up services after := by
  refine ⟨h.1, ?_⟩
  have hAlive := h.2
  unfold isAlive at hAlive ⊢
  cases hHandle : controller.handle with
  | none =>
      rw [hHandle] at hAlive
      cases hAlive
  | some handle =>
      rw [hHandle] at hAlive
      exact hKept.tunnels handle hAlive

/-- The ways in which making sure of a tunnel can end with a dependable forwarder. -/
inductive RaiseCase (services : Services World) (controller : TunnelController) (world : World) :
    Except Error UInt16 × TunnelController × World → Prop where
  | up {port : UInt16} {raised : TunnelController} {after : World}
      (hUp : raised.Up services after) (hSpared : services.Spared world after) :
      RaiseCase services controller world (.ok port, raised, after)
  | locked (hLocked : services.cryptKey world = none) :
      RaiseCase services controller world (.error .cryptKeyMissing, controller, world)

theorem raise_case (hDependable : services.Dependable info) {identity : ServerIdentity}
    {tunnel : TunnelSettings} (hTunnel : identity.tunnel = some tunnel)
    (hAuth : tunnel.auth ≠ .identityFile none) {key : CryptKey} {password : Option Secret}
    (hPassword : OpenedBy key password) {world : World}
    (hKey : ∀ found, services.cryptKey world = some found → found = key)
    {controller : TunnelController} (hState : controller = {} ∨ controller.Up services world)
    (host : String) :
    RaiseCase services controller world
      (controller.ensure services identity password host world) := by
  have hCase := ensure_case services identity password host controller world
  generalize controller.ensure services identity password host world = outcome at hCase ⊢
  -- a tunnel that has not been created is none at all, so nothing has to be stopped for a new one
  have hStop : controller.created = false → (controller.stop services world).2 = world := by
    intro hCreated
    rcases hState with rfl | hUp
    · rfl
    · rw [hUp.1] at hCreated
      cases hCreated
  cases hCase with
  | kept hCreated hAlive => exact .up ⟨hCreated, hAlive⟩ (.refl services world)
  | dead hCreated hDead =>
      rcases hState with rfl | hUp
      · cases hCreated
      · rw [hUp.2] at hDead
        cases hDead
  | unprepared _ hPrepare =>
      cases unready_of_prepare hPrepare with
      | noSettings hNone =>
          rw [hNone] at hTunnel
          cases hTunnel
      | noFile hSettings hFile =>
          rw [hTunnel] at hSettings
          cases hSettings
          exact absurd hFile hAuth
      | noKey _ _ _ hLocked => exact .locked hLocked
      | sealed _ _ hStored hFound hDecrypt =>
          obtain ⟨text, hText⟩ := hPassword _ hStored
          rw [hKey _ hFound, hText] at hDecrypt
          cases hDecrypt
  | unopened hCreated _ hOpen =>
      rw [hStop hCreated] at hOpen
      obtain ⟨handle, after, hOpened, -⟩ := hDependable.opens _ _ world
      rw [hOpened] at hOpen
      cases hOpen
  | stillborn hCreated _ hOpen hDead =>
      rw [hStop hCreated] at hOpen
      obtain ⟨handle, after, hOpened, hActive, -⟩ := hDependable.opens _ _ world
      rw [hOpened] at hOpen
      cases hOpen
      rw [hActive] at hDead
      cases hDead
  | opened hCreated _ hOpen hActive =>
      rw [hStop hCreated] at hOpen
      obtain ⟨handle, after, hOpened, -, hSpared⟩ := hDependable.opens _ _ world
      rw [hOpened] at hOpen
      cases hOpen
      exact .up ⟨rfl, hActive⟩ hSpared

end TunnelController

namespace Manager

variable {World : Type} {services : Services World} {info : ServerInfo} {key : CryptKey}
  {fresh manager : Manager} {world : World}

/-- The key opens all secrets, and a tunnel with key authentication has its identity file. -/
structure Openable (key : CryptKey) (manager : Manager) : Prop where
  authentic : ∀ tunnel, manager.identity.tunnel = some tunnel → tunnel.auth ≠ .identityFile none
  password : OpenedBy key manager.password
  tunnelPassword : OpenedBy key manager.tunnelPassword

/-- Whether the server is reached through a tunnel. -/
def tunneled (services : Services World) (manager : Manager) : Bool :=
  (tunnelHost? services.config manager.identity).isSome

/-- The manager has come from a fresh one by registering connections and by attempting some of
those that want it; everything that was opened on the way is open. -/
structure Reviving (services : Services World) (info : ServerInfo) (fresh manager : Manager)
    (world : World) : Prop where
  identity : manager.identity = fresh.identity
  password : manager.password = fresh.password
  tunnelPassword : manager.tunnelPassword = fresh.tunnelPassword
  listed : ∀ number < manager.connections.length, manager.Registered number
  /-- The version is known as before, or has been learned if it was not. -/
  version : manager.serverInfo = fresh.serverInfo ∨
    manager.serverInfo = some (fresh.serverInfo.getD info)
  tunnel : manager.tunnel = {} ∨
    fresh.tunneled services = true ∧ manager.tunnel.Up services world
  /-- Nothing is learned or opened without a connection that wants it. -/
  idle : (∀ connection ∈ manager.connections, connection.wants = false) →
    manager.serverInfo = fresh.serverInfo ∧ manager.tunnel = {}
  /-- With a session come the version and the tunnel. -/
  held : ∀ connection ∈ manager.connections, ∀ session, connection.session = some session →
    services.isClosed world session = false ∧ connection.wants = true ∧
      manager.serverInfo = some (fresh.serverInfo.getD info) ∧
      (fresh.tunneled services = true → manager.tunnel.Up services world)

/-- Only the listed connections may want a session that they do not hold. -/
def Pending (manager : Manager) (numbers : List Nat) : Prop :=
  ∀ number connection, manager.connections[number]? = some connection → connection.wants = true →
    connection.session = none → number ∈ numbers

theorem Reviving.kept (h : Reviving services info fresh manager world) {after : World}
    (hKept : services.Kept world after) : Reviving services info fresh manager after := by
  refine { h with tunnel := ?_, held := ?_ }
  · exact h.tunnel.imp id fun ⟨hNeeded, hUp⟩ => ⟨hNeeded, hUp.kept hKept⟩
  · intro connection hMem session hSession
    obtain ⟨hOpen, hWants, hVersion, hTunnel⟩ := h.held connection hMem session hSession
    exact ⟨hKept.sessions session hOpen, hWants, hVersion, fun hNeeded =>
      (hTunnel hNeeded).kept hKept⟩

/-! ## Registering -/

theorem Reviving.register (h : Reviving services info fresh manager world) {key : ConnectionKey}
    (hAbsent : manager.registry.get? key = none) (database : String) (flags : ConnectionFlags)
    (wasConnected : Bool) :
    Reviving services info fresh (manager.register key database flags wasConnected).2 world := by
  have hListed : ∀ number < manager.connections.length + 1,
      (manager.register key database flags wasConnected).2.Registered number := by
    intro number hBound
    rcases Nat.lt_succ_iff_lt_or_eq.mp hBound with hOld | rfl
    · obtain ⟨other, hOther⟩ := h.listed number hOld
      exact ⟨other, register_get?_of_some hOther key database flags wasConnected⟩
    · refine ⟨key, ?_⟩
      simp only [Manager.register, hAbsent, SortedMap.get?_insert_self]
  simp only [Manager.register, hAbsent] at hListed ⊢
  refine { h with listed := ?_, idle := ?_, held := ?_ }
  · intro number hBound
    rw [List.length_append, List.length_singleton] at hBound
    exact hListed number hBound
  · intro hIdle
    exact h.idle fun connection hMem => hIdle connection (List.mem_append_left _ hMem)
  · intro connection hMem session hSession
    rcases List.mem_append.mp hMem with hOld | hNew
    · exact h.held connection hOld session hSession
    · rw [List.mem_singleton.mp hNew] at hSession
      cases hSession

/-- A new connection may be waiting. -/
theorem Pending.register (h : manager.Pending []) {key : ConnectionKey}
    (hAbsent : manager.registry.get? key = none) (database : String) (flags : ConnectionFlags)
    (wasConnected : Bool) :
    (manager.register key database flags wasConnected).2.Pending
      [(manager.register key database flags wasConnected).1] := by
  simp only [Manager.register, hAbsent]
  intro number connection hFound hWants hNone
  by_cases hOld : number < manager.connections.length
  · rw [List.getElem?_append_left hOld] at hFound
    exact absurd (h number connection hFound hWants hNone) List.not_mem_nil
  · have hBound := (List.getElem?_eq_some_iff.mp hFound).1
    rw [List.length_append, List.length_singleton] at hBound
    rw [List.mem_singleton]
    omega

/-- The first of the listed connections is not waiting. -/
theorem Pending.skip {number : Nat} {rest : List Nat} (h : manager.Pending (number :: rest))
    (hSettled : ∀ connection, manager.connections[number]? = some connection →
      connection.wants = true → connection.session ≠ none) : manager.Pending rest := by
  intro other connection hFound hWants hNone
  rcases List.mem_cons.mp (h other connection hFound hWants hNone) with rfl | hRest
  · exact absurd hNone (hSettled connection hFound hWants)
  · exact hRest

/-- A connection that has got its session is not waiting any more. -/
theorem Pending.opened {number session : Nat} {rest : List Nat} {connected : Manager}
    {connection : Connection} (h : manager.Pending (number :: rest))
    (hConnections : connected.connections =
      manager.connections.set number { connection with session := some session }) :
    connected.Pending rest := by
  intro other found hFound hWants hNone
  rw [hConnections] at hFound
  by_cases hOther : number = other
  · subst hOther
    have hBound := (List.getElem?_eq_some_iff.mp hFound).1
    rw [List.length_set] at hBound
    rw [List.getElem?_set_self hBound] at hFound
    cases hFound
    cases hNone
  · rw [List.getElem?_set_ne hOther] at hFound
    exact (List.mem_cons.mp (h other found hFound hWants hNone)).resolve_left (Ne.symm hOther)

/-! ## Attempting -/

/-- The ways in which making sure of the tunnel can end, if the server needs one. -/
inductive TunnelCase (services : Services World) (manager : Manager) (world : World) :
    Except Error (Option UInt16) × TunnelController × World → Prop where
  | ready {port : Option UInt16} {tunnel : TunnelController} {after : World}
      (hTunnel : if manager.tunneled services then tunnel.Up services after else
        tunnel = manager.tunnel)
      (hSpared : services.Spared world after) :
      TunnelCase services manager world (.ok port, tunnel, after)
  | locked (hLocked : services.cryptKey world = none) :
      TunnelCase services manager world (.error .cryptKeyMissing, manager.tunnel, world)

theorem tunnel_case (hDependable : services.Dependable info) (hOpenable : manager.Openable key)
    (hKey : ∀ found, services.cryptKey world = some found → found = key)
    (hState : manager.tunnel = {} ∨ manager.tunnel.Up services world) :
    TunnelCase services manager world (manager.ensureTunnel services world) := by
  cases hHost : tunnelHost? services.config manager.identity with
  | none =>
      rw [ensureTunnel_of_none hHost]
      refine .ready ?_ (.refl services world)
      simp [tunneled, hHost]
  | some host =>
      have hSettings : ∃ tunnel, manager.identity.tunnel = some tunnel := by
        unfold tunnelHost? at hHost
        split at hHost
        · obtain ⟨tunnel, hTunnel, -⟩ := Option.map_eq_some_iff.mp hHost
          exact ⟨tunnel, hTunnel⟩
        · cases hHost
      obtain ⟨tunnel, hTunnel⟩ := hSettings
      have hCase := TunnelController.raise_case hDependable hTunnel (hOpenable.authentic _ hTunnel)
        hOpenable.tunnelPassword hKey hState host
      rw [ensureTunnel_of_some hHost]
      generalize manager.tunnel.ensure services manager.identity manager.tunnelPassword host world =
        outcome at hCase ⊢
      cases hCase with
      | up hUp hSpared =>
          refine .ready ?_ hSpared
          simpa [tunneled, hHost] using hUp
      | locked hLocked => exact .locked hLocked

/-- The password is available unless the key is not. -/
theorem attemptPassword_of_opened (hPassword : OpenedBy key manager.password)
    {key? : Option CryptKey} (hKey : ∀ found, key? = some found → found = key) :
    (∃ text, manager.attemptPassword key? none = .ok text) ∨
      key? = none ∧ manager.attemptPassword key? none = .error .cryptKeyMissing := by
  simp only [attemptPassword, Option.none_or]
  cases hStored : manager.password with
  | none => exact .inl ⟨none, rfl⟩
  | some secret =>
      cases key? with
      | none => exact .inr ⟨rfl, rfl⟩
      | some found =>
          obtain ⟨text, hText⟩ := hPassword secret hStored
          refine .inl ⟨some text, ?_⟩
          simp only [Secret.decryptWith, hKey found rfl, hText]

theorem learnInfo_of_dependable (hDependable : services.Dependable info) {session : Nat}
    (hOpen : services.isClosed world session = false) (manager : Manager) :
    ∃ after, manager.learnInfo services session world =
        (.ok (manager.serverInfo.getD info), after) ∧ services.Spared world after := by
  unfold learnInfo
  cases manager.serverInfo with
  | some known => exact ⟨world, rfl, .refl services world⟩
  | none =>
      obtain ⟨rows, after, hQuery, hRows, hSpared⟩ := hDependable.tells session world hOpen
      refine ⟨after, ?_, hSpared⟩
      simp only [Services.serverInfo, hQuery, hRows, Option.getD_none]

theorem openSession_of_dependable (hDependable : services.Dependable info) (number : Nat)
    (connection : Connection) (params : ConnectParams) (manager : Manager) (world : World) :
    ∃ session after, openSession services number connection none params manager world =
        (.ok (), manager.adopt number connection session (manager.serverInfo.getD info) none,
          after) ∧
      services.isClosed after session = false ∧ services.Spared world after := by
  obtain ⟨session, middle, hDial, hOpen, hDialled⟩ := hDependable.dials params world
  obtain ⟨after, hLearn, hLearned⟩ := learnInfo_of_dependable hDependable hOpen manager
  refine ⟨session, after, ?_, hLearned.sessions session hOpen, hDialled.trans hLearned⟩
  simp only [openSession, hDial, hLearn]

/-- What an attempt comes to for a connection that wants a session and holds none. -/
structure Attempted (services : Services World) (info : ServerInfo) (fresh : Manager)
    (number : Nat) (manager : Manager) (world : World)
    (outcome : Except Error Unit × Manager × World) : Prop where
  tolerated : outcome.1 = .ok () ∨ outcome.1 = .error .cryptKeyMissing
  reviving : Reviving services info fresh outcome.2.1 outcome.2.2
  spared : services.Spared world outcome.2.2
  /-- With the key the connection waits no more. -/
  settled : services.cryptKey world ≠ none → ∀ rest, manager.Pending (number :: rest) →
    outcome.2.1.Pending rest

/-- While a connection wants a session, a tunnel may be opened for it. -/
theorem Reviving.raise (h : Reviving services info fresh manager world)
    (hSomeWants : ∃ connection ∈ manager.connections, connection.wants = true)
    {tunnel : TunnelController} {after : World}
    (hTunnel : if manager.tunneled services then tunnel.Up services after else
      tunnel = manager.tunnel)
    (hSpared : services.Spared world after) :
    Reviving services info fresh { manager with tunnel } after := by
  have hNeeds : manager.tunneled services = fresh.tunneled services := by
    rw [tunneled, h.identity, tunneled]
  have hKept := h.kept hSpared.toKept
  rw [hNeeds] at hTunnel
  cases hNeeded : fresh.tunneled services with
  | false =>
      rw [hNeeded, if_neg Bool.false_ne_true] at hTunnel
      subst hTunnel
      exact hKept
  | true =>
      rw [hNeeded, if_pos rfl] at hTunnel
      refine { hKept with tunnel := .inr ⟨hNeeded, hTunnel⟩, idle := ?_, held := ?_ }
      · intro hIdle
        obtain ⟨connection, hMem, hWants⟩ := hSomeWants
        rw [hIdle connection hMem] at hWants
        cases hWants
      · intro connection hMem session hSession
        obtain ⟨hOpen, hWants, hVersion, -⟩ := hKept.held connection hMem session hSession
        exact ⟨hOpen, hWants, hVersion, fun _ => hTunnel⟩

/-- What is stored after an attempt of a connection that has connected before. -/
theorem adopt_of_connected {connection : Connection} (hConnected : connection.wasConnected = true)
    (number session : Nat) (info : ServerInfo) (manager : Manager) :
    manager.adopt number connection session info none =
      { manager with
        connections := manager.connections.set number { connection with session := some session }
        serverInfo := some info } := by
  simp only [adopt, setConnection, ← hConnected, Option.none_or]

/-- A session that is open may be stored in a connection that wants it, once there is a tunnel. -/
theorem Reviving.hold (h : Reviving services info fresh manager world) {number : Nat}
    {connection : Connection} (hFound : manager.connections[number]? = some connection)
    (hWants : connection.wants = true) {session : Nat}
    (hOpen : services.isClosed world session = false)
    (hTunnel : fresh.tunneled services = true → manager.tunnel.Up services world) :
    Reviving services info fresh
      { manager with
        connections := manager.connections.set number { connection with session := some session }
        serverInfo := some (manager.serverInfo.getD info) } world := by
  have hVersion : some (manager.serverInfo.getD info) = some (fresh.serverInfo.getD info) := by
    rcases h.version with hSame | hLearned
    · rw [hSame]
    · rw [hLearned, Option.getD_some]
  refine { h with listed := ?_, version := .inr hVersion, idle := ?_, held := ?_ }
  · intro other hBound
    rw [List.length_set] at hBound
    exact h.listed other hBound
  · intro hIdle
    have hMem := List.mem_set (List.getElem?_eq_some_iff.mp hFound).1
      { connection with session := some session }
    have hNever : ({ connection with session := some session } : Connection).wants = false :=
      hIdle _ hMem
    cases hWants.symm.trans hNever
  · intro other hMem held hHeld
    rcases List.mem_or_eq_of_mem_set hMem with hOld | rfl
    · obtain ⟨hStill, hOther, -, -⟩ := h.held other hOld held hHeld
      exact ⟨hStill, hOther, hVersion, hTunnel⟩
    · cases hHeld
      exact ⟨hOpen, hWants, hVersion, hTunnel⟩

theorem Reviving.connect (hDependable : services.Dependable info) (hOpenable : fresh.Openable key)
    (h : Reviving services info fresh manager world)
    (hKey : ∀ found, services.cryptKey world = some found → found = key) {number : Nat}
    {connection : Connection} (hFound : manager.connections[number]? = some connection)
    (hWants : connection.wants = true) (hNone : connection.session = none) :
    Attempted services info fresh number manager world
      (manager.connect services number none world) := by
  have hIdle := Connection.isLive_of_none services world hNone
  have hSomeWants : ∃ connection ∈ manager.connections, connection.wants = true :=
    ⟨connection, List.mem_of_getElem? hFound, hWants⟩
  have hOwn : manager.Openable key := by
    refine ⟨?_, ?_, ?_⟩
    · rw [h.identity]
      exact hOpenable.authentic
    · rw [h.password]
      exact hOpenable.password
    · rw [h.tunnelPassword]
      exact hOpenable.tunnelPassword
  have hTunnel := tunnel_case hDependable hOwn hKey (h.tunnel.imp id And.right)
  unfold Manager.connect
  simp only [hFound, hIdle, Bool.false_eq_true, if_false]
  generalize manager.ensureTunnel services world = ensured at hTunnel ⊢
  cases hTunnel with
  | locked hLocked =>
      exact ⟨.inr rfl, h, .refl services world, fun hUnlocked => absurd hLocked hUnlocked⟩
  | @ready port tunnel middle hReady hSpared =>
      have hMiddle := h.raise hSomeWants hReady hSpared
      have hMiddleKey : ∀ found, services.cryptKey middle = some found → found = key := by
        rw [hSpared.cryptKey]
        exact hKey
      rcases attemptPassword_of_opened hOwn.password hMiddleKey with ⟨text, hText⟩ |
        ⟨hLocked, hMissing⟩
      · simp only [hText]
        obtain ⟨session, after, hOpened, hOpen, hAfter⟩ := openSession_of_dependable hDependable
          number connection (manager.attemptParams services connection text port)
          { manager with tunnel } middle
        have hConnected : connection.wasConnected = true := (Bool.and_eq_true_iff.mp hWants).1
        have hTunnel : fresh.tunneled services = true → tunnel.Up services after := by
          intro hNeeded
          have hNeeds : manager.tunneled services = true := by
            rw [tunneled, h.identity]
            exact hNeeded
          rw [if_pos hNeeds] at hReady
          exact hReady.kept hAfter.toKept
        rw [hOpened, adopt_of_connected hConnected]
        exact ⟨.inl rfl, (hMiddle.kept hAfter.toKept).hold hFound hWants hOpen hTunnel,
          hSpared.trans hAfter, fun _ _ hPending => hPending.opened rfl⟩
      · -- the tunnel stays open although the password cannot be read yet
        simp only [hMissing]
        rw [hSpared.cryptKey] at hLocked
        exact ⟨.inr rfl, hMiddle, hSpared, fun hUnlocked => absurd hLocked hUnlocked⟩

/-! ## The loops -/

/-- What a loop comes to that starts while the listed connections may be waiting: with the key
none of them is left so. -/
structure Revives (services : Services World) (info : ServerInfo) (fresh : Manager)
    (numbers : List Nat) (manager : Manager) (world : World)
    (outcome : Except Error Unit × Manager × World) : Prop where
  ok : outcome.1 = .ok ()
  reviving : Reviving services info fresh outcome.2.1 outcome.2.2
  spared : services.Spared world outcome.2.2
  settled : services.cryptKey world ≠ none → manager.Pending numbers → outcome.2.1.Pending []

/-- One round, and then the rest of the loop. -/
theorem Revives.of_round {numbers rest : List Nat} {next : Manager} {later : World}
    {outcome : Except Error Unit × Manager × World} (hSpared : services.Spared world later)
    (hPending : services.cryptKey world ≠ none → manager.Pending numbers → next.Pending rest)
    (h : Revives services info fresh rest next later outcome) :
    Revives services info fresh numbers manager world outcome := by
  refine ⟨h.ok, h.reviving, hSpared.trans h.spared, ?_⟩
  intro hKey hBefore
  refine h.settled ?_ (hPending hKey hBefore)
  rw [hSpared.cryptKey]
  exact hKey

theorem Reviving.restoreEntries (hDependable : services.Dependable info)
    (hOpenable : fresh.Openable key) {entries : List (ConnectionKey × ConnectionSnapshot)}
    (hDistinct : entries.Pairwise fun earlier later => earlier.1 ≠ later.1)
    (hAbsent : ∀ entry ∈ entries, manager.registry.get? entry.1 = none)
    (h : Reviving services info fresh manager world)
    (hKey : ∀ found, services.cryptKey world = some found → found = key) :
    Revives services info fresh [] manager world
      (restoreEntries services entries manager world) := by
  induction entries generalizing manager world with
  | nil => exact ⟨rfl, h, .refl services world, fun _ hPending => hPending⟩
  | cons entry rest ih =>
      obtain ⟨name, saved⟩ := entry
      obtain ⟨hFirst, hRest⟩ := List.pairwise_cons.mp hDistinct
      have hName : manager.registry.get? name = none := hAbsent (name, saved) List.mem_cons_self
      have hNew := register_of_absent hName saved.database saved.flags saved.wasConnected
      have hRegistered := h.register hName saved.database saved.flags saved.wasConnected
      -- if nothing was pending, only the connection just registered can be
      have hPending := fun hBefore : manager.Pending [] =>
        hBefore.register hName saved.database saved.flags saved.wasConnected
      have hStillAbsent : ∀ entry ∈ rest,
          (manager.register name saved.database saved.flags saved.wasConnected).2.registry.get?
            entry.1 = none := by
        intro entry hMem
        simp only [Manager.register, hName]
        rw [SortedMap.get?_insert_of_ne _ (hFirst entry hMem)]
        exact hAbsent entry (List.mem_cons_of_mem _ hMem)
      rw [Manager.restoreEntries]
      generalize manager.register name saved.database saved.flags saved.wasConnected = registration
        at hNew hRegistered hPending hStillAbsent ⊢
      obtain ⟨number, registered⟩ := registration
      have hIdle : registered.isLive services world number = false := by
        rw [isLive, hNew, Option.any_some, Connection.isLive_of_none services world rfl]
      dsimp only at hNew hRegistered hPending hStillAbsent ⊢
      rw [hIdle, Bool.or_false]
      cases hWants : saved.wasConnected && saved.flags.autoReconnect with
      | false =>
          refine .of_round (.refl services world) ?_ (ih hRest hStillAbsent hRegistered hKey)
          intro _ hBefore
          refine (hPending hBefore).skip ?_
          intro connection hFound hLater
          rw [hNew] at hFound
          cases hFound
          cases hWants.symm.trans hLater
      | true =>
          have hAttempted := hRegistered.connect hDependable hOpenable hKey hNew hWants rfl
          have hSame := connect_registry services number none registered world
          simp only [Bool.not_true, Bool.false_eq_true, if_false]
          generalize registered.connect services number none world = outcome at hAttempted hSame ⊢
          obtain ⟨result, connected, after⟩ := outcome
          have hLater : Revives services info fresh [] manager world
              (Manager.restoreEntries services rest connected after) := by
            refine .of_round hAttempted.spared ?_ (ih hRest ?_ hAttempted.reviving ?_)
            · intro hUnlocked hBefore
              exact hAttempted.settled hUnlocked [] (hPending hBefore)
            · rw [hSame]
              exact hStillAbsent
            · rw [hAttempted.spared.cryptKey]
              exact hKey
          rcases hAttempted.tolerated with rfl | rfl
          · exact hLater
          · exact hLater

/-- A connection that holds a session is live. -/
theorem Reviving.isLive_of_some (h : Reviving services info fresh manager world) {number : Nat}
    {connection : Connection} (hFound : manager.connections[number]? = some connection)
    (hSome : connection.session ≠ none) : connection.isLive services world = true := by
  cases hSession : connection.session with
  | none => exact absurd hSession hSome
  | some session =>
      obtain ⟨hOpen, -⟩ := h.held connection (List.mem_of_getElem? hFound) session hSession
      simp only [Connection.isLive, hSession, Option.any_some, hOpen, Bool.not_false]

theorem Reviving.reconnectEach (hDependable : services.Dependable info)
    (hOpenable : fresh.Openable key) (numbers : List Nat)
    (h : Reviving services info fresh manager world)
    (hKey : ∀ found, services.cryptKey world = some found → found = key) :
    Revives services info fresh numbers manager world
      (reconnectEach services numbers manager world) := by
  induction numbers generalizing manager world with
  | nil => exact ⟨rfl, h, .refl services world, fun _ hPending => hPending⟩
  | cons number rest ih =>
      rw [Manager.reconnectEach]
      split
      · rename_i hReconnect
        obtain ⟨connection, hFound, hWantsNow⟩ := (Option.any_eq_true _ _).mp hReconnect
        obtain ⟨hWants, hLost⟩ := Bool.and_eq_true_iff.mp hWantsNow
        -- a session that is held is open, so a connection that is not live holds none
        have hNone : connection.session = none := by
          refine Decidable.byContradiction fun hSome => ?_
          rw [h.isLive_of_some hFound hSome] at hLost
          cases hLost
        have hAttempted := h.connect hDependable hOpenable hKey hFound hWants hNone
        generalize manager.connect services number none world = outcome at hAttempted ⊢
        obtain ⟨result, connected, after⟩ := outcome
        have hLater : Revives services info fresh (number :: rest) manager world
            (Manager.reconnectEach services rest connected after) := by
          refine .of_round hAttempted.spared ?_ (ih hAttempted.reviving ?_)
          · intro hUnlocked
            exact hAttempted.settled hUnlocked rest
          · rw [hAttempted.spared.cryptKey]
            exact hKey
        rcases hAttempted.tolerated with rfl | rfl
        · exact hLater
        · exact hLater
      · rename_i hSkip
        refine .of_round (.refl services world) ?_ (ih h hKey)
        intro _ hBefore
        refine hBefore.skip ?_
        intro connection hFound hWants hNone
        refine hSkip ((Option.any_eq_true _ _).mpr ⟨connection, hFound, ?_⟩)
        rw [Connection.wants] at hWants
        simp only [wantsReconnect, hWants, Connection.isLive_of_none services world hNone,
          Bool.not_false, Bool.and_true]

/-- Reconnecting changes nothing that lasts. -/
theorem lasting_reconnectEach (services : Services World) (numbers : List Nat) (manager : Manager)
    (world : World) (key : ConnectionKey) :
    ((reconnectEach services numbers manager world).2.1.connectionAt? key).map Connection.lasting =
      (manager.connectionAt? key).map Connection.lasting := by
  induction numbers generalizing manager world with
  | nil => rfl
  | cons number rest ih =>
      rw [Manager.reconnectEach]
      split
      · rename_i hReconnect
        obtain ⟨connection, hFound, hWants⟩ := (Option.any_eq_true _ _).mp hReconnect
        have hConnected : connection.wasConnected = true := by
          simp only [wantsReconnect, Bool.and_eq_true] at hWants
          exact hWants.1.1
        have hLasting := lasting_connect services hFound hConnected none world key
        generalize manager.connect services number none world = outcome at hLasting ⊢
        obtain ⟨result, connected, after⟩ := outcome
        split
        · rename_i hOutcome
          cases hOutcome
          exact (ih _ _).trans hLasting
        · rename_i hOutcome
          cases hOutcome
          exact (ih _ _).trans hLasting
        · rename_i hOutcome
          cases hOutcome
          exact hLasting
      · exact ih manager world

/-! ## What is open in the end -/

/-- Two managers, each in its world, cannot be told apart by registry, version, secrets and the
state of the tunnel. -/
structure SameView (services : Services World) (first : Manager) (firstWorld : World)
    (second : Manager) (secondWorld : World) : Prop where
  keys : first.keys = second.keys
  connections : ∀ key,
    (first.connectionAt? key).map (fun connection =>
        (connection.database, connection.flags, connection.wasConnected,
          connection.isLive services firstWorld)) =
      (second.connectionAt? key).map fun connection =>
        (connection.database, connection.flags, connection.wasConnected,
          connection.isLive services secondWorld)
  serverInfo : first.serverInfo = second.serverInfo
  password : first.password = second.password
  tunnelPassword : first.tunnelPassword = second.tunnelPassword
  tunnel : first.tunnel.isAlive services firstWorld = second.tunnel.isAlive services secondWorld

/-- With nothing pending, exactly the connections that want it are live. -/
theorem Reviving.isLive_eq (h : Reviving services info fresh manager world)
    (hPending : manager.Pending []) {number : Nat} {connection : Connection}
    (hFound : manager.connections[number]? = some connection) :
    connection.isLive services world = connection.wants := by
  cases hSession : connection.session with
  | none =>
      rw [Connection.isLive_of_none services world hSession]
      cases hWants : connection.wants with
      | false => rfl
      | true => cases hPending number connection hFound hWants hSession
  | some session =>
      have hSome : connection.session ≠ none := by
        rw [hSession]
        exact Option.some_ne_none session
      obtain ⟨-, hWants, -⟩ := h.held connection (List.mem_of_getElem? hFound) session hSession
      rw [h.isLive_of_some hFound hSome, hWants]

/-- With nothing pending, version and tunnel depend on whether some connection wants to be
connected. -/
theorem Reviving.opened_eq (h : Reviving services info fresh manager world)
    (hPending : manager.Pending []) :
    manager.serverInfo =
        (if manager.connections.any Connection.wants then some (fresh.serverInfo.getD info)
          else fresh.serverInfo) ∧
      manager.tunnel.isAlive services world =
        (manager.connections.any Connection.wants && fresh.tunneled services) := by
  cases hAny : manager.connections.any Connection.wants with
  | false =>
      have hNever : ∀ connection ∈ manager.connections, connection.wants = false := by
        intro connection hMem
        simpa using List.any_eq_false.mp hAny connection hMem
      obtain ⟨hInfo, hTunnel⟩ := h.idle hNever
      rw [hInfo, hTunnel]
      exact ⟨rfl, rfl⟩
  | true =>
      obtain ⟨connection, hMem, hWants⟩ := List.any_eq_true.mp hAny
      obtain ⟨number, hFound⟩ := List.getElem?_of_mem hMem
      cases hSession : connection.session with
      | none => cases hPending number connection hFound hWants hSession
      | some session =>
          obtain ⟨-, -, hInfo, hNeeded⟩ := h.held connection hMem session hSession
          refine ⟨hInfo, ?_⟩
          rw [Bool.true_and]
          cases hTunneled : fresh.tunneled services with
          | true => exact (hNeeded hTunneled).2
          | false =>
              rcases h.tunnel with hNone | ⟨hOther, -⟩
              · rw [hNone]
                rfl
              · rw [hTunneled] at hOther
                cases hOther

/-- Whether some connection wants to be connected can be seen in the registry. -/
theorem Reviving.any_wants_iff (h : Reviving services info fresh manager world) :
    manager.connections.any Connection.wants = true ↔
      ∃ key lasting, (manager.connectionAt? key).map Connection.lasting = some lasting ∧
        (lasting.2.2 && lasting.2.1.autoReconnect) = true := by
  constructor
  · intro hAny
    obtain ⟨connection, hMem, hWants⟩ := List.any_eq_true.mp hAny
    obtain ⟨number, hFound⟩ := List.getElem?_of_mem hMem
    obtain ⟨key, hKey⟩ := h.listed number (List.getElem?_eq_some_iff.mp hFound).1
    refine ⟨key, connection.lasting, ?_, hWants⟩
    rw [connectionAt?, get?, hKey, Option.bind_some, hFound, Option.map_some]
  · rintro ⟨key, lasting, hLasting, hWants⟩
    obtain ⟨connection, hFound, rfl⟩ := Option.map_eq_some_iff.mp hLasting
    obtain ⟨number, -, hNumber⟩ := Option.bind_eq_some_iff.mp hFound
    exact List.any_eq_true.mpr ⟨connection, List.mem_of_getElem? hNumber, hWants⟩

/-- Once nothing is pending, what lasts of the connections decides everything else. -/
theorem Reviving.sameView {first second : Manager} {firstWorld secondWorld : World}
    (h : Reviving services info fresh first firstWorld) (hPending : first.Pending [])
    (hSound : first.Sound) (h' : Reviving services info fresh second secondWorld)
    (hPending' : second.Pending []) (hSound' : second.Sound)
    (hLasting : ∀ key, (first.connectionAt? key).map Connection.lasting =
      (second.connectionAt? key).map Connection.lasting) :
    SameView services first firstWorld second secondWorld := by
  have hAny : first.connections.any Connection.wants = second.connections.any Connection.wants := by
    rw [Bool.eq_iff_iff, h.any_wants_iff, h'.any_wants_iff]
    simp only [hLasting]
  obtain ⟨hInfo, hTunnel⟩ := h.opened_eq hPending
  obtain ⟨hInfo', hTunnel'⟩ := h'.opened_eq hPending'
  -- what is seen of a connection is a function of what lasts of it
  have hSeen : ∀ {manager world}, Reviving services info fresh manager world →
      manager.Pending [] → ∀ key, (manager.connectionAt? key).map (fun connection =>
        (connection.database, connection.flags, connection.wasConnected,
          connection.isLive services world)) =
      ((manager.connectionAt? key).map Connection.lasting).map fun lasting =>
        (lasting.1, lasting.2.1, lasting.2.2, lasting.2.2 && lasting.2.1.autoReconnect) := by
    intro manager world hReviving hNone key
    cases hFound : manager.connectionAt? key with
    | none => rfl
    | some connection =>
        obtain ⟨number, -, hNumber⟩ := Option.bind_eq_some_iff.mp hFound
        simp only [Option.map_some, hReviving.isLive_eq hNone hNumber]
        rfl
  refine ⟨?_, ?_, ?_, ?_, ?_, ?_⟩
  · refine SortedMap.keys_ext ?_
    intro key
    exact hSound.mem_keys_iff.trans ((hLasting key).symm ▸ hSound'.mem_keys_iff.symm)
  · intro key
    rw [hSeen h hPending, hSeen h' hPending', hLasting]
  · rw [hInfo, hInfo', hAny]
  · rw [h.password, h'.password]
  · rw [h.tunnelPassword, h'.tunnelPassword]
  · rw [hTunnel, hTunnel', hAny]

/-! ## Restoring from a snapshot -/

theorem reviving_fresh (services : Services World) (info : ServerInfo) (identity : ServerIdentity)
    (saved : ManagerSnapshot) (world : World) :
    Reviving services info ((new identity).takeOver services.config saved)
      ((new identity).takeOver services.config saved) world where
  identity := rfl
  password := rfl
  tunnelPassword := rfl
  listed _ hBound := absurd hBound (Nat.not_lt_zero _)
  version := .inl rfl
  tunnel := .inl rfl
  idle _ := ⟨rfl, rfl⟩
  held _ hMem := absurd hMem List.not_mem_nil

/-- A valid identity that authenticates at the bastion host with a key names its file. -/
theorem authentic_of_valid {identity : ServerIdentity} (hValid : identity.fault? = none)
    {tunnel : TunnelSettings} (hTunnel : identity.tunnel = some tunnel) :
    tunnel.auth ≠ .identityFile none := by
  intro hAuth
  unfold ServerIdentity.fault? at hValid
  simp only [hTunnel, Option.bind_some, ServerIdentity.tunnelFault?, hAuth, if_true] at hValid
  repeat' split at hValid
  all_goals cases hValid

/-- Restoring a snapshot comes through, whether or not the key is there; with the key nothing is
left pending. -/
theorem restore_of_dependable (hDependable : services.Dependable info) {config : ConsoleConfig}
    {origin : Manager} {saved : ManagerSnapshot} (hSaved : origin.snapshot config = some saved)
    {identity : ServerIdentity}
    (hOpenable : ((new identity).takeOver services.config saved).Openable key) (world : World)
    (hKey : ∀ found, services.cryptKey world = some found → found = key) :
    ∃ restored after, (new identity).restore services saved world = (.ok (), restored, after) ∧
      Reviving services info ((new identity).takeOver services.config saved) restored after ∧
      (services.cryptKey world ≠ none → restored.Pending []) ∧ restored.Sound ∧
      ∀ key, (restored.connectionAt? key).map Connection.lasting =
        (origin.connectionAt? key).map Connection.lasting := by
  obtain ⟨entries, hEntries, hDistinct, hLookup⟩ := entries_snapshot hSaved
  have hRestore : (new identity).restore services saved world =
      restoreEntries services entries ((new identity).takeOver services.config saved) world := by
    simp only [restore, checkVersion_snapshot hSaved, hEntries]
  have hSound : ((new identity).restore services saved world).2.1.Sound :=
    ((sound_new identity).perform services (.restore saved) world).1
  have hFreshSound : ((new identity).takeOver services.config saved).Sound :=
    ⟨(sound_new identity).registered, (sound_new identity).tunnel⟩
  -- nothing is registered in a new manager, so every saved connection is absent
  have hRevives := (reviving_fresh services info identity saved world).restoreEntries hDependable
    hOpenable hDistinct (fun _ _ => rfl) hKey
  have hReproduces := restoreEntries_of_absent services hDistinct hFreshSound (fun _ _ => rfl)
    hRevives.ok
  rw [hRestore] at hSound ⊢
  refine ⟨_, _, Prod.ext hRevives.ok rfl, hRevives.reviving, ?_, hSound, ?_⟩
  · intro hUnlocked
    refine hRevives.settled hUnlocked ?_
    intro number connection hFound
    cases hFound
  · intro key
    rw [hReproduces.lasting key, hLookup key, Option.map_map]
    exact Option.or_none

/-- With the key, reconnecting comes through and leaves nothing pending. -/
theorem Reviving.restoreConnections (hDependable : services.Dependable info)
    (hOpenable : fresh.Openable key) (h : Reviving services info fresh manager world)
    (hUnlocked : services.cryptKey world = some key) :
    ∃ revived after, manager.restoreConnections services world = (.ok (), revived, after) ∧
      Reviving services info fresh revived after ∧ revived.Pending [] := by
  have hKey : ∀ found, services.cryptKey world = some found → found = key := by
    intro found hFound
    exact Option.some.inj (hFound.symm.trans hUnlocked)
  have hRevives := h.reconnectEach hDependable hOpenable manager.registry.values hKey
  refine ⟨_, _, Prod.ext hRevives.ok rfl, hRevives.reviving, hRevives.settled ?_ ?_⟩
  · rw [hUnlocked]
    exact Option.some_ne_none key
  · -- every connection is registered, so it is among those that are gone through
    intro number connection hFound _ _
    exact SortedMap.mem_values_iff.mpr (h.listed number (List.getElem?_eq_some_iff.mp hFound).1)

/-- A snapshot of any manager is restored for a valid identity, once while the key is missing and
once while it is there, with the secrets that are then stored being opened by the key.  Both
restores succeed, and after the first one reconnecting with the key succeeds too, as long as
what was open is still open then; and both managers look alike. -/
theorem unlocked_like_restored (services : Services World) {info : ServerInfo}
    (hDependable : services.Dependable info) {config : ConsoleConfig} {origin : Manager}
    {saved : ManagerSnapshot} (hSaved : origin.snapshot config = some saved)
    {identity : ServerIdentity} (hValid : identity.fault? = none) {key : CryptKey}
    (hPassword : OpenedBy key ((new identity).takeOver services.config saved).password)
    (hTunnelPassword : OpenedBy key
      ((new identity).takeOver services.config saved).tunnelPassword)
    (locked ready : World) (hLocked : services.cryptKey locked = none)
    (hReady : services.cryptKey ready = some key) :
    ∃ waiting after direct done,
      (new identity).restore services saved locked = (.ok (), waiting, after) ∧
      (new identity).restore services saved ready = (.ok (), direct, done) ∧
      ∀ unlocked, services.Kept after unlocked → services.cryptKey unlocked = some key →
        ∃ revived final,
          waiting.restoreConnections services unlocked = (.ok (), revived, final) ∧
          SameView services revived final direct done := by
  have hOpenable : ((new identity).takeOver services.config saved).Openable key :=
    ⟨fun _ hTunnel => authentic_of_valid hValid hTunnel, hPassword, hTunnelPassword⟩
  obtain ⟨waiting, after, hWaiting, hReviving, -, hWaitingSound, hWaitingLasting⟩ :=
    restore_of_dependable hDependable hSaved hOpenable locked (by simp [hLocked])
  obtain ⟨direct, done, hDirect, hRevived, hSettled, hDirectSound, hDirectLasting⟩ :=
    restore_of_dependable hDependable hSaved hOpenable ready (by simp [hReady])
  refine ⟨waiting, after, direct, done, hWaiting, hDirect, ?_⟩
  intro unlocked hKept hUnlocked
  obtain ⟨revived, final, hReconnect, hFinal, hPending⟩ :=
    (hReviving.kept hKept).restoreConnections hDependable hOpenable hUnlocked
  have hSound := (hWaitingSound.perform services .restoreConnections unlocked).1
  have hLasting := lasting_reconnectEach services waiting.registry.values waiting unlocked
  have hSame : (reconnectEach services waiting.registry.values waiting unlocked).2.1 = revived :=
    congrArg (fun outcome => outcome.2.1) hReconnect
  rw [perform, hReconnect] at hSound
  rw [hSame] at hLasting
  refine ⟨revived, final, hReconnect, hFinal.sameView hPending hSound hRevived
    (hSettled (by simp [hReady])) hDirectSound ?_⟩
  intro key
  rw [hLasting, hWaitingLasting, hDirectLasting]

/-- The same for a server behind a bastion host whose login password has been stored since: without
the key the tunnel is opened and the connection left waiting. -/
theorem unlocked_like_restored_behind_bastion :
    let key : CryptKey := ⟨List.replicate 32 7⟩
    let secret : Secret :=
      ⟨List.replicate 12 1 ++
        [12, 61, 38, 186, 54, 241, 171, 241, 159, 57, 160, 47, 122, 194, 220, 174, 233, 201]⟩
    let services : Services (Option CryptKey) :=
      { config := { ConsoleConfig.standard "" "" with storeSecretsInSession := false }
        passfileText := fun _ => none, cryptKey := id, dial := fun _ world => (.ok 0, world)
        query := fun _ _ world =>
          (.ok [[("ver", some "PostgreSQL 16.2"), ("sversion", some "160002")]], world)
        cancel := fun _ world => (.ok (), world), close := fun _ world => world
        isClosed := fun _ _ => false, isActive := fun _ _ => true
        openTunnel := fun _ _ world => (.ok ⟨0, 50000⟩, world), stopTunnel := fun _ world => world }
    let identity : ServerIdentity :=
      { id := 1, name := "main", host := "db.internal", username := "app"
        password := some secret
        tunnel := some { host := "bastion", username := "ops" } }
    let origin := run services
      [(some key, .connection { database := some "app" }), (some key, .connect (.db "app") none),
        (some key, .connection { database := some "log" })] (.new { identity with password := none })
    ∃ saved, (origin.snapshot services.config = some saved ∧ identity.fault? = none ∧
        services.Dependable ⟨"PostgreSQL 16.2", 160002⟩) ∧
      ∃ waiting after direct done revived final,
        (new identity).restore services saved none = (.ok (), waiting, after) ∧
        (new identity).restore services saved (some key) = (.ok (), direct, done) ∧
        waiting.restoreConnections services (some key) = (.ok (), revived, final) ∧
        SameView services revived final direct done := by
  intro key secret services identity origin
  have hDependable : services.Dependable ⟨"PostgreSQL 16.2", 160002⟩ :=
    { dials := fun _ world => ⟨0, world, rfl, rfl, .refl services world⟩
      tells := fun _ world _ => ⟨_, world, rfl, rfl, .refl services world⟩
      opens := fun _ _ world => ⟨⟨0, 50000⟩, world, rfl, rfl, .refl services world⟩ }
  have hDecrypts : (secret.decrypt key).toOption = some "pw" := by decide +kernel
  have hPassword : OpenedBy key identity.password := by
    rintro _ ⟨⟩
    cases hDecrypt : secret.decrypt key with
    | ok text => exact ⟨text, rfl⟩
    | error _ =>
        rw [hDecrypt] at hDecrypts
        cases hDecrypts
  have hSnapshot : (origin.snapshot services.config).isSome = true := by decide +kernel
  have hValid : identity.fault? = none := by decide +kernel
  obtain ⟨saved, hSaved⟩ := Option.isSome_iff_exists.mp hSnapshot
  refine ⟨saved, ⟨hSaved, hValid, hDependable⟩, ?_⟩
  obtain ⟨waiting, after, direct, done, hWaiting, hDirect, hUnlock⟩ :=
    unlocked_like_restored services hDependable hSaved hValid hPassword
      (fun _ hNone => nomatch hNone) none (some key) rfl rfl
  obtain ⟨revived, final, hRevived, hSame⟩ :=
    hUnlock (some key) ⟨fun _ _ => rfl, fun _ _ => rfl⟩ rfl
  exact ⟨waiting, after, direct, done, revived, final, hWaiting, hDirect, hRevived, hSame⟩

end Manager

end PgConsole
