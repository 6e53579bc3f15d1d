import PgConsole.Proofs.Manager.TunnelFirst

namespace PgConsole

/-!
# Connection attempts are all or nothing

Four steps of an attempt can fail: the tunnel, the decryption of the password, the driver and
the query for the server version.  `Attempt.FailsWith` lists them with the driver calls made up
to the failure, and `Attempt.Opens` says what an attempt that gets through all of them has found
and stored.  `connect_all_or_nothing` puts the two together: a failed attempt leaves the manager
as it was except for the tunnel, a successful one calls the driver once and stores all that it
brought, and a connection that is open already is not attempted at all.

What becomes of a session that was opened and then failed the version query is not said here.
-/

namespace Attempt

variable {World : Type}

/-- The secret that an attempt goes by: the explicit one, or else the stored one. -/
def secret? (attempt : Attempt World) : Option Secret :=
  attempt.explicit.or attempt.manager.password

/-- The decryption of a secret, with the key at hand after the tunnel step. -/
def decryptStep (services : Services World) (attempt : Attempt World) (secret : Secret) :
    Except Error String :=
  secret.decryptWith (services.cryptKey (attempt.tunnelStep services).2.2)

/-- The driver call, which follows the tunnel step. -/
def dialStep (services : Services World) (attempt : Attempt World) (params : ConnectParams) :
    Except Error Nat × World :=
  services.dial params (attempt.tunnelStep services).2.2

/-- What the driver is called with. -/
structure Prepared (services : Services World) (attempt : Attempt World) (connection : Connection)
    (params : ConnectParams) : Prop where
  /-- The tunnel step gave the port, and all else is the identity's. -/
  tunnel : ∃ password port, (attempt.tunnelStep services).1 = .ok port ∧
    params = attempt.manager.attemptParams services connection password port
  /-- The password is the decryption of the secret. -/
  secret : ∀ secret, attempt.secret? = some secret →
    ∃ text, attempt.decryptStep services secret = .ok text ∧ params.password = some text
  /-- Without a secret it is the entry of the password file. -/
  passfile : attempt.secret? = none →
    params.password = ConnectParams.passfilePassword services.passfileText
      attempt.manager.identity connection.database

/-- The steps at which an attempt can fail, with the driver calls made up to then. -/
inductive FailsWith (services : Services World) (attempt : Attempt World)
    (connection : Connection) (error : Error) : List ConnectParams → Prop where
  | tunnel (hTunnel : (attempt.tunnelStep services).1 = .error error) :
      FailsWith services attempt connection error []
  | password {port : Option UInt16} {secret : Secret}
      (hTunnel : (attempt.tunnelStep services).1 = .ok port)
      (hSecret : attempt.secret? = some secret)
      (hDecrypt : attempt.decryptStep services secret = .error error) :
      FailsWith services attempt connection error []
  | driver {params : ConnectParams} (hPrepared : attempt.Prepared services connection params)
      (hDial : (attempt.dialStep services params).1 = .error error) :
      FailsWith services attempt connection error [params]
  /-- The server is asked for its version only while that is not known. -/
  | version {params : ConnectParams} {session : Nat}
      (hPrepared : attempt.Prepared services connection params)
      (hDial : (attempt.dialStep services params).1 = .ok session)
      (hUnknown : attempt.manager.serverInfo = none)
      (hInfo : (services.serverInfo session (attempt.dialStep services params).2).1 =
        .error error) :
      FailsWith services attempt connection error [params]

/-- What an attempt has found and stored when it has opened a session. -/
structure Opens (services : Services World) (attempt : Attempt World) (connection : Connection)
    (params : ConnectParams) (session : Nat) (info : ServerInfo) : Prop where
  prepared : attempt.Prepared services connection params
  dialled : (attempt.dialStep services params).1 = .ok session
  /-- A version that was known stays. -/
  known : ∀ known, attempt.manager.serverInfo = some known → info = known
  /-- A version that was not known is what the new session reports. -/
  learned : attempt.manager.serverInfo = none →
    (services.serverInfo session (attempt.dialStep services params).2).1 = .ok info
  manager : (attempt.outcome services).2.1 =
    { attempt.manager with
      connections := attempt.manager.connections.set attempt.number
        { connection with session := some session, wasConnected := true }
      serverInfo := some info
      password := attempt.secret?
      tunnel := (attempt.tunnelStep services).2.1 }

section Steps

variable {services : Services World} {attempt : Attempt World} {connection : Connection}

theorem secret?_of_attemptPassword_error {key? : Option CryptKey} {error : Error}
    (hPassword : attempt.manager.attemptPassword key? attempt.explicit = .error error) :
    ∃ secret, attempt.secret? = some secret ∧ secret.decryptWith key? = .error error := by
  unfold Manager.attemptPassword at hPassword
  split at hPassword
  · cases hPassword
  · rename_i secret hSecret
    refine ⟨secret, hSecret, ?_⟩
    cases hDecrypt : secret.decryptWith key? with
    | error cause =>
        rw [hDecrypt] at hPassword
        cases hPassword
        rfl
    | ok text =>
        rw [hDecrypt] at hPassword
        cases hPassword

/-- A password in clear text is the decryption of the secret, and there is none without one. -/
theorem secret?_of_attemptPassword_ok {key? : Option CryptKey} {password : Option String}
    (hPassword : attempt.manager.attemptPassword key? attempt.explicit = .ok password) :
    attempt.secret? = none ∧ password = none ∨
      ∃ secret text, attempt.secret? = some secret ∧ secret.decryptWith key? = .ok text ∧
        password = some text := by
  unfold Manager.attemptPassword at hPassword
  split at hPassword
  · rename_i hNone
    cases hPassword
    exact .inl ⟨hNone, rfl⟩
  · rename_i secret hSecret
    cases hDecrypt : secret.decryptWith key? with
    | error cause =>
        rw [hDecrypt] at hPassword
        cases hPassword
    | ok text =>
        rw [hDecrypt] at hPassword
        cases hPassword
        exact .inr ⟨secret, text, hSecret, hDecrypt, rfl⟩

/-- What the first two steps give is what the driver is called with. -/
theorem prepared_of_steps {port : Option UInt16} {password : Option String}
    {tunnel : TunnelController} {middle : World}
    (hTunnel : attempt.tunnelStep services = (.ok port, tunnel, middle))
    (hPassword : attempt.manager.attemptPassword (services.cryptKey middle) attempt.explicit =
      .ok password) :
    attempt.Prepared services connection
      (attempt.manager.attemptParams services connection password port) := by
  have hPort : (attempt.tunnelStep services).1 = .ok port := by rw [hTunnel]
  rcases secret?_of_attemptPassword_ok hPassword with
    ⟨hNone, rfl⟩ | ⟨secret, text, hSecret, hDecrypt, rfl⟩
  · refine ⟨⟨none, port, hPort, rfl⟩, ?_, fun _ => rfl⟩
    intro secret hSecret
    rw [hNone] at hSecret
    cases hSecret
  · refine ⟨⟨some text, port, hPort, rfl⟩, ?_, ?_⟩
    · intro other hOther
      rw [hSecret] at hOther
      cases hOther
      refine ⟨text, ?_, rfl⟩
      rw [decryptStep, hTunnel]
      exact hDecrypt
    · intro hNone
      rw [hSecret] at hNone
      cases hNone

theorem dialStep_eq {port : Option UInt16} {tunnel : TunnelController} {middle : World}
    {params : ConnectParams} {answer : Except Error Nat × World}
    (hTunnel : attempt.tunnelStep services = (.ok port, tunnel, middle))
    (hDial : services.dial params middle = answer) :
    attempt.dialStep services params = answer := by
  rw [dialStep, hTunnel]
  exact hDial

theorem serverInfo_of_learnInfo_error {manager : Manager} {session : Nat} {world after : World}
    {error : Error} (hInfo : manager.learnInfo services session world = (.error error, after)) :
    manager.serverInfo = none ∧ (services.serverInfo session world).1 = .error error := by
  unfold Manager.learnInfo at hInfo
  cases hKnown : manager.serverInfo with
  | some info =>
      rw [hKnown] at hInfo
      cases hInfo
  | none =>
      rw [hKnown] at hInfo
      exact ⟨rfl, congrArg Prod.fst hInfo⟩

theorem serverInfo_of_learnInfo_ok {manager : Manager} {session : Nat} {world after : World}
    {info : ServerInfo} (hInfo : manager.learnInfo services session world = (.ok info, after)) :
    (∀ known, manager.serverInfo = some known → info = known) ∧
      (manager.serverInfo = none → (services.serverInfo session world).1 = .ok info) := by
  unfold Manager.learnInfo at hInfo
  cases hKnown : manager.serverInfo with
  | some known =>
      rw [hKnown] at hInfo
      cases hInfo
      exact ⟨fun _ hSame => Option.some.inj hSame, fun hNone => nomatch hNone⟩
  | none =>
      rw [hKnown] at hInfo
      exact ⟨fun _ hSome => (nomatch hSome), fun _ => congrArg Prod.fst hInfo⟩

end Steps

section Recorded

variable {services : Services World} {attempt : Attempt (Recorded World)}
  {connection : Connection}

/-- An attempt that ends with its tunnel step has not called the driver. -/
theorem dialled_of_tunnelStep
    (hWorld : (attempt.outcome services.recorded).2.2 =
      (attempt.tunnelStep services.recorded).2.2) :
    dialled (attempt.calls services) = [] := by
  obtain ⟨calls, hCalls, hQuiet⟩ :=
    Manager.ensureTunnel_calls services attempt.manager attempt.world
  rw [calls_eq ((congrArg Recorded.calls hWorld).trans hCalls), hQuiet]

/-- An attempt that gets to the driver calls it once. -/
theorem dialled_of_dialStep {params : ConnectParams}
    (hApart : (attempt.dialStep services.recorded params).2.Apart
      (attempt.outcome services.recorded).2.2) :
    dialled (attempt.calls services) = [params] := by
  obtain ⟨tunnelCalls, hTunnelCalls, hQuiet⟩ :=
    Manager.ensureTunnel_calls services attempt.manager attempt.world
  obtain ⟨later, hLater, hDialled, -⟩ := hApart
  have hDial : (attempt.dialStep services.recorded params).2.calls =
      attempt.world.calls ++ tunnelCalls ++ [.dial params] := by
    rw [← hTunnelCalls]
    rfl
  have hCalls : attempt.calls services = tunnelCalls ++ [.dial params] ++ later :=
    calls_eq (by rw [hLater, hDial, List.append_assoc, List.append_assoc, List.append_assoc])
  rw [hCalls, dialled_append, dialled_append, hQuiet, hDialled]
  rfl

/-- What is known of an attempt that gets to the driver: what this was called with, what it
answered, and that it was called once. -/
theorem reaches_driver {port : Option UInt16} {password : Option String}
    {tunnel : TunnelController} {middle after : Recorded World} {answer : Except Error Nat}
    (hTunnel : attempt.tunnelStep services.recorded = (.ok port, tunnel, middle))
    (hPassword : attempt.manager.attemptPassword (services.recorded.cryptKey middle)
      attempt.explicit = .ok password)
    (hDial : services.recorded.dial
      (attempt.manager.attemptParams services.recorded connection password port) middle =
        (answer, after))
    (hApart : after.Apart (attempt.outcome services.recorded).2.2) :
    ∃ params, dialled (attempt.calls services) = [params] ∧
      attempt.Prepared services.recorded connection params ∧
      attempt.dialStep services.recorded params = (answer, after) := by
  have hDialStep := dialStep_eq hTunnel hDial
  refine ⟨_, dialled_of_dialStep ?_, prepared_of_steps hTunnel hPassword, hDialStep⟩
  rw [hDialStep]
  exact hApart

/-- A failed attempt has failed at one of the four steps, and changed nothing but the tunnel. -/
theorem failsWith_of_error {error : Error}
    (hFound : attempt.manager.connections[attempt.number]? = some connection)
    (hError : (attempt.outcome services.recorded).1 = .error error) :
    attempt.FailsWith services.recorded connection error (dialled (attempt.calls services)) ∧
      (attempt.outcome services.recorded).2.1 =
        { attempt.manager with tunnel := (attempt.tunnelStep services.recorded).2.1 } := by
  have hCase : Manager.ConnectCase services.recorded attempt.number attempt.explicit
      attempt.manager attempt.world (attempt.outcome services.recorded) :=
    Manager.connect_case _ _ _ _ _
  generalize hOutcome : attempt.outcome services.recorded = outcome at hCase hError ⊢
  cases hCase with
  | unknown hNone =>
      rw [hFound] at hNone
      cases hNone
  | live => cases hError
  | opened => cases hError
  | noTunnel hSame hIdle hTunnel =>
      cases hError
      have hStep : attempt.tunnelStep services.recorded = _ := hTunnel
      rw [dialled_of_tunnelStep (by rw [hOutcome, hStep]), hStep]
      exact ⟨.tunnel (by rw [hStep]), rfl⟩
  | noPassword hSame hIdle hTunnel hPassword =>
      cases hError
      have hStep : attempt.tunnelStep services.recorded = _ := hTunnel
      obtain ⟨secret, hSecret, hDecrypt⟩ := secret?_of_attemptPassword_error hPassword
      rw [dialled_of_tunnelStep (by rw [hOutcome, hStep]), hStep]
      refine ⟨.password (by rw [hStep]) hSecret ?_, rfl⟩
      rw [decryptStep, hStep]
      exact hDecrypt
  | @refused _ port password error tunnel middle after hSame hIdle hTunnel hPassword hDial =>
      cases hError
      cases hFound.symm.trans hSame
      have hStep : attempt.tunnelStep services.recorded = _ := hTunnel
      obtain ⟨params, hDialled, hPrepared, hDialStep⟩ :=
        reaches_driver hStep hPassword hDial (by rw [hOutcome]; exact .refl after)
      rw [hDialled, hStep]
      exact ⟨.driver hPrepared (by rw [hDialStep]), rfl⟩
  | @unversioned _ port password session error tunnel middle after final
      hSame hIdle hTunnel hPassword hDial hInfo =>
      cases hError
      cases hFound.symm.trans hSame
      have hStep : attempt.tunnelStep services.recorded = _ := hTunnel
      -- after the driver there is at most the query for the version
      have hApart := Manager.learnInfo_apart services session attempt.manager after
      rw [hInfo] at hApart
      obtain ⟨params, hDialled, hPrepared, hDialStep⟩ :=
        reaches_driver hStep hPassword hDial (by rw [hOutcome]; exact hApart)
      obtain ⟨hUnknown, hReported⟩ := serverInfo_of_learnInfo_error hInfo
      rw [hDialled, hStep]
      refine ⟨.version hPrepared (by rw [hDialStep]) hUnknown ?_, rfl⟩
      rw [hDialStep]
      exact hReported

/-- A successful attempt for an idle connection has called the driver once and stored all that
it brought. -/
theorem Idle.opens_of_ok (hIdle : attempt.Idle services.recorded)
    (hFound : attempt.manager.connections[attempt.number]? = some connection)
    (hOk : (attempt.outcome services.recorded).1 = .ok ()) :
    ∃ params session info, dialled (attempt.calls services) = [params] ∧
      attempt.Opens services.recorded connection params session info := by
  have hCase : Manager.ConnectCase services.recorded attempt.number attempt.explicit
      attempt.manager attempt.world (attempt.outcome services.recorded) :=
    Manager.connect_case _ _ _ _ _
  generalize hOutcome : attempt.outcome services.recorded = outcome at hCase hOk
  cases hCase with
  | unknown => cases hOk
  | noTunnel => cases hOk
  | noPassword => cases hOk
  | refused => cases hOk
  | unversioned => cases hOk
  | live hSame hLive =>
      obtain ⟨idle, hThere, hNotLive⟩ := hIdle
      cases hSame.symm.trans hThere
      rw [hLive] at hNotLive
      cases hNotLive
  | @opened _ port password session info tunnel middle after final
      hSame hNotLive hTunnel hPassword hDial hInfo =>
      cases hFound.symm.trans hSame
      have hStep : attempt.tunnelStep services.recorded = _ := hTunnel
      have hApart := Manager.learnInfo_apart services session attempt.manager after
      rw [hInfo] at hApart
      obtain ⟨params, hDialled, hPrepared, hDialStep⟩ :=
        reaches_driver hStep hPassword hDial (by rw [hOutcome]; exact hApart)
      obtain ⟨hKnown, hLearned⟩ := serverInfo_of_learnInfo_ok hInfo
      refine ⟨params, session, info, hDialled, hPrepared, by rw [hDialStep], hKnown, ?_, ?_⟩
      · rw [hDialStep]
        exact hLearned
      · rw [hOutcome, hStep]
        rfl

end Recorded

end Attempt

namespace Manager

variable {World : Type}

/-- Connecting is all or nothing.  A connection that holds an open session is left alone, with no
call to the outside.  An attempt that fails at the tunnel, at the decryption, at the driver or at
the version query leaves everything but the tunnel as it was.  An attempt that succeeds has called
the driver exactly once, with the decrypted secret or the entry of the password file, and stores
the session, the version and the explicit password. -/
theorem connect_all_or_nothing (services : Services World) (attempt : Attempt (Recorded World))
    {connection : Connection}
    (hFound : attempt.manager.connections[attempt.number]? = some connection) :
    (connection.isLive services.recorded attempt.world = true →
        attempt.outcome services.recorded = (.ok (), attempt.manager, attempt.world) ∧
          attempt.calls services = []) ∧
      (∀ error, (attempt.outcome services.recorded).1 = .error error →
        attempt.FailsWith services.recorded connection error
            (dialled (attempt.calls services)) ∧
          (attempt.outcome services.recorded).2.1 =
            { attempt.manager with tunnel := (attempt.tunnelStep services.recorded).2.1 }) ∧
      ((attempt.outcome services.recorded).1 = .ok () →
        connection.isLive services.recorded attempt.world = false →
        ∃ params session info, dialled (attempt.calls services) = [params] ∧
          attempt.Opens services.recorded connection params session info) := by
  refine ⟨?_, fun error hError => Attempt.failsWith_of_error hFound hError, ?_⟩
  · intro hLive
    have hOutcome : attempt.outcome services.recorded =
        (.ok (), attempt.manager, attempt.world) := by
      simp only [Attempt.outcome, connect, hFound, hLive, if_true]
    refine ⟨hOutcome, Attempt.calls_eq ?_⟩
    rw [hOutcome, List.append_nil]
  · intro hOk hNotLive
    exact Attempt.Idle.opens_of_ok ⟨connection, hFound, hNotLive⟩ hFound hOk

/-- The same for a server behind a bastion host.  While the server does not tell its version, the
driver gets the decrypted explicit password and nothing but the tunnel is kept; as soon as it does,
an attempt without a password goes by the password file, and session and version are kept. -/
theorem connect_undone_and_done_behind_bastion :
    let key : CryptKey := ⟨List.replicate 32 7⟩
    let secret : Secret :=
      ⟨List.replicate 12 1 ++
        [12, 61, 38, 186, 54, 241, 171, 241, 159, 57, 160, 47, 122, 194, 220, 174, 233, 201]⟩
    let services (rows : Except Error (List TextRow)) : Services Unit :=
      { Services.steady (.standard "" "") (.ok 7) rows (.ok ⟨0, 50000⟩) with
        passfileText := fun _ => some "*:*:*:*:filed", cryptKey := fun _ => some key }
    let silent := services (.ok [])
    let telling := services (.ok [[("ver", some "PostgreSQL 16.2"), ("sversion", some "160002")]])
    let identity : ServerIdentity :=
      { id := 1, name := "main", host := "db.internal", username := "app", passfile := some "p"
        tunnel := some { host := "bastion", username := "ops" } }
    let manager := ((new identity).register (.db "app") "app" {} false).2
    let explicit : Attempt (Recorded Unit) := ⟨0, some secret, manager, ⟨(), []⟩⟩
    let plain : Attempt (Recorded Unit) := ⟨0, none, manager, ⟨(), []⟩⟩
    manager.connections[0]? = some { key := .db "app", database := "app", flags := {} } ∧
      (∃ error, (explicit.outcome silent.recorded).1 = .error error ∧
        (dialled (explicit.calls silent)).map ConnectParams.password = [some "pw"] ∧
        (explicit.outcome silent.recorded).2.1 =
          { manager with tunnel := ⟨some ⟨0, 50000⟩, 50000, true⟩ }) ∧
      (plain.outcome telling.recorded).1 = .ok () ∧
      (dialled (plain.calls telling)).map ConnectParams.password = [some "filed"] ∧
      ∃ params session info, dialled (plain.calls telling) = [params] ∧
        plain.Opens telling.recorded { key := .db "app", database := "app", flags := {} }
          params session info := by
  intro key secret services silent telling identity manager explicit plain
  have hFound : manager.connections[0]? =
      some { key := .db "app", database := "app", flags := {} } := by decide +kernel
  obtain ⟨hNone, hDecrypted⟩ : (explicit.outcome silent.recorded).1.toOption = none ∧
      (dialled (explicit.calls silent)).map ConnectParams.password = [some "pw"] := by
    decide +kernel
  have hUndone : ∃ error, (explicit.outcome silent.recorded).1 = .error error := by
    cases hResult : (explicit.outcome silent.recorded).1 with
    | error error => exact ⟨error, rfl⟩
    | ok _ =>
        rw [hResult] at hNone
        cases hNone
  have hTunnel : (explicit.tunnelStep silent.recorded).2.1 = ⟨some ⟨0, 50000⟩, 50000, true⟩ := by
    decide +kernel
  have hFiled : (dialled (plain.calls telling)).map ConnectParams.password =
      [some "filed"] := by decide +kernel
  obtain ⟨error, hError⟩ := hUndone
  obtain ⟨-, hManager⟩ := (connect_all_or_nothing silent explicit hFound).2.1 error hError
  rw [hTunnel] at hManager
  exact ⟨hFound, ⟨error, hError, hDecrypted, hManager⟩, rfl, hFiled,
    (connect_all_or_nothing telling plain hFound).2.2 rfl rfl⟩

end Manager

end PgConsole
