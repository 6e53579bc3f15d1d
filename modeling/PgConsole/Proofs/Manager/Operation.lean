import PgConsole.Manager.Request
import PgConsole.Manager.Restore

namespace PgConsole

/-!
# Runs of a manager

`Operation` lists what callers can ask of a manager, `Manager.perform` does it and
`Manager.run` does one thing after the other.  The outside may change in any way between two
operations: every operation of a run comes with the world it finds.

Operations call `Manager.connect` in four places: directly, to look a database up, when a
snapshot is restored, and when lost connections are reopened.  `Manager.attempts` lists these
calls with the manager and the world they start from.  `Manager.Trace` ties the list to the
operation: everything else that it does is one of the quiet moves of `Manager.Quiet`, none of
which calls the driver.  An update replaces the identity, makes no attempt and stands apart.
Facts about runs are proved once for a connection attempt, once for each quiet move and once
for an update.
-/

/-- What callers ask of a manager. -/
inductive Operation where
  | update (identity : ServerIdentity)
  | connection (request : ConnectionRequest)
  /-- Connect what is registered under a key. -/
  | connect (key : ConnectionKey) (explicit : Option Secret)
  | release (request : ReleaseRequest)
  | restore (snapshot : ManagerSnapshot)
  | restoreConnections
  deriving DecidableEq, Repr

theorem Operation.update_or_other (operation : Operation) :
    (∃ identity, operation = .update identity) ∨ ∀ identity, operation ≠ .update identity := by
  cases operation with
  | update identity => exact .inl ⟨identity, rfl⟩
  | _ =>
      refine .inr ?_
      intro identity hUpdate
      cases hUpdate

/-- A call of `Manager.connect`, with the manager and the world it starts from. -/
structure Attempt (World : Type) where
  number : Nat
  explicit : Option Secret
  manager : Manager
  world : World

/-- An outside that never changes and always gives the same answers. -/
def Services.steady (config : ConsoleConfig) (session : Except Error Nat)
    (rows : Except Error (List TextRow)) (tunnel : Except Error TunnelHandle) : Services Unit where
  config
  passfileText _ := none
  cryptKey _ := none
  dial _ world := (session, world)
  query _ _ world := (rows, world)
  cancel _ world := (.ok (), world)
  close _ world := world
  isClosed _ _ := false
  openTunnel _ _ world := (tunnel, world)
  isActive _ _ := true
  stopTunnel _ world := world

namespace Manager

variable {World : Type}

/-- Do what a caller asks for; the result says whether it failed. -/
def perform (services : Services World) (operation : Operation) (manager : Manager)
    (world : World) : Except Error Unit × Manager × World :=
  match operation with
  | .update identity => (.ok (), manager.update services identity world)
  | .connection request =>
    match manager.connection services request world with
    | (.ok _, manager, world) => (.ok (), manager, world)
    | (.error error, manager, world) => (.error error, manager, world)
  | .connect key explicit =>
    match manager.get? key with
    | some number => manager.connect services number explicit world
    | none => (.ok (), manager, world)
  | .release request => (.ok (), (manager.release services request world).2)
  | .restore snapshot => manager.restore services snapshot world
  | .restoreConnections => manager.restoreConnections services world

/-- One operation after the other, each in the world it finds. -/
def run (services : Services World) (steps : List (World × Operation)) (manager : Manager) :
    Manager :=
  steps.foldl (fun manager step => (manager.perform services step.2 step.1).2.1) manager

/-- A manager that some run of a new manager leads to. -/
def Reachable (services : Services World) (manager : Manager) : Prop :=
  ∃ identity steps, run services steps (.new identity) = manager

/-- The connection registered under a key. -/
def connectionAt? (manager : Manager) (key : ConnectionKey) : Option Connection :=
  (manager.get? key).bind fun number => manager.connections[number]?

/-- The attempts of a restore: `restoreEntries` with its calls of `connect` listed. -/
def restoreAttempts (services : Services World) :
    List (ConnectionKey × ConnectionSnapshot) → Manager → World → List (Attempt World)
  | [], _, _ => []
  | (key, saved) :: rest, manager, world =>
    let (number, manager) := manager.register key saved.database saved.flags saved.wasConnected
    if !(saved.wasConnected && saved.flags.autoReconnect) ||
        manager.isLive services world number then
      restoreAttempts services rest manager world
    else
      ⟨number, none, manager, world⟩ ::
        match manager.connect services number none world with
        | (.ok (), manager, world) => restoreAttempts services rest manager world
        | (.error .cryptKeyMissing, manager, world) => restoreAttempts services rest manager world
        | (.error _, _, _) => []

/-- The attempts of reopening lost connections. -/
def reconnectAttempts (services : Services World) :
    List Nat → Manager → World → List (Attempt World)
  | [], _, _ => []
  | number :: rest, manager, world =>
    if (manager.connections[number]?).any (wantsReconnect services world) then
      ⟨number, none, manager, world⟩ ::
        match manager.connect services number none world with
        | (.ok (), manager, world) => reconnectAttempts services rest manager world
        | (.error .cryptKeyMissing, manager, world) => reconnectAttempts services rest manager world
        | (.error _, _, _) => []
    else reconnectAttempts services rest manager world

/-- The attempts of looking a database up by its oid. -/
def lookupAttempts (services : Services World) (request : ConnectionRequest) (manager : Manager)
    (world : World) : List (Attempt World) :=
  match request.database, request.oid with
  | none, some oid =>
    match manager.databases.get? oid, manager.identity.maintenanceDatabase with
    | none, some maintenance =>
      let (number, manager) := manager.register (.db maintenance) maintenance {} false
      if manager.isLive services world number then [] else [⟨number, none, manager, world⟩]
    | _, _ => []
  | _, _ => []

/-- The calls of `connect` that an operation makes, in order. -/
def attempts (services : Services World) (operation : Operation) (manager : Manager)
    (world : World) : List (Attempt World) :=
  match operation with
  | .update _ => []
  | .connection request => manager.lookupAttempts services request world
  | .connect key explicit =>
    match manager.get? key with
    | some number => [⟨number, explicit, manager, world⟩]
    | none => []
  | .release _ => []
  | .restore snapshot =>
    match snapshot.checkVersion, snapshot.entries with
    | .ok (), .ok entries =>
      restoreAttempts services entries (manager.takeOver services.config snapshot) world
    | _, _ => []
  | .restoreConnections => reconnectAttempts services manager.registry.values manager world

/-- What an operation other than an update does besides connecting. -/
inductive Quiet (services : Services World) : Manager → World → Manager → World → Prop where
  | release (request : ReleaseRequest) {manager : Manager} {world : World} :
      Quiet services manager world (manager.release services request world).2.1
        (manager.release services request world).2.2
  | register (key : ConnectionKey) (database : String) (flags : ConnectionFlags)
      (wasConnected : Bool) {manager : Manager} {world : World} :
      Quiet services manager world (manager.register key database flags wasConnected).2 world
  | rename (oid : UInt32) (name : String) {manager : Manager} {world : World} :
      Quiet services manager world (manager.renameDatabase oid name) world
  | remember (oid : UInt32) (info : DatabaseInfo) {manager : Manager} {world : World} :
      Quiet services manager world
        { manager with databases := manager.databases.insert oid info } world
  | execute (number : Nat) (sql : String) {manager : Manager} {world : World} :
      Quiet services manager world manager (manager.execute services number sql world).2
  | checkTunnel (host : String) {manager : Manager} {world : World} :
      Quiet services manager world
        { manager with tunnel := (manager.tunnel.checkAlive services host world).2 } world
  | touch {manager : Manager} {world : World} :
      Quiet services manager world { manager with touched := true } world
  | takeOver (snapshot : ManagerSnapshot) {manager : Manager} {world : World} :
      Quiet services manager world (manager.takeOver services.config snapshot) world
  | discard (key : ConnectionKey) {manager : Manager} {world : World} :
      Quiet services manager world (manager.discard services key world).1
        (manager.discard services key world).2

/-- Attempts and quiet moves, one after the other, with the attempts listed. -/
inductive Trace (services : Services World) :
    Manager → World → List (Attempt World) → Manager → World → Prop where
  | done {manager : Manager} {world : World} : Trace services manager world [] manager world
  | quiet {first second third : Manager} {start middle final : World}
      {attempts : List (Attempt World)} (hMove : Quiet services first start second middle)
      (hRest : Trace services second middle attempts third final) :
      Trace services first start attempts third final
  | attempt {first third : Manager} {start final : World} {attempts : List (Attempt World)}
      (number : Nat) (explicit : Option Secret)
      (hRest : Trace services (first.connect services number explicit start).2.1
        (first.connect services number explicit start).2.2 attempts third final) :
      Trace services first start (⟨number, explicit, first, start⟩ :: attempts) third final

end Manager

/-- What an attempt comes to. -/
def Attempt.outcome {World : Type} (services : Services World) (attempt : Attempt World) :
    Except Error Unit × Manager × World :=
  attempt.manager.connect services attempt.number attempt.explicit attempt.world

namespace Manager

variable {World : Type}

section Traces

variable {services : Services World}

theorem Trace.of_quiet {first second : Manager} {start final : World}
    (hMove : Quiet services first start second final) :
    Trace services first start [] second final :=
  .quiet hMove .done

theorem Trace.of_attempt (manager : Manager) (world : World) (number : Nat)
    (explicit : Option Secret) :
    Trace services manager world [⟨number, explicit, manager, world⟩]
      (manager.connect services number explicit world).2.1
      (manager.connect services number explicit world).2.2 :=
  .attempt number explicit .done

theorem Trace.append {first second third : Manager} {start middle final : World}
    {earlier later : List (Attempt World)} (hFirst : Trace services first start earlier second middle)
    (hSecond : Trace services second middle later third final) :
    Trace services first start (earlier ++ later) third final := by
  induction hFirst with
  | done => exact hSecond
  | quiet hMove _ ih => exact .quiet hMove (ih hSecond)
  | attempt number explicit _ ih => exact .attempt number explicit (ih hSecond)

theorem Trace.andThen {first second third : Manager} {start middle final : World}
    {attempts : List (Attempt World)} (hFirst : Trace services first start attempts second middle)
    (hSecond : Trace services second middle [] third final) :
    Trace services first start attempts third final := by
  simpa using hFirst.append hSecond

/-- What every quiet move and every attempt keeps holds at the end of a trace and at the
start of each of its attempts. -/
theorem Trace.invariant (Holds : Manager → Prop)
    (hQuiet : ∀ {first second : Manager} {start final : World},
      Quiet services first start second final → Holds first → Holds second)
    (hConnect : ∀ (manager : Manager) (number : Nat) (explicit : Option Secret) (world : World),
      Holds manager → Holds (manager.connect services number explicit world).2.1)
    {first last : Manager} {start final : World} {attempts : List (Attempt World)}
    (hTrace : Trace services first start attempts last final) (hFirst : Holds first) :
    Holds last ∧ ∀ attempt ∈ attempts, Holds attempt.manager := by
  induction hTrace with
  | done => simpa using hFirst
  | quiet hMove _ ih => exact ih (hQuiet hMove hFirst)
  | attempt number explicit _ ih =>
      obtain ⟨hLast, hRest⟩ := ih (hConnect _ number explicit _ hFirst)
      refine ⟨hLast, ?_⟩
      intro attempt hMem
      rcases List.mem_cons.mp hMem with rfl | hMem
      · exact hFirst
      · exact hRest attempt hMem

end Traces

section Decomposition

variable (services : Services World)

theorem trace_restoreEntries (entries : List (ConnectionKey × ConnectionSnapshot))
    (manager : Manager) (world : World) :
    Trace services manager world (restoreAttempts services entries manager world)
      (restoreEntries services entries manager world).2.1
      (restoreEntries services entries manager world).2.2 := by
  induction entries generalizing manager world with
  | nil => exact .done
  | cons entry rest ih =>
      obtain ⟨key, saved⟩ := entry
      refine .quiet (.register key saved.database saved.flags saved.wasConnected) ?_
      rw [restoreEntries, restoreAttempts]
      cases hRegister : manager.register key saved.database saved.flags saved.wasConnected with
      | mk number registered =>
          by_cases hSkip : (!(saved.wasConnected && saved.flags.autoReconnect) ||
              registered.isLive services world number) = true
          · simp only [if_pos hSkip]
            exact ih registered world
          · simp only [if_neg hSkip]
            refine .attempt number none ?_
            cases hConnect : registered.connect services number none world with
            | mk result after =>
                obtain ⟨connected, later⟩ := after
                cases result with
                | ok _ => exact ih connected later
                | error error =>
                    -- any other failure ends the restore with a discard
                    cases error with
                    | cryptKeyMissing => exact ih connected later
                    | _ => exact .of_quiet (.discard key)

theorem trace_reconnectEach (numbers : List Nat) (manager : Manager) (world : World) :
    Trace services manager world (reconnectAttempts services numbers manager world)
      (reconnectEach services numbers manager world).2.1
      (reconnectEach services numbers manager world).2.2 := by
  induction numbers generalizing manager world with
  | nil => exact .done
  | cons number rest ih =>
      rw [reconnectEach, reconnectAttempts]
      by_cases hWanted : (manager.connections[number]?).any (wantsReconnect services world) = true
      · simp only [if_pos hWanted]
        refine .attempt number none ?_
        cases hConnect : manager.connect services number none world with
        | mk result after =>
            obtain ⟨connected, later⟩ := after
            cases result with
            | ok _ => exact ih connected later
            | error error =>
                cases error with
                | cryptKeyMissing => exact ih connected later
                | _ => exact .done
      · simp only [if_neg hWanted]
        exact ih manager world

theorem trace_ensureConnected (number : Nat) (manager : Manager) (world : World) :
    Trace services manager world
      (if manager.isLive services world number then [] else [⟨number, none, manager, world⟩])
      (ensureConnected services number manager world).2.1
      (ensureConnected services number manager world).2.2 := by
  rw [ensureConnected]
  by_cases hLive : manager.isLive services world number = true
  · simp only [if_pos hLive]
    exact .done
  · simp only [if_neg hLive]
    exact .of_attempt manager world number none

theorem trace_fetchDatabase (number : Nat) (oid : UInt32) (manager : Manager) (world : World) :
    Trace services manager world
      (if manager.isLive services world number then [] else [⟨number, none, manager, world⟩])
      (fetchDatabase services number oid manager world).2.1
      (fetchDatabase services number oid manager world).2.2 := by
  have hEnsure := trace_ensureConnected services number manager world
  unfold fetchDatabase
  cases hConnected : manager.ensureConnected services number world with
  | mk result after =>
      obtain ⟨connected, middle⟩ := after
      rw [hConnected] at hEnsure
      cases result with
      | error _ => exact hEnsure
      | ok _ =>
          cases hInfo : connected.requireInfo with
          | error _ =>
              simp only [hInfo]
              exact hEnsure
          | ok info =>
              -- no further attempt: a statement, and its row remembered if there is one
              refine hEnsure.andThen ?_
              simp only [hInfo]
              refine .quiet (.execute number (databaseQuery oid info.number)) ?_
              cases hRows : connected.execute services number (databaseQuery oid info.number)
                  middle with
              | mk rows final =>
                  cases rows with
                  | error _ => exact .done
                  | ok rows =>
                      cases hFound : rows.head?.bind DatabaseInfo.ofRow? with
                      | none =>
                          simp only [hFound]
                          exact .done
                      | some found =>
                          simp only [hFound]
                          exact .of_quiet (.remember oid found)

theorem trace_resolveDatabase (request : ConnectionRequest) (manager : Manager) (world : World) :
    Trace services manager world (lookupAttempts services request manager world)
      (resolveDatabase services request manager world).2.1
      (resolveDatabase services request manager world).2.2 := by
  unfold resolveDatabase lookupAttempts
  cases request.database with
  | some name =>
      cases request.oid with
      | some oid => exact .of_quiet (.rename oid name)
      | none => exact .done
  | none =>
      cases request.oid with
      | none => exact .done
      | some oid =>
          cases hFound : manager.databases.get? oid with
          | some info =>
              simp only [hFound]
              exact .done
          | none =>
              cases manager.identity.maintenanceDatabase with
              | none =>
                  simp only [hFound]
                  exact .done
              | some maintenance =>
                  simp only [hFound]
                  refine .quiet (.register (.db maintenance) maintenance {} false) ?_
                  cases hRegister : manager.register (.db maintenance) maintenance {} false with
                  | mk number registered =>
                      have hFetch := trace_fetchDatabase services number oid registered world
                      cases hResult : registered.fetchDatabase services number oid world with
                      | mk result after =>
                          obtain ⟨fetched, final⟩ := after
                          rw [hResult] at hFetch
                          cases result <;> exact hFetch

theorem trace_noDatabase (request : ConnectionRequest) (manager : Manager) (world : World) :
    Trace services manager world [] (noDatabase services request manager world).2 world := by
  unfold noDatabase
  cases hHost : tunnelHost? services.config manager.identity with
  | none => exact .done
  | some host =>
      have hCheck : Quiet services manager world _ world := .checkTunnel host
      cases hAlive : manager.tunnel.checkAlive services host world with
      | mk result tunnel =>
          rw [hAlive] at hCheck
          simp only [hAlive]
          cases result <;> exact .of_quiet hCheck

theorem trace_connection (request : ConnectionRequest) (manager : Manager) (world : World) :
    Trace services manager world (lookupAttempts services request manager world)
      (connection services request manager world).2.1
      (connection services request manager world).2.2 := by
  have hResolve := trace_resolveDatabase services request manager world
  unfold connection
  cases hResult : manager.resolveDatabase services request world with
  | mk result after =>
      obtain ⟨resolved, middle⟩ := after
      rw [hResult] at hResolve
      cases result with
      | error _ => exact hResolve
      | ok database? =>
          refine hResolve.andThen ?_
          by_cases hLocked : (resolved.hasSecrets && (services.cryptKey middle).isNone) = true
          · simp only [if_pos hLocked]
            exact .done
          · simp only [if_neg hLocked]
            cases database? with
            | none => exact trace_noDatabase services request resolved middle
            | some database =>
                exact .quiet (.register _ database request.flags false) (.of_quiet .touch)

/-- An operation other than an update consists of its attempts and quiet moves. -/
theorem trace_perform {operation : Operation}
    (hOperation : ∀ identity, operation ≠ .update identity) (manager : Manager) (world : World) :
    Trace services manager world (attempts services operation manager world)
      (perform services operation manager world).2.1
      (perform services operation manager world).2.2 := by
  cases operation with
  | update identity => exact absurd rfl (hOperation identity)
  | connection request =>
      have hTrace := trace_connection services request manager world
      simp only [perform, attempts]
      split <;> rename_i hResult <;> rw [hResult] at hTrace <;> exact hTrace
  | connect key explicit =>
      simp only [perform, attempts]
      cases hKey : manager.get? key with
      | none => exact .done
      | some number => exact .of_attempt manager world number explicit
  | release request => exact .of_quiet (.release request)
  | restore snapshot =>
      simp only [perform, attempts, restore]
      cases snapshot.checkVersion with
      | error _ => exact .done
      | ok _ =>
          cases snapshot.entries with
          | error _ => exact .done
          | ok entries => exact .quiet (.takeOver snapshot) (trace_restoreEntries services entries _ world)
  | restoreConnections => exact trace_reconnectEach services manager.registry.values manager world

end Decomposition

end Manager

end PgConsole
