import PgConsole.Proofs.Manager.Invariant

namespace PgConsole

/-!
# How a restore ends

A restore takes the saved connections one by one.  It either comes through, with every attempt
successful or waiting for the decryption key, or it stops at the first attempt that fails in
another way and discards the connection of that attempt (`Manager.restoreEntries_case`).  Until
then it only adds to the registry.

When none of the saved connections is registered yet and the restore comes through, they are
registered with exactly what was saved of them, and exactly those that want it are attempted
(`Manager.restoreEntries_of_absent`).
-/

/-- The attempt has connected, or waits for the decryption key. -/
def Attempt.Tolerated {World : Type} (services : Services World) (attempt : Attempt World) : Prop :=
  (attempt.outcome services).1 = .ok () ∨ (attempt.outcome services).1 = .error .cryptKeyMissing

namespace Manager

variable {World : Type} (services : Services World)

@[simp] theorem connect_registry (number : Nat) (explicit : Option Secret) (manager : Manager)
    (world : World) :
    (manager.connect services number explicit world).2.1.registry = manager.registry := by
  have hCase := connect_case services number explicit manager world
  generalize manager.connect services number explicit world = outcome at hCase ⊢
  cases hCase <;> rfl

@[simp] theorem outcome_registry (attempt : Attempt World) :
    (attempt.outcome services).2.1.registry = attempt.manager.registry :=
  connect_registry services attempt.number attempt.explicit attempt.manager attempt.world

section View

variable {α : Type} {view : Manager → α}

/-- What no attempt changes, making sure of a connection does not change either. -/
theorem ensureConnected_view
    (hConnect : ∀ number explicit (manager : Manager) world,
      view (manager.connect services number explicit world).2.1 = view manager)
    (number : Nat) (manager : Manager) (world : World) :
    view (manager.ensureConnected services number world).2.1 = view manager := by
  unfold ensureConnected
  split
  · rfl
  · exact hConnect number none manager world

/-- Nor does reopening lost connections. -/
theorem reconnectEach_view
    (hConnect : ∀ number explicit (manager : Manager) world,
      view (manager.connect services number explicit world).2.1 = view manager)
    (numbers : List Nat) (manager : Manager) (world : World) :
    view (reconnectEach services numbers manager world).2.1 = view manager := by
  induction numbers generalizing manager world with
  | nil => rfl
  | cons number rest ih =>
      rw [reconnectEach]
      split
      · have hFirst := hConnect number none manager world
        split <;> rename_i hOutcome <;> rw [hOutcome] at hFirst
        · exact (ih _ _).trans hFirst
        · exact (ih _ _).trans hFirst
        · exact hFirst
      · exact ih manager world

end View

theorem register_get?_self (manager : Manager) (key : ConnectionKey) (database : String)
    (flags : ConnectionFlags) (wasConnected : Bool) :
    (manager.register key database flags wasConnected).2.registry.get? key =
      some (manager.register key database flags wasConnected).1 := by
  unfold register
  split
  · rename_i number hNumber
    exact hNumber
  · exact SortedMap.get?_insert_self ..

/-- Registering a connection moves no other. -/
theorem register_get?_of_some {manager : Manager} {other : ConnectionKey} {found : Nat}
    (hFound : manager.registry.get? other = some found) (key : ConnectionKey) (database : String)
    (flags : ConnectionFlags) (wasConnected : Bool) :
    (manager.register key database flags wasConnected).2.registry.get? other = some found := by
  unfold register
  split
  · exact hFound
  · rename_i hNone
    have hNe : key ≠ other := by
      rintro rfl
      rw [hFound] at hNone
      cases hNone
    exact (SortedMap.get?_insert_of_ne _ hNe _).trans hFound

/-- Discarding a registered connection takes its key away and closes its session. -/
theorem discard_of_some {key : ConnectionKey} {number : Nat} {manager : Manager}
    (hNumber : manager.registry.get? key = some number) (world : World) :
    ∃ connections, (manager.discard services key world).1 =
        { manager with connections, registry := manager.registry.erase key } ∧
      connections.length = manager.connections.length := by
  simp only [discard, hNumber]
  exact releaseConnection_frame services number
    { manager with registry := manager.registry.erase key } world

/-- The same after an attempt on the connection. -/
theorem discard_outcome {attempt : Attempt World} {key : ConnectionKey}
    (hKey : attempt.manager.registry.get? key = some attempt.number) :
    ∃ connections,
      ((attempt.outcome services).2.1.discard services key (attempt.outcome services).2.2).1 =
        { (attempt.outcome services).2.1 with
          connections, registry := attempt.manager.registry.erase key } := by
  rw [← outcome_registry services attempt] at hKey ⊢
  obtain ⟨connections, hDiscarded, -⟩ :=
    discard_of_some services hKey (attempt.outcome services).2.2
  exact ⟨connections, hDiscarded⟩

/-- The ways in which restoring saved connections can end. -/
inductive RestoreCase (entries : List (ConnectionKey × ConnectionSnapshot)) (manager : Manager)
    (world : World) : Prop where
  /-- Every connection is registered. -/
  | complete
      (hResult : (restoreEntries services entries manager world).1 = .ok ())
      (hAttempts : ∀ attempt ∈ restoreAttempts services entries manager world,
        attempt.Tolerated services)
      (hKept : ∀ {key number}, manager.registry.get? key = some number →
        (restoreEntries services entries manager world).2.1.registry.get? key = some number)
      (hAdded : ∀ entry ∈ entries, ∃ number,
        (restoreEntries services entries manager world).2.1.registry.get? entry.1 = some number) :
      RestoreCase entries manager world
  /-- The last attempt has failed, and its connection is discarded. -/
  | failed (earlier : List (Attempt World)) (attempt : Attempt World) (key : ConnectionKey)
      (error : Error)
      (hAttempts : restoreAttempts services entries manager world = earlier ++ [attempt])
      (hEarlier : ∀ attempt ∈ earlier, attempt.Tolerated services)
      (hError : (attempt.outcome services).1 = .error error)
      (hHard : error ≠ .cryptKeyMissing)
      (hKey : attempt.manager.registry.get? key = some attempt.number)
      (hKept : ∀ {key number}, manager.registry.get? key = some number →
        attempt.manager.registry.get? key = some number)
      (hResult : restoreEntries services entries manager world =
        (.error error,
          (attempt.outcome services).2.1.discard services key (attempt.outcome services).2.2)) :
      RestoreCase entries manager world

/-- What comes of the first entry when the rest is restored after it. -/
theorem RestoreCase.cons_of_tolerated {key : ConnectionKey} {saved : ConnectionSnapshot}
    {rest : List (ConnectionKey × ConnectionSnapshot)} {manager later : Manager}
    {world after : World} (first : List (Attempt World))
    (hRegistry : later.registry =
      (manager.register key saved.database saved.flags saved.wasConnected).2.registry)
    (hFirst : ∀ attempt ∈ first, attempt.Tolerated services)
    (hAttempts : restoreAttempts services ((key, saved) :: rest) manager world =
      first ++ restoreAttempts services rest later after)
    (hResult : restoreEntries services ((key, saved) :: rest) manager world =
      restoreEntries services rest later after)
    (h : RestoreCase services rest later after) :
    RestoreCase services ((key, saved) :: rest) manager world := by
  have hOld : ∀ {other number}, manager.registry.get? other = some number →
      later.registry.get? other = some number := by
    intro other number hFound
    rw [hRegistry]
    exact register_get?_of_some hFound key saved.database saved.flags saved.wasConnected
  cases h with
  | complete hOk hTolerated hKept hAdded =>
      refine .complete ?_ ?_ ?_ ?_
      · rw [hResult]
        exact hOk
      · intro attempt hMem
        rw [hAttempts] at hMem
        rcases List.mem_append.mp hMem with hMem | hMem
        · exact hFirst attempt hMem
        · exact hTolerated attempt hMem
      · intro other number hFound
        rw [hResult]
        exact hKept (hOld hFound)
      · intro entry hMem
        rw [hResult]
        rcases List.mem_cons.mp hMem with rfl | hMem
        · have hSelf := register_get?_self manager key saved.database saved.flags saved.wasConnected
          rw [← hRegistry] at hSelf
          exact ⟨_, hKept hSelf⟩
        · exact hAdded entry hMem
  | failed earlier attempt failedKey error hRest hEarlier hError hHard hKey hKept hFailed =>
      refine .failed (first ++ earlier) attempt failedKey error ?_ ?_ hError hHard hKey ?_ ?_
      · rw [hAttempts, hRest, List.append_assoc]
      · intro attempt hMem
        rcases List.mem_append.mp hMem with hMem | hMem
        · exact hFirst attempt hMem
        · exact hEarlier attempt hMem
      · intro other number hFound
        exact hKept (hOld hFound)
      · rw [hResult, hFailed]

theorem restoreEntries_case (entries : List (ConnectionKey × ConnectionSnapshot))
    (manager : Manager) (world : World) : RestoreCase services entries manager world := by
  induction entries generalizing manager world with
  | nil =>
      refine .complete rfl ?_ ?_ ?_
      · intro attempt hMem
        cases hMem
      · intro key number hFound
        exact hFound
      · intro entry hMem
        cases hMem
  | cons entry rest ih =>
      obtain ⟨key, saved⟩ := entry
      cases hRegister : manager.register key saved.database saved.flags saved.wasConnected with
      | mk number registered =>
          have hRegistered :
              (manager.register key saved.database saved.flags saved.wasConnected).2 = registered := by
            rw [hRegister]
          have hNumber : registered.registry.get? key = some number := by
            have hSelf := register_get?_self manager key saved.database saved.flags
              saved.wasConnected
            rwa [hRegister] at hSelf
          by_cases hSkip : (!(saved.wasConnected && saved.flags.autoReconnect) ||
              registered.isLive services world number) = true
          · refine (ih registered world).cons_of_tolerated services [] ?_ ?_ ?_ ?_
            · rw [hRegistered]
            · intro attempt hMem
              cases hMem
            · simp only [restoreAttempts, hRegister, if_pos hSkip, List.nil_append]
            · simp only [restoreEntries, hRegister, if_pos hSkip]
          · have hFirst : (⟨number, none, registered, world⟩ : Attempt World).outcome services =
                registered.connect services number none world := rfl
            have hSame := connect_registry services number none registered world
            cases hConnect : registered.connect services number none world with
            | mk result after =>
                obtain ⟨connected, later⟩ := after
                rw [hConnect] at hFirst hSame
                by_cases hTolerated : result = .ok () ∨ result = .error .cryptKeyMissing
                · refine (ih connected later).cons_of_tolerated services
                    [⟨number, none, registered, world⟩] ?_ ?_ ?_ ?_
                  · rw [hRegistered]
                    exact hSame
                  · intro attempt hMem
                    rw [List.mem_singleton.mp hMem, Attempt.Tolerated, hFirst]
                    exact hTolerated
                  · rcases hTolerated with rfl | rfl <;>
                      simp only [restoreAttempts, hRegister, if_neg hSkip, hConnect,
                        List.singleton_append]
                  · rcases hTolerated with rfl | rfl <;>
                      simp only [restoreEntries, hRegister, if_neg hSkip, hConnect]
                · cases result with
                  | ok _ => exact absurd (.inl rfl) hTolerated
                  | error error =>
                      have hHard : error ≠ .cryptKeyMissing := by
                        rintro rfl
                        exact hTolerated (.inr rfl)
                      refine .failed [] ⟨number, none, registered, world⟩ key error ?_ ?_ ?_ hHard
                        hNumber ?_ ?_
                      · simp only [restoreAttempts, hRegister, if_neg hSkip, hConnect,
                          List.nil_append]
                      · intro attempt hMem
                        cases hMem
                      · rw [hFirst]
                      · intro other found hFound
                        rw [← hRegistered]
                        exact register_get?_of_some hFound key saved.database saved.flags
                          saved.wasConnected
                      · simp only [restoreEntries, hRegister, if_neg hSkip, hConnect, hFirst]

end Manager

/-- What of a connection outlasts its session. -/
def Connection.lasting (connection : Connection) : String × ConnectionFlags × Bool :=
  (connection.database, connection.flags, connection.wasConnected)

/-- What a saved connection will last with. -/
def ConnectionSnapshot.lasting (saved : ConnectionSnapshot) : String × ConnectionFlags × Bool :=
  (saved.database, saved.flags, saved.wasConnected)

/-- The saved connection was connected and is to be so again. -/
def ConnectionSnapshot.wantsConnection (saved : ConnectionSnapshot) : Bool :=
  saved.wasConnected && saved.flags.autoReconnect

/-- The key of the connection that an attempt is for. -/
def Attempt.key? {World : Type} (attempt : Attempt World) : Option ConnectionKey :=
  (attempt.manager.connections[attempt.number]?).map Connection.key

namespace Manager

variable {World : Type} (services : Services World)

/-- A new connection starts unconnected, with what it is registered with. -/
theorem register_of_absent {manager : Manager} {key : ConnectionKey}
    (hAbsent : manager.registry.get? key = none) (database : String) (flags : ConnectionFlags)
    (wasConnected : Bool) :
    (manager.register key database flags wasConnected).2.connections[
        (manager.register key database flags wasConnected).1]? =
      some { key, database, flags, wasConnected } := by
  simp only [register, hAbsent, List.getElem?_concat_length]

theorem connectionAt?_register_self {manager : Manager} {key : ConnectionKey}
    (hAbsent : manager.registry.get? key = none) (database : String) (flags : ConnectionFlags)
    (wasConnected : Bool) :
    (manager.register key database flags wasConnected).2.connectionAt? key =
      some { key, database, flags, wasConnected } := by
  rw [connectionAt?, get?, register_get?_self, Option.bind_some]
  exact register_of_absent hAbsent database flags wasConnected

theorem connectionAt?_register_of_ne {manager : Manager} {key other : ConnectionKey}
    (hBound : ∀ {number : Nat}, manager.registry.get? other = some number →
      number < manager.connections.length)
    (hNe : key ≠ other) (database : String) (flags : ConnectionFlags) (wasConnected : Bool) :
    (manager.register key database flags wasConnected).2.connectionAt? other =
      manager.connectionAt? other := by
  unfold register
  split
  · rfl
  · simp only [connectionAt?, get?, SortedMap.get?_insert_of_ne _ hNe]
    cases hFound : manager.registry.get? other with
    | none => rfl
    | some number => exact List.getElem?_append_left (hBound hFound)

/-- An attempt changes nothing that lasts in a connection that has connected before. -/
theorem lasting_connect {manager : Manager} {number : Nat} {connection : Connection}
    (hFound : manager.connections[number]? = some connection)
    (hConnected : connection.wasConnected = true) (explicit : Option Secret) (world : World)
    (key : ConnectionKey) :
    ((manager.connect services number explicit world).2.1.connectionAt? key).map
        Connection.lasting =
      (manager.connectionAt? key).map Connection.lasting := by
  have hCase := connect_case services number explicit manager world
  generalize manager.connect services number explicit world = outcome at hCase ⊢
  cases hCase with
  | opened hSame =>
      rw [hFound] at hSame
      cases hSame
      simp only [connectionAt?, get?, adopt, setConnection]
      cases manager.registry.get? key with
      | none => rfl
      | some found =>
          simp only [Option.bind_some]
          -- only the attempted connection changes, and it keeps what lasts
          by_cases hNumber : number = found
          · subst hNumber
            obtain ⟨hBound, -⟩ := List.getElem?_eq_some_iff.mp hFound
            rw [List.getElem?_set_self hBound, hFound]
            simp only [Option.map_some, Connection.lasting, hConnected]
          · rw [List.getElem?_set_ne hNumber]
  | _ => rfl

/-- A version that is known stays known. -/
theorem serverInfo_connect {manager : Manager} {info : ServerInfo}
    (hInfo : manager.serverInfo = some info) (number : Nat) (explicit : Option Secret)
    (world : World) :
    (manager.connect services number explicit world).2.1.serverInfo = some info := by
  have hCase := connect_case services number explicit manager world
  generalize manager.connect services number explicit world = outcome at hCase ⊢
  cases hCase with
  | opened _ _ _ _ _ hLearned =>
      simp only [learnInfo, hInfo] at hLearned
      cases hLearned
      rfl
  | _ => exact hInfo

/-- A restore registers saved connections with exactly what was saved of them, and attempts
exactly those that want it. -/
structure Reproduces (entries : List (ConnectionKey × ConnectionSnapshot)) (manager : Manager)
    (world : World) : Prop where
  lasting : ∀ key,
    ((restoreEntries services entries manager world).2.1.connectionAt? key).map Connection.lasting =
      ((SortedMap.lookup key entries).map ConnectionSnapshot.lasting).or
        ((manager.connectionAt? key).map Connection.lasting)
  attempts : (restoreAttempts services entries manager world).map Attempt.key? =
    (entries.filter fun entry => entry.2.wantsConnection).map fun entry => some entry.1

/-- The first connection is reproduced when it is registered and the rest is reproduced after
it. -/
theorem Reproduces.cons {key : ConnectionKey} {saved : ConnectionSnapshot}
    {rest : List (ConnectionKey × ConnectionSnapshot)} {manager later : Manager}
    {world after : World} (hFirst : ∀ entry ∈ rest, key ≠ entry.1) (hSound : manager.Sound)
    (hKey : manager.registry.get? key = none)
    (hLater : ∀ other, (later.connectionAt? other).map Connection.lasting =
      ((manager.register key saved.database saved.flags saved.wasConnected).2.connectionAt?
        other).map Connection.lasting)
    (hResult : restoreEntries services ((key, saved) :: rest) manager world =
      restoreEntries services rest later after)
    (hAttempts : (restoreAttempts services ((key, saved) :: rest) manager world).map Attempt.key? =
      (if saved.wantsConnection then [some key] else []) ++
        (restoreAttempts services rest later after).map Attempt.key?)
    (h : Reproduces services rest later after) :
    Reproduces services ((key, saved) :: rest) manager world := by
  refine ⟨?_, ?_⟩
  · intro other
    rw [hResult, h.lasting other, hLater other, SortedMap.lookup]
    by_cases hSame : key = other
    · subst hSame
      have hNone : SortedMap.lookup key rest = none := SortedMap.lookup_eq_none hFirst
      rw [connectionAt?_register_self hKey, hNone, if_pos Std.ReflCmp.compare_self]
      rfl
    · have hOther : compare key other ≠ .eq := by
        intro hEqual
        exact hSame (Std.LawfulEqCmp.eq_of_compare hEqual)
      rw [connectionAt?_register_of_ne hSound.registered hSame, if_neg hOther]
  · rw [hAttempts, h.attempts, List.filter_cons]
    cases saved.wantsConnection <;> rfl

/-- Restoring connections that are not registered yet reproduces them if it comes through. -/
theorem restoreEntries_of_absent {entries : List (ConnectionKey × ConnectionSnapshot)}
    (hDistinct : entries.Pairwise fun earlier later => earlier.1 ≠ later.1) {manager : Manager}
    {world : World} (hSound : manager.Sound)
    (hAbsent : ∀ entry ∈ entries, manager.registry.get? entry.1 = none)
    (hOk : (restoreEntries services entries manager world).1 = .ok ()) :
    Reproduces services entries manager world := by
  induction entries generalizing manager world with
  | nil => exact ⟨fun _ => rfl, rfl⟩
  | cons entry rest ih =>
      obtain ⟨key, saved⟩ := entry
      obtain ⟨hFirst, hRest⟩ := List.pairwise_cons.mp hDistinct
      have hKey : manager.registry.get? key = none := hAbsent (key, saved) List.mem_cons_self
      have hNew := register_of_absent hKey saved.database saved.flags saved.wasConnected
      have hRegisteredSound := hSound.register key saved.database saved.flags saved.wasConnected
      have hStillAbsent : ∀ entry ∈ rest,
          (manager.register key saved.database saved.flags saved.wasConnected).2.registry.get?
            entry.1 = none := by
        intro entry hMem
        simp only [register, hKey]
        rw [SortedMap.get?_insert_of_ne _ (hFirst entry hMem)]
        exact hAbsent entry (List.mem_cons_of_mem _ hMem)
      have hCons := @Reproduces.cons World services key saved rest manager
      cases hRegister : manager.register key saved.database saved.flags saved.wasConnected with
      | mk number registered =>
          rw [hRegister] at hNew hRegisteredSound hStillAbsent hCons
          have hIdle : registered.isLive services world number = false := by
            simp only [isLive, hNew, Option.any_some, Connection.isLive, Option.any_none]
          rw [restoreEntries, hRegister] at hOk
          cases hWants : saved.wantsConnection with
          | false =>
              have hSkip : (!(saved.wasConnected && saved.flags.autoReconnect) ||
                  registered.isLive services world number) = true := by
                simp only [ConnectionSnapshot.wantsConnection] at hWants
                simp [hWants]
              simp only [if_pos hSkip] at hOk
              refine hCons hFirst hSound hKey (fun _ => rfl) ?_ ?_
                (ih hRest hRegisteredSound hStillAbsent hOk)
              · simp only [restoreEntries, hRegister, if_pos hSkip]
              · simp only [restoreAttempts, hRegister, if_pos hSkip, hWants, Bool.false_eq_true,
                  if_false, List.nil_append]
          | true =>
              have hAttempt : ¬(!(saved.wasConnected && saved.flags.autoReconnect) ||
                  registered.isLive services world number) = true := by
                simp only [ConnectionSnapshot.wantsConnection] at hWants
                simp [hWants, hIdle]
              have hConnected : saved.wasConnected = true := by
                simp only [ConnectionSnapshot.wantsConnection, Bool.and_eq_true] at hWants
                exact hWants.1
              have hLasting := lasting_connect services hNew hConnected none world
              have hSame := connect_registry services number none registered world
              have hConnectSound := hRegisteredSound.connect services number none world
              simp only [if_neg hAttempt] at hOk
              cases hConnect : registered.connect services number none world with
              | mk result outcome =>
                  obtain ⟨connected, after⟩ := outcome
                  rw [hConnect] at hLasting hSame hConnectSound hOk
                  have hLaterAbsent : ∀ entry ∈ rest, connected.registry.get? entry.1 = none := by
                    rw [hSame]
                    exact hStillAbsent
                  -- what is left to say does not depend on how the attempt was tolerated
                  have hTolerated : ∀ hResult : result = .ok () ∨ result = .error .cryptKeyMissing,
                      (restoreEntries services rest connected after).1 = .ok () →
                      Reproduces services ((key, saved) :: rest) manager world := by
                    intro hResult hRestOk
                    refine hCons hFirst hSound hKey hLasting ?_ ?_
                      (ih hRest hConnectSound hLaterAbsent hRestOk)
                    · rcases hResult with rfl | rfl <;>
                        simp only [restoreEntries, hRegister, if_neg hAttempt, hConnect]
                    · rcases hResult with rfl | rfl <;>
                        simp only [restoreAttempts, hRegister, if_neg hAttempt, hConnect, hWants,
                          if_true, List.map_cons, List.singleton_append, Attempt.key?, hNew,
                          Option.map_some]
                  cases result with
                  | ok _ => exact hTolerated (.inl rfl) hOk
                  | error error =>
                      cases error with
                      | cryptKeyMissing => exact hTolerated (.inr rfl) hOk
                      | _ => cases hOk

/-- A version that is known stays known through a restore. -/
theorem serverInfo_restoreEntries {info : ServerInfo}
    (entries : List (ConnectionKey × ConnectionSnapshot)) {manager : Manager}
    (hInfo : manager.serverInfo = some info) (world : World)
    (hOk : (restoreEntries services entries manager world).1 = .ok ()) :
    (restoreEntries services entries manager world).2.1.serverInfo = some info := by
  induction entries generalizing manager world with
  | nil => exact hInfo
  | cons entry rest ih =>
      obtain ⟨key, saved⟩ := entry
      have hRegistered :
          (manager.register key saved.database saved.flags saved.wasConnected).2.serverInfo =
            some info := by
        obtain ⟨connections, registry, hFrame⟩ :=
          register_frame key saved.database saved.flags saved.wasConnected manager
        rw [hFrame]
        exact hInfo
      rw [restoreEntries] at hOk ⊢
      cases hRegister : manager.register key saved.database saved.flags saved.wasConnected with
      | mk number registered =>
          rw [hRegister] at hRegistered hOk
          dsimp only at hRegistered hOk ⊢
          split at hOk
          · rename_i hSkip
            rw [if_pos hSkip]
            exact ih hRegistered world hOk
          · rename_i hAttempt
            rw [if_neg hAttempt]
            have hKnown := serverInfo_connect services hRegistered number none world
            cases hConnect : registered.connect services number none world with
            | mk result after =>
                obtain ⟨connected, later⟩ := after
                rw [hConnect] at hKnown hOk
                cases result with
                | ok _ => exact ih hKnown later hOk
                | error error =>
                    cases error with
                    | cryptKeyMissing => exact ih hKnown later hOk
                    | _ => cases hOk

end Manager

end PgConsole
