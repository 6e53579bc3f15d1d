import PgConsole.Proofs.Manager.Registry
import PgConsole.Proofs.SnapshotJson

namespace PgConsole

/-!
# How far a failed restore has come

A restore visits the saved connections one by one.  A visit registers the connection and may
attempt to connect it; `Manager.visit_case` lists the three ways in which it can end.  A restore
that fails has passed the entries before some entry, and stops there (`Manager.exists_stop`): it is
as if nothing stood after that entry.

`Manager.Passed` says what the passed entries leave behind: their keys are registered, and a
connection is touched by the visits under its own key only.  `restore_stops_at_one_entry` puts this
together with the visit that fails, which takes its own key out of the registry and nothing else.
-/

/-- The snapshot is too new, or one of its connections has a text that is no key. -/
def ManagerSnapshot.Unreadable (snapshot : ManagerSnapshot) : Prop :=
  snapshotVersion < snapshot.version ∨
    ∃ text ∈ snapshot.connections.keys, ∃ cause, ConnectionKey.parse text = .error cause

namespace ManagerSnapshot

/-- A text that is no key spoils all entries. -/
theorem parseEntries_of_bad {stored : List (String × ConnectionSnapshot)} {text : String}
    {cause : KeyError} (hMem : text ∈ stored.map Prod.fst)
    (hBad : ConnectionKey.parse text = .error cause) : ∃ error, parseEntries stored = .error error := by
  induction stored with
  | nil => cases hMem
  | cons first rest ih =>
      obtain ⟨name, saved⟩ := first
      rw [parseEntries]
      cases hName : ConnectionKey.parse name with
      | error other => exact ⟨badKey other, rfl⟩
      | ok key =>
          rcases List.mem_cons.mp hMem with rfl | hRest
          · rw [hBad] at hName
            cases hName
          · obtain ⟨error, hError⟩ := ih hRest
            simp only [hError]
            exact ⟨error, rfl⟩

theorem exists_parseEntries {stored : List (String × ConnectionSnapshot)}
    (hGood : ∀ text ∈ stored.map Prod.fst, ∀ cause, ConnectionKey.parse text ≠ .error cause) :
    ∃ entries, parseEntries stored = .ok entries := by
  induction stored with
  | nil => exact ⟨[], rfl⟩
  | cons first rest ih =>
      obtain ⟨name, saved⟩ := first
      obtain ⟨entries, hEntries⟩ := ih fun text hMem => hGood text (List.mem_cons_of_mem _ hMem)
      rw [parseEntries]
      cases hName : ConnectionKey.parse name with
      | error cause => exact absurd hName (hGood name List.mem_cons_self cause)
      | ok key =>
          simp only [hEntries]
          exact ⟨(key, saved) :: entries, rfl⟩

/-- A snapshot that is not unreadable has entries, and is not too new for them. -/
theorem exists_entries_of_readable {snapshot : ManagerSnapshot} (h : ¬snapshot.Unreadable) :
    snapshot.checkVersion = .ok () ∧ ∃ entries, snapshot.entries = .ok entries := by
  constructor
  · refine checkSnapshotVersion_eq_ok_iff.mpr (UInt32.not_lt.mp ?_)
    exact fun hNewer => h (.inl hNewer)
  · refine exists_parseEntries ?_
    intro text hMem cause hBad
    exact h (.inr ⟨text, hMem, cause, hBad⟩)

end ManagerSnapshot

namespace Manager

variable {World : Type} {services : Services World}

/-- An unreadable snapshot is refused before anything happens. -/
theorem restore_of_unreadable {snapshot : ManagerSnapshot} (h : snapshot.Unreadable)
    (manager : Manager) (world : World) :
    ∃ error, manager.restore services snapshot world = (.error error, manager, world) := by
  unfold restore
  cases hCheck : snapshot.checkVersion with
  | error error => exact ⟨error, rfl⟩
  | ok _ =>
      rcases h with hNewer | ⟨text, hMem, cause, hBad⟩
      · rw [ManagerSnapshot.checkVersion, checkSnapshotVersion_of_lt hNewer] at hCheck
        cases hCheck
      · obtain ⟨error, hError⟩ := ManagerSnapshot.parseEntries_of_bad hMem hBad
        simp only [ManagerSnapshot.entries, hError]
        exact ⟨error, rfl⟩

/-! ## One visit -/

/-- The ways in which the visit of a saved connection can end. -/
inductive VisitCase (services : Services World) (key : ConnectionKey) (saved : ConnectionSnapshot)
    (manager : Manager) (world : World) : Except Error Unit × Manager × World → Prop where
  /-- The connection is registered and there is nothing to attempt. -/
  | settled {number : Nat} {registered : Manager}
      (hRegister : manager.register key saved.database saved.flags saved.wasConnected =
        (number, registered)) :
      VisitCase services key saved manager world (.ok (), registered, world)
  /-- The attempt has succeeded, or waits for the decryption key. -/
  | attempted {number : Nat} {registered connected : Manager} {after : World}
      {result : Except Error Unit}
      (hRegister : manager.register key saved.database saved.flags saved.wasConnected =
        (number, registered))
      (hConnect : registered.connect services number none world = (result, connected, after))
      (hTolerated : result = .ok () ∨ result = .error .cryptKeyMissing) :
      VisitCase services key saved manager world (.ok (), connected, after)
  /-- The attempt has failed, and the connection is discarded. -/
  | refused {number : Nat} {registered connected : Manager} {after : World} {error : Error}
      (hRegister : manager.register key saved.database saved.flags saved.wasConnected =
        (number, registered))
      (hIdle : registered.isLive services world number = false)
      (hConnect : registered.connect services number none world = (.error error, connected, after))
      (hHard : error ≠ .cryptKeyMissing) :
      VisitCase services key saved manager world
        (.error error, connected.discard services key after)

theorem visit_case (services : Services World) (key : ConnectionKey) (saved : ConnectionSnapshot)
    (manager : Manager) (world : World) :
    VisitCase services key saved manager world
      (restoreEntries services [(key, saved)] manager world) := by
  rw [restoreEntries]
  cases hRegister : manager.register key saved.database saved.flags saved.wasConnected with
  | mk number registered =>
      by_cases hSkip : (!(saved.wasConnected && saved.flags.autoReconnect) ||
          registered.isLive services world number) = true
      · simp only [if_pos hSkip]
        exact .settled hRegister
      · simp only [if_neg hSkip]
        cases hConnect : registered.connect services number none world with
        | mk result after =>
            obtain ⟨connected, later⟩ := after
            cases result with
            | ok _ => exact .attempted hRegister hConnect (.inl rfl)
            | error error =>
                by_cases hMissing : error = .cryptKeyMissing
                · subst hMissing
                  exact .attempted hRegister hConnect (.inr rfl)
                · have hIdle : registered.isLive services world number = false := by
                    rw [Bool.or_eq_true, not_or, Bool.not_eq_true] at hSkip
                    simpa using hSkip.2
                  have hRefused : VisitCase services key saved manager world
                      (.error error, connected.discard services key later) :=
                    .refused hRegister hIdle hConnect hMissing
                  cases error with
                  | cryptKeyMissing => exact absurd rfl hMissing
                  | _ => exact hRefused

/-! ## Visits one after the other -/

/-- The rest is visited after a visit that comes through; a visit that fails is the last one. -/
theorem restoreEntries_cons (entry : ConnectionKey × ConnectionSnapshot)
    (rest : List (ConnectionKey × ConnectionSnapshot)) (manager : Manager) (world : World) :
    restoreEntries services (entry :: rest) manager world =
      match restoreEntries services [entry] manager world with
      | (.ok _, next, later) => restoreEntries services rest next later
      | (.error error, final, last) => (.error error, final, last) := by
  obtain ⟨key, saved⟩ := entry
  simp only [restoreEntries]
  cases manager.register key saved.database saved.flags saved.wasConnected with
  | mk number registered =>
      dsimp only
      split
      · rfl
      · cases registered.connect services number none world with
        | mk result after =>
            obtain ⟨connected, reached⟩ := after
            cases result with
            | ok _ => rfl
            | error error => cases error <;> rfl

/-- The same for several entries. -/
theorem restoreEntries_append (before rest : List (ConnectionKey × ConnectionSnapshot))
    (manager : Manager) (world : World) :
    restoreEntries services (before ++ rest) manager world =
      match restoreEntries services before manager world with
      | (.ok _, next, later) => restoreEntries services rest next later
      | (.error error, final, last) => (.error error, final, last) := by
  induction before generalizing manager world with
  | nil => rfl
  | cons entry before ih =>
      rw [List.cons_append, restoreEntries_cons, restoreEntries_cons entry before]
      cases restoreEntries services [entry] manager world with
      | mk result after =>
          cases result with
          | ok _ => exact ih after.1 after.2
          | error error => rfl

/-- Entries that have been passed were passed in two parts. -/
theorem restoreEntries_split {first second : List (ConnectionKey × ConnectionSnapshot)}
    {manager final : Manager} {world last : World}
    (hPassed : restoreEntries services (first ++ second) manager world = (.ok (), final, last)) :
    ∃ middle between, restoreEntries services first manager world = (.ok (), middle, between) ∧
      restoreEntries services second middle between = (.ok (), final, last) := by
  rw [restoreEntries_append] at hPassed
  cases hFirst : restoreEntries services first manager world with
  | mk result after =>
      rw [hFirst] at hPassed
      cases result with
      | ok _ => exact ⟨after.1, after.2, rfl, hPassed⟩
      | error error => cases hPassed

/-- A restore that fails has passed some entries and stops at the next one. -/
theorem exists_stop {entries : List (ConnectionKey × ConnectionSnapshot)} {manager final : Manager}
    {world last : World} {error : Error}
    (hFailed : restoreEntries services entries manager world = (.error error, final, last)) :
    ∃ before entry after visited reached, entries = before ++ entry :: after ∧
      restoreEntries services before manager world = (.ok (), visited, reached) ∧
      restoreEntries services [entry] visited reached = (.error error, final, last) := by
  induction entries generalizing manager world with
  | nil => cases hFailed
  | cons entry rest ih =>
      cases hVisit : restoreEntries services [entry] manager world with
      | mk result after =>
          obtain ⟨next, later⟩ := after
          rw [restoreEntries_cons, hVisit] at hFailed
          cases result with
          -- the first entry is passed, and the rest stops where it stops
          | ok _ =>
              obtain ⟨before, stop, after, visited, reached, rfl, hBefore, hStop⟩ := ih hFailed
              refine ⟨entry :: before, stop, after, visited, reached, rfl, ?_, hStop⟩
              rw [restoreEntries_cons, hVisit]
              exact hBefore
          | error other =>
              cases hFailed
              exact ⟨[], entry, rest, manager, world, rfl, rfl, hVisit⟩

/-! ## What the passed entries leave -/

/-- What visits leave that have come through.  Every connection of the registry is still there, and
those under other keys than the visited ones are as they were. -/
structure Passed (entries : List (ConnectionKey × ConnectionSnapshot)) (before after : Manager) :
    Prop where
  keyed : after.Keyed
  keys : ∀ key, key ∈ after.keys ↔ key ∈ before.keys ∨ key ∈ entries.map Prod.fst
  elsewhere : ∀ key, key ∉ entries.map Prod.fst →
    after.connectionAt? key = before.connectionAt? key
  continues : ∀ key connection, before.connectionAt? key = some connection →
    ∃ later, after.connectionAt? key = some later ∧ connection.Continues later

theorem Passed.refl {manager : Manager} (hKeyed : manager.Keyed) : Passed [] manager manager :=
  ⟨hKeyed, by simp, fun _ _ => rfl, fun _ connection hFound =>
    ⟨connection, hFound, .refl connection⟩⟩

theorem Passed.append {first second : List (ConnectionKey × ConnectionSnapshot)}
    {start middle final : Manager} (h : Passed first start middle)
    (h' : Passed second middle final) : Passed (first ++ second) start final := by
  refine ⟨h'.keyed, ?_, ?_, ?_⟩
  · intro key
    rw [h'.keys, h.keys, List.map_append, List.mem_append, or_assoc]
  · intro key hKey
    rw [List.map_append, List.mem_append, not_or] at hKey
    exact (h'.elsewhere key hKey.2).trans (h.elsewhere key hKey.1)
  · intro key connection hFound
    obtain ⟨between, hBetween, hFirst⟩ := h.continues key connection hFound
    obtain ⟨later, hLater, hSecond⟩ := h'.continues key between hBetween
    exact ⟨later, hLater, hFirst.trans hSecond⟩

theorem mem_keys_register {manager : Manager} {key other : ConnectionKey} {database : String}
    {flags : ConnectionFlags} {wasConnected : Bool} :
    other ∈ (manager.register key database flags wasConnected).2.keys ↔
      other ∈ manager.keys ∨ other = key := by
  rw [keys, keys, SortedMap.mem_keys_iff, SortedMap.mem_keys_iff]
  by_cases hKey : key = other
  · subst hKey
    rw [register_get?_self]
    simp
  · rw [get?_register_of_ne manager hKey]
    simp [Ne.symm hKey]

theorem passed_register {manager : Manager} (hKeyed : manager.Keyed) (key : ConnectionKey)
    (saved : ConnectionSnapshot) :
    Passed [(key, saved)] manager
      (manager.register key saved.database saved.flags saved.wasConnected).2 := by
  refine ⟨hKeyed.register key saved.database saved.flags saved.wasConnected, ?_, ?_, ?_⟩
  · intro other
    rw [mem_keys_register]
    simp
  · intro other hOther
    have hNe : key ≠ other := by
      rintro rfl
      simp at hOther
    exact hKeyed.connectionAt?_register hNe saved.database saved.flags saved.wasConnected
  · intro other connection hFound
    exact connectionAt?_of_onward
      (advances_register key saved.database saved.flags saved.wasConnected manager).onward
      (fun hNumber => register_get?_of_some hNumber key saved.database saved.flags
        saved.wasConnected) hFound

/-- An attempt on a connection that has just been visited touches no other. -/
theorem Passed.connect {entries : List (ConnectionKey × ConnectionSnapshot)}
    {start registered : Manager} (h : Passed entries start registered) {key : ConnectionKey}
    {number : Nat} (hNumber : registered.registry.get? key = some number)
    (hKey : key ∈ entries.map Prod.fst) (services : Services World) (world : World) :
    Passed entries start (registered.connect services number none world).2.1 := by
  refine ⟨h.keyed.connect number none world, ?_, ?_, ?_⟩
  · intro other
    rw [Manager.keys, connect_registry]
    exact h.keys other
  · intro other hOther
    have hNe : key ≠ other := by
      rintro rfl
      exact hOther hKey
    exact (h.keyed.connectionAt?_connect hNumber hNe none world).trans (h.elsewhere other hOther)
  · intro other connection hFound
    obtain ⟨between, hBetween, hFirst⟩ := h.continues other connection hFound
    obtain ⟨later, hLater, hSecond⟩ := connectionAt?_of_onward
      (advances_connect services number none registered world).onward
      (fun hSame => (connect_registry services number none registered world).symm ▸ hSame) hBetween
    exact ⟨later, hLater, hFirst.trans hSecond⟩

theorem get?_of_register {manager registered : Manager} {key : ConnectionKey} {number : Nat}
    {database : String} {flags : ConnectionFlags} {wasConnected : Bool}
    (hRegister : manager.register key database flags wasConnected = (number, registered)) :
    registered.registry.get? key = some number := by
  have hSelf := register_get?_self manager key database flags wasConnected
  rwa [hRegister] at hSelf

theorem passed_visit {entry : ConnectionKey × ConnectionSnapshot} {manager next : Manager}
    {world later : World} (hKeyed : manager.Keyed)
    (hVisit : restoreEntries services [entry] manager world = (.ok (), next, later)) :
    Passed [entry] manager next := by
  obtain ⟨key, saved⟩ := entry
  have hRegistered := passed_register hKeyed key saved
  have hCase := visit_case services key saved manager world
  rw [hVisit] at hCase
  generalize hOutcome : ((.ok (), next, later) : Except Error Unit × Manager × World) = outcome
    at hCase
  cases hCase with
  | settled hRegister =>
      cases hOutcome
      rwa [hRegister] at hRegistered
  | attempted hRegister hConnect _ =>
      cases hOutcome
      rw [hRegister] at hRegistered
      have hConnected := hRegistered.connect (get?_of_register hRegister) (by simp) services world
      rwa [hConnect] at hConnected
  | refused => cases hOutcome

theorem passed_restoreEntries {entries : List (ConnectionKey × ConnectionSnapshot)}
    {manager next : Manager} {world later : World} (hKeyed : manager.Keyed)
    (hPassed : restoreEntries services entries manager world = (.ok (), next, later)) :
    Passed entries manager next := by
  induction entries generalizing manager world with
  | nil =>
      cases hPassed
      exact .refl hKeyed
  | cons entry rest ih =>
      cases hVisit : restoreEntries services [entry] manager world with
      | mk result after =>
          obtain ⟨visited, reached⟩ := after
          rw [restoreEntries_cons, hVisit] at hPassed
          cases result with
          | ok _ =>
              have hFirst := passed_visit hKeyed hVisit
              exact hFirst.append (ih hFirst.keyed hPassed)
          | error error => cases hPassed

/-- A connection that is new to the registry is registered with what was saved of it. -/
theorem visit_of_absent {key : ConnectionKey} {saved : ConnectionSnapshot} {manager next : Manager}
    {world later : World} (hAbsent : key ∉ manager.keys)
    (hVisit : restoreEntries services [(key, saved)] manager world = (.ok (), next, later)) :
    ∃ connection, next.connectionAt? key = some connection ∧
      connection.database = saved.database ∧ connection.flags = saved.flags := by
  have hNone : manager.registry.get? key = none := by
    rw [keys, SortedMap.mem_keys_iff, not_exists] at hAbsent
    exact Option.eq_none_iff_forall_ne_some.mpr hAbsent
  have hNew := connectionAt?_register_self hNone saved.database saved.flags saved.wasConnected
  have hCase := visit_case services key saved manager world
  rw [hVisit] at hCase
  generalize hOutcome : ((.ok (), next, later) : Except Error Unit × Manager × World) = outcome
    at hCase
  cases hCase with
  | settled hRegister =>
      cases hOutcome
      rw [hRegister] at hNew
      exact ⟨_, hNew, rfl, rfl⟩
  | @attempted number registered connected after result hRegister hConnect _ =>
      cases hOutcome
      rw [hRegister] at hNew
      have hSame := connect_registry services number none registered world
      have hOnward := (advances_connect services number none registered world).onward
      rw [hConnect] at hSame hOnward
      obtain ⟨connection, hFound, hContinues⟩ := connectionAt?_of_onward hOnward
        (fun hNumber => hSame.symm ▸ hNumber) hNew
      exact ⟨connection, hFound, hContinues.database, hContinues.flags⟩
  | refused => cases hOutcome

/-! ## The visit that fails -/

/-- What a visit leaves that fails: its key is gone, and the others are as they were. -/
structure Rejected (services : Services World) (key : ConnectionKey) (before : Manager)
    (world : World) (error : Error) (after : Manager) : Prop where
  hard : error ≠ .cryptKeyMissing
  keys : ∀ other, other ∈ after.keys ↔ other ∈ before.keys ∧ other ≠ key
  elsewhere : ∀ other, other ≠ key → after.connectionAt? other = before.connectionAt? other
  idle : ∀ connection, before.connectionAt? key = some connection →
    connection.isLive services world = false

theorem rejected_visit {key : ConnectionKey} {saved : ConnectionSnapshot} {manager final : Manager}
    {world last : World} {error : Error} (hKeyed : manager.Keyed)
    (hVisit : restoreEntries services [(key, saved)] manager world = (.error error, final, last)) :
    Rejected services key manager world error final := by
  have hRegistered := passed_register hKeyed key saved
  have hCase := visit_case services key saved manager world
  rw [hVisit] at hCase
  generalize hOutcome : ((.error error, final, last) : Except Error Unit × Manager × World) =
    outcome at hCase
  cases hCase with
  | settled => cases hOutcome
  | attempted => cases hOutcome
  | @refused number registered connected after failure hRegister hIdle hConnect hHard =>
      obtain ⟨hFailure, hDiscarded⟩ := Prod.mk.inj hOutcome
      cases hFailure
      rw [hRegister] at hRegistered
      have hNumber := get?_of_register hRegister
      have hConnected := hRegistered.connect hNumber (by simp) services world
      have hSame := connect_registry services number none registered world
      rw [hConnect] at hConnected hSame
      have hFinal : (connected.discard services key after).1 = final := by
        rw [← hDiscarded]
      refine ⟨hHard, ?_, ?_, ?_⟩
      · intro other
        obtain ⟨connections, hFrame, -⟩ := discard_of_some services (hSame.symm ▸ hNumber) after
        rw [← hFinal, hFrame, Manager.keys, SortedMap.mem_keys_iff]
        by_cases hOther : other = key
        · subst hOther
          simp
        · rw [SortedMap.get?_erase_of_ne _ hOther, ← SortedMap.mem_keys_iff]
          have hKeys := hConnected.keys other
          simp only [List.map_cons, List.map_nil, List.mem_singleton, hOther, or_false] at hKeys
          rw [Manager.keys] at hKeys
          simp [hKeys, hOther]
      · intro other hOther
        rw [← hFinal, hConnected.keyed.connectionAt?_discard (Ne.symm hOther) after]
        refine hConnected.elsewhere other ?_
        simpa using hOther
      · -- what was registered before is what the attempt has found idle
        intro connection hFound
        obtain ⟨found, hRegistry, hPlace⟩ := Option.bind_eq_some_iff.mp hFound
        have hOld : manager.registry.get? key = some found := hRegistry
        simp only [register, hOld] at hRegister
        cases hRegister
        rw [isLive, hPlace] at hIdle
        exact hIdle

/-! ## The restore as a whole -/

/-- What a restore has come to once it has visited the given entries. -/
def restoreSoFar (services : Services World) (snapshot : ManagerSnapshot)
    (visited : List (ConnectionKey × ConnectionSnapshot)) (manager : Manager) (world : World) :
    Except Error Unit × Manager × World :=
  restoreEntries services visited (manager.takeOver services.config snapshot) world

/-- A restore has passed some entries and failed at the next one. -/
structure StoppedAt (services : Services World) (snapshot : ManagerSnapshot) (manager : Manager)
    (world : World) (before : List (ConnectionKey × ConnectionSnapshot))
    (entry : ConnectionKey × ConnectionSnapshot) (outcome : Except Error Unit × Manager × World) :
    Prop where
  passed : (manager.restoreSoFar services snapshot before world).1 = .ok ()
  /-- What stands after the entry makes no difference to the outcome, calls included. -/
  unvisited : ∀ after,
    manager.restoreSoFar services snapshot (before ++ entry :: after) world = outcome
  keys : ∀ key, key ∈ outcome.2.1.keys ↔
    (key ∈ manager.keys ∨ key ∈ before.map Prod.fst) ∧ key ≠ entry.1
  /-- If an earlier entry has the same key, no open session is lost with it. -/
  idle : ∀ connection,
    (manager.restoreSoFar services snapshot before world).2.1.connectionAt? entry.1 =
      some connection →
    connection.isLive services (manager.restoreSoFar services snapshot before world).2.2 = false
  /-- An earlier entry's connection has the flags and the session that its visit gave it, unless
  its key was visited again. -/
  kept : ∀ first key saved second, before = first ++ (key, saved) :: second → key ≠ entry.1 →
    ∃ obtained final,
      (manager.restoreSoFar services snapshot (first ++ [(key, saved)]) world).2.1.connectionAt?
        key = some obtained ∧
      outcome.2.1.connectionAt? key = some final ∧ obtained.Continues final ∧
      (key ∉ second.map Prod.fst → final = obtained) ∧
      (key ∉ manager.keys → key ∉ first.map Prod.fst →
        final.database = saved.database ∧ final.flags = saved.flags)
  /-- What was registered before and is not mentioned is as it was. -/
  others : ∀ key, key ∉ before.map Prod.fst → key ≠ entry.1 →
    outcome.2.1.connectionAt? key = manager.connectionAt? key

/-- The connection of an entry that has been passed, right after its visit and after the others. -/
theorem kept_of_passed {first second : List (ConnectionKey × ConnectionSnapshot)}
    {key : ConnectionKey} {saved : ConnectionSnapshot} {manager visited : Manager}
    {world reached : World} (hKeyed : manager.Keyed)
    (hPassed : restoreEntries services (first ++ (key, saved) :: second) manager world =
      (.ok (), visited, reached)) :
    ∃ obtained final,
      (restoreEntries services (first ++ [(key, saved)]) manager world).2.1.connectionAt? key =
        some obtained ∧
      visited.connectionAt? key = some final ∧ obtained.Continues final ∧
      (key ∉ second.map Prod.fst → final = obtained) ∧
      (key ∉ manager.keys → key ∉ first.map Prod.fst →
        final.database = saved.database ∧ final.flags = saved.flags) := by
  -- the entries before it, its own visit, and the entries after it
  rw [List.append_cons] at hPassed
  obtain ⟨middle, between, hMiddle, hSecond⟩ := restoreEntries_split hPassed
  obtain ⟨earlier, moment, hFirst, hVisit⟩ := restoreEntries_split hMiddle
  have hEarlier := passed_restoreEntries hKeyed hFirst
  have hVisited := passed_visit hEarlier.keyed hVisit
  have hLater := passed_restoreEntries hVisited.keyed hSecond
  have hRegistered : key ∈ middle.keys := (hVisited.keys key).mpr (.inr (by simp))
  obtain ⟨number, hNumber⟩ := SortedMap.mem_keys_iff.mp hRegistered
  obtain ⟨obtained, -, hObtained, -⟩ := hVisited.keyed.connectionAt?_eq_some hNumber
  obtain ⟨final, hFinal, hContinues⟩ := hLater.continues key obtained hObtained
  refine ⟨obtained, final, ?_, hFinal, hContinues, ?_, ?_⟩
  · rw [hMiddle]
    exact hObtained
  · intro hOnce
    have hSame := hLater.elsewhere key hOnce
    rw [hFinal, hObtained] at hSame
    exact Option.some.inj hSame
  · intro hNew hFirstVisit
    have hAbsent : key ∉ earlier.keys := by
      rw [hEarlier.keys]
      exact not_or.mpr ⟨hNew, hFirstVisit⟩
    obtain ⟨fresh, hFresh, hDatabase, hFlags⟩ := visit_of_absent hAbsent hVisit
    rw [hObtained] at hFresh
    cases hFresh
    exact ⟨hContinues.database.trans hDatabase, hContinues.flags.trans hFlags⟩

theorem stoppedAt_of_visit {snapshot : ManagerSnapshot} {manager visited final : Manager}
    {world reached last : World} {before : List (ConnectionKey × ConnectionSnapshot)}
    {entry : ConnectionKey × ConnectionSnapshot} {error : Error} (hKeyed : manager.Keyed)
    (hBefore : manager.restoreSoFar services snapshot before world = (.ok (), visited, reached))
    (hStop : restoreEntries services [entry] visited reached = (.error error, final, last)) :
    StoppedAt services snapshot manager world before entry (.error error, final, last) := by
  obtain ⟨failed, wanted⟩ := entry
  have hStart : (manager.takeOver services.config snapshot).Keyed := ⟨hKeyed.leads⟩
  have hPassed := passed_restoreEntries hStart hBefore
  have hRejected := rejected_visit hPassed.keyed hStop
  refine ⟨by rw [hBefore], ?_, ?_, ?_, ?_, ?_⟩
  · intro after
    rw [restoreSoFar] at hBefore ⊢
    rw [restoreEntries_append, hBefore]
    exact (restoreEntries_cons _ after visited reached).trans (by rw [hStop])
  · intro key
    rw [hRejected.keys, hPassed.keys]
    rfl
  · rw [hBefore]
    exact hRejected.idle
  · rintro first key saved second rfl hKey
    obtain ⟨obtained, kept, hObtained, hKept, hContinues, hOnce, hNew⟩ := kept_of_passed hStart hBefore
    refine ⟨obtained, kept, hObtained, ?_, hContinues, hOnce, hNew⟩
    rw [hRejected.elsewhere key hKey]
    exact hKept
  · intro key hVisited hKey
    exact (hRejected.elsewhere key hKey).trans (hPassed.elsewhere key hVisited)

/-- A snapshot that is too new or has a text that is no key is refused, and nothing changes.
Otherwise a restore that comes through has registered every entry; one that fails has passed some
entries and failed at the next one, with another error than a missing key.  Then the registry has
the old keys and the passed ones, less the key of the entry that failed, nothing that stands after
that entry has been visited, and the connections of the passed entries have the flags and the
sessions that their visits gave them.

Whatever callers do leaves the manager keyed (`Arisen.keyed`). -/
theorem restore_stops_at_one_entry {manager : Manager} (hKeyed : manager.Keyed)
    (snapshot : ManagerSnapshot) (world : World) :
    let outcome := manager.restore services snapshot world
    (snapshot.Unreadable → ∃ error, outcome = (.error error, manager, world)) ∧
      (¬snapshot.Unreadable → ∃ entries, snapshot.entries = .ok entries ∧
        (outcome.1 = .ok () → ∀ entry ∈ entries, entry.1 ∈ outcome.2.1.keys) ∧
        ∀ error, outcome.1 = .error error → error ≠ .cryptKeyMissing ∧
          ∃ before entry after, entries = before ++ entry :: after ∧
            StoppedAt services snapshot manager world before entry outcome) := by
  intro outcome
  refine ⟨fun hUnreadable => restore_of_unreadable hUnreadable manager world, ?_⟩
  intro hReadable
  obtain ⟨hCheck, entries, hEntries⟩ := ManagerSnapshot.exists_entries_of_readable hReadable
  have hStart : (manager.takeOver services.config snapshot).Keyed := ⟨hKeyed.leads⟩
  have hOutcome : restoreEntries services entries (manager.takeOver services.config snapshot)
      world = outcome := by
    simp only [outcome, restore, hCheck, hEntries]
  refine ⟨entries, hEntries, ?_, ?_⟩
  · intro hOk entry hMem
    obtain ⟨result, final, last⟩ := outcome
    cases hOk
    refine ((passed_restoreEntries hStart hOutcome).keys entry.1).mpr (.inr ?_)
    exact List.mem_map_of_mem hMem
  · intro error hError
    obtain ⟨result, final, last⟩ := outcome
    cases hError
    obtain ⟨before, entry, after, visited, reached, hSplit, hBefore, hStop⟩ := exists_stop hOutcome
    have hRejected := rejected_visit (passed_restoreEntries hStart hBefore).keyed hStop
    exact ⟨hRejected.hard, before, entry, after, hSplit, stoppedAt_of_visit hKeyed hBefore hStop⟩

/-- Three saved connections, the second of which the driver refuses, restored into a manager that
has a connection of its own: the first one is left beside it, connected. -/
theorem restore_stopped_at_refused_database :
    let services : Services Unit :=
      { Services.steady (.standard "" "") (.ok 0) (.ok []) (.ok ⟨0, 50000⟩) with
        dial := fun params world =>
          if params.database = "beta" then
            (.error (.connection "could not connect to database beta" false), world)
          else (.ok 0, world) }
    let identity : ServerIdentity :=
      { id := 1, name := "main", host := "db.internal", username := "app" }
    let manager := interactAll services [((), .connection { database := some "zeta" })]
      (.new identity)
    let snapshot : ManagerSnapshot :=
      { version := 1, server := 1, versionText := "PostgreSQL 16.2", versionNumber := 160002
        password := none, tunnelPassword := none
        connections := .ofList [("DB:alpha", ⟨none, "alpha", {}, true⟩),
          ("DB:beta", ⟨none, "beta", {}, true⟩), ("DB:gamma", ⟨none, "gamma", {}, true⟩)] }
    let outcome := manager.restore services snapshot ()
    outcome.1.isOk = false ∧ outcome.2.1.keys = [.db "alpha", .db "zeta"] ∧
      ∃ before entry after, snapshot.entries = .ok (before ++ entry :: after) ∧
        StoppedAt services snapshot manager () before entry outcome := by
  intro services identity manager snapshot outcome
  have hKeyed : manager.Keyed := ((Arisen.new identity).interactAll _).keyed
  have hFailed : outcome.1.isOk = false := by decide +kernel
  have hReadable : ¬snapshot.Unreadable := by
    rintro (hNewer | ⟨text, hMem, cause, hBad⟩)
    · exact absurd hNewer (by decide)
    · have hEntries : snapshot.entries.isOk = true := by decide +kernel
      obtain ⟨error, hSpoiled⟩ := ManagerSnapshot.parseEntries_of_bad hMem hBad
      rw [ManagerSnapshot.entries, hSpoiled] at hEntries
      cases hEntries
  obtain ⟨entries, hEntries, -, hStops⟩ :=
    (restore_stops_at_one_entry hKeyed snapshot ()).2 hReadable
  refine ⟨hFailed, by decide +kernel, ?_⟩
  cases hResult : outcome.1 with
  | ok _ =>
      rw [hResult] at hFailed
      cases hFailed
  | error error =>
      obtain ⟨-, before, entry, after, rfl, hStopped⟩ := hStops error hResult
      exact ⟨before, entry, after, hEntries, hStopped⟩

end Manager

end PgConsole
