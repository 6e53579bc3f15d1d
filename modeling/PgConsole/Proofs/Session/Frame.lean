import PgConsole.Proofs.Session.Store

namespace PgConsole.Session

/-!
# What a session leaves alone in its store

A session shares one stored value with servers that are not loaded in it.  `Action` lists what a
request does with a session and its store, and `Situation.run` does one thing after the other.

Persisting writes exactly the loaded servers: `Persisted` says what is in the store afterwards.
Removing a server touches no other one.  A stored value that cannot be read is never replaced.
From this, by induction on runs: a server that is neither loaded nor removed keeps its stored
snapshot (`Situation.untouched_run`), and a store that cannot be read stays as it is
(`Situation.rejected_run`).
-/

variable {World : Type}

/-- The stored snapshot of a server.  A store that cannot be read has none. -/
def stored? (store : Store) (server : Int32) : Option ManagerSnapshot :=
  match storedSnapshot store with
  | .error _ => none
  | .ok snapshot => snapshot.managers.get? server

theorem stored?_of_ok {store : Store} {snapshot : SessionSnapshot}
    (h : storedSnapshot store = .ok snapshot) (server : Int32) :
    stored? store server = snapshot.managers.get? server := by
  rw [stored?, h]

/-- A value that is rejected is all that can make a store unreadable. -/
theorem storedSnapshot_eq_error_iff {store : Store} {error : Error} :
    storedSnapshot store = .error error ↔
      ∃ value, store.get? SessionSnapshot.storeKey = some value ∧
        SessionSnapshot.fromValue value = .error error := by
  unfold storedSnapshot
  split
  · rename_i hAbsent
    simp [hAbsent]
  · rename_i value hValue
    simp [hValue]

section Writing

variable {snapshot : SessionSnapshot} (store : Store)

/-- What is written can be read, and what is read is what was written. -/
theorem stored?_writeSnapshot (hReadable : snapshot.Readable) (server : Int32) :
    stored? (writeSnapshot snapshot store) server = snapshot.managers.get? server := by
  cases hEmpty : snapshot.managers.isEmpty with
  | false => exact stored?_of_ok (storedSnapshot_writeSnapshot hReadable hEmpty store) server
  | true =>
      have hStored : storedSnapshot (writeSnapshot snapshot store) = .ok .empty := by
        simp [writeSnapshot, hEmpty, storedSnapshot]
      rw [stored?_of_ok hStored, SortedMap.isEmpty_iff_get?.mp hEmpty server]
      rfl

/-- Nothing is stored exactly when there is nothing to store. -/
theorem writeSnapshot_get?_eq_none_iff :
    (writeSnapshot snapshot store).get? SessionSnapshot.storeKey = none ↔
      ∀ server, snapshot.managers.get? server = none := by
  rw [← SortedMap.isEmpty_iff_get?, writeSnapshot]
  cases snapshot.managers.isEmpty with
  | true => simp
  | false => simp

theorem eq_toJson_of_writeSnapshot_get? {value : Json}
    (h : (writeSnapshot snapshot store).get? SessionSnapshot.storeKey = some value) :
    value = snapshot.toJson := by
  rw [writeSnapshot] at h
  split at h
  · simp at h
  · simpa using h.symm

/-- No other key of the store changes. -/
theorem writeSnapshot_get?_of_ne {key : String} (hKey : key ≠ SessionSnapshot.storeKey) :
    (writeSnapshot snapshot store).get? key = store.get? key := by
  rw [writeSnapshot]
  split
  · exact store.get?_erase_of_ne hKey
  · exact store.get?_insert_of_ne (Ne.symm hKey) _

/-- Writing again what has been written changes nothing. -/
theorem writeSnapshot_writeSnapshot :
    writeSnapshot snapshot (writeSnapshot snapshot store) = writeSnapshot snapshot store := by
  apply SortedMap.ext_get?
  intro key
  by_cases hKey : key = SessionSnapshot.storeKey
  · subst hKey
    unfold writeSnapshot
    split <;> simp
  · exact writeSnapshot_get?_of_ne _ hKey

end Writing

section Merging

variable (config : ConsoleConfig) {loaded : List (Int32 × Manager)}
  (hDistinct : loaded.Pairwise fun earlier later => earlier.1 ≠ later.1)

theorem snapshot_ext {left right : SessionSnapshot} (hVersion : left.version = right.version)
    (hManagers : ∀ server, left.managers.get? server = right.managers.get? server) :
    left = right := by
  cases left
  cases right
  cases hVersion
  exact congrArg _ (SortedMap.ext_get? hManagers)

include hDistinct

/-- The order in which loaded managers are saved does not matter. -/
theorem mergeSnapshots_of_perm {order : List (Int32 × Manager)} (hOrder : order.Perm loaded)
    (snapshot : SessionSnapshot) :
    mergeSnapshots config order snapshot = mergeSnapshots config loaded snapshot := by
  have hDistinctOrder : order.Pairwise fun earlier later => earlier.1 ≠ later.1 :=
    hOrder.symm.pairwise hDistinct fun hNe => hNe.symm
  have hLookup : ∀ server, SortedMap.lookup server order = SortedMap.lookup server loaded := by
    intro server
    ext manager
    rw [SortedMap.lookup_eq_some_iff hDistinctOrder, SortedMap.lookup_eq_some_iff hDistinct,
      hOrder.mem_iff]
  refine snapshot_ext (by simp) ?_
  intro server
  rw [get?_mergeSnapshots config hDistinctOrder, get?_mergeSnapshots config hDistinct, hLookup]

/-- Saving the same managers twice is saving them once. -/
theorem mergeSnapshots_mergeSnapshots (snapshot : SessionSnapshot) :
    mergeSnapshots config loaded (mergeSnapshots config loaded snapshot) =
      mergeSnapshots config loaded snapshot := by
  refine snapshot_ext (by simp) ?_
  intro server
  rw [get?_mergeSnapshots config hDistinct, get?_mergeSnapshots config hDistinct]
  cases SortedMap.lookup server loaded <;> rfl

/-- If saving leaves no server at all, then none of the managers has a snapshot. -/
theorem mergeSnapshots_empty {snapshot : SessionSnapshot}
    (hNone : ∀ server, (mergeSnapshots config loaded snapshot).managers.get? server = none)
    (server : Int32) :
    (mergeSnapshots config loaded .empty).managers.get? server = none := by
  have hServer := hNone server
  rw [get?_mergeSnapshots config hDistinct] at hServer ⊢
  cases hLoaded : SortedMap.lookup server loaded with
  | none => rfl
  | some manager =>
      rw [hLoaded] at hServer
      exact hServer

end Merging

/-- What is in a store after a session has been persisted into it. -/
structure Persisted (config : ConsoleConfig) (session : Session) (store written : Store) :
    Prop where
  loaded : ∀ server manager, session.managers.get? server = some manager →
    stored? written server = manager.snapshot config
  unloaded : ∀ server, session.managers.get? server = none →
    stored? written server = stored? store server
  /-- The stored value is absent exactly when it would hold no server. -/
  absent : written.get? SessionSnapshot.storeKey = none ↔ ∀ server, stored? written server = none
  readable : ∀ value, written.get? SessionSnapshot.storeKey = some value →
    ∃ snapshot, SessionSnapshot.fromValue value = .ok snapshot
  others : ∀ key, key ≠ SessionSnapshot.storeKey → written.get? key = store.get? key
  /-- Persisting once more changes nothing. -/
  again : session.persist config written = (.ok (), written)
  /-- The managers may be saved in any order. -/
  anyOrder : ∀ order stored, order.Perm session.managers.entries →
    storedSnapshot store = .ok stored →
      writeSnapshot (mergeSnapshots config order stored) store = written

/-- Persisting a session into a store that can be read succeeds. -/
theorem persist_of_ok (config : ConsoleConfig) (session : Session) {store : Store}
    {stored : SessionSnapshot} (hStored : storedSnapshot store = .ok stored) :
    session.persist config store =
      (.ok (), writeSnapshot (mergeSnapshots config session.managers.entries stored) store) := by
  rw [persist, hStored]

/-- A store that cannot be read is left as it is. -/
theorem persist_of_error (config : ConsoleConfig) (session : Session) {store : Store}
    {error : Error} (hStored : storedSnapshot store = .error error) :
    session.persist config store = (.error error, store) := by
  rw [persist, hStored]

/-- A second persist finds what the first has written and writes it again. -/
theorem persist_persist (config : ConsoleConfig) (session : Session) {store : Store}
    {stored : SessionSnapshot} (hStored : storedSnapshot store = .ok stored) :
    let written := writeSnapshot (mergeSnapshots config session.managers.entries stored) store
    session.persist config written = (.ok (), written) := by
  intro written
  have hDistinct := session.managers.distinct
  cases hEmpty : (mergeSnapshots config session.managers.entries stored).managers.isEmpty with
  | false =>
      have hWritten : storedSnapshot written = .ok _ :=
        storedSnapshot_writeSnapshot (readable_mergeSnapshots config hDistinct
          (readable_of_storedSnapshot hStored)) hEmpty store
      rw [persist_of_ok config session hWritten, mergeSnapshots_mergeSnapshots config hDistinct,
        writeSnapshot_writeSnapshot]
  | true =>
      -- nothing was stored, so the second persist starts from an empty snapshot
      have hErased : written = store.erase SessionSnapshot.storeKey := by
        simp [written, writeSnapshot, hEmpty]
      have hWritten : storedSnapshot written = .ok .empty := by
        simp [hErased, storedSnapshot]
      have hAgain : (mergeSnapshots config session.managers.entries .empty).managers.isEmpty =
          true :=
        SortedMap.isEmpty_iff_get?.mpr
          (mergeSnapshots_empty config hDistinct (SortedMap.isEmpty_iff_get?.mp hEmpty))
      rw [persist_of_ok config session hWritten, writeSnapshot, if_pos hAgain, hErased]
      simp [SortedMap.erase]

/-- Persisting a session into a store that can be read. -/
theorem persisted_of_ok (config : ConsoleConfig) (session : Session) {store written : Store}
    (hPersist : session.persist config store = (.ok (), written)) :
    Persisted config session store written := by
  cases hStored : storedSnapshot store with
  | error error =>
      rw [persist_of_error config session hStored] at hPersist
      cases hPersist
  | ok stored =>
      rw [persist_of_ok config session hStored] at hPersist
      obtain rfl := congrArg Prod.snd hPersist
      have hDistinct := session.managers.distinct
      have hReadable := readable_mergeSnapshots config hDistinct
        (readable_of_storedSnapshot hStored)
      refine ⟨?_, ?_, ?_, ?_, ?_, ?_, ?_⟩
      · intro server manager hLoaded
        have hLookup : SortedMap.lookup server session.managers.entries = some manager := hLoaded
        rw [stored?_writeSnapshot store hReadable, get?_mergeSnapshots config hDistinct, hLookup]
      · intro server hUnloaded
        have hLookup : SortedMap.lookup server session.managers.entries = none := hUnloaded
        rw [stored?_writeSnapshot store hReadable, get?_mergeSnapshots config hDistinct, hLookup,
          stored?_of_ok hStored]
      · rw [writeSnapshot_get?_eq_none_iff]
        simp only [stored?_writeSnapshot store hReadable]
      · intro value hValue
        rw [eq_toJson_of_writeSnapshot_get? store hValue]
        exact ⟨_, SessionSnapshot.fromValue_toJson hReadable⟩
      · intro key hKey
        exact writeSnapshot_get?_of_ne store hKey
      · exact persist_persist config session hStored
      · intro order found hOrder hFound
        obtain rfl : stored = found := Except.ok.inj (hStored.symm.trans hFound)
        rw [mergeSnapshots_of_perm config hDistinct hOrder]

/-- Forgetting a server leaves the stored snapshots of all others alone. -/
theorem stored?_forgetStored (store : Store) {server other : Int32} (hOther : other ≠ server) :
    stored? (forgetStored server store).2 other = stored? store other := by
  unfold forgetStored
  cases hStored : storedSnapshot store with
  | error error => rfl
  | ok stored =>
      dsimp only
      split
      · have hReadable := readable_of_storedSnapshot hStored
        have hErased : SessionSnapshot.Readable
            { stored with managers := stored.managers.erase server } := by
          refine ⟨hReadable.1, ?_⟩
          intro saved hMem
          obtain ⟨key, hKey⟩ := SortedMap.mem_values_iff.mp hMem
          have hNe : key ≠ server := by
            rintro rfl
            simp at hKey
          rw [SortedMap.get?_erase_of_ne _ hNe] at hKey
          exact hReadable.2 saved (SortedMap.mem_values_iff.mpr ⟨key, hKey⟩)
        rw [stored?_writeSnapshot store hErased, stored?_of_ok hStored,
          SortedMap.get?_erase_of_ne _ hOther]
      · rfl

theorem store_remove (services : Services World) (server : Int32) (store : Store)
    (session : Session) (world : World) :
    (session.remove services server store world).store = (forgetStored server store).2 := by
  unfold remove
  cases session.managers.get? server <;> rfl

/-- Removing a server changes neither the stored snapshot nor the loaded manager of another. -/
theorem remove_other (services : Services World) {server other : Int32} (hOther : other ≠ server)
    (store : Store) (session : Session) (world : World) :
    stored? (session.remove services server store world).store other = stored? store other ∧
      (session.remove services server store world).session.managers.get? other =
        session.managers.get? other := by
  refine ⟨?_, ?_⟩
  · rw [store_remove, stored?_forgetStored store hOther]
  · unfold remove
    cases session.managers.get? server with
    | none => rfl
    | some manager => exact SortedMap.get?_erase_of_ne _ hOther

/-- Loading a server changes no other manager. -/
theorem load_other (services : Services World) {identity : ServerIdentity} {other : Int32}
    (hOther : other ≠ identity.id) (store : Store) (session : Session) (world : World) :
    (session.load services identity store world).2.1.managers.get? other =
      session.managers.get? other := by
  unfold load
  split
  · rfl
  · split
    · rfl
    · split <;> exact SortedMap.get?_insert_of_ne _ (Ne.symm hOther) _

/-- The first load of a server fails if the stored value cannot be read, and nothing is
loaded. -/
theorem load_of_error (services : Services World) {identity : ServerIdentity} {store : Store}
    {error : Error} (hStored : storedSnapshot store = .error error) {session : Session}
    (hUnloaded : session.managers.get? identity.id = none) (world : World) :
    session.load services identity store world = (.error error, session, world) := by
  simp [load, SortedMap.contains, hUnloaded, hStored]

/-- What a request does with a session and its store. -/
inductive Action (World : Type) where
  /-- Load a server, unless it is loaded. -/
  | load (identity : ServerIdentity)
  /-- Do something with a loaded manager, whatever it is. -/
  | use (server : Int32) (change : Manager → World → Manager × World)
  | updateServer (identity : ServerIdentity)
  | persist
  | remove (server : Int32)

/-- Whether an action loads or removes a server. -/
def Action.Concerns (server : Int32) : Action World → Prop
  | .load identity => identity.id = server
  | .remove removed => removed = server
  | _ => False

/-- A session and its store, as they stand. -/
structure Situation where
  session : Session
  store : Store

namespace Situation

/-- Do something with a session and its store; the result says whether it failed. -/
def act (services : Services World) (action : Action World) (situation : Situation)
    (world : World) : Except Error Unit × Situation :=
  let ⟨session, store⟩ := situation
  match action with
  | .load identity =>
    let (result, session, _) := session.load services identity store world
    (result, ⟨session, store⟩)
  | .use server change =>
    match session.managers.get? server with
    | none => (.ok (), situation)
    | some manager => (.ok (), ⟨session.setManager server (change manager world).1, store⟩)
  | .updateServer identity =>
    (.ok (), ⟨(session.updateServer services identity world).2.1, store⟩)
  | .persist =>
    let (result, store) := session.persist services.config store
    (result, ⟨session, store⟩)
  | .remove server =>
    let removal := session.remove services server store world
    (removal.result, ⟨removal.session, removal.store⟩)

/-- One action after the other, each in the world it finds. -/
def run (services : Services World) (steps : List (World × Action World))
    (situation : Situation) : Situation :=
  steps.foldl (fun situation step => (situation.act services step.2 step.1).2) situation

/-- A server is not loaded, and what is stored of it is given. -/
def Untouched (server : Int32) (saved : Option ManagerSnapshot) (situation : Situation) : Prop :=
  situation.session.managers.get? server = none ∧ stored? situation.store server = saved

/-- An action that does not load or remove a server leaves one alone that is not loaded. -/
theorem Untouched.act (services : Services World) {server : Int32}
    {saved : Option ManagerSnapshot} {situation : Situation}
    (h : situation.Untouched server saved) {action : Action World}
    (hOther : ¬ action.Concerns server) (world : World) :
    (situation.act services action world).2.Untouched server saved := by
  obtain ⟨session, store⟩ := situation
  obtain ⟨hUnloaded, hSaved⟩ := h
  cases action with
  | load identity =>
      refine ⟨?_, hSaved⟩
      exact (load_other services (Ne.symm hOther) store session world).trans hUnloaded
  | use used change =>
      simp only [Situation.act]
      split
      · exact ⟨hUnloaded, hSaved⟩
      · rename_i manager hLoaded
        refine ⟨?_, hSaved⟩
        have hNe : used ≠ server := by
          rintro rfl
          simp [hLoaded] at hUnloaded
        exact (SortedMap.get?_insert_of_ne _ hNe _).trans hUnloaded
  | updateServer identity =>
      refine ⟨?_, hSaved⟩
      simp only [Situation.act, updateServer]
      split
      · exact hUnloaded
      · rename_i manager hLoaded
        have hNe : identity.id ≠ server := by
          rintro rfl
          simp [hLoaded] at hUnloaded
        exact (SortedMap.get?_insert_of_ne _ hNe _).trans hUnloaded
  | persist =>
      refine ⟨hUnloaded, ?_⟩
      simp only [Situation.act]
      cases hStored : storedSnapshot store with
      | error error =>
          rw [persist_of_error services.config session hStored]
          exact hSaved
      | ok stored =>
          have hPersist := persist_of_ok services.config session hStored
          have hPersisted := persisted_of_ok services.config session hPersist
          rw [hPersist]
          exact (hPersisted.unloaded server hUnloaded).trans hSaved
  | remove removed =>
      obtain ⟨hStore, hManagers⟩ :=
        remove_other services (Ne.symm hOther) store session world
      exact ⟨hManagers.trans hUnloaded, hStore.trans hSaved⟩

/-- A server that a run neither loads nor removes keeps its stored snapshot. -/
theorem untouched_run (services : Services World) {server : Int32}
    {saved : Option ManagerSnapshot} (steps : List (World × Action World))
    {situation : Situation} (h : situation.Untouched server saved)
    (hOther : ∀ step ∈ steps, ¬ step.2.Concerns server) :
    (run services steps situation).Untouched server saved := by
  induction steps generalizing situation with
  | nil => exact h
  | cons step rest ih =>
      obtain ⟨hFirst, hRest⟩ := List.forall_mem_cons.mp hOther
      exact ih (h.act services hFirst step.1) hRest

/-- No action replaces a stored value that cannot be read. -/
theorem store_act_of_error (services : Services World) {situation : Situation} {error : Error}
    (hStored : storedSnapshot situation.store = .error error) (action : Action World)
    (world : World) : (situation.act services action world).2.store = situation.store := by
  obtain ⟨session, store⟩ := situation
  cases action with
  | load identity => rfl
  | use server change =>
      simp only [act]
      split <;> rfl
  | updateServer identity => rfl
  | persist => simp only [act, persist_of_error services.config session hStored]
  | remove server =>
      simp only [act, store_remove, forgetStored, hStored]

/-- A stored value that cannot be read is still there after every run. -/
theorem rejected_run (services : Services World) (steps : List (World × Action World))
    {situation : Situation} {error : Error}
    (hStored : storedSnapshot situation.store = .error error) :
    (run services steps situation).store = situation.store := by
  induction steps generalizing situation with
  | nil => rfl
  | cons step rest ih =>
      have hStep := store_act_of_error services hStored step.2 step.1
      have hAfter : storedSnapshot (situation.act services step.2 step.1).2.store =
          .error error := by
        rw [hStep]
        exact hStored
      exact (ih hAfter).trans hStep

/-- Wherever a run of a new session over any store has led: persisting succeeds exactly if the
store can be read, and then writes the loaded servers and nothing else.  Removing a server
changes neither the stored snapshot nor the loaded manager of another.  A stored value that is
rejected makes persisting and first loads fail and stays in the store.  A server that the run
has neither loaded nor removed has the stored snapshot it had at first, and a value that was
rejected at first is still there. -/
theorem store_framed_by_runs (services : Services World) (id : String) (initial : Store)
    (steps : List (World × Action World)) {session : Session} {store : Store}
    (hRun : run services steps ⟨{ id }, initial⟩ = ⟨session, store⟩) :
    ((∃ written, session.persist services.config store = (.ok (), written)) ↔
      ∃ stored, storedSnapshot store = .ok stored) ∧
    (∀ written, session.persist services.config store = (.ok (), written) →
      Persisted services.config session store written) ∧
    (∀ server other world, other ≠ server →
      let removal := session.remove services server store world
      stored? removal.store other = stored? store other ∧
        removal.session.managers.get? other = session.managers.get? other) ∧
    (∀ value error, store.get? SessionSnapshot.storeKey = some value →
      SessionSnapshot.fromValue value = .error error →
        session.persist services.config store = (.error error, store) ∧
        (∀ server world, (session.remove services server store world).store = store) ∧
        ∀ identity world, session.managers.get? identity.id = none →
          act services (.load identity) ⟨session, store⟩ world =
            (.error error, ⟨session, store⟩)) ∧
    (∀ server, (∀ step ∈ steps, ¬ step.2.Concerns server) →
      stored? store server = stored? initial server) ∧
    ∀ error, storedSnapshot initial = .error error → store = initial := by
  refine ⟨?_, ?_, ?_, ?_, ?_, ?_⟩
  · constructor
    · rintro ⟨written, hPersist⟩
      cases hStored : storedSnapshot store with
      | error error =>
          rw [persist_of_error services.config session hStored] at hPersist
          cases hPersist
      | ok stored => exact ⟨stored, rfl⟩
    · rintro ⟨stored, hStored⟩
      exact ⟨_, persist_of_ok services.config session hStored⟩
  · intro written hPersist
    exact persisted_of_ok services.config session hPersist
  · intro server other world hOther
    exact remove_other services hOther store session world
  · intro value error hValue hRejected
    have hStored : storedSnapshot store = .error error :=
      storedSnapshot_eq_error_iff.mpr ⟨value, hValue, hRejected⟩
    refine ⟨persist_of_error services.config session hStored, ?_, ?_⟩
    · intro server world
      rw [store_remove, forgetStored, hStored]
    · intro identity world hUnloaded
      simp only [act]
      rw [load_of_error services hStored hUnloaded]
  · intro server hOther
    have hInitial : Untouched server (stored? initial server) ⟨{ id }, initial⟩ := ⟨rfl, rfl⟩
    have hFinal := untouched_run services steps hInitial hOther
    rw [hRun] at hFinal
    exact hFinal.2
  · intro error hRejected
    have hStart : storedSnapshot (Situation.mk { id } initial).store = .error error := hRejected
    have hFinal := rejected_run services steps hStart
    rw [hRun] at hFinal
    exact hFinal

/-- A run that connects one server and persists, over a store that holds another one, and a store
with a value that is too new. -/
theorem stored_server_kept_by_run :
    let services := Services.steady (.standard "" "") (.ok 0)
      (.ok [[("ver", some "PostgreSQL 16.2"), ("sversion", some "160002")]]) (.ok ⟨0, 50000⟩)
    let saved : ManagerSnapshot :=
      ⟨1, 2, "PostgreSQL 16.2", 160002, none, none, .ofList [("DB:app", ⟨none, "app", {}, true⟩)]⟩
    let initial := writeSnapshot ⟨1, .ofList [(2, saved)]⟩ .empty
    let steps : List (Unit × Action Unit) := [
      ((), .load { id := 1, name := "main", host := "db.internal", username := "app" }),
      ((), .use 1 fun manager world =>
        (manager.perform services (.connection { database := some "app" }) world).2),
      ((), .use 1 fun manager world =>
        (manager.perform services (.connect (.db "app") none) world).2),
      ((), .persist)]
    let newer : Json := .object [("version", .ofNat 2)]
    let rejected : Store := SortedMap.empty.insert SessionSnapshot.storeKey newer
    ((∀ step ∈ steps, ¬ step.2.Concerns 2) ∧
      ∃ session store written, run services steps ⟨{ id := "s" }, initial⟩ = ⟨session, store⟩ ∧
        session.persist services.config store = (.ok (), written) ∧
        stored? written 2 = some saved ∧
        session.persist services.config written = (.ok (), written) ∧
        stored? (session.remove services 1 store ()).store 2 = some saved) ∧
    SessionSnapshot.fromValue newer = .error (newerSnapshot 2) ∧
      persist services.config { id := "s" } rejected = (.error (newerSnapshot 2), rejected) := by
  intro services saved initial steps newer rejected
  have hNewer : SessionSnapshot.fromValue newer = .error (newerSnapshot 2) := by
    have hVersion : (newer.get? "version").bind Json.uint64? = some 2 := Json.uint64?_ofNat 2
    have hClamped : SessionSnapshot.clampVersion 2 = 2 := by decide
    have hRefused := SessionSnapshot.fromValue_of_newer hVersion (by decide)
    rwa [hClamped] at hRefused
  have hOther : ∀ step ∈ steps, ¬ step.2.Concerns 2 := by
    simp [steps, Action.Concerns]
  have hReadable : SessionSnapshot.Readable ⟨1, .ofList [(2, saved)]⟩ := by
    rw [SessionSnapshot.readable_iff]
    decide
  have hInitial : stored? initial 2 = some saved := by
    rw [stored?_writeSnapshot .empty hReadable]
    exact SortedMap.get?_insert_self .empty 2 saved
  have hStart : Untouched 2 (some saved) ⟨{ id := "s" }, initial⟩ := ⟨rfl, hInitial⟩
  have hFinal := untouched_run services steps hStart hOther
  refine ⟨⟨hOther, ?_⟩, hNewer, ?_⟩
  · cases hRun : run services steps ⟨{ id := "s" }, initial⟩ with
    | mk session store =>
        rw [hRun] at hFinal
        obtain ⟨hPersist, hPersisted, hRemove, -, hKept, -⟩ :=
          store_framed_by_runs services "s" initial steps hRun
        have hStored : stored? store 2 = some saved := (hKept 2 hOther).trans hInitial
        obtain ⟨written, hWritten⟩ : ∃ written,
            session.persist services.config store = (.ok (), written) := by
          refine hPersist.mpr ?_
          cases hSnapshot : storedSnapshot store with
          | error error =>
              rw [stored?, hSnapshot] at hStored
              cases hStored
          | ok stored => exact ⟨stored, rfl⟩
        refine ⟨session, store, written, rfl, hWritten, ?_, (hPersisted written hWritten).again, ?_⟩
        · exact ((hPersisted written hWritten).unloaded 2 hFinal.1).trans hStored
        · exact (hRemove 1 2 () (by decide)).1.trans hStored
  · have hRun : run services [] ⟨{ id := "s" }, rejected⟩ = ⟨{ id := "s" }, rejected⟩ := rfl
    obtain ⟨-, -, -, hRejected, -⟩ := store_framed_by_runs services "s" rejected [] hRun
    exact (hRejected newer _ (SortedMap.get?_insert_self ..) hNewer).1

end Situation

end PgConsole.Session
