import PgConsole.Proofs.Manager.Snapshot
import PgConsole.Proofs.SnapshotJson
import PgConsole.Session.Basic

namespace PgConsole.Session

/-!
# Sessions and their store

What is stored after a session has been persisted: under the server of a loaded manager its
snapshot, or nothing when it has none, and under every other server what was stored before
(`get?_mergeSnapshots`).  A store that could be read can be read again
(`storedSnapshot_persist`).
-/

theorem get?_mergeSnapshots (config : ConsoleConfig) {loaded : List (Int32 × Manager)}
    (hDistinct : loaded.Pairwise fun earlier later => earlier.1 ≠ later.1)
    (snapshot : SessionSnapshot) (server : Int32) :
    (mergeSnapshots config loaded snapshot).managers.get? server =
      match SortedMap.lookup server loaded with
      | some manager => manager.snapshot config
      | none => snapshot.managers.get? server := by
  induction loaded generalizing snapshot with
  | nil => rfl
  | cons entry rest ih =>
      obtain ⟨first, manager⟩ := entry
      obtain ⟨hFirst, hRest⟩ := List.pairwise_cons.mp hDistinct
      rw [mergeSnapshots, List.foldl_cons, ← mergeSnapshots, ih hRest, SortedMap.lookup]
      by_cases hSame : first = server
      · subst hSame
        rw [SortedMap.lookup_eq_none hFirst, if_pos Std.ReflCmp.compare_self]
        cases hSaved : manager.snapshot config with
        | none => simp [hSaved]
        | some saved => simp [hSaved]
      · have hOther : compare first server ≠ .eq := by
          intro hEqual
          exact hSame (Std.LawfulEqCmp.eq_of_compare hEqual)
        rw [if_neg hOther]
        cases manager.snapshot config with
        | none => simp [SortedMap.get?_erase_of_ne _ (Ne.symm hSame)]
        | some saved => simp [SortedMap.get?_insert_of_ne _ hSame]

@[simp] theorem version_mergeSnapshots (config : ConsoleConfig) (loaded : List (Int32 × Manager))
    (snapshot : SessionSnapshot) :
    (mergeSnapshots config loaded snapshot).version = snapshot.version := by
  induction loaded generalizing snapshot with
  | nil => rfl
  | cons entry rest ih =>
      rw [mergeSnapshots, List.foldl_cons, ← mergeSnapshots, ih]
      split <;> rfl

/-- What is read from a store can be read. -/
theorem readable_of_storedSnapshot {store : Store} {snapshot : SessionSnapshot}
    (hStored : storedSnapshot store = .ok snapshot) : snapshot.Readable := by
  unfold storedSnapshot at hStored
  split at hStored
  · cases hStored
    exact ⟨rfl, by simp [SessionSnapshot.empty]⟩
  · exact SessionSnapshot.readable_of_fromValue hStored

/-- Loaded managers keep a snapshot readable. -/
theorem readable_mergeSnapshots (config : ConsoleConfig) {loaded : List (Int32 × Manager)}
    (hDistinct : loaded.Pairwise fun earlier later => earlier.1 ≠ later.1)
    {snapshot : SessionSnapshot} (hReadable : snapshot.Readable) :
    (mergeSnapshots config loaded snapshot).Readable := by
  refine ⟨?_, ?_⟩
  · rw [version_mergeSnapshots]
    exact hReadable.1
  · intro saved hMem
    obtain ⟨server, hServer⟩ := SortedMap.mem_values_iff.mp hMem
    rw [get?_mergeSnapshots config hDistinct] at hServer
    split at hServer
    · exact Manager.checkVersion_snapshot hServer
    · exact hReadable.2 saved (SortedMap.mem_values_iff.mpr ⟨server, hServer⟩)

/-- A snapshot that can be read is found in the store it is written to. -/
theorem storedSnapshot_writeSnapshot {snapshot : SessionSnapshot} (hReadable : snapshot.Readable)
    (hServers : snapshot.managers.isEmpty = false) (store : Store) :
    storedSnapshot (writeSnapshot snapshot store) = .ok snapshot := by
  rw [writeSnapshot, hServers]
  simp only [Bool.false_eq_true, if_false, storedSnapshot, SortedMap.get?_insert_self]
  exact SessionSnapshot.fromValue_toJson hReadable

/-- Persisting a session into a store that can be read leaves one that can be read, with the
snapshots of its managers. -/
theorem storedSnapshot_persist {config : ConsoleConfig} {session : Session} {store : Store}
    {stored : SessionSnapshot} (hStored : storedSnapshot store = .ok stored)
    {server : Int32} {manager : Manager} {saved : ManagerSnapshot}
    (hLoaded : session.managers.get? server = some manager)
    (hSaved : manager.snapshot config = some saved) :
    ∃ written merged, session.persist config store = (.ok (), written) ∧
      storedSnapshot written = .ok merged ∧
      ∀ other, merged.managers.get? other =
        match session.managers.get? other with
        | some loaded => loaded.snapshot config
        | none => stored.managers.get? other := by
  have hDistinct := session.managers.distinct
  have hMerged := get?_mergeSnapshots config hDistinct stored
  refine ⟨writeSnapshot (mergeSnapshots config session.managers.entries stored) store,
    mergeSnapshots config session.managers.entries stored, ?_, ?_, hMerged⟩
  · rw [persist, hStored]
  · refine storedSnapshot_writeSnapshot
      (readable_mergeSnapshots config hDistinct (readable_of_storedSnapshot hStored)) ?_ store
    -- the manager at hand has a snapshot, so the stored value is kept
    rw [Bool.eq_false_iff]
    intro hEmpty
    have hNone := SortedMap.isEmpty_iff_get?.mp hEmpty server
    rw [hMerged, ← SortedMap.get?, hLoaded] at hNone
    simp only [hSaved] at hNone
    cases hNone

end PgConsole.Session
