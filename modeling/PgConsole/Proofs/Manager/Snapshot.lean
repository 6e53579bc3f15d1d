import PgConsole.Proofs.ConnectionKey
import PgConsole.Proofs.Manager.Restore

namespace PgConsole

/-!
# What a snapshot says about a manager

A snapshot holds the registered connections under the texts of their keys.  The texts are read
back as the keys they were written for, so the entries of a snapshot are exactly the registered
connections, each once (`Manager.entries_snapshot`).
-/

namespace ManagerSnapshot

/-- Texts that were written for keys are read back as these keys. -/
theorem parseEntries_toText (entries : List (ConnectionKey × ConnectionSnapshot)) :
    parseEntries (entries.map fun entry => (entry.1.toText, entry.2)) = .ok entries := by
  induction entries with
  | nil => rfl
  | cons entry rest ih =>
      simp only [List.map_cons, parseEntries, ConnectionKey.parse_toText, ih]

/-- Connections stored under key texts have entries. -/
theorem exists_entries {connections : SortedMap String ConnectionSnapshot}
    (hTexts : ∀ entry ∈ connections.entries, ∃ key : ConnectionKey, entry.1 = key.toText) :
    ∃ entries : List (ConnectionKey × ConnectionSnapshot),
      connections.entries = entries.map fun entry => (entry.1.toText, entry.2) := by
  generalize connections.entries = stored at hTexts
  induction stored with
  | nil => exact ⟨[], rfl⟩
  | cons first rest ih =>
      obtain ⟨text, saved⟩ := first
      obtain ⟨key, rfl⟩ := hTexts (text, saved) List.mem_cons_self
      obtain ⟨entries, rfl⟩ := ih fun entry hMem => hTexts entry (List.mem_cons_of_mem _ hMem)
      exact ⟨(key, saved) :: entries, rfl⟩

end ManagerSnapshot

namespace Manager

/-- The saved connections, found by the texts of their keys. -/
theorem get?_savedConnections (manager : Manager) (text : String) (saved : ConnectionSnapshot) :
    manager.savedConnections.get? text = some saved ↔
      ∃ key connection, text = key.toText ∧ manager.connectionAt? key = some connection ∧
        saved = savedConnection connection := by
  -- different keys have different texts, so no entry replaces another
  have hDistinct : (manager.registry.entries.filterMap fun entry =>
      (manager.connections[entry.2]?).map fun connection =>
        (entry.1.toText, savedConnection connection)).Pairwise
      fun earlier later => earlier.1 ≠ later.1 := by
    refine List.pairwise_filterMap.mpr (manager.registry.distinct.imp ?_)
    rintro ⟨earlier, first⟩ ⟨later, second⟩ hNe written hWritten other hOther hText
    simp only [Option.map_eq_some_iff] at hWritten hOther
    obtain ⟨_, -, rfl⟩ := hWritten
    obtain ⟨_, -, rfl⟩ := hOther
    exact hNe (ConnectionKey.toText_injective hText)
  rw [savedConnections, SortedMap.get?_ofList hDistinct, SortedMap.lookup_eq_some_iff hDistinct,
    List.mem_filterMap]
  constructor
  · rintro ⟨⟨key, number⟩, hMem, hSaved⟩
    simp only [Option.map_eq_some_iff] at hSaved
    obtain ⟨connection, hConnection, hEqual⟩ := hSaved
    cases hEqual
    refine ⟨key, connection, rfl, ?_, rfl⟩
    rw [connectionAt?, get?, SortedMap.get?_eq_some_iff.mpr hMem]
    exact hConnection
  · rintro ⟨key, connection, rfl, hConnection, rfl⟩
    simp only [connectionAt?, get?, Option.bind_eq_some_iff] at hConnection
    obtain ⟨number, hNumber, hFound⟩ := hConnection
    refine ⟨(key, number), SortedMap.get?_eq_some_iff.mp hNumber, ?_⟩
    rw [hFound]
    rfl

/-- What a snapshot holds. -/
theorem eq_of_snapshot {config : ConsoleConfig} {manager : Manager} {saved : ManagerSnapshot}
    (hSaved : manager.snapshot config = some saved) :
    ∃ info, manager.serverInfo = some info ∧ saved.version = snapshotVersion ∧
      saved.versionText = info.version ∧ saved.versionNumber = info.number ∧
      saved.connections = manager.savedConnections := by
  unfold snapshot at hSaved
  cases hInfo : manager.serverInfo with
  | none =>
      rw [hInfo] at hSaved
      cases hSaved
  | some info =>
      simp only [hInfo] at hSaved
      split at hSaved
      · cases hSaved
      · cases hSaved
        exact ⟨info, rfl, rfl, rfl, rfl, rfl⟩

/-- The format of a snapshot can be read. -/
theorem checkVersion_snapshot {config : ConsoleConfig} {manager : Manager}
    {saved : ManagerSnapshot} (hSaved : manager.snapshot config = some saved) :
    saved.checkVersion = .ok () := by
  obtain ⟨_, -, hVersion, -⟩ := eq_of_snapshot hSaved
  rw [ManagerSnapshot.checkVersion, hVersion]
  rfl

/-- The connections of a snapshot are stored under the texts of keys. -/
theorem exists_entries_snapshot {config : ConsoleConfig} {manager : Manager}
    {saved : ManagerSnapshot} (hSaved : manager.snapshot config = some saved) :
    ∃ entries : List (ConnectionKey × ConnectionSnapshot), saved.entries = .ok entries ∧
      saved.connections.entries = entries.map fun entry => (entry.1.toText, entry.2) := by
  obtain ⟨_, -, -, -, -, hConnections⟩ := eq_of_snapshot hSaved
  have hTexts : ∀ entry ∈ saved.connections.entries, ∃ key : ConnectionKey,
      entry.1 = key.toText := by
    rintro ⟨text, written⟩ hMem
    rw [hConnections, ← SortedMap.get?_eq_some_iff, get?_savedConnections] at hMem
    obtain ⟨key, _, hText, -⟩ := hMem
    exact ⟨key, hText⟩
  obtain ⟨entries, hEntries⟩ := ManagerSnapshot.exists_entries hTexts
  refine ⟨entries, ?_, hEntries⟩
  rw [ManagerSnapshot.entries, hEntries]
  exact ManagerSnapshot.parseEntries_toText entries

/-- The entries of a snapshot are the registered connections, each once. -/
theorem entries_snapshot {config : ConsoleConfig} {manager : Manager} {saved : ManagerSnapshot}
    (hSaved : manager.snapshot config = some saved) :
    ∃ entries, saved.entries = .ok entries ∧
      entries.Pairwise (fun earlier later => earlier.1 ≠ later.1) ∧
      ∀ key, SortedMap.lookup key entries = (manager.connectionAt? key).map savedConnection := by
  obtain ⟨_, -, -, -, -, hConnections⟩ := eq_of_snapshot hSaved
  obtain ⟨entries, hRead, hEntries⟩ := exists_entries_snapshot hSaved
  have hDistinct : entries.Pairwise fun earlier later => earlier.1 ≠ later.1 := by
    have hStored := saved.connections.distinct
    rw [hEntries, List.pairwise_map] at hStored
    refine hStored.imp ?_
    intro earlier later hNe hSame
    exact hNe (congrArg ConnectionKey.toText hSame)
  refine ⟨entries, hRead, hDistinct, ?_⟩
  intro key
  ext written
  rw [SortedMap.lookup_eq_some_iff hDistinct]
  have hStored : (key, written) ∈ entries ↔ (key.toText, written) ∈ saved.connections.entries := by
    rw [hEntries, List.mem_map]
    constructor
    · intro hMem
      exact ⟨(key, written), hMem, rfl⟩
    · rintro ⟨⟨other, found⟩, hMem, hEqual⟩
      obtain ⟨hText, rfl⟩ := Prod.mk.inj hEqual
      have hKey : other = key := ConnectionKey.toText_injective hText
      subst hKey
      exact hMem
  rw [hStored, hConnections, ← SortedMap.get?_eq_some_iff, get?_savedConnections,
    Option.map_eq_some_iff]
  constructor
  · rintro ⟨other, connection, hText, hFound, rfl⟩
    rw [← ConnectionKey.toText_injective hText] at hFound
    exact ⟨connection, hFound, rfl⟩
  · rintro ⟨connection, hFound, rfl⟩
    exact ⟨key, connection, rfl, hFound, rfl⟩

end Manager

end PgConsole
