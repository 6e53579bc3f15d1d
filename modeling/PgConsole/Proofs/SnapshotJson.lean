import PgConsole.Proofs.Decimal
import PgConsole.Proofs.SecretText
import PgConsole.Proofs.SortedMap
import PgConsole.Snapshot

namespace PgConsole

/-!
# Snapshots read back from their JSON values

Every layer of a snapshot is recovered from what it is written as: numbers in their ranges,
secrets as Base64 texts, connections, servers and the whole session.  The version check is
the only thing that can refuse a written snapshot, and it looks at the versions alone.

The main statements are `SessionSnapshot.fromValue_toJson`, that a snapshot with versions that
can be read is read back, and `SessionSnapshot.fromValue_of_newer`, that a value with a newer
version is refused before anything else in it counts.  `SessionSnapshot.read_back_up_to_version`
joins the two with the version checks of the servers.
-/

namespace Json

theorem natBelow?_ofNat {bound value : Nat} (hBound : value < bound) :
    (ofNat value).natBelow? bound = some value := by
  simp [ofNat, natBelow?, hBound]

@[simp] theorem uint32?_ofNat (value : UInt32) : (ofNat value.toNat).uint32? = some value := by
  rw [uint32?, natBelow?_ofNat value.toNat_lt]
  simp

@[simp] theorem uint64?_ofNat (value : UInt64) : (ofNat value.toNat).uint64? = some value := by
  rw [uint64?, natBelow?_ofNat value.toNat_lt]
  simp

@[simp] theorem int32?_integer (value : Int32) : (integer value.toInt).int32? = some value := by
  have hLow := value.minValue_le_toInt
  have hHigh := value.toInt_le
  simp only [int32?]
  rw [if_pos ⟨hLow, by simpa using hHigh⟩, Int32.ofInt_toInt]

@[simp] theorem text?_text (value : String) : (text value).text? = some value := rfl

@[simp] theorem bool?_bool (value : Bool) : (bool value).bool? = some value := rfl

/-- A value is read as a 32-bit number only if it is the value of that number. -/
theorem eq_of_uint32?_eq_some {value : Json} {number : UInt32} (h : value.uint32? = some number) :
    value = ofNat number.toNat := by
  obtain ⟨read, hRead, rfl⟩ := Option.map_eq_some_iff.mp h
  unfold natBelow? at hRead
  split at hRead
  · rename_i written
    split at hRead
    · rename_i hBound
      obtain rfl := Option.some.inj hRead
      rw [ofNat, UInt32.toNat_ofNat_of_lt' hBound]
    · cases hRead
  · cases hRead

theorem nullable_eq_some {α : Type} {read : Json → Option α} {value : Json} {item : α}
    (hRead : read value = some item) (hValue : value ≠ .null) :
    nullable read value = some (some item) := by
  unfold nullable
  split
  · exact absurd rfl hValue
  · simp [hRead]

/-- Entries are read back one by one, if every key and every value is. -/
theorem readEntries_map {α β : Type} {readKey : String → Option α} {read : Json → Option β}
    {writeKey : α → String} {write : β → Json}
    (hKey : ∀ key, readKey (writeKey key) = some key)
    (hValue : ∀ value, read (write value) = some value) (entries : List (α × β)) :
    readEntries readKey read (entries.map fun entry => (writeKey entry.1, write entry.2)) =
      some entries := by
  induction entries with
  | nil => rfl
  | cons entry rest ih => simp [readEntries, hKey, hValue, ih]

end Json

/-- A secret is never written as `null`. -/
theorem Secret.nullable_toJson (secret : Secret) :
    Json.nullable ofJson? secret.toJson = some (some secret) :=
  Json.nullable_eq_some (ofJson?_toJson secret) (by simp [toJson])

theorem ConnectionSnapshot.ofJson?_toJson (saved : ConnectionSnapshot) :
    ofJson? saved.toJson = some saved := by
  obtain ⟨connectionId, database, flags, wasConnected⟩ := saved
  cases connectionId with
  | none =>
      simp [ofJson?, toJson, fieldNames, Json.record?, Json.unrepeated, Json.required,
        List.lookup_cons, Json.optional, Json.nullable, Json.ofOption]
  | some id =>
      have hId : Json.nullable Json.uint64? (Json.ofNat id.toNat) = some (some id) :=
        Json.nullable_eq_some (Json.uint64?_ofNat id) (by simp [Json.ofNat])
      simp [ofJson?, toJson, fieldNames, Json.record?, Json.unrepeated, Json.required,
        List.lookup_cons, Json.optional, Json.ofOption, hId]

namespace ManagerSnapshot

theorem connectionsOfJson?_object (connections : SortedMap String ConnectionSnapshot) :
    connectionsOfJson? (.object (connections.entries.map fun entry =>
      (entry.1, entry.2.toJson))) = some connections := by
  have hEntries : Json.readEntries some ConnectionSnapshot.ofJson?
      (connections.entries.map fun entry => (entry.1, entry.2.toJson)) =
        some connections.entries :=
    Json.readEntries_map (fun _ => rfl) ConnectionSnapshot.ofJson?_toJson connections.entries
  simp [connectionsOfJson?, Json.object?, hEntries]

theorem ofJson?_toJson (snapshot : ManagerSnapshot) : ofJson? snapshot.toJson = some snapshot := by
  obtain ⟨version, server, versionText, versionNumber, password, tunnelPassword, connections⟩ :=
    snapshot
  -- absent secrets are not written, so the fields that are read depend on both of them
  cases password <;> cases tunnelPassword <;>
    simp [ofJson?, toJson, fieldNames, Json.record?, Json.unrepeated, Json.required,
      List.lookup_cons, Json.optional, Secret.nullable_toJson, connectionsOfJson?_object]

end ManagerSnapshot

namespace SessionSnapshot

theorem serverOfName?_ofInt (server : Int32) :
    serverOfName? (Text.ofInt server.toInt) = some server := by
  have hLow := server.le_toInt
  have hHigh := server.toInt_lt
  have hNumber : Json.number? (Text.ofInt server.toInt).toList =
      some (.integer server.toInt, []) :=
    Json.number?_ofInt (by omega) (by omega)
  simp [serverOfName?, hNumber]

theorem managersOfJson?_object (managers : SortedMap Int32 ManagerSnapshot) :
    managersOfJson? (.object (managers.entries.map fun entry =>
      (Text.ofInt entry.1.toInt, entry.2.toJson))) = some managers := by
  have hEntries : Json.readEntries serverOfName? ManagerSnapshot.ofJson?
      (managers.entries.map fun entry => (Text.ofInt entry.1.toInt, entry.2.toJson)) =
        some managers.entries :=
    Json.readEntries_map serverOfName?_ofInt ManagerSnapshot.ofJson?_toJson managers.entries
  simp [managersOfJson?, Json.object?, hEntries]

theorem ofJson?_toJson (snapshot : SessionSnapshot) : ofJson? snapshot.toJson = some snapshot := by
  simp [ofJson?, toJson, fieldNames, Json.record?, Json.unrepeated, Json.required,
    List.lookup_cons, managersOfJson?_object]

theorem clampVersion_toUInt64 (version : UInt32) : clampVersion version.toUInt64 = version := by
  have hSmall : version.toUInt64.toNat < UInt32.size := by
    rw [UInt32.toNat_toUInt64]
    exact version.toNat_lt
  rw [clampVersion, if_pos hSmall, UInt32.toNat_toUInt64, UInt32.ofNat_toNat]

theorem checkManagers_eq_ok_iff {managers : List ManagerSnapshot} :
    checkManagers managers = .ok () ↔ ∀ manager ∈ managers, manager.checkVersion = .ok () := by
  induction managers with
  | nil => simp [checkManagers]
  | cons manager rest ih =>
      rw [checkManagers]
      cases hCheck : manager.checkVersion with
      | error error => simp [hCheck]
      | ok _ => simp [hCheck, ih]

end SessionSnapshot

/-- Every version of a snapshot is one that can be read. -/
def SessionSnapshot.Readable (snapshot : SessionSnapshot) : Prop :=
  checkSnapshotVersion snapshot.version = .ok () ∧
    ∀ manager ∈ snapshot.managers.values, manager.checkVersion = .ok ()

namespace SessionSnapshot

/-- The version that is looked at first is written in full. -/
theorem peek_toJson (snapshot : SessionSnapshot) :
    (snapshot.toJson.get? "version").bind Json.uint64? = some snapshot.version.toUInt64 := by
  have hRead := Json.uint64?_ofNat snapshot.version.toUInt64
  rw [UInt32.toNat_toUInt64] at hRead
  simp [toJson, Json.get?, hRead]

/-- A snapshot whose versions can be read is read back from the value it is written as. -/
theorem fromValue_toJson {snapshot : SessionSnapshot} (hReadable : snapshot.Readable) :
    fromValue snapshot.toJson = .ok snapshot := by
  have hManagers := checkManagers_eq_ok_iff.mpr hReadable.2
  simp only [fromValue, peek_toJson, clampVersion_toUInt64, hReadable.1, ofJson?_toJson, hManagers]

/-- The version that is looked at first is the version of the snapshot. -/
theorem clampVersion_of_peek {value : Json} {version : UInt64} {snapshot : SessionSnapshot}
    (hPeek : (value.get? "version").bind Json.uint64? = some version)
    (hFound : ofJson? value = some snapshot) : clampVersion version = snapshot.version := by
  cases value with
  | object fields =>
      simp only [ofJson?, Json.record?, Option.bind_eq_bind, Option.bind_eq_some_iff, Option.pure_def,
        Json.required] at hFound
      obtain ⟨read, hFields, number, ⟨written, hWritten, hNumber⟩, managers, -, hSnapshot⟩ := hFound
      obtain rfl : fields = read := by
        split at hFields
        · exact Option.some.inj hFields
        · cases hFields
      obtain rfl := Option.some.inj hSnapshot
      simp only [Json.get?, hWritten, Option.bind_some] at hPeek
      rw [Json.eq_of_uint32?_eq_some hNumber, ← UInt32.toNat_toUInt64, Json.uint64?_ofNat] at hPeek
      rw [← Option.some.inj hPeek]
      exact clampVersion_toUInt64 number
  | _ => simp [Json.get?] at hPeek

/-- What has been read can be read: reading keeps no version that is too new. -/
theorem readable_of_fromValue {value : Json} {snapshot : SessionSnapshot}
    (hRead : fromValue value = .ok snapshot) : snapshot.Readable := by
  unfold fromValue at hRead
  split at hRead
  · cases hRead
  rename_i version hPeek
  split at hRead
  · cases hRead
  rename_i hCheck
  split at hRead
  · cases hRead
  rename_i found hFound
  split at hRead
  · cases hRead
  rename_i hManagers
  obtain rfl : found = snapshot := Except.ok.inj hRead
  refine ⟨?_, checkManagers_eq_ok_iff.mp hManagers⟩
  rw [← clampVersion_of_peek hPeek hFound]
  exact hCheck

end SessionSnapshot

theorem checkSnapshotVersion_of_le {version : UInt32} (h : version ≤ snapshotVersion) :
    checkSnapshotVersion version = .ok () := by
  rw [checkSnapshotVersion, if_neg (UInt32.not_lt.mpr h)]

theorem checkSnapshotVersion_of_lt {version : UInt32} (h : snapshotVersion < version) :
    checkSnapshotVersion version = .error (newerSnapshot version) := by
  rw [checkSnapshotVersion, if_pos h]

theorem checkSnapshotVersion_eq_ok_iff {version : UInt32} :
    checkSnapshotVersion version = .ok () ↔ version ≤ snapshotVersion := by
  refine ⟨?_, checkSnapshotVersion_of_le⟩
  intro hCheck
  refine UInt32.not_lt.mp ?_
  intro hNewer
  rw [checkSnapshotVersion_of_lt hNewer] at hCheck
  cases hCheck

namespace SessionSnapshot

/-- A snapshot can be read when neither its own version nor that of a server is too new. -/
theorem readable_iff {snapshot : SessionSnapshot} :
    snapshot.Readable ↔ snapshot.version ≤ snapshotVersion ∧
      ∀ manager ∈ snapshot.managers.values, manager.version ≤ snapshotVersion := by
  simp only [Readable, ManagerSnapshot.checkVersion, checkSnapshotVersion_eq_ok_iff]

/-- The first server that is too new decides the error. -/
theorem checkManagers_of_newer {managers : List ManagerSnapshot}
    (hNewer : ¬ ∀ manager ∈ managers, manager.version ≤ snapshotVersion) :
    ∃ manager ∈ managers, snapshotVersion < manager.version ∧
      checkManagers managers = .error (newerSnapshot manager.version) := by
  induction managers with
  | nil => simp at hNewer
  | cons manager rest ih =>
      rw [checkManagers, ManagerSnapshot.checkVersion]
      by_cases hFirst : manager.version ≤ snapshotVersion
      · have hRest : ¬ ∀ later ∈ rest, later.version ≤ snapshotVersion := by
          intro hAll
          exact hNewer (List.forall_mem_cons.mpr ⟨hFirst, hAll⟩)
        obtain ⟨found, hMem, hVersion, hCheck⟩ := ih hRest
        rw [checkSnapshotVersion_of_le hFirst]
        exact ⟨found, List.mem_cons_of_mem manager hMem, hVersion, hCheck⟩
      · have hVersion := UInt32.not_le.mp hFirst
        rw [checkSnapshotVersion_of_lt hVersion]
        exact ⟨manager, List.mem_cons_self, hVersion, rfl⟩

/-- A version cut down to 32 bits stays newer. -/
theorem lt_clampVersion {version : UInt64} (h : snapshotVersion.toUInt64 < version) :
    snapshotVersion < clampVersion version := by
  have hVersion : 1 < version.toNat := UInt64.lt_iff_toNat_lt.mp h
  rw [clampVersion, UInt32.lt_iff_toNat_lt]
  split
  · rename_i hSmall
    rw [UInt32.toNat_ofNat_of_lt' hSmall]
    exact hVersion
  · decide

/-- A value with a newer version is refused for that, whatever else it holds. -/
theorem fromValue_of_newer {value : Json} {version : UInt64}
    (hPeek : (value.get? "version").bind Json.uint64? = some version)
    (hNewer : snapshotVersion < clampVersion version) :
    fromValue value = .error (newerSnapshot (clampVersion version)) := by
  simp only [fromValue, hPeek, checkSnapshotVersion_of_lt hNewer]

/-- A snapshot with a version that is too new is refused for that version. -/
theorem fromValue_toJson_of_not_readable {snapshot : SessionSnapshot}
    (hNewer : ¬ snapshot.Readable) :
    ∃ version, snapshotVersion < version ∧
      fromValue snapshot.toJson = .error (newerSnapshot version) := by
  rw [readable_iff] at hNewer
  by_cases hOwn : snapshot.version ≤ snapshotVersion
  · have hManagers : ¬ ∀ manager ∈ snapshot.managers.values,
        manager.version ≤ snapshotVersion := by
      intro hAll
      exact hNewer ⟨hOwn, hAll⟩
    obtain ⟨manager, -, hVersion, hCheck⟩ := checkManagers_of_newer hManagers
    refine ⟨manager.version, hVersion, ?_⟩
    simp only [fromValue, peek_toJson, clampVersion_toUInt64, checkSnapshotVersion_of_le hOwn,
      ofJson?_toJson, hCheck]
  · have hVersion := UInt32.not_le.mp hOwn
    have hRefused := fromValue_of_newer (peek_toJson snapshot)
      (by rwa [clampVersion_toUInt64])
    rw [clampVersion_toUInt64] at hRefused
    exact ⟨snapshot.version, hVersion, hRefused⟩

/-- A snapshot is read back from its value exactly when no version in it is too new, and is
otherwise refused for such a version.  What is read from any value has no version that is too
new, and a value whose version, a JSON integer of up to 64 bits, is too new is refused for that
version, cut down to 32 bits, whatever the rest of it is. -/
theorem read_back_up_to_version :
    (∀ snapshot : SessionSnapshot,
      if snapshot.version ≤ snapshotVersion ∧
          ∀ manager ∈ snapshot.managers.values, manager.version ≤ snapshotVersion then
        fromValue snapshot.toJson = .ok snapshot
      else
        ∃ version, snapshotVersion < version ∧
          fromValue snapshot.toJson = .error (newerSnapshot version)) ∧
    (∀ value snapshot, fromValue value = .ok snapshot →
      snapshot.version ≤ snapshotVersion ∧
        ∀ manager ∈ snapshot.managers.values, manager.version ≤ snapshotVersion) ∧
    ∀ (value : Json) (version : UInt64), value.get? "version" = some (.ofNat version.toNat) →
      snapshotVersion.toUInt64 < version →
        fromValue value = .error (newerSnapshot (clampVersion version)) := by
  refine ⟨?_, ?_, ?_⟩
  · intro snapshot
    split
    · rename_i hVersions
      exact fromValue_toJson (readable_iff.mpr hVersions)
    · rename_i hVersions
      exact fromValue_toJson_of_not_readable (hVersions ∘ readable_iff.mp)
  · intro value snapshot hRead
    exact readable_iff.mp (readable_of_fromValue hRead)
  · intro value version hVersion hNewer
    refine fromValue_of_newer ?_ (lt_clampVersion hNewer)
    rw [hVersion]
    exact Json.uint64?_ofNat version

/-- A snapshot with one server, a secret and a key text that is no key, and a value whose version
needs more than 32 bits and whose servers are no map. -/
theorem read_back_and_newer_refused :
    let saved : ConnectionSnapshot := ⟨some 18446744073709551615, "größe", {}, true⟩
    let manager : ManagerSnapshot :=
      ⟨1, -2147483648, "PostgreSQL 16.2", 160002, some ⟨[0, 255]⟩, none,
        .ofList [("no key", saved)]⟩
    let snapshot : SessionSnapshot := ⟨0, .ofList [(-2147483648, manager)]⟩
    let newer : Json := .object [("managers", .text "no map"), ("version", .ofNat 4294967298)]
    (fromValue snapshot.toJson = .ok snapshot ∧ snapshot.version ≤ snapshotVersion) ∧
      newer.get? "version" = some (.ofNat (4294967298 : UInt64).toNat) ∧
      snapshotVersion.toUInt64 < 4294967298 ∧
      fromValue newer = .error (newerSnapshot 4294967295) := by
  intro saved manager snapshot newer
  obtain ⟨hWritten, hRead, hNewer⟩ := read_back_up_to_version
  have hVersions : snapshot.version ≤ snapshotVersion ∧
      ∀ manager ∈ snapshot.managers.values, manager.version ≤ snapshotVersion := by decide
  have hBack := hWritten snapshot
  rw [if_pos hVersions] at hBack
  have hField : newer.get? "version" = some (.ofNat (4294967298 : UInt64).toNat) := rfl
  have hLess : snapshotVersion.toUInt64 < 4294967298 := by decide
  have hRefused := hNewer newer 4294967298 hField hLess
  have hClamped : clampVersion 4294967298 = 4294967295 := by decide
  rw [hClamped] at hRefused
  exact ⟨⟨hBack, (hRead _ snapshot hBack).1⟩, hField, hLess, hRefused⟩

end SessionSnapshot

end PgConsole
