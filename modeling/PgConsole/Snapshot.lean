import PgConsole.Connection.Request
import PgConsole.Json.Parser
import PgConsole.Secret

namespace PgConsole

/-!
# Snapshots

The state of a session's servers as it is kept between requests. Every snapshot carries a
format version, and one from a newer format is refused before anything else in it is read.
Connections are kept under the text form of their keys, in the order of those texts.
-/

/-- The newest format version that can be read. -/
def snapshotVersion : UInt32 := 1

/-- Saved state of one connection. -/
structure ConnectionSnapshot where
  connectionId : Option UInt64
  database : String
  flags : ConnectionFlags
  wasConnected : Bool
  deriving DecidableEq, Repr

namespace ConnectionSnapshot

/-- Field names in their stored order. -/
def fieldNames : List String :=
  ["conn_id", "database", "auto_reconnect", "async", "use_binary_placeholder", "array_to_string",
    "was_connected"]

/-- Saved state as a JSON value. -/
def toJson (saved : ConnectionSnapshot) : Json :=
  .object [
    ("conn_id", .ofOption (fun id => .ofNat id.toNat) saved.connectionId),
    ("database", .text saved.database),
    ("auto_reconnect", .bool saved.flags.autoReconnect),
    ("async", .bool saved.flags.isAsync),
    ("use_binary_placeholder", .bool saved.flags.useBinaryPlaceholder),
    ("array_to_string", .bool saved.flags.arrayToString),
    ("was_connected", .bool saved.wasConnected)]

/-- Read saved state from a JSON value. -/
def ofJson? (value : Json) : Option ConnectionSnapshot := do
  let fields ← value.record? fieldNames
  return {
    connectionId := ← Json.optional fields "conn_id" Json.uint64?
    database := ← Json.required fields "database" Json.text?
    flags := {
      autoReconnect := ← Json.required fields "auto_reconnect" Json.bool?
      isAsync := ← Json.required fields "async" Json.bool?
      useBinaryPlaceholder := ← Json.required fields "use_binary_placeholder" Json.bool?
      arrayToString := ← Json.required fields "array_to_string" Json.bool? }
    wasConnected := ← Json.required fields "was_connected" Json.bool? }

end ConnectionSnapshot

/-- Read the fields of an object one by one. -/
def Json.readEntries {α β : Type} (readKey : String → Option α) (read : Json → Option β) :
    List (String × Json) → Option (List (α × β))
  | [] => some []
  | (name, value) :: rest =>
    match readKey name, read value, readEntries readKey read rest with
    | some key, some item, some items => some ((key, item) :: items)
    | _, _, _ => none

/-- The format is newer than this library can read. -/
def newerSnapshot (version : UInt32) : Error :=
  .storage
    ("Snapshot version " ++ Text.ofNat version.toNat ++ " is newer than supported version " ++
      Text.ofNat snapshotVersion.toNat)
    (some "Session state was written by a newer pgdeck") false

/-- Refuse a format version that is too new. -/
def checkSnapshotVersion (version : UInt32) : Except Error Unit :=
  if snapshotVersion < version then .error (newerSnapshot version) else .ok ()

/-- Saved state of one server. -/
structure ManagerSnapshot where
  version : UInt32
  server : Int32
  versionText : String
  versionNumber : UInt32
  password : Option Secret
  tunnelPassword : Option Secret
  /-- Connections under the text form of their keys. -/
  connections : SortedMap String ConnectionSnapshot
  deriving DecidableEq, Repr

namespace ManagerSnapshot

/-- Field names in their stored order. -/
def fieldNames : List String :=
  ["version", "sid", "ver", "sversion", "password", "tunnel_password", "connections"]

/-- Saved state as a JSON value; absent secrets are left out. -/
def toJson (snapshot : ManagerSnapshot) : Json :=
  .object ([
    ("version", .ofNat snapshot.version.toNat),
    ("sid", .integer snapshot.server.toInt),
    ("ver", .text snapshot.versionText),
    ("sversion", .ofNat snapshot.versionNumber.toNat)] ++
    (snapshot.password.map fun secret => ("password", secret.toJson)).toList ++
    (snapshot.tunnelPassword.map fun secret => ("tunnel_password", secret.toJson)).toList ++ [
    ("connections", .object (snapshot.connections.entries.map fun entry =>
      (entry.1, entry.2.toJson)))])

/-- Read connections from a JSON value. -/
def connectionsOfJson? (value : Json) : Option (SortedMap String ConnectionSnapshot) := do
  let fields ← value.object?
  let entries ← Json.readEntries some ConnectionSnapshot.ofJson? fields
  return .ofList entries

/-- Read saved state from a JSON value. -/
def ofJson? (value : Json) : Option ManagerSnapshot := do
  let fields ← value.record? fieldNames
  return {
    version := ← Json.required fields "version" Json.uint32?
    server := ← Json.required fields "sid" Json.int32?
    versionText := ← Json.required fields "ver" Json.text?
    versionNumber := ← Json.required fields "sversion" Json.uint32?
    password := ← Json.optional fields "password" Secret.ofJson?
    tunnelPassword := ← Json.optional fields "tunnel_password" Secret.ofJson?
    connections := ← Json.required fields "connections" connectionsOfJson? }

/-- Refuse a snapshot that is too new. -/
def checkVersion (snapshot : ManagerSnapshot) : Except Error Unit :=
  checkSnapshotVersion snapshot.version

/-- A stored connection key cannot be read. -/
def badKey (cause : KeyError) : Error :=
  .storage cause.message (some "Session state may be corrupted") false

/-- Read the keys of stored connections, in the order of their texts. -/
def parseEntries : List (String × ConnectionSnapshot) →
    Except Error (List (ConnectionKey × ConnectionSnapshot))
  | [] => .ok []
  | (text, saved) :: rest =>
    match ConnectionKey.parse text with
    | .error cause => .error (badKey cause)
    | .ok key =>
      match parseEntries rest with
      | .error error => .error error
      | .ok entries => .ok ((key, saved) :: entries)

/-- The connections with their keys, in the order of the key texts. -/
def entries (snapshot : ManagerSnapshot) :
    Except Error (List (ConnectionKey × ConnectionSnapshot)) :=
  parseEntries snapshot.connections.entries

end ManagerSnapshot

/-- Saved state of all servers of a session. -/
structure SessionSnapshot where
  version : UInt32
  managers : SortedMap Int32 ManagerSnapshot
  deriving DecidableEq, Repr

namespace SessionSnapshot

/-- The store key under which a session's snapshot is kept. -/
def storeKey : String := "pgdeck.server_managers"

/-- The snapshot of a session without servers. -/
def empty : SessionSnapshot := ⟨snapshotVersion, .empty⟩

/-- Field names in their stored order. -/
def fieldNames : List String := ["version", "managers"]

/-- A snapshot as a JSON value. -/
def toJson (snapshot : SessionSnapshot) : Json :=
  .object [
    ("version", .ofNat snapshot.version.toNat),
    ("managers", .object (snapshot.managers.entries.map fun entry =>
      (Text.ofInt entry.1.toInt, entry.2.toJson)))]

/-- A server id written as a field name: a JSON integer and nothing else. -/
def serverOfName? (name : String) : Option Int32 :=
  match Json.number? name.toList with
  | some (value, []) => value.int32?
  | _ => none

/-- Read the servers from a JSON value. -/
def managersOfJson? (value : Json) : Option (SortedMap Int32 ManagerSnapshot) := do
  let fields ← value.object?
  let entries ← Json.readEntries serverOfName? ManagerSnapshot.ofJson? fields
  return .ofList entries

/-- Read a snapshot from a JSON value, whatever its versions. -/
def ofJson? (value : Json) : Option SessionSnapshot := do
  let fields ← value.record? fieldNames
  return {
    version := ← Json.required fields "version" Json.uint32?
    managers := ← Json.required fields "managers" managersOfJson? }

/-- The value has no usable version. -/
def unversioned : Error :=
  .storage "Session snapshot has no version" (some "Reconnect to the server") false

/-- A version number cut down to 32 bits, from above. -/
def clampVersion (version : UInt64) : UInt32 :=
  if version.toNat < UInt32.size then UInt32.ofNat version.toNat else UInt32.ofNat (UInt32.size - 1)

/-- Refuse the first server whose snapshot is too new. -/
def checkManagers : List ManagerSnapshot → Except Error Unit
  | [] => .ok ()
  | manager :: rest =>
    match manager.checkVersion with
    | .error error => .error error
    | .ok () => checkManagers rest

/-- Read a snapshot from the session store. The version is looked at first, so that a newer
format is never read halfway. -/
def fromValue (value : Json) : Except Error SessionSnapshot :=
  match (value.get? "version").bind Json.uint64? with
  | none => .error unversioned
  | some version =>
    match checkSnapshotVersion (clampVersion version) with
    | .error error => .error error
    | .ok () =>
      match ofJson? value with
      | none => .error .malformedData
      | some snapshot =>
        match checkManagers snapshot.managers.values with
        | .error error => .error error
        | .ok () => .ok snapshot

end SessionSnapshot

end PgConsole
