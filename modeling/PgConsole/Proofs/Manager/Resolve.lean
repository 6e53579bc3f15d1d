import PgConsole.Manager.Request

namespace PgConsole

/-!
# What a request for a connection can come to

A request names its database, or leaves the choice to the manager, or gives an oid.  An oid that
is not remembered is looked up over the connection to the maintenance database, which is
registered for that purpose (`ConnectionRequest.LooksUp`).

`Manager.FetchCase` lists every way in which such a lookup can end, `Manager.ResolveCase` every way
in which the name of the database can be found, and `Manager.RequestCase` every way in which a
request can end, each with the conditions that lead there and the state it leaves.
`fetchDatabase_case`, `resolveDatabase_case` and `connection_case` say that the lists are complete.
-/

/-- The request gives an oid alone which is not remembered, so that it has to be looked up over the
connection to the maintenance database. -/
structure ConnectionRequest.LooksUp (request : ConnectionRequest) (manager : Manager)
    (oid : UInt32) (maintenance : String) : Prop where
  unnamed : request.database = none
  given : request.oid = some oid
  unknown : manager.databases.get? oid = none
  known : manager.identity.maintenanceDatabase = some maintenance

namespace Manager

variable {World : Type}

/-- The manager with the connection to the maintenance database registered, and its number. -/
def forLookup (maintenance : String) (manager : Manager) : Nat × Manager :=
  manager.register (.db maintenance) maintenance {} false

/-- The server, asked over a connection, describes the database with an oid. -/
structure Describes (services : Services World) (number : Nat) (oid : UInt32) (manager : Manager)
    (world : World) (found : DatabaseInfo) (connected : Manager) (final : World) : Prop where
  answered : ∃ middle info rows,
    manager.ensureConnected services number world = (.ok (), connected, middle) ∧
      connected.serverInfo = some info ∧
      connected.execute services number (databaseQuery oid info.number) middle =
        (.ok rows, final) ∧
      rows.head?.bind DatabaseInfo.ofRow? = some found

/-- The ways in which looking a database up can end. -/
inductive FetchCase (services : Services World) (number : Nat) (oid : UInt32) (manager : Manager)
    (world : World) : Except Error String × Manager × World → Prop where
  /-- The connection cannot be opened. -/
  | unconnected {error : Error} {after : Manager} {final : World}
      (hEnsure : manager.ensureConnected services number world = (.error error, after, final)) :
      FetchCase services number oid manager world (.error error, after, final)
  /-- The version of the server is not known. -/
  | uninformed {connected : Manager} {middle : World}
      (hEnsure : manager.ensureConnected services number world = (.ok (), connected, middle))
      (hInfo : connected.serverInfo = none) :
      FetchCase services number oid manager world (.error .versionUnavailable, connected, middle)
  /-- The server does not answer. -/
  | unanswered {error : Error} {info : ServerInfo} {connected : Manager} {middle final : World}
      (hEnsure : manager.ensureConnected services number world = (.ok (), connected, middle))
      (hInfo : connected.serverInfo = some info)
      (hRows : connected.execute services number (databaseQuery oid info.number) middle =
        (.error error, final)) :
      FetchCase services number oid manager world (.error error, connected, final)
  /-- The server knows no such database. -/
  | absent {info : ServerInfo} {rows : List TextRow} {connected : Manager} {middle final : World}
      (hEnsure : manager.ensureConnected services number world = (.ok (), connected, middle))
      (hInfo : connected.serverInfo = some info)
      (hRows : connected.execute services number (databaseQuery oid info.number) middle =
        (.ok rows, final))
      (hNone : rows.head?.bind DatabaseInfo.ofRow? = none) :
      FetchCase services number oid manager world (.error (.databaseNotFound oid), connected, final)
  /-- The description is remembered. -/
  | found {found : DatabaseInfo} {connected : Manager} {final : World}
      (hDescribes : Describes services number oid manager world found connected final) :
      FetchCase services number oid manager world
        (.ok found.name, { connected with databases := connected.databases.insert oid found }, final)

theorem fetchDatabase_case (services : Services World) (number : Nat) (oid : UInt32)
    (manager : Manager) (world : World) :
    FetchCase services number oid manager world
      (manager.fetchDatabase services number oid world) := by
  unfold fetchDatabase
  cases hEnsure : manager.ensureConnected services number world with
  | mk result after =>
      obtain ⟨connected, middle⟩ := after
      cases result with
      | error error => exact .unconnected hEnsure
      | ok _ =>
          cases hInfo : connected.serverInfo with
          | none =>
              have hRequire : connected.requireInfo = .error .versionUnavailable := by
                rw [requireInfo, hInfo]
              simp only [hRequire]
              exact .uninformed hEnsure hInfo
          | some info =>
              have hRequire : connected.requireInfo = .ok info := by rw [requireInfo, hInfo]
              simp only [hRequire]
              cases hRows : connected.execute services number (databaseQuery oid info.number)
                  middle with
              | mk answer final =>
                  cases answer with
                  | error error => exact .unanswered hEnsure hInfo hRows
                  | ok rows =>
                      cases hFound : rows.head?.bind DatabaseInfo.ofRow? with
                      | none =>
                          simp only [hFound]
                          exact .absent hEnsure hInfo hRows hFound
                      | some found =>
                          simp only [hFound]
                          exact .found ⟨middle, info, rows, hEnsure, hInfo, hRows, hFound⟩

/-- The ways in which the database of a request can be found. -/
inductive ResolveCase (services : Services World) (request : ConnectionRequest)
    (manager : Manager) (world : World) : Except Error (Option String) × Manager × World → Prop where
  /-- The request names it; what is remembered for its oid is renamed. -/
  | named {name : String} (hName : request.database = some name) :
      ResolveCase services request manager world
        (.ok (some name), request.oid.elim manager fun oid => manager.renameDatabase oid name, world)
  /-- The request leaves the choice to the manager. -/
  | unnamed (hName : request.database = none) (hOid : request.oid = none) :
      ResolveCase services request manager world
        (.ok manager.identity.maintenanceDatabase, manager, world)
  /-- The oid is remembered. -/
  | remembered {oid : UInt32} {info : DatabaseInfo} (hName : request.database = none)
      (hOid : request.oid = some oid) (hInfo : manager.databases.get? oid = some info) :
      ResolveCase services request manager world (.ok (some info.name), manager, world)
  /-- The oid is not remembered, and there is no database over which to look it up. -/
  | nowhere {oid : UInt32} (hName : request.database = none) (hOid : request.oid = some oid)
      (hInfo : manager.databases.get? oid = none)
      (hMaintenance : manager.identity.maintenanceDatabase = none) :
      ResolveCase services request manager world (.ok none, manager, world)
  /-- The oid has been looked up in vain. -/
  | unfound {oid : UInt32} {maintenance : String} {error : Error} {after : Manager} {final : World}
      (hLooksUp : request.LooksUp manager oid maintenance)
      (hFetch : FetchCase services (manager.forLookup maintenance).1 oid
        (manager.forLookup maintenance).2 world (.error error, after, final)) :
      ResolveCase services request manager world (.error error, after, final)
  /-- The oid has been looked up. -/
  | found {oid : UInt32} {maintenance name : String} {after : Manager} {final : World}
      (hLooksUp : request.LooksUp manager oid maintenance)
      (hFetch : FetchCase services (manager.forLookup maintenance).1 oid
        (manager.forLookup maintenance).2 world (.ok name, after, final)) :
      ResolveCase services request manager world (.ok (some name), after, final)

theorem resolveDatabase_case (services : Services World) (request : ConnectionRequest)
    (manager : Manager) (world : World) :
    ResolveCase services request manager world (manager.resolveDatabase services request world) := by
  unfold resolveDatabase
  cases hName : request.database with
  | some name =>
      have hNamed : ResolveCase services request manager world (.ok (some name),
          request.oid.elim manager fun oid => manager.renameDatabase oid name, world) :=
        .named hName
      cases hOid : request.oid with
      | none =>
          rw [hOid] at hNamed
          exact hNamed
      | some oid =>
          rw [hOid] at hNamed
          exact hNamed
  | none =>
      cases hOid : request.oid with
      | none => exact .unnamed hName hOid
      | some oid =>
          cases hInfo : manager.databases.get? oid with
          | some info =>
              simp only [hInfo]
              exact .remembered hName hOid hInfo
          | none =>
              cases hMaintenance : manager.identity.maintenanceDatabase with
              | none =>
                  simp only [hInfo]
                  exact .nowhere hName hOid hInfo hMaintenance
              | some maintenance =>
                  have hLooksUp : request.LooksUp manager oid maintenance :=
                    ⟨hName, hOid, hInfo, hMaintenance⟩
                  have hFetch := fetchDatabase_case services (manager.forLookup maintenance).1 oid
                    (manager.forLookup maintenance).2 world
                  simp only [hInfo, forLookup] at hFetch ⊢
                  cases hResult : fetchDatabase services
                      (manager.register (.db maintenance) maintenance {} false).1 oid
                      (manager.register (.db maintenance) maintenance {} false).2 world with
                  | mk result after =>
                      obtain ⟨fetched, final⟩ := after
                      rw [hResult] at hFetch
                      cases result with
                      | error error => exact .unfound hLooksUp hFetch
                      | ok name => exact .found hLooksUp hFetch

/-- The ways in which a request for a connection can end. -/
inductive RequestCase (services : Services World) (request : ConnectionRequest)
    (manager : Manager) (world : World) : Except Error Nat × Manager × World → Prop where
  /-- The database cannot be found. -/
  | unresolved {error : Error} {after : Manager} {final : World}
      (hResolve : ResolveCase services request manager world (.error error, after, final)) :
      RequestCase services request manager world (.error error, after, final)
  /-- A secret is stored, and the key for it is missing. -/
  | locked {database? : Option String} {resolved : Manager} {final : World}
      (hResolve : ResolveCase services request manager world (.ok database?, resolved, final))
      (hSecrets : resolved.hasSecrets = true) (hKey : services.cryptKey final = none) :
      RequestCase services request manager world (.error .cryptKeyMissing, resolved, final)
  /-- There is no database to connect to. -/
  | lost {error : Error} {resolved : Manager} {tunnel : TunnelController} {final : World}
      (hResolve : ResolveCase services request manager world (.ok none, resolved, final))
      (hLost : resolved.noDatabase services request final = (error, { resolved with tunnel })) :
      RequestCase services request manager world (.error error, { resolved with tunnel }, final)
  /-- A connection is handed out. -/
  | handedOut {database : String} {resolved : Manager} {final : World}
      (hResolve : ResolveCase services request manager world (.ok (some database), resolved, final))
      (hOpen : resolved.hasSecrets = true → services.cryptKey final ≠ none) :
      RequestCase services request manager world
        (.ok (resolved.register (.ofRequest request.connectionId database) database
            request.flags false).1,
          { (resolved.register (.ofRequest request.connectionId database) database
              request.flags false).2 with touched := true }, final)

theorem noDatabase_frame (services : Services World) (request : ConnectionRequest)
    (manager : Manager) (world : World) :
    ∃ error tunnel, manager.noDatabase services request world = (error, { manager with tunnel }) := by
  unfold noDatabase
  cases tunnelHost? services.config manager.identity with
  | none => exact ⟨_, manager.tunnel, rfl⟩
  | some host =>
      dsimp only
      split <;> exact ⟨_, _, rfl⟩

theorem connection_case (services : Services World) (request : ConnectionRequest)
    (manager : Manager) (world : World) :
    RequestCase services request manager world (manager.connection services request world) := by
  have hResolve := resolveDatabase_case services request manager world
  unfold connection
  cases hResult : manager.resolveDatabase services request world with
  | mk result after =>
      obtain ⟨resolved, final⟩ := after
      rw [hResult] at hResolve
      cases result with
      | error error => exact .unresolved hResolve
      | ok database? =>
          by_cases hLocked : (resolved.hasSecrets && (services.cryptKey final).isNone) = true
          · simp only [if_pos hLocked]
            rw [Bool.and_eq_true, Option.isNone_iff_eq_none] at hLocked
            exact .locked hResolve hLocked.1 hLocked.2
          · simp only [if_neg hLocked]
            cases database? with
            | none =>
                obtain ⟨error, tunnel, hLost⟩ := noDatabase_frame services request resolved final
                simp only [hLost]
                exact .lost hResolve hLost
            | some database =>
                refine .handedOut hResolve ?_
                intro hSecrets hKey
                simp [hSecrets, hKey] at hLocked

end Manager

end PgConsole
