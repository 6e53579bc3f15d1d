import PgConsole.Services

namespace PgConsole.Rehearsal

/-!
# Scripted services

A driver and a forwarder that follow a script: which databases are down, what statements
answer, whether tunnels open and live. With them a console can be rehearsed without a server.
Sessions and tunnels are numbered from zero in the order in which they are opened.
-/

/-- A scripted answer to a statement. -/
structure Reply where
  rows : Except Error (List TextRow)
  /-- The session closes before it answers. -/
  closes : Bool := false

/-- The script and what has happened under it. -/
structure Script where
  key : Option CryptKey
  /-- Databases that cannot be reached, with the error for each. -/
  down : SortedMap String Error := .empty
  version : Reply :=
    ⟨.ok [[("ver", some "PostgreSQL 16.2 on x86_64-pc-linux-gnu"), ("sversion", some "160002")]],
      false⟩
  /-- Rows that describe databases, by oid. -/
  databases : SortedMap Nat TextRow := .empty
  /-- Answers to particular statements. -/
  replies : SortedMap String Reply := .empty
  cancelError : Option Error := none
  /-- For every session, whether it is closed. -/
  closed : List Bool := []
  tunnelFailure : Option Error := none
  bornDead : Bool := false
  nextPort : UInt16 := 40001
  /-- For every tunnel, whether it is up. -/
  active : List Bool := []

namespace Script

/-- The answer to statements about which the script says nothing. -/
def defaultRows : List TextRow := [[("?column?", some "1")]]

/-- The oid that a statement asks about. -/
def askedOid? (sql : String) : Option Nat :=
  (Text.after? "db.oid = ".toList sql.toList).map fun rest =>
    (rest.takeWhile Text.isDigit).foldl (fun value c => value * 10 + Text.digitValue c) 0

/-- The answer to a statement: a particular one, or else by what the statement asks about. -/
def reply (script : Script) (sql : String) : Reply :=
  match script.replies.get? sql with
  | some reply => reply
  | none =>
    if Text.contains sql "version()" then script.version
    else
      match askedOid? sql with
      | some oid => ⟨.ok (script.databases.get? oid).toList, false⟩
      | none => ⟨.ok defaultRows, false⟩

/-- Whether a session is closed. -/
def isClosed (script : Script) (session : Nat) : Bool := script.closed.getD session true

/-- Close a session. -/
def close (session : Nat) (script : Script) : Script :=
  { script with closed := script.closed.set session true }

/-- Open a session unless its database is down. -/
def dial (params : ConnectParams) (script : Script) : Except Error Nat × Script :=
  match script.down.get? params.database with
  | some error => (.error error, script)
  | none => (.ok script.closed.length, { script with closed := script.closed ++ [false] })

/-- Answer a statement. -/
def query (session : Nat) (sql : String) (script : Script) :
    Except Error (List TextRow) × Script :=
  if script.isClosed session then (.error (.connection "Connection closed" false), script)
  else
    let reply := script.reply sql
    (reply.rows, if reply.closes then script.close session else script)

/-- Answer a request to cancel. -/
def cancel (script : Script) : Except Error Unit × Script :=
  match script.cancelError with
  | some error => (.error error, script)
  | none => (.ok (), script)

/-- Open a tunnel unless a failure is scripted. -/
def openTunnel (script : Script) : Except Error TunnelHandle × Script :=
  match script.tunnelFailure with
  | some error => (.error error, script)
  | none =>
    (.ok ⟨script.active.length, script.nextPort⟩,
      { script with
        active := script.active ++ [!script.bornDead], nextPort := script.nextPort + 1 })

/-- The services that follow a script. -/
def services (config : ConsoleConfig) (passfileText : String → Option String) :
    Services Script where
  config
  passfileText
  cryptKey := Script.key
  dial := Script.dial
  query := Script.query
  cancel _ := Script.cancel
  close := Script.close
  isClosed := Script.isClosed
  openTunnel _ _ := Script.openTunnel
  isActive script handle := script.active.getD handle.number false
  stopTunnel handle script := { script with active := script.active.set handle.number false }

end Script

end PgConsole.Rehearsal
