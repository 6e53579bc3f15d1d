import PgConsole.Connection.Params
import PgConsole.Error

namespace PgConsole

/-!
# Connecting through a client library

How a driver opens a session: the files of the TLS settings are checked, the client starts a
session with the server, and that session assumes its role. The client is a parameter, and
nothing is assumed about what it answers.

`DatabaseClient.recorded` is the same client together with what it has done.
-/

/-- A client library for database servers, with handles for the sessions it has started. -/
structure DatabaseClient (World Handle : Type) where
  /-- Read and check the certificates and the key of a connection. -/
  checkFiles : SslSettings → World → Except Error Unit
  /-- Reach the server, agree on the protection of the session and authenticate. -/
  start : ConnectParams → World → Except Error Handle × World
  /-- Run a statement in a session, whatever rows it gives. -/
  execute : Handle → String → World → Except Error Unit × World

/-- Something that a client has done. -/
inductive ClientDeed (Handle : Type) where
  | started (session : Handle)
  /-- It was given a statement for a session, and may have failed to run it. -/
  | executed (session : Handle) (statement : String)
  deriving DecidableEq, Repr

namespace DatabaseClient

variable {World Handle : Type}

/-- Assume the role in a session, if one is set. -/
def assumeRole (client : DatabaseClient World Handle) (session : Handle) (role : Option String)
    (world : World) : Except Error Unit × World :=
  match role with
  | none => (.ok (), world)
  | some role => client.execute session (setRole role) world

/-- Open a session. Certificates are checked before anything is sent. -/
def connect (client : DatabaseClient World Handle) (params : ConnectParams) (world : World) :
    Except Error Handle × World :=
  match client.checkFiles params.ssl world with
  | .error error => (.error error, world)
  | .ok () =>
    match client.start params world with
    | (.error error, world) => (.error error, world)
    | (.ok session, world) =>
      match client.assumeRole session params.role world with
      | (.error error, world) => (.error error, world)
      | (.ok (), world) => (.ok session, world)

/-- The same client, with everything that it does recorded behind what is there already. -/
def recorded (client : DatabaseClient World Handle) :
    DatabaseClient (World × List (ClientDeed Handle)) Handle where
  checkFiles ssl seen := client.checkFiles ssl seen.1
  start params seen :=
    let (result, world) := client.start params seen.1
    (result, world, seen.2 ++ result.toOption.toList.map .started)
  execute session statement seen :=
    let (result, world) := client.execute session statement seen.1
    (result, world, seen.2 ++ [.executed session statement])

end DatabaseClient

end PgConsole
