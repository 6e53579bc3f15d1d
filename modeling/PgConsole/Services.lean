import PgConsole.Connection.Params
import PgConsole.Row
import PgConsole.Server.Version
import PgConsole.Tunnel.Route

namespace PgConsole

/-!
# Services

What the console needs from the outside: a database driver, a tunnel forwarder and the key
for stored secrets. The outside is a value of some type `World`; every service is a function
of it, and those that can change it return the changed one. Nothing is assumed about what
the services answer, so a statement for all services holds whatever driver, forwarder and
network are behind them.

`Services.recorded` is the same outside together with the calls made to it.
-/

/-- A running tunnel: its number and the local port that leads into it. -/
structure TunnelHandle where
  number : Nat
  localPort : UInt16
  deriving DecidableEq, Repr

/-- The outside as the console uses it. Sessions are known by number. -/
structure Services (World : Type) where
  config : ConsoleConfig
  /-- The text of a readable password file. -/
  passfileText : String → Option String
  /-- The key for stored secrets, while the user has unlocked them. -/
  cryptKey : World → Option CryptKey
  /-- Open a database session. -/
  dial : ConnectParams → World → Except Error Nat × World
  /-- Run a statement in a session and collect its rows. -/
  query : Nat → String → World → Except Error (List TextRow) × World
  /-- Ask the server to cancel the statement that a session is running. -/
  cancel : Nat → World → Except Error Unit × World
  /-- Close a session. -/
  close : Nat → World → World
  /-- Whether a session has been closed by either side. -/
  isClosed : World → Nat → Bool
  /-- Open a tunnel; the password is the SSH password or the passphrase of the key. -/
  openTunnel : TunnelRoute → Option String → World → Except Error TunnelHandle × World
  /-- Whether a tunnel is still up. -/
  isActive : World → TunnelHandle → Bool
  /-- Stop a tunnel. -/
  stopTunnel : TunnelHandle → World → World

/-- A call to the outside that does something there. -/
inductive Call where
  | dial (params : ConnectParams)
  | query (session : Nat) (sql : String)
  | cancel (session : Nat)
  | close (session : Nat)
  | openTunnel (route : TunnelRoute) (password : Option String)
  | stopTunnel (handle : TunnelHandle)
  deriving DecidableEq, Repr

/-- A world together with the calls made so far, in order. -/
structure Recorded (World : Type) where
  world : World
  calls : List Call

namespace Services

variable {World : Type}

/-- The same services, with every call recorded. -/
def recorded (services : Services World) : Services (Recorded World) where
  config := services.config
  passfileText := services.passfileText
  cryptKey recorded := services.cryptKey recorded.world
  dial params recorded :=
    let (result, world) := services.dial params recorded.world
    (result, ⟨world, recorded.calls ++ [.dial params]⟩)
  query session sql recorded :=
    let (result, world) := services.query session sql recorded.world
    (result, ⟨world, recorded.calls ++ [.query session sql]⟩)
  cancel session recorded :=
    let (result, world) := services.cancel session recorded.world
    (result, ⟨world, recorded.calls ++ [.cancel session]⟩)
  close session recorded :=
    ⟨services.close session recorded.world, recorded.calls ++ [.close session]⟩
  isClosed recorded session := services.isClosed recorded.world session
  openTunnel route password recorded :=
    let (result, world) := services.openTunnel route password recorded.world
    (result, ⟨world, recorded.calls ++ [.openTunnel route password]⟩)
  isActive recorded handle := services.isActive recorded.world handle
  stopTunnel handle recorded :=
    ⟨services.stopTunnel handle recorded.world, recorded.calls ++ [.stopTunnel handle]⟩

/-- The statement that asks a server for its version. -/
def versionQuery : String :=
  "SELECT version() AS ver, current_setting('server_version_num') AS sversion"

/-- What the first row of the version query says. -/
def infoOfRows (rows : List TextRow) : Except Error ServerInfo :=
  match rows with
  | [] => .error .versionUnavailable
  | row :: _ =>
    match row.get? "ver", (row.get? "sversion").bind DatabaseInfo.oidOf? with
    | some version, some number => .ok ⟨version, number⟩
    | _, _ => .error .versionUnavailable

/-- Ask the server of a session for its version. -/
def serverInfo (services : Services World) (session : Nat) (world : World) :
    Except Error ServerInfo × World :=
  match services.query session versionQuery world with
  | (.error error, world) => (.error error, world)
  | (.ok rows, world) => (infoOfRows rows, world)

end Services

end PgConsole
