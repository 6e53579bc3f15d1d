import PgConsole.Connection.Client
import PgConsole.Services
import PgConsole.Wire.Certificate

namespace PgConsole.Wire

/-!
# Sessions over the wire

The services of a console that talks to a database server on a local socket. There is no
other network: every other host, and every bastion, is out of reach. The server follows a
script of its own, and everything it is told is kept as events.

A connection first offers encryption unless its mode forbids it, then starts up, gives its
password if asked, and assumes its role. Every failure on the way ends the attempt.
-/

/-- What the server is told. -/
inductive Event where
  | tlsRequest
  | startup (user database applicationName : String)
  | password (text : String)
  | query (sql : String)
  | cancelRequest (process key : Nat)
  deriving DecidableEq, Repr

/-- What the server answers to a statement. -/
structure ServerReply where
  rows : List TextRow := []
  /-- A report sent after the rows. -/
  report : Option Error.ServerReport := none
  hangsUp : Bool := false

/-- A database server on a local socket. -/
structure Server where
  /-- The directory of the socket. -/
  directory : FileTree.Place
  port : UInt16
  /-- The server agrees to encrypt, and then hangs up. -/
  agreesToTls : Bool := false
  startupReport : Option Error.ServerReport := none
  /-- The password that the server asks for. -/
  password : Option String := none
  replies : SortedMap String ServerReply := .empty

/-- One session: its mode, and whether it is closed. -/
structure WireSession where
  mode : SslMode
  closed : Bool := false

/-- The network as a console sees it. -/
structure Network where
  key : Option CryptKey
  files : FileTree
  server : Option Server
  sessions : List WireSession := []
  events : List Event := []

namespace Network

/-- What goes wrong with a connection, in the driver's words. -/
def failure (message : String) : Error := .connection message true

/-- The session is closed. -/
def sessionClosed : Error := failure "Connection closed"

/-- A text with a NUL character cannot be sent. -/
def unsendable (text : String) : Bool := text.toList.contains (Char.ofNat 0)

/-- A message cannot be put on the wire. -/
def encodingFailure : Error := failure "error encoding message to server"

/-- Note what the server has been told. -/
def tell (event : Event) (network : Network) : Network :=
  { network with events := network.events ++ [event] }

/-- The server that a connection reaches: the host must be the directory of its socket. -/
def reach? (params : ConnectParams) (network : Network) : Option Server :=
  match network.server with
  | none => none
  | some server =>
    if params.hostaddr.isSome || !Path.isAbsolute params.host then none
    else
      match network.files.resolve params.host with
      | .ok ⟨place, some .directory⟩ =>
        if place = server.directory && params.port = server.port then some server else none
      | _ => none

/-- Offer encryption unless the mode forbids it. -/
def offerTls (server : Server) (mode : SslMode) (network : Network) :
    Except Error Unit × Network :=
  if mode.asksForTls then
    let network := network.tell .tlsRequest
    if server.agreesToTls || !mode.acceptsPlain then
      (.error (failure "error performing TLS handshake"), network)
    else (.ok (), network)
  else (.ok (), network)

/-- The server's report on a wrong password. -/
def wrongPassword : Error.ServerReport := ⟨"28P01", "password authentication failed", none, none⟩

/-- Give the password if the server asks for one. -/
def authenticate (server : Server) (password : Option String) (network : Network) :
    Except Error Unit × Network :=
  match server.password, password with
  | none, _ => (.ok (), network)
  | some _, none => (.error (failure "invalid configuration"), network)
  | some expected, some given =>
    if unsendable given then (.error encodingFailure, network)
    else
      let network := network.tell (.password given)
      if given = expected then (.ok (), network) else (.error (.ofReport wrongPassword), network)

/-- Start up and authenticate. -/
def startUp (server : Server) (params : ConnectParams) (network : Network) :
    Except Error Unit × Network :=
  if [params.user, params.database, params.applicationName].any unsendable then
    (.error encodingFailure, network)
  else
    let network := network.tell (.startup params.user params.database params.applicationName)
    match server.startupReport with
    | some report => (.error (.ofReport report), network)
    | none => authenticate server params.password network

/-- Tell the server a statement and take its answer; the flag says that it hung up. -/
def ask (server : Server) (sql : String) (network : Network) :
    Except Error (List TextRow) × Bool × Network :=
  if unsendable sql then (.error encodingFailure, false, network)
  else
    let network := network.tell (.query sql)
    let reply := (server.replies.get? sql).getD {}
    match reply.report with
    | some report => (.error (.ofReport report), reply.hangsUp, network)
    | none =>
      if reply.hangsUp then (.error sessionClosed, true, network)
      else (.ok reply.rows, false, network)

/-- Reach the server and go through the steps up to a session that can take statements. -/
def start (params : ConnectParams) (network : Network) : Except Error Server × Network :=
  match network.reach? params with
  | none => (.error (failure "error connecting to server"), network)
  | some server =>
    match offerTls server params.ssl.mode network with
    | (.error error, network) => (.error error, network)
    | (.ok (), network) =>
      match startUp server params network with
      | (.error error, network) => (.error error, network)
      | (.ok (), network) => (.ok server, network)

/-- The client library on this network; a session is known by its server until it stands. -/
def client : DatabaseClient Network Server where
  checkFiles ssl network := Wire.checkFiles network.files ssl
  start := start
  execute server sql network :=
    let (result, _, network) := ask server sql network
    (result.map fun _ => (), network)

/-- Open a session, which is then known by its number. -/
def dial (params : ConnectParams) (network : Network) : Except Error Nat × Network :=
  match client.connect params network with
  | (.error error, network) => (.error error, network)
  | (.ok _, network) =>
    (.ok network.sessions.length,
      { network with sessions := network.sessions ++ [{ mode := params.ssl.mode }] })

/-- Whether a session is closed. -/
def isClosed (network : Network) (session : Nat) : Bool :=
  (network.sessions[session]?).all WireSession.closed

/-- Close a session. -/
def close (session : Nat) (network : Network) : Network :=
  { network with sessions := network.sessions.modify session fun s => { s with closed := true } }

/-- Run a statement. -/
def query (session : Nat) (sql : String) (network : Network) :
    Except Error (List TextRow) × Network :=
  match network.server with
  | none => (.error sessionClosed, network)
  | some server =>
    if network.isClosed session then (.error sessionClosed, network)
    else
      match ask server sql network with
      | (result, hungUp, network) =>
        (result, if hungUp then network.close session else network)

/-- The process number and the key that the server gives its sessions. -/
def cancelCredentials : Nat × Nat := (7, 9)

/-- Ask the server, over a connection of its own, to cancel what a session runs. -/
def cancel (session : Nat) (network : Network) : Except Error Unit × Network :=
  let asksForTls := (network.sessions[session]?).any fun s => s.mode.asksForTls
  let network := if asksForTls then network.tell .tlsRequest else network
  (.ok (), network.tell (.cancelRequest cancelCredentials.1 cancelCredentials.2))

/-- A bastion host is out of reach. -/
def bastionUnreachable (route : TunnelRoute) : Error :=
  .ssh ("Failed to connect to SSH server " ++ route.sshHost ++ ":" ++
    Text.ofNat route.sshPort.toNat ++ ": " ++ SystemError.networkUnreachable.message) true

/-- The services of a console on this network. -/
def services (config : ConsoleConfig) (passfileText : String → Option String) :
    Services Network where
  config
  passfileText
  cryptKey := Network.key
  dial := Network.dial
  query := Network.query
  cancel := Network.cancel
  close := Network.close
  isClosed := Network.isClosed
  openTunnel route _ network := (.error (bastionUnreachable route), network)
  isActive _ _ := false
  stopTunnel _ network := network

/-- How a server can open a conversation so that it fails at once. -/
inductive Opening where
  | report (report : Error.ServerReport)
  | hangup
  | asksForPassword
  | outOfOrder
  deriving DecidableEq, Repr

/-- The error that such an opening becomes, for a client without a password. -/
def Opening.error : Opening → Error
  | .report told => .ofReport told
  | .hangup => sessionClosed
  | .asksForPassword => failure "invalid configuration"
  | .outOfOrder => failure "unexpected message from server"

end Network

end PgConsole.Wire
