import PgConsole.Connection.Key
import PgConsole.Json.Basic

namespace PgConsole

/-!
# Requests for connections

What callers ask of a server's registry: a connection to some database, or the release of
one connection or of all of them.
-/

/-- Settings of a connection, fixed when it is registered. -/
structure ConnectionFlags where
  /-- Reconnect when saved state is restored. -/
  autoReconnect : Bool := true
  /-- The connection runs statements that can be cancelled. -/
  isAsync : Bool := false
  /-- Render parameters with binary placeholders. -/
  useBinaryPlaceholder : Bool := false
  /-- Fetch arrays as texts. -/
  arrayToString : Bool := false
  deriving DecidableEq, Repr, Inhabited

namespace ConnectionFlags

/-- The diagnostic form. -/
def debug (flags : ConnectionFlags) : String :=
  Text.quoteRecord "ConnectionFlags" [
    ("auto_reconnect", Text.ofBool flags.autoReconnect),
    ("asynchronous", Text.ofBool flags.isAsync),
    ("use_binary_placeholder", Text.ofBool flags.useBinaryPlaceholder),
    ("array_to_string", Text.ofBool flags.arrayToString)]

end ConnectionFlags

/-- A request for the connection to a database, given by name or by oid. -/
structure ConnectionRequest where
  database : Option String := none
  connectionId : Option UInt64 := none
  oid : Option UInt32 := none
  autoReconnect : Bool := true
  /-- When absent, connections with an explicit number are asynchronous. -/
  isAsync : Option Bool := none
  useBinaryPlaceholder : Bool := false
  arrayToString : Bool := false
  deriving DecidableEq, Repr, Inhabited

namespace ConnectionRequest

/-- The flags of a connection that is registered for a request. -/
def flags (request : ConnectionRequest) : ConnectionFlags where
  autoReconnect := request.autoReconnect
  isAsync := request.isAsync.getD request.connectionId.isSome
  useBinaryPlaceholder := request.useBinaryPlaceholder
  arrayToString := request.arrayToString

/-- The diagnostic form. -/
def debug (request : ConnectionRequest) : String :=
  Text.quoteRecord "ConnectionRequest" [
    ("database", Text.quoteOption Text.quote request.database),
    ("conn_id", Text.quoteOption (fun id => Text.ofNat id.toNat) request.connectionId),
    ("did", Text.quoteOption (fun oid => Text.ofNat oid.toNat) request.oid),
    ("auto_reconnect", Text.ofBool request.autoReconnect),
    ("asynchronous", Text.quoteOption Text.ofBool request.isAsync),
    ("use_binary_placeholder", Text.ofBool request.useBinaryPlaceholder),
    ("array_to_string", Text.ofBool request.arrayToString)]

end ConnectionRequest

/-- A request to release a connection; without any field it releases everything. -/
structure ReleaseRequest where
  database : Option String := none
  connectionId : Option UInt64 := none
  oid : Option UInt32 := none
  deriving DecidableEq, Repr, Inhabited

namespace ReleaseRequest

/-- Whether the request releases everything. -/
def isAll (request : ReleaseRequest) : Bool :=
  request.database.isNone && request.connectionId.isNone && request.oid.isNone

/-- The diagnostic form. -/
def debug (request : ReleaseRequest) : String :=
  Text.quoteRecord "ReleaseRequest" [
    ("database", Text.quoteOption Text.quote request.database),
    ("conn_id", Text.quoteOption (fun id => Text.ofNat id.toNat) request.connectionId),
    ("did", Text.quoteOption (fun oid => Text.ofNat oid.toNat) request.oid)]

end ReleaseRequest

end PgConsole
