import PgConsole.Text.Numeral
import PgConsole.Text.Quoted
import PgConsole.Text.Search

namespace PgConsole

/-!
# Server versions

What a connected server says about itself, and the names of the utility programs that fit
its flavour.
-/

/-- The flavour of a server. -/
inductive ServerType where
  | postgres
  | enterpriseDb
  deriving DecidableEq, Repr

/-- Work that an external utility program does. -/
inductive UtilityOperation where
  | backup
  | backupServer
  | restore
  | sql
  deriving DecidableEq, Repr

namespace ServerType

/-- Detect the flavour from the server's version text. -/
def ofVersionText (version : String) : ServerType :=
  if Text.contains version "EnterpriseDB" || Text.contains version "EDB Advanced Server" then
    .enterpriseDb
  else .postgres

/-- The short name of a flavour. -/
def toText : ServerType → String
  | .postgres => "pg"
  | .enterpriseDb => "ppas"

/-- The name of a flavour in diagnostic views. -/
def debug : ServerType → String
  | .postgres => "Postgres"
  | .enterpriseDb => "EnterpriseDb"

/-- The utility program for an operation; only the SQL shell depends on the flavour. -/
def utility : ServerType → UtilityOperation → String
  | _, .backup => "pg_dump"
  | _, .backupServer => "pg_dumpall"
  | _, .restore => "pg_restore"
  | .postgres, .sql => "psql"
  | .enterpriseDb, .sql => "edb-psql"

end ServerType

/-- What a server says about its version: a text and a six-digit number. -/
structure ServerInfo where
  version : String
  number : UInt32
  deriving DecidableEq, Repr

namespace ServerInfo

/-- The flavour of the server. -/
def serverType (info : ServerInfo) : ServerType := .ofVersionText info.version

/-- The major version. -/
def major (info : ServerInfo) : UInt32 := info.number / 10000

/-- The minor version of servers that have one. -/
def minor (info : ServerInfo) : UInt32 := info.number / 100 % 100

/-- The patch level. -/
def patch (info : ServerInfo) : UInt32 := info.number % 100

/-- The diagnostic form. -/
def debug (info : ServerInfo) : String :=
  Text.quoteRecord "ServerInfo" [
    ("ver", Text.quote info.version),
    ("sversion", Text.ofNat info.number.toNat),
    ("server_type", info.serverType.debug)]

end ServerInfo

end PgConsole
