import PgConsole.Server.Identity

namespace PgConsole

/-!
# Tunnel routes

Where a tunnel starts, how it authenticates there, and which database server it leads to as
seen from the bastion host.
-/

/-- Where a tunnel goes. -/
structure TunnelRoute where
  sshHost : String
  sshPort : UInt16
  username : String
  auth : TunnelAuth
  remoteHost : String
  remotePort : UInt16
  deriving DecidableEq, Repr

namespace TunnelRoute

/-- The route to an identity's database server; its numeric address is preferred. -/
def ofIdentity (identity : ServerIdentity) (tunnel : TunnelSettings) : TunnelRoute where
  sshHost := tunnel.host
  sshPort := tunnel.port
  username := tunnel.username
  auth := tunnel.auth
  remoteHost := identity.hostaddr.getD identity.host
  remotePort := identity.port

end TunnelRoute

end PgConsole
