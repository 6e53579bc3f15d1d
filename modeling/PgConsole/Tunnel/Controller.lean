import PgConsole.Services

namespace PgConsole

/-!
# The tunnel of a server

A controller holds at most one tunnel. Creating one stops a tunnel that is still held before
the forwarder is called, and everything that can fail without the forwarder is checked before
that. A tunnel that is found dead stays held until it is replaced or stopped.
-/

/-- The single tunnel of a server. -/
structure TunnelController where
  handle : Option TunnelHandle := none
  localPort : UInt16 := 0
  created : Bool := false
  deriving DecidableEq, Repr, Inhabited

namespace TunnelController

variable {World : Type}

/-- The local port, once a tunnel has been created. -/
def port? (controller : TunnelController) : Option UInt16 :=
  if controller.created then some controller.localPort else none

/-- Stop the tunnel, if one is held. -/
def stop (services : Services World) (controller : TunnelController) (world : World) :
    TunnelController × World :=
  match controller.handle with
  | some handle => ({}, services.stopTunnel handle world)
  | none => ({}, world)

/-- The identity has no tunnel settings. -/
def notConfigured : Error := .ssh "Server is not configured for SSH tunneling" false

/-- Key authentication lacks its identity file. -/
def noIdentityFile : Error := .ssh "Identity file is required for key authentication" false

/-- The tunnel password cannot be decrypted with the key at hand. -/
def undecryptable (cause : Error) : Error :=
  .ssh ("Failed to decrypt the tunnel password: " ++ cause.message) false

/-- The tunnel password in clear text. -/
def clearPassword (key? : Option CryptKey) : Option Secret → Except Error (Option String)
  | none => .ok none
  | some secret =>
    match key? with
    | none => .error .cryptKeyMissing
    | some key =>
      match secret.decrypt key with
      | .error cause => .error (undecryptable cause)
      | .ok text => .ok (some text)

/-- What the forwarder will be asked for; fails without touching anything. -/
def prepare (key? : Option CryptKey) (identity : ServerIdentity) (password : Option Secret) :
    Except Error (TunnelRoute × Option String) :=
  match identity.tunnel with
  | none => .error notConfigured
  | some tunnel =>
    if tunnel.auth = .identityFile none then .error noIdentityFile
    else
      match clearPassword key? password with
      | .error error => .error error
      | .ok text => .ok (.ofIdentity identity tunnel, text)

/-- Create the tunnel for an identity. -/
def create (services : Services World) (identity : ServerIdentity) (password : Option Secret)
    (controller : TunnelController) (world : World) :
    Except Error Unit × TunnelController × World :=
  match prepare (services.cryptKey world) identity password with
  | .error error => (.error error, controller, world)
  | .ok (route, text) =>
    match services.openTunnel route text (controller.stop services world).2 with
    | (.error error, world) => (.error error, {}, world)
    | (.ok handle, world) => (.ok (), ⟨some handle, handle.localPort, true⟩, world)

/-- Whether a tunnel is held and up. -/
def isAlive (services : Services World) (controller : TunnelController) (world : World) : Bool :=
  controller.handle.any (services.isActive world)

/-- Fail when there is no tunnel or it is dead; the tunnel then no longer counts as created. -/
def checkAlive (services : Services World) (host : String) (controller : TunnelController)
    (world : World) : Except Error Unit × TunnelController :=
  if controller.isAlive services world then (.ok (), controller)
  else (.error (.tunnelLost host none), { controller with created := false })

/-- What a failure to create the tunnel means for a connection attempt. -/
def lostBy (host : String) : Error → Error
  | .cryptKeyMissing => .cryptKeyMissing
  | cause => .tunnelLost host (some cause.message)

/-- Check the tunnel and give its local port. -/
def checkedPort (services : Services World) (host : String) (controller : TunnelController)
    (world : World) : Except Error UInt16 × TunnelController × World :=
  match controller.checkAlive services host world with
  | (.error error, controller) => (.error error, controller, world)
  | (.ok (), controller) =>
    match controller.port? with
    | some port => (.ok port, controller, world)
    | none => (.error (.tunnelLost host none), controller, world)

/-- Create the tunnel if there is none, check it, and give its local port. -/
def ensure (services : Services World) (identity : ServerIdentity) (password : Option Secret)
    (host : String) (controller : TunnelController) (world : World) :
    Except Error UInt16 × TunnelController × World :=
  if controller.created then controller.checkedPort services host world
  else
    match controller.create services identity password world with
    | (.error error, controller, world) => (.error (lostBy host error), controller, world)
    | (.ok (), controller, world) => controller.checkedPort services host world

end TunnelController

end PgConsole
