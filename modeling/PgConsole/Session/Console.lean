import PgConsole.Session.Basic

namespace PgConsole

/-!
# The console

All live sessions of the console by their ids. A session comes into being when it is first
addressed and ends when it is dropped with all its connections released.
-/

/-- The live sessions. -/
structure Console where
  sessions : SortedMap String Session := .empty

namespace Console

variable {World : Type}

/-- The session with an id, or a new one. -/
def session (console : Console) (id : String) : Session :=
  (console.sessions.get? id).getD { id }

/-- Keep a session under its id. -/
def keep (console : Console) (session : Session) : Console :=
  { console with sessions := console.sessions.insert session.id session }

/-- Create the session with an id unless there is one. -/
def address (console : Console) (id : String) : Console := console.keep (console.session id)

/-- The ids of the live sessions. -/
def sessionIds (console : Console) : List String := console.sessions.keys

/-- Drop a session and release its connections; the answer is the released session, if there
was one. -/
def endSession (services : Services World) (id : String) (console : Console) (world : World) :
    Option Session × Console × World :=
  match console.sessions.get? id with
  | none => (none, console, world)
  | some session =>
    let (session, world) := session.releaseAll services world
    (some session, { console with sessions := console.sessions.erase id }, world)

end Console

end PgConsole
