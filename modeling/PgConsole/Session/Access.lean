import PgConsole.SortedMap

namespace PgConsole

/-!
# Access to sessions at the same time

Many requests use the console at once. Each session has a lock, and a request works on a
session while it holds that lock. Finding or creating a session, taking its lock and giving it
back are separate steps, and so are dropping a session and releasing what it holds; between
two steps of one request others may make theirs.

`Access.advance` makes one step of one request, and `Access.follow` makes the steps of a
schedule. Which sessions exist is all that matters here; what is done under a lock is not
modelled.
-/

/-- What a request is for. -/
inductive Errand where
  /-- Work on the session with an id, which is created if it does not exist. -/
  | use (id : String)
  /-- End the session with an id. -/
  | drop (id : String)
  deriving DecidableEq, Repr

/-- How far a request has come. Locks are known by number. -/
inductive Progress where
  /-- About to look the session up: for use, or to take it away. -/
  | arriving
  /-- There was no session; about to create one, unless there is one by now. -/
  | creating
  /-- About to take a lock, as soon as it is free. -/
  | waiting (lock : Nat)
  | holding (lock : Nat)
  | done
  deriving DecidableEq, Repr

/-- A request. -/
structure Visitor where
  errand : Errand
  progress : Progress := .arriving
  deriving DecidableEq, Repr

/-- The sessions by id, each with its lock, and all requests so far. -/
structure Access where
  locks : SortedMap String Nat := .empty
  /-- The number of locks made so far. -/
  made : Nat := 0
  visitors : List Visitor := []
  deriving DecidableEq, Repr

namespace Access

/-- Whether a request holds a lock. -/
def isHeld (access : Access) (lock : Nat) : Bool :=
  access.visitors.any fun visitor => visitor.progress = .holding lock

/-- The lock of a session, which is made if there is none. -/
def lockFor (access : Access) (id : String) : Nat × Access :=
  match access.locks.get? id with
  | some lock => (lock, access)
  | none =>
    (access.made,
      { access with locks := access.locks.insert id access.made, made := access.made + 1 })

/-- What a request does next: how far it gets, and what that changes. Nothing when it has to
wait or has finished. -/
def nextStep? (access : Access) (visitor : Visitor) : Option (Progress × Access) :=
  match visitor.progress, visitor.errand with
  | .arriving, .use id =>
    match access.locks.get? id with
    | some lock => some (.waiting lock, access)
    | none => some (.creating, access)
  | .arriving, .drop id =>
    match access.locks.get? id with
    | some lock => some (.waiting lock, { access with locks := access.locks.erase id })
    | none => some (.done, access)
  | .creating, .use id =>
    let (lock, access) := access.lockFor id
    some (.waiting lock, access)
  | .creating, .drop _ => none
  | .waiting lock, _ => if access.isHeld lock then none else some (.holding lock, access)
  | .holding _, _ => some (.done, access)
  | .done, _ => none

/-- Make one step of the request at a place. -/
def advance (place : Nat) (access : Access) : Option Access := do
  let visitor ← access.visitors[place]?
  let (progress, access) ← access.nextStep? visitor
  some { access with visitors := access.visitors.set place { visitor with progress } }

/-- Something that happens: a request arrives, or makes a step. -/
inductive Happening where
  | arrival (errand : Errand)
  | step (place : Nat)
  deriving DecidableEq, Repr

/-- Let something happen, if it can. -/
def happen (access : Access) : Happening → Option Access
  | .arrival errand => some { access with visitors := access.visitors ++ [{ errand }] }
  | .step place => access.advance place

/-- Let everything on a schedule happen in order. -/
def follow : List Happening → Access → Option Access
  | [], access => some access
  | first :: rest, access => (access.happen first).bind (follow rest)

/-- Whether a request works on the session with an id. -/
def worksOn (access : Access) (place : Nat) (id : String) : Bool :=
  match access.visitors[place]? with
  | some ⟨.use used, .holding _⟩ => used = id
  | _ => false

end Access

end PgConsole
