namespace PgConsole.Path

/-!
# File paths as texts

Joining paths, and comparing them by their components. Two paths are the same when they have
the same components: repeated separators, trailing separators and single dots do not count,
except for a dot at the start of a relative path. Double dots are never resolved here.
-/

/-- Split a path at its separators; empty pieces stand for repeated separators. The first
argument holds the current piece in reverse. -/
def piecesFrom : List Char → List Char → List (List Char)
  | current, [] => [current.reverse]
  | current, c :: rest =>
    if c = '/' then current.reverse :: piecesFrom [] rest else piecesFrom (c :: current) rest

/-- The pieces of a path that are not empty. -/
def pieces (path : String) : List String :=
  ((piecesFrom [] path.toList).filter fun piece => !piece.isEmpty).map String.ofList

/-- Whether a path starts at the root. -/
def isAbsolute (path : String) : Bool :=
  path.toList.head? = some '/'

/-- The components of a path. -/
structure Components where
  absolute : Bool
  /-- A relative path starts with a single dot. -/
  leadingDot : Bool
  names : List String
  deriving DecidableEq, Repr

/-- The components of a path. -/
def components (path : String) : Components :=
  let absolute := isAbsolute path
  let parts := pieces path
  { absolute
    leadingDot := !absolute && parts.head? = some "."
    names := parts.filter (· != ".") }

/-- Whether two paths are the same by components. -/
def same (left right : String) : Bool :=
  components left = components right

/-- A path below another one; an absolute path stands for itself. -/
def join (base child : String) : String :=
  if isAbsolute child || base.isEmpty then child
  else if base.toList.getLast? = some '/' then base ++ child
  else base ++ "/" ++ child

end PgConsole.Path
