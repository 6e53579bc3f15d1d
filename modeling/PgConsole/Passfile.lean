import PgConsole.Text.Blank
import PgConsole.Text.Line
import PgConsole.Text.Numeral

namespace PgConsole.Passfile

/-!
# Password files

A password file has one entry per line: host, port, database, user and password, separated
by colons. A star in one of the first four fields matches anything. A backslash takes the
next character literally; colons after the fourth belong to the password. Blank lines and
lines whose first visible character is a hash sign are skipped.
-/

/-- Put a character in front of the first field. -/
def extendFirst (c : Char) : List (List Char) → List (List Char)
  | [] => [[c]]
  | field :: rest => (c :: field) :: rest

/-- The fields of a line, split at no more than the given number of colons. -/
def fields : Nat → List Char → List (List Char)
  | _, [] => [[]]
  | _, ['\\'] => [[]]
  | colons, '\\' :: c :: rest => extendFirst c (fields colons rest)
  | colons + 1, ':' :: rest => [] :: fields colons rest
  | colons, c :: rest => extendFirst c (fields colons rest)

/-- Whether a line holds no entry. -/
def isSkipped (line : List Char) : Bool :=
  (Text.trimStart line).head? = some '#' || (Text.trim line).isEmpty

/-- What a password is looked up for. -/
structure Query where
  host : String
  port : UInt16
  database : String
  user : String
  deriving DecidableEq, Repr

/-- The four values that an entry has to match. -/
def Query.values (query : Query) : List (List Char) :=
  [query.host.toList, (Text.ofNat query.port.toNat).toList, query.database.toList,
    query.user.toList]

/-- Whether a field matches a value. -/
def fieldMatches (field value : List Char) : Bool :=
  field = ['*'] || field = value

/-- The password of a line, if it is an entry that matches. -/
def entryPassword? (query : Query) (line : List Char) : Option String :=
  match fields 4 line with
  | [host, port, database, user, password] =>
    if (List.zipWith fieldMatches [host, port, database, user] query.values).all id then
      some (String.ofList password)
    else none
  | _ => none

/-- The password of the first entry that matches. -/
def lookup (query : Query) (text : String) : Option String :=
  ((Text.lines text.toList).filter fun line => !isSkipped line).findSome? (entryPassword? query)

end PgConsole.Passfile
