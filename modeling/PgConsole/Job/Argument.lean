import PgConsole.Text.Search

namespace PgConsole.Job

/-!
# Arguments on an executor's command line

An argument that contains a double quote is put between two markers, because some command
lines cannot carry double quotes as they are. Reading takes markers off wherever both are
present, whether there is a quote between them or not.
-/

namespace Argument

/-- The text on both sides of a protected argument. -/
def marker : String := "#DQ#"

/-- Put an argument between markers if it contains a double quote. -/
def protect (argument : String) : String :=
  if argument.toList.contains '"' then marker ++ argument ++ marker else argument

/-- What stands between two markers that begin and end a text without overlapping. -/
def between? (text : List Char) : Option (List Char) := do
  let rest ← Text.stripStart? marker.toList text
  let inner ← Text.stripStart? marker.toList.reverse rest.reverse
  some inner.reverse

/-- Take an argument out of its markers; without two markers it is as it is. -/
def unprotect (argument : String) : String :=
  match between? argument.toList with
  | some inner => String.ofList inner
  | none => argument

end Argument

end PgConsole.Job
