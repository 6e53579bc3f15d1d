namespace PgConsole.Text

/-!
# Lines of a text

A line ends at a line feed, and a single carriage return right before that line feed belongs
to the ending. A last line without an ending counts when it is not empty.
-/

/-- Drop a carriage return at the end of a line. -/
def dropReturn (line : List Char) : List Char :=
  match line.reverse with
  | '\r' :: rest => rest.reverse
  | _ => line

/-- The lines of a text, given the characters of the current line in reverse. -/
def linesFrom : List Char → List Char → List (List Char)
  | [], [] => []
  | current, [] => [current.reverse]
  | current, c :: rest =>
    if c = '\n' then dropReturn current.reverse :: linesFrom [] rest
    else linesFrom (c :: current) rest

/-- The lines of a text without their endings. -/
def lines (text : List Char) : List (List Char) :=
  linesFrom [] text

end PgConsole.Text
