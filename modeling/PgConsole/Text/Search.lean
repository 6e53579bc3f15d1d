namespace PgConsole.Text

/-!
# Finding a text inside another
-/

/-- What follows the first occurrence of `needle` in a text, if it occurs. -/
def after? (needle : List Char) : List Char → Option (List Char)
  | [] => if needle.isEmpty then some [] else none
  | c :: rest =>
    if needle.isPrefixOf (c :: rest) then some ((c :: rest).drop needle.length)
    else after? needle rest

/-- Whether `needle` occurs in a text. -/
def contains (text needle : String) : Bool := (after? needle.toList text.toList).isSome

/-- What is left of a text after a given beginning, if it starts so. -/
def stripStart? : List Char → List Char → Option (List Char)
  | [], text => some text
  | _ :: _, [] => none
  | expected :: more, c :: rest => if c = expected then stripStart? more rest else none

end PgConsole.Text
