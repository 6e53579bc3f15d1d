namespace PgConsole.Shell

/-!
# Patterns of a shell

A pattern describes whole texts: a star stands for any run of characters, a question mark for
one character, and brackets for one character of a set. A character that has been quoted
stands for itself. `Pattern.describes` decides whether a text is described, and
`Pattern.trimStart` and `Pattern.trimEnd` cut off a described part.
-/

/-- A part of a pattern. -/
inductive PatternItem where
  | char (c : Char)
  | anyChar
  | anyRun
  /-- One character that lies in one of the ranges, or in none of them. -/
  | oneOf (negated : Bool) (ranges : List (Char × Char))
  deriving DecidableEq, Repr

/-- A pattern. -/
abbrev Pattern := List PatternItem

namespace Pattern

/-- A character of a word, and whether it has been quoted. -/
abbrev Marked := Char × Bool

/-- The ranges between brackets. -/
def ranges : List Char → List (Char × Char)
  | low :: '-' :: high :: rest => (low, high) :: ranges rest
  | c :: rest => (c, c) :: ranges rest
  | [] => []

/-- Read the inside of brackets: whether the set is negated, its characters, and what
follows. A closing bracket right at the start belongs to the set. -/
def bracket? (text : List Marked) : Option (PatternItem × List Marked) :=
  let negated := text.head? = some ('!', false)
  let text := if negated then text.drop 1 else text
  let first := text.take 1
  let inner := (text.drop 1).takeWhile fun entry => entry.1 != ']'
  match (text.drop 1).drop inner.length with
  | [] => none
  | _ :: rest => some (.oneOf negated (ranges ((first ++ inner).map Prod.fst)), rest)

/-- Read a pattern. The first argument bounds its length. -/
def read : Nat → List Marked → Pattern
  | 0, _ => []
  | _, [] => []
  | fuel + 1, (c, true) :: rest => .char c :: read fuel rest
  | fuel + 1, ('*', false) :: rest => .anyRun :: read fuel rest
  | fuel + 1, ('?', false) :: rest => .anyChar :: read fuel rest
  | fuel + 1, ('[', false) :: rest =>
    match bracket? rest with
    | some (item, rest) => item :: read fuel rest
    | none => .char '[' :: read fuel rest
  | fuel + 1, (c, false) :: rest => .char c :: read fuel rest

/-- The pattern that a word denotes. -/
def ofMarked (text : List Marked) : Pattern := read text.length text

/-- Whether a pattern describes a text. -/
def describes : Pattern → List Char → Bool
  | [], text => text.isEmpty
  | .anyRun :: rest, [] => describes rest []
  | .anyRun :: rest, c :: text => describes rest (c :: text) || describes (.anyRun :: rest) text
  | _ :: _, [] => false
  | .char expected :: rest, c :: text => expected = c && describes rest text
  | .anyChar :: rest, _ :: text => describes rest text
  | .oneOf negated ranges :: rest, c :: text =>
    (ranges.any fun range => range.1 ≤ c && c ≤ range.2) != negated && describes rest text
termination_by pattern text => (pattern.length, text.length)

/-- The lengths that a part of a text can have, in the order in which they are tried. -/
def lengths (longest : Bool) (text : List Char) : List Nat :=
  let all := List.range (text.length + 1)
  if longest then all.reverse else all

/-- A text without the shortest or longest part at its start that a pattern describes. -/
def trimStart (longest : Bool) (pattern : Pattern) (text : List Char) : List Char :=
  match (lengths longest text).find? fun length => describes pattern (text.take length) with
  | some length => text.drop length
  | none => text

/-- A text without the shortest or longest part at its end that a pattern describes. -/
def trimEnd (longest : Bool) (pattern : Pattern) (text : List Char) : List Char :=
  match (lengths longest text).find? fun length =>
      describes pattern (text.drop (text.length - length)) with
  | some length => text.take (text.length - length)
  | none => text

end Pattern

end PgConsole.Shell
