import PgConsole.Json.Basic
import PgConsole.Text.Numeral

namespace PgConsole.Json

/-!
# JSON texts

`render` writes a value without any blank. Strings escape the double quote, the backslash
and the control characters below the space, by their short name where they have one, and
leave every other character as it is.
-/

/-- The hexadecimal digit of a number below sixteen. -/
def hexDigit (value : Nat) : Char :=
  Nat.digitChar value

/-- How one character stands inside a JSON string. -/
def escapeChar (c : Char) : List Char :=
  if c = '"' then ['\\', '"']
  else if c = '\\' then ['\\', '\\']
  else if c = '\n' then ['\\', 'n']
  else if c = '\r' then ['\\', 'r']
  else if c = '\t' then ['\\', 't']
  else if c = '\x08' then ['\\', 'b']
  else if c = '\x0c' then ['\\', 'f']
  else if c.toNat < 0x20 then
    ['\\', 'u', '0', '0', hexDigit (c.toNat / 16), hexDigit (c.toNat % 16)]
  else [c]

/-- A text between double quotes. -/
def renderText (value : String) : List Char :=
  '"' :: value.toList.flatMap escapeChar ++ ['"']

mutual

/-- The characters of a value's text. -/
def renderChars : Json → List Char
  | .null => ['n', 'u', 'l', 'l']
  | .bool true => ['t', 'r', 'u', 'e']
  | .bool false => ['f', 'a', 'l', 's', 'e']
  | .integer value => (Text.ofInt value).toList
  | .real written => written.toList
  | .text value => renderText value
  | .illFormed => renderText ""
  | .array items => '[' :: renderItems items
  | .object fields => '\x7b' :: renderFields fields

/-- The items of an array, each after the first led by a comma, and the closing bracket. -/
def renderItems : List Json → List Char
  | [] => [']']
  | [item] => renderChars item ++ [']']
  | item :: rest => renderChars item ++ ',' :: renderItems rest

/-- The fields of an object, each after the first led by a comma, and the closing brace. -/
def renderFields : List (String × Json) → List Char
  | [] => ['\x7d']
  | [(name, value)] => renderText name ++ ':' :: renderChars value ++ ['\x7d']
  | (name, value) :: rest => renderText name ++ ':' :: renderChars value ++ ',' :: renderFields rest

end

/-- The text of a value, without blanks. -/
def render (value : Json) : String :=
  String.ofList (renderChars value)

end PgConsole.Json
