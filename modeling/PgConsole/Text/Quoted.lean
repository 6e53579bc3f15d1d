import PgConsole.Text.Unprintable

namespace PgConsole.Text

/-!
# Quoted text

The form in which messages and diagnostic views show a piece of text: between double
quotes, with the usual short escapes and with every unprintable character spelled by its
code point. `Quoted` is a display format only; the library never reads it back.
-/

/-- A code point in lower-case hexadecimal digits, without leading zeros. -/
def hexDigits (code : Nat) : List Char :=
  Nat.toDigits 16 code

/-- How one character stands inside quoted text. -/
def quoteChar (c : Char) : List Char :=
  if c = '"' then ['\\', '"']
  else if c = '\\' then ['\\', '\\']
  else if c = '\n' then ['\\', 'n']
  else if c = '\r' then ['\\', 'r']
  else if c = '\t' then ['\\', 't']
  else if c = '\x00' then ['\\', '0']
  else if Unprintable.isUnprintable c then
    ['\\', 'u', '\x7b'] ++ hexDigits c.toNat ++ ['\x7d']
  else [c]

/-- A text between double quotes, every character written by `quoteChar`. -/
def quote (text : String) : String :=
  String.ofList ('"' :: text.toList.flatMap quoteChar ++ ['"'])

/-- An optional value in diagnostic form, given the form of a present value. -/
def quoteOption {α : Type} (present : α → String) : Option α → String
  | none => "None"
  | some value => "Some(" ++ present value ++ ")"

/-- A list in diagnostic form, its members separated by commas. -/
def quoteList {α : Type} (member : α → String) (values : List α) : String :=
  "[" ++ ", ".intercalate (values.map member) ++ "]"

/-- A truth value in words. -/
def ofBool (value : Bool) : String :=
  if value then "true" else "false"

/-- A record in diagnostic form: its name, then its fields in the order given. -/
def quoteRecord (name : String) (fields : List (String × String)) : String :=
  let shown := fields.map fun field => field.1 ++ ": " ++ field.2
  name ++ " \x7b " ++ ", ".intercalate shown ++ " \x7d"

end PgConsole.Text
