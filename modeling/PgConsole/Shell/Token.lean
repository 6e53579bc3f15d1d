import PgConsole.Text.Numeral

namespace PgConsole.Shell

/-!
# Tokens of a shell script

A script is cut into words, operators and ends of lines. A word keeps its quotes and its
expansions as they are written; only the shell that runs it takes them apart.
-/

/-- The single quote. -/
def singleQuote : Char := Char.ofNat 39

/-- The character around an old-style command substitution. -/
def backquote : Char := Char.ofNat 96

/-- Whether a character may stand in a name. -/
def isNameChar (c : Char) : Bool :=
  Text.isDigit c || ('a' ≤ c && c ≤ 'z') || ('A' ≤ c && c ≤ 'Z') || c = '_'

/-- What a token is. -/
inductive TokenKind where
  | word (written : List Char)
  /-- A descriptor number right before a redirection. -/
  | descriptor (number : Nat)
  | operator (sign : String)
  /-- A text that is the input of a command, and whether its expansions are carried out. -/
  | document (expands : Bool) (text : List Char)
  | lineEnd
  /-- The end of the script. -/
  | finish
  /-- From here on the script cannot be cut into tokens. -/
  | broken (reason : String)
  deriving DecidableEq, Repr

/-- A token and the line on which it stands. -/
structure Token where
  kind : TokenKind
  line : Nat
  deriving DecidableEq, Repr

/-- What a part of a word is enclosed in. -/
inductive Enclosure where
  | single
  | double
  | backquotes
  | parentheses
  | braces
  deriving DecidableEq, Repr

namespace Enclosure

/-- The character that ends an enclosure. -/
def ending : Enclosure → Char
  | .single => singleQuote
  | .double => '"'
  | .backquotes => backquote
  | .parentheses => ')'
  | .braces => '\x7d'

/-- The enclosure that a character opens inside others. -/
def opened? (around : List Enclosure) (c : Char) : Option Enclosure :=
  let quoted := around.head? = some .double
  if c = singleQuote then if quoted then none else some .single
  else if c = '"' then some .double
  else if c = backquote then some .backquotes
  else if c = '(' && around.head? = some .parentheses then some .parentheses
  else none

end Enclosure

/-- Whether a character ends a word that is not enclosed. -/
def endsWord (c : Char) : Bool :=
  [' ', '\t', '\n', ';', '&', '|', '<', '>', '(', ')'].contains c

/-- Take a word from the front of a script. `around` holds the enclosures that are open, the
innermost first, and `taken` the characters so far in reverse. A line that ends in a backslash
goes on with the next one. -/
def takeWord (around : List Enclosure) (taken : List Char) :
    List Char → Option (List Char × List Char)
  | [] => if around.isEmpty then some (taken.reverse, []) else none
  | '\\' :: c :: rest =>
    if around.head? = some .single then takeWord around ('\\' :: taken) (c :: rest)
    else if c = '\n' then takeWord around taken rest
    else takeWord around (c :: '\\' :: taken) rest
  | '$' :: '(' :: rest =>
    let around := if around.head? = some .single then around else .parentheses :: around
    takeWord around ('(' :: '$' :: taken) rest
  | '$' :: '\x7b' :: rest =>
    let around := if around.head? = some .single then around else .braces :: around
    takeWord around ('\x7b' :: '$' :: taken) rest
  | c :: rest =>
    match around with
    | [] =>
      if endsWord c then some (taken.reverse, c :: rest)
      else takeWord (Enclosure.opened? [] c).toList (c :: taken) rest
    | inner :: outer =>
      if c = inner.ending then takeWord outer (c :: taken) rest
      else if inner = .single then takeWord around (c :: taken) rest
      else takeWord ((Enclosure.opened? around c).toList ++ around) (c :: taken) rest

/-- The operators, longer ones before those that begin them. -/
def operators : List String :=
  ["&&", "||", ";;", ">>", ">&", "<&", "<<", ";", "&", "|", "(", ")", "<", ">"]

/-- The value of a word that consists of digits. -/
def number? (word : List Char) : Option Nat :=
  if !word.isEmpty && word.all Text.isDigit then
    some (word.foldl (fun value c => value * 10 + Text.digitValue c) 0)
  else none

/-- The kind of a word, given what follows it. -/
def wordKind (word rest : List Char) : TokenKind :=
  match number? word, rest with
  | some number, '<' :: _ => .descriptor number
  | some number, '>' :: _ => .descriptor number
  | _, _ => .word word

/-- The lines of a text. -/
def linesOf : List Char → List (List Char)
  | [] => [[]]
  | c :: rest =>
    if c = '\n' then [] :: linesOf rest
    else
      match linesOf rest with
      | [] => [[c]]
      | line :: lines => (c :: line) :: lines

/-- Whether a character quotes others. -/
def isQuote (c : Char) : Bool := c = singleQuote || c = '"' || c = '\\'

/-- Take the document that starts after the current line and ends before a line with a mark.
What is left are the rest of the current line and the lines after the document. -/
def takeDocument (mark : List Char) (stripTabs : Bool) (after : List Char) :
    TokenKind × List Char :=
  let strip (line : List Char) := if stripTabs then line.dropWhile (· = '\t') else line
  let plain := mark.filter fun c => !isQuote c
  let current := after.takeWhile (· != '\n')
  let lines := linesOf (after.drop (current.length + 1))
  let body := lines.takeWhile fun line => strip line != plain
  let left := lines.drop (body.length + 1)
  (.document (plain = mark) (body.flatMap fun line => strip line ++ ['\n']),
    current ++ '\n' :: ['\n'].intercalate left)

/-- Cut a script into tokens. The first argument bounds their number. -/
def tokensFrom : Nat → Nat → List Char → List Token
  | 0, line, _ => [⟨.finish, line⟩]
  | _, line, [] => [⟨.finish, line⟩]
  | fuel + 1, line, c :: rest =>
    if c = ' ' || c = '\t' then tokensFrom fuel line rest
    else if c = '\n' then ⟨.lineEnd, line⟩ :: tokensFrom fuel (line + 1) rest
    else if c = '#' then tokensFrom fuel line (rest.dropWhile (· != '\n'))
    else
      match operators.find? fun sign => sign.toList.isPrefixOf (c :: rest) with
      | some "<<" =>
        let stripTabs := rest[1]? = some '-'
        let start := (rest.drop (if stripTabs then 2 else 1)).dropWhile (· = ' ')
        match takeWord [] [] start with
        | none => [⟨.broken "Unterminated quoted string", line⟩]
        | some (mark, after) =>
          let (document, left) := takeDocument mark stripTabs after
          ⟨.operator "<<", line⟩ :: ⟨document, line⟩ :: tokensFrom fuel line left
      | some sign =>
        ⟨.operator sign, line⟩ :: tokensFrom fuel line ((c :: rest).drop sign.length)
      | none =>
        match takeWord [] [] (c :: rest) with
        | none => [⟨.broken "Unterminated quoted string", line⟩]
        | some (word, after) =>
          ⟨wordKind word after, line⟩ :: tokensFrom fuel (line + word.count '\n') after

/-- The tokens of a script. -/
def tokens (script : List Char) : List Token := tokensFrom (script.length + 1) 1 script

end PgConsole.Shell
