import PgConsole.Shell.Token

namespace PgConsole.Shell

/-!
# Shell scripts

The structure of a script: simple commands with their redirections, pipelines, lists, groups,
conditions and loops. `nextLine` reads a script line by line, since a shell runs each line
before it looks at the next one.
-/

/-- What a redirection does with its descriptor. -/
inductive RedirectionKind where
  | input
  | output
  | append
  /-- Make it the same as another descriptor, or close it. -/
  | duplicate
  /-- Read the target itself. -/
  | document (expands : Bool)
  deriving DecidableEq, Repr

/-- A redirection of a descriptor. -/
structure Redirection where
  descriptor : Nat
  kind : RedirectionKind
  target : List Char
  deriving DecidableEq, Repr

/-- A piece of a script. Words are as written. -/
inductive Script where
  | nothing
  | simple (line : Nat) (words : List (List Char)) (redirections : List Redirection)
  | pipe (first second : Script)
  | negation (body : Script)
  | inOrder (first second : Script)
  | andThen (first second : Script)
  | orElse (first second : Script)
  | background (body : Script)
  | group (body : Script) (redirections : List Redirection)
  | subshell (body : Script)
  | branch (test yes no : Script)
  | loop (untilSuccess : Bool) (test body : Script)
  | each (name : String) (words : List (List Char)) (body : Script)
  /-- Run the first of the arms whose pattern describes the subject. -/
  | choice (subject : List Char) (arms : Script)
  /-- An arm of a choice, and the arms after it. -/
  | arm (patterns : List (List Char)) (body others : Script)
  /-- Give a name to a command. -/
  | define (name : String) (body : Script)
  deriving Repr

/-- Why a script cannot be read, and where. -/
structure ScriptFault where
  line : Nat
  message : String
  deriving DecidableEq, Repr

/-- The tokens that are still to be read. -/
abbrev Tokens := List Token

/-- Words that end a list instead of starting a command. -/
def closers : List String := ["then", "else", "elif", "fi", "do", "done", "esac", "\x7d"]

/-- Words that mean something of their own where a command could start. -/
def reserved : List String := closers ++ ["if", "while", "until", "for", "case", "\x7b", "!"]

/-- The line of the next token. -/
def lineOf : Tokens → Nat
  | [] => 1
  | token :: _ => token.line

/-- The next token as messages show it. -/
def shown : Tokens → String
  | [] => "end of file"
  | token :: _ =>
    match token.kind with
    | .word written =>
      let text := String.ofList written
      if reserved.contains text then "\"" ++ text ++ "\"" else "word"
    | .descriptor number => "\"" ++ Text.ofNat number ++ "\""
    | .operator sign => "\"" ++ sign ++ "\""
    | .lineEnd => "newline"
    | _ => "end of file"

/-- The fault of a token that has no place where it stands. -/
def unexpected (expected : Option String) (input : Tokens) : ScriptFault :=
  match input.head?.map Token.kind with
  | some (.broken reason) => ⟨lineOf input, reason⟩
  | _ =>
    let hint := (expected.map fun word => " (expecting \"" ++ word ++ "\")").getD ""
    ⟨lineOf input, shown input ++ " unexpected" ++ hint⟩

/-- Whether the next token is a given word. -/
def isWord (expected : String) : Tokens → Bool
  | ⟨.word written, _⟩ :: _ => String.ofList written = expected
  | _ => false

/-- Whether the next token is a given operator. -/
def isOperator (expected : String) : Tokens → Bool
  | ⟨.operator sign, _⟩ :: _ => sign = expected
  | _ => false

/-- Pass over a word that has to come next. -/
def expectWord (expected : String) (input : Tokens) : Except ScriptFault Tokens :=
  if isWord expected input then .ok (input.drop 1) else .error (unexpected (some expected) input)

/-- Pass over ends of lines. -/
def skipLineEnds (input : Tokens) : Tokens :=
  input.dropWhile fun token => token.kind = .lineEnd

/-- Whether a list ends before the next token. -/
def endsList (input : Tokens) : Bool :=
  match input with
  | [] => true
  | token :: _ =>
    match token.kind with
    | .finish => true
    | .operator sign => sign = ")" || sign = ";;"
    | .word written => closers.contains (String.ofList written)
    | _ => false

/-- The redirection that an operator means: its kind and the descriptor it applies to. -/
def redirection? (sign : String) : Option (RedirectionKind × Nat) :=
  match sign with
  | "<" => some (.input, 0)
  | ">" => some (.output, 1)
  | ">>" => some (.append, 1)
  | "<<" => some (.document false, 0)
  | ">&" => some (.duplicate, 1)
  | "<&" => some (.duplicate, 0)
  | _ => none

/-- Read the word after a redirection operator. -/
def redirectionTarget (kind : RedirectionKind) (descriptor : Nat) :
    Tokens → Except ScriptFault (Redirection × Tokens)
  | ⟨.word target, _⟩ :: rest => .ok (⟨descriptor, kind, target⟩, rest)
  | ⟨.document expands text, _⟩ :: rest => .ok (⟨descriptor, .document expands, text⟩, rest)
  | input => .error (unexpected none input)

/-- Read a redirection, if one comes next. -/
def redirection (input : Tokens) : Except ScriptFault (Option (Redirection × Tokens)) :=
  match input with
  | ⟨.descriptor number, _⟩ :: ⟨.operator sign, _⟩ :: rest =>
    match redirection? sign with
    | some (kind, _) => (redirectionTarget kind number rest).map some
    | none => .ok none
  | ⟨.operator sign, _⟩ :: rest =>
    match redirection? sign with
    | some (kind, descriptor) => (redirectionTarget kind descriptor rest).map some
    | none => .ok none
  | _ => .ok none

/-- Read redirections as long as they come. The first argument bounds their number. -/
def redirections : Nat → Tokens → Except ScriptFault (List Redirection × Tokens)
  | 0, input => .ok ([], input)
  | fuel + 1, input =>
    match redirection input with
    | .error fault => .error fault
    | .ok none => .ok ([], input)
    | .ok (some (first, input)) =>
      (redirections fuel input).map fun (rest, input) => (first :: rest, input)

/-- Read the words and redirections of a simple command. -/
def simpleParts : Nat → Tokens →
    Except ScriptFault (List (List Char) × List Redirection × Tokens)
  | 0, input => .ok ([], [], input)
  | fuel + 1, input =>
    match redirection input with
    | .error fault => .error fault
    | .ok (some (first, input)) =>
      (simpleParts fuel input).map fun (words, rest, input) => (words, first :: rest, input)
    | .ok none =>
      match input with
      | ⟨.word written, _⟩ :: rest =>
        (simpleParts fuel rest).map fun (words, redirections, input) =>
          (written :: words, redirections, input)
      | _ => .ok ([], [], input)

/-- Read words up to the end of a line or a semicolon. -/
def wordRun : Tokens → List (List Char) × Tokens
  | ⟨.word written, _⟩ :: rest =>
    let (words, rest) := wordRun rest
    (written :: words, rest)
  | input => ([], input)

/-- Read patterns with bars between them, up to and including a closing parenthesis. -/
def patterns : Tokens → Except ScriptFault (List (List Char) × Tokens)
  | ⟨.word first, _⟩ :: ⟨.operator "|", _⟩ :: rest =>
    (patterns rest).map fun (others, input) => (first :: others, input)
  | ⟨.word first, _⟩ :: ⟨.operator ")", _⟩ :: rest => .ok ([first], rest)
  | ⟨.word _, _⟩ :: input => .error (unexpected (some ")") input)
  | input => .error (unexpected none input)

/-- Whether a word can be the name of a variable. -/
def isName (word : List Char) : Bool :=
  !word.isEmpty && word.all isNameChar && !(word.head?.map Text.isDigit).getD true

/-- The word for all arguments, each of them as one word. -/
def allArguments : List Char := "\"$@\"".toList

/-- Pass over the end of a line or a semicolon, and ends of lines after that. -/
def skipSeparator (input : Tokens) : Tokens :=
  skipLineEnds (if isOperator ";" input then input.drop 1 else input)

mutual

/-- Read a list of commands. Only when `wide`, ends of lines separate commands like
semicolons; otherwise the list ends there. -/
def listOf : Nat → Bool → Tokens → Except ScriptFault (Script × Tokens)
  | 0, _, input => .error (unexpected none input)
  | fuel + 1, wide, input =>
    let input := if wide then skipLineEnds input else input
    if endsList input || input.head?.map Token.kind = some .lineEnd then .ok (.nothing, input)
    else do
      let (first, input) ← conditional fuel input
      if isOperator ";" input then
        let (second, input) ← listOf fuel wide (input.drop 1)
        .ok (.inOrder first second, input)
      else if isOperator "&" input then
        let (second, input) ← listOf fuel wide (input.drop 1)
        .ok (.inOrder (.background first) second, input)
      else if wide && input.head?.map Token.kind = some .lineEnd then
        let (second, input) ← listOf fuel wide input
        .ok (.inOrder first second, input)
      else .ok (first, input)

/-- Read pipelines joined by "and" and "or". -/
def conditional : Nat → Tokens → Except ScriptFault (Script × Tokens)
  | 0, input => .error (unexpected none input)
  | fuel + 1, input => do
    let (first, input) ← pipeline fuel input
    conditionalRest fuel first input

/-- Go on after the first part of a conditional list. -/
def conditionalRest : Nat → Script → Tokens → Except ScriptFault (Script × Tokens)
  | 0, _, input => .error (unexpected none input)
  | fuel + 1, first, input =>
    if isOperator "&&" input then do
      let (second, input) ← pipeline fuel (skipLineEnds (input.drop 1))
      conditionalRest fuel (.andThen first second) input
    else if isOperator "||" input then do
      let (second, input) ← pipeline fuel (skipLineEnds (input.drop 1))
      conditionalRest fuel (.orElse first second) input
    else .ok (first, input)

/-- Read commands joined by pipes. -/
def pipeline : Nat → Tokens → Except ScriptFault (Script × Tokens)
  | 0, input => .error (unexpected none input)
  | fuel + 1, input =>
    if isWord "!" input then do
      let (body, input) ← pipeline fuel (input.drop 1)
      .ok (.negation body, input)
    else do
      let (first, input) ← command fuel input
      if isOperator "|" input then
        let (rest, input) ← pipeline fuel (skipLineEnds (input.drop 1))
        .ok (.pipe first rest, input)
      else .ok (first, input)

/-- Read a command that has a structure, without the redirections after it; nothing when the
next command is a simple one. -/
def compound : Nat → Tokens → Except ScriptFault (Option (Script × Tokens))
  | 0, input => .error (unexpected none input)
  | fuel + 1, input =>
    if isWord "if" input then (branches fuel (input.drop 1)).map some
    else if isWord "while" input || isWord "until" input then do
      let untilSuccess := isWord "until" input
      let (test, input) ← listOf fuel true (input.drop 1)
      let (body, input) ← doneBlock fuel input
      .ok (some (.loop untilSuccess test body, input))
    else if isWord "for" input then
      match input.drop 1 with
      | ⟨.word name, line⟩ :: rest => do
        if !isName name then .error ⟨line, "Bad for loop variable"⟩
        let (words, input) :=
          if isWord "in" (skipLineEnds rest) then wordRun ((skipLineEnds rest).drop 1)
          else ([allArguments], rest)
        let (body, input) ← doneBlock fuel (skipSeparator input)
        .ok (some (.each (String.ofList name) words body, input))
      | input => .error ⟨lineOf input, "Bad for loop variable"⟩
    else if isWord "case" input then
      match input.drop 1 with
      | ⟨.word subject, _⟩ :: rest => do
        let input ← expectWord "in" (skipLineEnds rest)
        let (arms, input) ← armsOf fuel (skipLineEnds input)
        .ok (some (.choice subject arms, input))
      | input => .error (unexpected none input)
    else if isWord "\x7b" input then do
      let (body, input) ← listOf fuel true (input.drop 1)
      let input ← expectWord "\x7d" input
      .ok (some (.group body [], input))
    else if isOperator "(" input then do
      let (body, input) ← listOf fuel true (input.drop 1)
      if isOperator ")" input then .ok (some (.subshell body, input.drop 1))
      else .error (unexpected (some ")") input)
    else
      match input with
      | ⟨.word name, _⟩ :: ⟨.operator "(", _⟩ :: ⟨.operator ")", _⟩ :: rest =>
        if isName name then do
          let (body, input) ← command fuel (skipLineEnds rest)
          .ok (some (.define (String.ofList name) body, input))
        else .ok none
      | _ => .ok none

/-- Read one command. -/
def command : Nat → Tokens → Except ScriptFault (Script × Tokens)
  | 0, input => .error (unexpected none input)
  | fuel + 1, input => do
    match ← compound fuel input with
    | some (script, input) => do
      let (outside, input) ← redirections fuel input
      .ok (if outside.isEmpty then script else .group script outside, input)
    | none =>
      if endsList input then .error (unexpected none input)
      let (words, outside, rest) ← simpleParts fuel input
      if words.isEmpty && outside.isEmpty then .error (unexpected none input)
      else .ok (.simple (lineOf input) words outside, rest)

/-- Read the arms of a choice, up to and including `esac`. -/
def armsOf : Nat → Tokens → Except ScriptFault (Script × Tokens)
  | 0, input => .error (unexpected none input)
  | fuel + 1, input =>
    if isWord "esac" input then .ok (.nothing, input.drop 1)
    else do
      let (first, input) ← patterns (if isOperator "(" input then input.drop 1 else input)
      let (body, input) ← listOf fuel true input
      if isOperator ";;" input then
        let (others, input) ← armsOf fuel (skipLineEnds (input.drop 1))
        .ok (.arm first body others, input)
      else
        let input ← expectWord "esac" input
        .ok (.arm first body .nothing, input)

/-- Read a condition after `if` or `elif`, up to and including `fi`. -/
def branches : Nat → Tokens → Except ScriptFault (Script × Tokens)
  | 0, input => .error (unexpected none input)
  | fuel + 1, input => do
    let (test, input) ← listOf fuel true input
    let input ← expectWord "then" input
    let (yes, input) ← listOf fuel true input
    if isWord "elif" input then
      let (no, input) ← branches fuel (input.drop 1)
      .ok (.branch test yes no, input)
    else if isWord "else" input then
      let (no, input) ← listOf fuel true (input.drop 1)
      let input ← expectWord "fi" input
      .ok (.branch test yes no, input)
    else
      let input ← expectWord "fi" input
      .ok (.branch test yes .nothing, input)

/-- Read a loop's body between `do` and `done`. -/
def doneBlock : Nat → Tokens → Except ScriptFault (Script × Tokens)
  | 0, input => .error (unexpected none input)
  | fuel + 1, input => do
    let input ← expectWord "do" input
    let (body, input) ← listOf fuel true input
    let input ← expectWord "done" input
    .ok (body, input)

end

/-- Read the next line of a script, or as many as its first command takes. Nothing is left
at the end of the script. -/
def nextLine (input : Tokens) : Except ScriptFault (Option (Script × Tokens)) :=
  let input := skipLineEnds input
  match input with
  | [] => .ok none
  | ⟨.finish, _⟩ :: _ => .ok none
  | _ =>
    match listOf (8 * input.length + 8) false input with
    | .error fault => .error fault
    | .ok (script, rest) =>
      match rest with
      | [] => .ok (some (script, []))
      | ⟨.finish, _⟩ :: _ => .ok (some (script, []))
      | ⟨.lineEnd, _⟩ :: more => .ok (some (script, more))
      | _ => .error (unexpected none rest)

end PgConsole.Shell
