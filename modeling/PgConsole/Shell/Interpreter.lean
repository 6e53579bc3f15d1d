import PgConsole.Shell.Pattern
import PgConsole.Shell.Process
import PgConsole.Text.Search

namespace PgConsole.Shell

/-!
# Running scripts

Words are expanded, redirections carried out and commands run. Everything happens in order
and at once: the parts of a pipeline run one after the other, a command in the background is
finished before the next one starts, and nobody sleeps.

Every function takes a number that bounds how deep it may go.
-/

/-- A part of an expanded word. -/
inductive Part where
  /-- Text that stays in one piece; quoted text makes a word even when it is empty. -/
  | fixed (quoted : Bool) (text : List Char)
  /-- Text that is split at the shell's separators. -/
  | loose (text : List Char)
  /-- The boundary between two words. -/
  | boundary
  deriving DecidableEq, Repr

/-- Words under construction: the finished ones, last first, and the current one if it has
begun. -/
structure Fields where
  done : List (List Char) := []
  current : Option (List Char) := none

namespace Fields

/-- Finish the current word. -/
def close (fields : Fields) : Fields :=
  match fields.current with
  | none => fields
  | some word => ⟨word :: fields.done, none⟩

/-- Add text to the current word. -/
def add (text : List Char) (fields : Fields) : Fields :=
  { fields with current := some (fields.current.getD [] ++ text) }

/-- Add text that is split at separators. Of those only blanks can stand together; between two
others there is an empty word. -/
def addLoose (separators : List Char) : List Char → Fields → Fields
  | [], fields => fields
  | c :: rest, fields =>
    if !separators.contains c then addLoose separators rest (fields.add [c])
    else if Text.isBlank c then addLoose separators rest fields.close
    else addLoose separators rest (fields.add []).close

/-- Add a part of a word. -/
def addPart (separators : List Char) (fields : Fields) : Part → Fields
  | .fixed quoted text => if quoted || !text.isEmpty then fields.add text else fields
  | .loose text => fields.addLoose separators text
  | .boundary => fields.close

/-- The words that parts make. -/
def ofParts (separators : List Char) (parts : List Part) : List String :=
  ((parts.foldl (addPart separators) {}).close.done.map String.ofList).reverse

end Fields

/-- The text of parts that are not split into words. -/
def joined (parts : List Part) : List Char :=
  parts.flatMap fun part =>
    match part with
    | .fixed _ text => text
    | .loose text => text
    | .boundary => [' ']

/-- The pattern that parts denote. What has been quoted stands for itself. -/
def patternOf (parts : List Part) : Pattern :=
  Pattern.ofMarked (parts.flatMap fun part =>
    match part with
    | .fixed quoted text => text.map fun c => (c, quoted)
    | .loose text => text.map fun c => (c, false)
    | .boundary => [(' ', true)])

/-- A word whose tilde at the start is replaced by the home directory. -/
def withHome (process : Process) (word : List Char) : List Char :=
  match word with
  | ['~'] => ((process.get? "HOME").getD "~").toList
  | '~' :: '/' :: rest => ((process.get? "HOME").getD "~").toList ++ '/' :: rest
  | _ => word

/-- Take what is enclosed at the front of a text. `around` holds the enclosures that are open,
the innermost first. -/
def takeEnclosed (around : List Enclosure) (taken : List Char) :
    List Char → List Char × List Char
  | [] => (taken.reverse, [])
  | '\\' :: c :: rest =>
    if around.head? = some .single then takeEnclosed around ('\\' :: taken) (c :: rest)
    else takeEnclosed around (c :: '\\' :: taken) rest
  | '$' :: '(' :: rest =>
    let around := if around.head? = some .single then around else .parentheses :: around
    takeEnclosed around ('(' :: '$' :: taken) rest
  | '$' :: '\x7b' :: rest =>
    let around := if around.head? = some .single then around else .braces :: around
    takeEnclosed around ('\x7b' :: '$' :: taken) rest
  | c :: rest =>
    match around with
    | [] => (taken.reverse, c :: rest)
    | inner :: outer =>
      if c = inner.ending then
        if outer.isEmpty then (taken.reverse, rest) else takeEnclosed outer (c :: taken) rest
      else if inner = .single then takeEnclosed around (c :: taken) rest
      else takeEnclosed ((Enclosure.opened? around c).toList ++ around) (c :: taken) rest

/-- The name of a parameter at the front of a text. -/
def parameterName (text : List Char) : List Char :=
  match text with
  | [] => []
  | c :: rest =>
    if ['#', '?', '$', '@', '*', '!', '-'].contains c || Text.isDigit c then [c]
    else if isNameChar c then c :: rest.takeWhile isNameChar
    else []

/-- The text of an arithmetic expansion, given what is enclosed in its outer parentheses. -/
def arithmetic? (inner : List Char) : Option (List Char) :=
  match inner, inner.getLast? with
  | '(' :: rest, some ')' => some rest.dropLast
  | _, _ => none

/-- A text without the line feeds at its end. -/
def withoutLineFeeds (text : List Char) : List Char :=
  (text.reverse.dropWhile (· = '\n')).reverse

/-- A value as a part of a word. -/
def valuePart (quoted : Bool) (value : List Char) : Part :=
  if quoted then .fixed true value else .loose value

/-- All arguments as parts of a word: each a word of its own, unless they are `together`. -/
def argumentParts (quoted together : Bool) (arguments : List String) : List Part :=
  if quoted && together then [.fixed true (" ".intercalate arguments).toList]
  else
    [Part.boundary].intercalate
      (arguments.map fun argument => [valuePart quoted argument.toList])

/-- Run something in a copy of the shell: only files and collected output are kept, and the
status. A signal ends the whole shell. -/
def inCopy (act : Act Unit) : Act Unit := do
  let before ← get
  act
  let after ← get
  let status :=
    match after.flow with
    | .ended (.exited code) => code.toNat
    | _ => after.status
  let flow :=
    match after.flow with
    | .ended (.killed signal) => .ended (.killed signal)
    | _ => .going
  set { before with
    files := after.files, collected := after.collected, input := after.input, status, flow }

/-- Run something with its standard output collected, and answer what it has written. -/
def collecting (act : Act Unit) : Act (List UInt8) := do
  let number := (← get).collected.length
  modify fun process => { process with collected := process.collected ++ [[]] }
  inCopy do
    modify (Process.connect 1 (.collector number))
    act
  let process ← get
  set { process with collected := process.collected.take number }
  return process.output number

/-- The words for a process that a signal has killed. -/
def deathNotice : Nat → Option String
  | 1 => some "Hangup"
  | 3 => some "Quit"
  | 4 => some "Illegal instruction"
  | 6 => some "Aborted"
  | 8 => some "Floating point exception"
  | 9 => some "Killed"
  | 10 => some "User defined signal 1"
  | 11 => some "Segmentation fault"
  | 12 => some "User defined signal 2"
  | 14 => some "Alarm clock"
  | 15 => some "Terminated"
  | _ => none

/-- The descriptor that a path of the system stands for. -/
def descriptorOf? (path : String) : Option Nat :=
  match path with
  | "/dev/stdout" => some 1
  | "/dev/stderr" => some 2
  | _ => none

/-- Open the target of a redirection. -/
def openTarget (line : Nat) (redirection : Redirection) (target : String) : Act Bool := do
  let process ← get
  let path := process.pathOf target
  let opened (place : FileTree.Place) (files : FileTree) : Act Bool := do
    set (Process.connect redirection.descriptor (.file place) { process with files })
    return true
  let refused (kind : String) (missing : String) (error : SystemError) : Act Bool := do
    let reason := if error = .notFound then missing else Tool.reason error
    failWith line 2 ("cannot " ++ kind ++ " " ++ target ++ ": " ++ reason)
    return false
  let created (truncate : Bool) : Act Bool := do
    match descriptorOf? path with
    | some source => do
      set (Process.connect redirection.descriptor (process.channel source) process)
      return true
    | none =>
      match process.files.openForWriting truncate path with
      | .ok (place, files) => opened place files
      | .error error => refused "create" "Directory nonexistent" error
  match redirection.kind with
  | .output => created true
  | .append => created false
  | .input =>
    match process.files.read path with
    | .ok input => do
      set { process with input }
      return true
    | .error error =>
      if error = .isDirectory then do
        set { process with input := [] }
        return true
      else refused "open" "No such file" error
  | .document _ => do
    set { process with input := textBytes target }
    return true
  | .duplicate =>
    if target = "-" then do
      set (Process.connect redirection.descriptor .closed process)
      return true
    else
      match number? target.toList with
      | some source =>
        if 2 < source && process.channel source = .closed then do
          failWith line 2 (target ++ ": Bad file descriptor")
          return false
        else do
          set (Process.connect redirection.descriptor (process.channel source) process)
          return true
      | none => do
        failWith line 2 ("Syntax error: Bad fd number")
        return false

/-- Run a tool. -/
def runTool (name : String) (tool : Tool) (arguments : List String) : Act Unit := do
  let process ← get
  let result := tool process.setting arguments process.input
  let reads :=
    ["cat", "head", "tail", "tr", "wc", "sort", "uniq", "tac", "tee", "dd"].contains name
  let process :=
    { process with files := result.files, input := if reads then [] else process.input }
  let (_, process) := process.write 2 result.err
  let (written, process) := process.write 1 result.out
  set process
  if written then setStatus result.code
  else do
    modify fun process =>
      (process.write 2 (textBytes (name ++ ": write error: Bad file descriptor\n"))).2
    setStatus (max 1 result.code)

/-- The directories in which programs are found. -/
def programDirectories : List String := ["/bin/", "/usr/bin/"]

/-- The name of the program that a path means. -/
def programName (path : String) : String :=
  match programDirectories.findSome? fun directory =>
      Text.stripStart? directory.toList path.toList with
  | some name => String.ofList name
  | none => path

/-- The names of the shell. -/
def shellNames : List String := ["sh", "dash"]

/-- Why a program cannot be run, if so. -/
def programError? (files : FileTree) (path : String) : Option SystemError :=
  let name := programName path
  if shellNames.contains name || (Tool.table.lookup name).isSome then none
  else if path.toList.contains '/' then
    match files.resolve path with
    | .error error => some error
    | .ok ⟨_, none⟩ => some .notFound
    | .ok ⟨_, some _⟩ => some .permissionDenied
  else some .notFound

/-- Complain about a program that cannot be run. -/
def refuseProgram (line : Nat) (label name : String) (error : SystemError) : Act Unit :=
  if error = .notFound || error = .notDirectory then
    failWith line 127 (label ++ name ++ ": not found")
  else failWith line 126 (label ++ name ++ ": " ++ Tool.reason error)

/-- The assignments before a command, and its other words. -/
def splitAssignments (words : List (List Char)) :
    List (String × List Char) × List (List Char) :=
  let leading := words.takeWhile fun word => (assignment? word).isSome
  (leading.filterMap assignment?, words.drop leading.length)

/-- Give variables back the values they had before. -/
def restore (names : List String) (before process : Process) : Process :=
  let old := before.bindings.filter fun entry => names.contains entry.name
  { process with
    bindings := old ++ process.bindings.filter fun entry => !names.contains entry.name }

/-- Forget to leave loops that have been left. -/
def leaveLoop : Act Bool := do
  match (← get).flow with
  | .going => return true
  | .leaving loops again => do
    if loops ≤ 1 then
      modify fun process => { process with flow := .going }
      return again
    else
      modify fun process => { process with flow := .leaving (loops - 1) again }
      return false
  | .returning => return false
  | .ended _ => return false

/-- Run the body of a loop once; the answer tells whether the loop goes on. -/
def inLoop (act : Act Unit) : Act Bool := do
  modify fun process => { process with loops := process.loops + 1 }
  act
  modify fun process => { process with loops := process.loops - 1 }
  leaveLoop

/-- End the shell over a parameter. -/
def refuseParameter (name : List Char) (reason : List Char) : Act Unit := do
  failWith (← get).line 2 (String.ofList (name ++ ": ".toList ++ reason))
  modify (Process.finish (.exited 2))

/-- Show a command before it is run, if that is asked for. -/
def showCommand (words : List String) : Act Unit :=
  modify fun process =>
    if process.traced && !words.isEmpty then
      (process.write 2 (textBytes ("+ " ++ " ".intercalate words ++ "\n"))).2
    else process

/-- Run something whose failure does not matter. -/
def tested (act : Act Unit) : Act Unit := do
  let before := (← get).tested
  modify fun process => { process with tested := true }
  act
  modify fun process => { process with tested := before }

/-- End a strict shell whose last command has failed. -/
def checkFailure : Act Unit :=
  modify fun process =>
    if process.strict && !process.tested && process.status != 0 && process.flow = .going then
      process.finish (.exited (UInt8.ofNat process.status))
    else process

/-- What a shell is asked to do. -/
inductive Task where
  | script (text : List Char) (name : String) (arguments : List String)
  | refused (message : String) (status : Nat)

/-- Read the command line of a shell. -/
def taskOf (process : Process) (arguments : List String) : List String × Task :=
  let options := arguments.takeWhile fun argument =>
    argument.toList.head? = some '-' && 1 < argument.length
  let rest := arguments.drop options.length
  let has (letter : Char) := options.any fun option => option.toList.contains letter
  let task : Task :=
    if has 'c' then
      match rest with
      | [] => .refused "-c requires an argument" 2
      | script :: rest => .script script.toList (rest.headD "sh") (rest.drop 1)
    else
      match rest with
      | [] => .script (Text.Utf8.decodeLossy process.input).toList "sh" []
      | path :: rest =>
        match process.files.read (process.pathOf path) with
        | .ok bytes => .script (Text.Utf8.decodeLossy bytes).toList path rest
        | .error _ => .refused ("cannot open " ++ path ++ ": No such file") 2
  (options, task)

mutual

/-- Expand a word, or the inside of double quotes. -/
def expand : Nat → Bool → List Char → Act (List Part)
  | 0, _, _ => return []
  | _, _, [] => return []
  | fuel + 1, quoted, '\\' :: c :: rest => do
    let kept := c = '$' || c = backquote || c = '"' || c = '\\'
    let first : List Char := if quoted && !kept then ['\\', c] else [c]
    return .fixed true first :: (← expand fuel quoted rest)
  | fuel + 1, quoted, '$' :: rest => expandDollar fuel quoted rest
  | fuel + 1, quoted, c :: rest => do
    if c = singleQuote && !quoted then
      let (inner, rest) := takeEnclosed [.single] [] rest
      return .fixed true inner :: (← expand fuel quoted rest)
    else if c = '"' && !quoted then
      let (inner, rest) := takeEnclosed [.double] [] rest
      let parts ← expand fuel true inner
      let parts := if inner.isEmpty then [.fixed true []] else parts
      return parts ++ (← expand fuel quoted rest)
    else if c = backquote then
      let (inner, rest) := takeEnclosed [.backquotes] [] rest
      let value ← substitute fuel inner
      return valuePart quoted value :: (← expand fuel quoted rest)
    else return .fixed quoted [c] :: (← expand fuel quoted rest)

/-- Expand what follows a dollar sign, and the rest of the word. -/
def expandDollar : Nat → Bool → List Char → Act (List Part)
  | 0, _, _ => return []
  | fuel + 1, quoted, '(' :: rest => do
    let (inner, rest) := takeEnclosed [.parentheses] [] rest
    let value ←
      match arithmetic? inner with
      | some formula => calculate fuel formula
      | none => substitute fuel inner
    return valuePart quoted value :: (← expand fuel quoted rest)
  | fuel + 1, quoted, '\x7b' :: rest => do
    let (inner, rest) := takeEnclosed [.braces] [] rest
    let parts ← expandBraces fuel quoted inner
    return parts ++ (← expand fuel quoted rest)
  | fuel + 1, quoted, text => do
    let name := parameterName text
    let rest := text.drop name.length
    let process ← get
    let parts : List Part :=
      if name.isEmpty then [.fixed quoted ['$']]
      else if name = ['@'] then argumentParts quoted false process.arguments
      else if name = ['*'] then argumentParts quoted true process.arguments
      else [valuePart quoted ((process.parameter? (String.ofList name)).getD "").toList]
    let isKnown := name.isEmpty || name = ['@'] || name = ['*'] ||
      (process.parameter? (String.ofList name)).isSome
    if process.strictNames && !isKnown then refuseParameter name "parameter not set".toList
    return parts ++ (← expand fuel quoted rest)

/-- Expand a parameter in braces: as it is, its length, with a default, or without a part at
one of its ends. -/
def expandBraces : Nat → Bool → List Char → Act (List Part)
  | 0, _, _ => return []
  | fuel + 1, quoted, inner => do
    let process ← get
    match inner with
    | '#' :: c :: rest =>
      let value := (process.parameter? (String.ofList (c :: rest))).getD ""
      return [valuePart quoted (Text.ofNat value.length).toList]
    | _ => do
      let name := parameterName inner
      let rest := inner.drop name.length
      let value? := process.parameter? (String.ofList name)
      let (colon, rest) : Bool × List Char :=
        match rest with
        | ':' :: rest => (true, rest)
        | _ => (false, rest)
      let present := value?.isSome && !(colon && value?.getD "" = "")
      let own := [valuePart quoted (value?.getD "").toList]
      match rest with
      | '-' :: word => if present then return own else expand fuel quoted word
      | '+' :: word => if present then expand fuel quoted word else return []
      | '=' :: word =>
        if present then return own
        else do
          let parts ← expand fuel quoted word
          modify (Process.set (String.ofList name) (String.ofList (joined parts)))
          return parts
      | '?' :: word =>
        if present then return own
        else do
          let reason := joined (← expand fuel quoted word)
          let usual := if colon then "parameter not set or null" else "parameter not set"
          refuseParameter name (if reason.isEmpty then usual.toList else reason)
          return []
      | '%' :: '%' :: word => trimmed fuel quoted (Pattern.trimEnd true) word value?
      | '%' :: word => trimmed fuel quoted (Pattern.trimEnd false) word value?
      | '#' :: '#' :: word => trimmed fuel quoted (Pattern.trimStart true) word value?
      | '#' :: word => trimmed fuel quoted (Pattern.trimStart false) word value?
      | _ :: _ => do
        failWith process.line 2 "Bad substitution"
        modify (Process.finish (.exited 2))
        return []
      | [] =>
        if name = ['@'] then return argumentParts quoted false process.arguments
        else do
          if process.strictNames && value?.isNone then
            refuseParameter name "parameter not set".toList
          return own

/-- A value without what a pattern describes at one of its ends. -/
def trimmed : Nat → Bool → (Pattern → List Char → List Char) → List Char → Option String →
    Act (List Part)
  | 0, _, _, _, _ => return []
  | fuel + 1, quoted, trim, word, value? => do
    let pattern := patternOf (← expand fuel false word)
    return [valuePart quoted (trim pattern (value?.getD "").toList)]

/-- The value of a formula. -/
def calculate : Nat → List Char → Act (List Char)
  | 0, _ => return []
  | fuel + 1, formula => do
    let parts ← expand fuel true formula
    let process ← get
    let text := joined parts
    match Arithmetic.evaluate (fun name => (process.parameter? name).getD "") text with
    | .ok value => return (Text.ofInt value).toList
    | .error message => do
      failWith process.line 2
        ("arithmetic expression: " ++ message ++ ": \"" ++ String.ofList text ++ "\"")
      modify (Process.finish (.exited 2))
      return []

/-- The output of a script, as text without line feeds at its end. -/
def substitute : Nat → List Char → Act (List Char)
  | 0, _ => return []
  | fuel + 1, script => do
    let bytes ← collecting (runLines fuel (tokens script))
    return withoutLineFeeds (Text.Utf8.decodeLossy bytes).toList

/-- Expand words. -/
def expandWords : Nat → List (List Char) → Act (List String)
  | 0, _ => return []
  | _, [] => return []
  | fuel + 1, word :: rest => do
    let parts ← expand fuel false (withHome (← get) word)
    return Fields.ofParts (separators (← get)) parts ++ (← expandWords fuel rest)

/-- Carry out redirections; the answer tells whether all of them succeeded. -/
def redirect : Nat → Nat → List Redirection → Act Bool
  | 0, _, _ => return false
  | _, _, [] => return true
  | fuel + 1, line, first :: rest => do
    let parts : List Part ←
      match first.kind with
      | .document false => pure [.fixed true first.target]
      | .document true => expand fuel true first.target
      | _ => expand fuel false (withHome (← get) first.target)
    let target := String.ofList (joined parts)
    if ← openTarget line first target then redirect fuel line rest else return false

/-- Carry out assignments. -/
def assign : Nat → List (String × List Char) → Act Unit
  | 0, _ => return ()
  | _, [] => return ()
  | fuel + 1, (name, value) :: rest => do
    let value := String.ofList (joined (← expand fuel false (withHome (← get) value)))
    modify (Process.set name value)
    showCommand [name ++ "=" ++ value]
    assign fuel rest

/-- Run a command whose words have been expanded. -/
def invoke : Nat → Nat → List String → Act Unit
  | 0, _, _ => return ()
  | _, _, [] => return ()
  | fuel + 1, line, name :: arguments => do
    match (← get).functions.lookup name, builtin? line name arguments with
    | some body, _ => do
      let before ← get
      set { before with arguments, shadowed := [], loops := 0 }
      run fuel body
      modify fun process =>
        let flow := if process.flow = .returning then .going else process.flow
        { unshadow process with
          arguments := before.arguments, shadowed := before.shadowed, loops := before.loops, flow }
    | none, some act => act
    | none, none =>
      if name = "command" then invoke fuel line arguments
      else if name = "." then do
        let path := arguments.headD ""
        match (← get).files.read ((← get).pathOf path) with
        | .ok bytes => runLines fuel (tokens (Text.Utf8.decodeLossy bytes).toList)
        | .error _ => do
          failWith line 2 (".: cannot open " ++ path ++ ": No such file")
          modify (Process.finish (.exited 2))
      else if name = "eval" then runLines fuel (tokens (" ".intercalate arguments).toList)
      else if name = "exec" then do
        unless arguments.isEmpty do
          let program := arguments.headD ""
          match programError? (← get).files program with
          | some error => refuseProgram line "exec: " program error
          | none => invokeProgram fuel arguments
          modify fun process =>
            if process.flow = .going then process.finish (.exited (UInt8.ofNat process.status))
            else process
      else
        match programError? (← get).files name with
        | some error => refuseProgram line "" name error
        | none => invokeProgram fuel (name :: arguments)

/-- Run a program of the machine. -/
def invokeProgram : Nat → List String → Act Unit
  | 0, _ => return ()
  | _, [] => return ()
  | fuel + 1, path :: arguments => do
    let name := programName path
    match Tool.table.lookup name with
    | some tool => runTool name tool arguments
    | none => do
      let before ← get
      set { before with
        bindings := before.bindings.filter (·.exported), pid := before.pid + 1,
        parent := before.pid, traps := [], functions := [], shadowed := [], loops := 0, jobs := [],
        strict := false, strictNames := false, traced := false, tested := false }
      runShell fuel arguments
      let after ← get
      let (status, notice) : Nat × Option String :=
        match after.flow with
        | .ended (.exited code) => (code.toNat, none)
        | .ended (.killed signal) => (128 + signal.toNat, deathNotice signal.toNat)
        | _ => (after.status, none)
      let process :=
        { before with
          files := after.files, collected := after.collected, input := after.input, status }
      set (match notice with
        | some text => (process.write 2 (textBytes (text ++ "\n"))).2
        | none => process)

/-- Run a piece of a script. -/
def run : Nat → Script → Act Unit
  | 0, _ => return ()
  | fuel + 1, script => do
    if (← get).flow ≠ .going then return ()
    match script with
    | .nothing => return ()
    | .simple line words redirections => do
      runSimple fuel line words redirections
      runPending fuel
      checkFailure
    | .pipe first second => do
      let bytes ← collecting (run fuel first)
      inCopy do
        modify fun process => { process with input := bytes }
        run fuel second
      checkFailure
    | .negation body => do
      tested (run fuel body)
      modify fun process => { process with status := if process.status = 0 then 1 else 0 }
    | .inOrder first second => do
      run fuel first
      run fuel second
    | .andThen first second => do
      tested (run fuel first)
      if (← get).status = 0 then run fuel second
    | .orElse first second => do
      tested (run fuel first)
      if (← get).status ≠ 0 then run fuel second
    | .background body => do
      inCopy do
        modify fun process => { process with input := [] }
        run fuel body
      modify fun process =>
        let pid := process.pid + 1 + process.jobs.length
        { process with jobs := (pid, process.status) :: process.jobs, status := 0 }
    | .group body redirections => do
      let before ← get
      if ← redirect fuel 1 redirections then run fuel body
      modify fun process => { process with channels := before.channels }
    | .subshell body => do
      inCopy (run fuel body)
      checkFailure
    | .branch test yes no => do
      tested (run fuel test)
      if (← get).status = 0 then run fuel yes
      else do
        setStatus 0
        run fuel no
    | .loop untilSuccess test body => do
      tested (run fuel test)
      if (← get).flow = .going then
        if ((← get).status = 0) ≠ untilSuccess then do
          if ← inLoop (run fuel body) then run fuel script
        else setStatus 0
    | .each name words body => do
      let values ← expandWords fuel words
      setStatus 0
      runEach fuel name values body
    | .choice subject arms => do
      let value := joined (← expand fuel false (withHome (← get) subject))
      setStatus 0
      runArms fuel value arms
    | .arm _ body _ => run fuel body
    | .define name body =>
      modify fun process =>
        let others := process.functions.filter fun entry => entry.1 != name
        { process with functions := (name, body) :: others, status := 0 }

/-- Run the first arm with a pattern that describes a value. -/
def runArms : Nat → List Char → Script → Act Unit
  | 0, _, _ => return ()
  | fuel + 1, value, .arm patterns body others => do
    if ← isDescribed fuel value patterns then run fuel body else runArms fuel value others
  | _, _, _ => return ()

/-- Whether one of several patterns describes a value. -/
def isDescribed : Nat → List Char → List (List Char) → Act Bool
  | 0, _, _ => return false
  | _, _, [] => return false
  | fuel + 1, value, first :: rest => do
    if Pattern.describes (patternOf (← expand fuel false first)) value then return true
    else isDescribed fuel value rest

/-- Run a loop's body once for each value. -/
def runEach : Nat → String → List String → Script → Act Unit
  | 0, _, _, _ => return ()
  | _, _, [], _ => return ()
  | fuel + 1, name, value :: rest, body => do
    modify (Process.set name value)
    if ← inLoop (run fuel body) then runEach fuel name rest body

/-- Run a simple command. -/
def runSimple : Nat → Nat → List (List Char) → List Redirection → Act Unit
  | 0, _, _, _ => return ()
  | fuel + 1, line, words, redirections => do
    let (assignments, words) := splitAssignments words
    modify fun process => { process with line }
    let fields ← expandWords fuel words
    if (← get).flow ≠ .going then return ()
    let before ← get
    if ← redirect fuel line redirections then
      if fields.isEmpty then do
        setStatus 0
        modify fun process => { process with channels := before.channels }
        assign fuel assignments
      else do
        assign fuel assignments
        unless assignments.isEmpty do builtinExport (assignments.map Prod.fst)
        setStatus before.status
        showCommand fields
        invoke fuel line fields
        modify (restore (assignments.map Prod.fst) before)
        unless fields = ["exec"] do
          modify fun process => { process with channels := before.channels }
    else modify fun process => { process with channels := before.channels }

/-- Carry out the actions that are due. -/
def runPending : Nat → Act Unit
  | 0 => return ()
  | fuel + 1 => do
    match (← get).pending with
    | [] => return ()
    | action :: rest => do
      modify fun process => { process with pending := rest }
      let status := (← get).status
      runLines fuel (tokens action.toList)
      setStatus status
      runPending fuel

/-- Run a script line by line. -/
def runLines : Nat → Tokens → Act Unit
  | 0, _ => return ()
  | fuel + 1, input => do
    if (← get).flow ≠ .going then return ()
    match nextLine input with
    | .error fault => do
      failWith fault.line 2 ("Syntax error: " ++ fault.message)
      modify (Process.finish (.exited 2))
    | .ok none => return ()
    | .ok (some (script, rest)) => do
      run fuel script
      runLines fuel rest

/-- Run a shell with arguments, to its end. -/
def runShell : Nat → List String → Act Unit
  | 0, _ => return ()
  | fuel + 1, arguments => do
    let (options, task) := taskOf (← get) arguments
    match task with
    | .refused message status => do
      modify fun process => { process with name := "sh" }
      failWith 0 status message
    | .script text name arguments => do
      modify fun process => setAll options { process with name, arguments, status := 0 }
      runLines fuel (tokens text)
      runExit fuel

/-- Carry out the action for the end of the shell, and end it. -/
def runExit : Nat → Act Unit
  | 0 => return ()
  | fuel + 1 => do
    let process ← get
    let status :=
      match process.flow with
      | .ended (.exited code) => some code.toNat
      | .ended _ => none
      | _ => some process.status
    match status with
    | none => return ()
    | some status => do
      set { process with
        status, flow := .going, traps := process.traps.filter fun entry => entry.1 != "EXIT" }
      match process.traps.lookup "EXIT" with
      | none => return ()
      | some action => do
        runLines fuel (tokens action.toList)
        if (← get).flow = .going then setStatus status
      modify fun process =>
        if process.flow = .going then process.finish (.exited (UInt8.ofNat process.status))
        else process

end

/-- How deep scripts may go, and how often loops may run. -/
def depth : Nat := 200000

/-- How a run of a program went. -/
structure RunResult where
  out : List UInt8
  err : List UInt8
  ending : Job.Ending
  files : FileTree

/-- Run a program in a process to its end. -/
def runProgram (process : Process) (path : String) (arguments : List String) : RunResult :=
  let name := programName path
  match Tool.table.lookup name with
  | some tool =>
    let result := tool process.setting arguments process.input
    ⟨result.out, result.err, .exited (UInt8.ofNat result.code), result.files⟩
  | none =>
    let (_, after) := (runShell depth arguments).run process
    let ending :=
      match after.flow with
      | .ended ending => ending
      | _ => .exited (UInt8.ofNat after.status)
    ⟨after.output 0, after.output 1, ending, after.files⟩

end PgConsole.Shell
