import PgConsole.Job.Host
import PgConsole.Shell.Arithmetic
import PgConsole.Shell.Script
import PgConsole.Shell.Tool

namespace PgConsole.Shell

/-!
# Shell processes

The state of a running shell: its variables, where its descriptors lead, the files it sees and
what it has written so far. The operations here are those that need no further commands to be
run; expansions and commands are in the interpreter.
-/

/-- Where a descriptor leads. -/
inductive Channel where
  | closed
  /-- One of the places that collect output. -/
  | collector (number : Nat)
  | file (place : FileTree.Place)
  deriving DecidableEq, Repr

/-- A variable of a shell. -/
structure Variable where
  name : String
  value : String
  /-- The commands of the shell see it, too. -/
  exported : Bool
  deriving DecidableEq, Repr

/-- Whether a shell goes on with the next command. -/
inductive Flow where
  | going
  /-- Leave a number of loops; with `again` the last of them goes on with its next round. -/
  | leaving (loops : Nat) (again : Bool)
  /-- Leave the function at hand. -/
  | returning
  | ended (ending : Job.Ending)
  deriving DecidableEq, Repr

/-- A running shell. -/
structure Process where
  files : FileTree
  /-- Output that has been collected, the last byte first. -/
  collected : List (List UInt8) := [[], []]
  channels : List (Nat × Channel) := [(1, .collector 0), (2, .collector 1)]
  /-- What is left of the standard input. -/
  input : List UInt8 := []
  bindings : List Variable := []
  /-- The name that messages start with. -/
  name : String := "sh"
  arguments : List String := []
  directory : String := "/"
  umask : Nat := 0
  status : Nat := 0
  pid : Nat
  parent : Nat
  /-- Actions for signals and for the end of the shell, by name. -/
  traps : List (String × String) := []
  /-- Actions that are due. -/
  pending : List String := []
  flow : Flow := .going
  /-- Commands that have been given a name. -/
  functions : List (String × Script) := []
  /-- Variables as they were outside the function at hand. -/
  shadowed : List (String × Option Variable) := []
  /-- How many loops are running. -/
  loops : Nat := 0
  /-- Commands that have run in the background, with their status, the last one first. -/
  jobs : List (Nat × Nat) := []
  /-- The line of the command at hand. -/
  line : Nat := 1
  /-- A failing command ends the shell. -/
  strict : Bool := false
  /-- An expansion of a parameter that is not set ends the shell. -/
  strictNames : Bool := false
  /-- Commands are shown before they are run. -/
  traced : Bool := false
  /-- The command at hand may fail, as its failure is being tested for. -/
  tested : Bool := false

/-- A step of a shell. -/
abbrev Act := StateM Process

/-- Text for people, as bytes. -/
def textBytes (text : String) : List UInt8 := Text.Utf8.encode text

namespace Process

/-- Where a descriptor leads. -/
def channel (process : Process) (descriptor : Nat) : Channel :=
  (process.channels.lookup descriptor).getD .closed

/-- Let a descriptor lead somewhere else. -/
def connect (descriptor : Nat) (channel : Channel) (process : Process) : Process :=
  { process with
    channels :=
      (descriptor, channel) :: process.channels.filter fun entry => entry.1 != descriptor }

/-- Write bytes to a descriptor; the answer tells whether they could be written. -/
def write (descriptor : Nat) (bytes : List UInt8) (process : Process) : Bool × Process :=
  if bytes.isEmpty then (true, process)
  else
    match process.channel descriptor with
    | .closed => (false, process)
    | .collector number =>
      (true, { process with collected := process.collected.modify number bytes.reverseAux })
    | .file place =>
      match process.files.append place bytes with
      | .ok files => (true, { process with files })
      | .error _ => (false, process)

/-- What a collector holds. -/
def output (process : Process) (number : Nat) : List UInt8 :=
  ((process.collected[number]?).getD []).reverse

/-- The value of a variable. -/
def get? (process : Process) (name : String) : Option String :=
  (process.bindings.find? fun entry => entry.name = name).map (·.value)

/-- Set a variable. -/
def set (name value : String) (process : Process) : Process :=
  let exported := process.bindings.any fun entry => entry.name = name && entry.exported
  { process with
    bindings := ⟨name, value, exported⟩ :: process.bindings.filter fun entry => entry.name != name }

/-- The bindings that commands see. -/
def environment (process : Process) : List (String × String) :=
  (process.bindings.filter (·.exported)).map fun entry => (entry.name, entry.value)

/-- The value of a parameter: a variable, an argument or one of the special ones. -/
def parameter? (process : Process) (name : String) : Option String :=
  match name with
  | "#" => some (Text.ofNat process.arguments.length)
  | "?" => some (Text.ofNat process.status)
  | "$" => some (Text.ofNat process.pid)
  | "PPID" => some (Text.ofNat process.parent)
  | "0" => some process.name
  | "!" => process.jobs.head?.map fun job => Text.ofNat job.1
  | "-" =>
    let options := [("e", process.strict), ("u", process.strictNames), ("x", process.traced)]
    some (String.join ((options.filter Prod.snd).map Prod.fst))
  | "PWD" => some process.directory
  | _ =>
    match number? name.toList with
    | some place => process.arguments[place - 1]?
    | none => process.get? name

/-- The path that a name means. -/
def pathOf (process : Process) (path : String) : String := Path.join process.directory path

/-- Where tools run. -/
def setting (process : Process) : Setting :=
  ⟨process.files, process.directory, process.environment⟩

/-- End the shell. -/
def finish (ending : Job.Ending) (process : Process) : Process :=
  { process with flow := .ended ending }

end Process

/-- Set the status of the last command. -/
def setStatus (status : Nat) : Act Unit := modify fun process => { process with status }

/-- Write an error message about a line of the script. -/
def complain (line : Nat) (message : String) : Act Unit :=
  modify fun process =>
    let text := process.name ++ ": " ++ Text.ofNat line ++ ": " ++ message ++ "\n"
    (process.write 2 (textBytes text)).2

/-- Complain and fail. -/
def failWith (line status : Nat) (message : String) : Act Unit := do
  complain line message
  setStatus status

/-- Write the output of a built-in command. -/
def writeOut (line : Nat) (name : String) (bytes : List UInt8) : Act Unit := do
  let (written, process) := (← get).write 1 bytes
  set process
  if written then setStatus 0 else failWith line 1 (name ++ ": " ++ name ++ ": I/O error")

/-! ## Built-in commands -/

/-- The status that a numeral asks for. -/
def statusOf? (text : String) : Option Nat :=
  (Text.readNumeral? (Nat.pow 2 31) text.toList).map (· % 256)

/-- End the shell with a status. -/
def builtinExit (line : Nat) (arguments : List String) : Act Unit := do
  match arguments with
  | [] => modify fun process => process.finish (.exited (UInt8.ofNat process.status))
  | text :: _ =>
    match statusOf? text with
    | some status => do
      setStatus status
      modify (Process.finish (.exited (UInt8.ofNat status)))
    | none => do
      failWith line 2 ("exit: Illegal number: " ++ text)
      modify (Process.finish (.exited 2))

/-- Signals by name and number. -/
def signals : List (String × Nat) := [
  ("HUP", 1), ("INT", 2), ("QUIT", 3), ("ILL", 4), ("TRAP", 5), ("ABRT", 6), ("BUS", 7), ("FPE", 8),
  ("KILL", 9), ("USR1", 10), ("SEGV", 11), ("USR2", 12), ("PIPE", 13), ("ALRM", 14), ("TERM", 15),
  ("STKFLT", 16), ("CHLD", 17), ("CONT", 18), ("STOP", 19), ("TSTP", 20), ("TTIN", 21),
  ("TTOU", 22), ("URG", 23), ("XCPU", 24), ("XFSZ", 25), ("VTALRM", 26), ("PROF", 27),
  ("WINCH", 28), ("IO", 29), ("PWR", 30), ("SYS", 31)]

/-- The number of a signal given by name or number. -/
def signal? (text : String) : Option Nat :=
  let chars := text.toList.map Char.toUpper
  let name := if "SIG".toList.isPrefixOf chars then chars.drop 3 else chars
  (number? chars).or (signals.lookup (String.ofList name))

/-- The name of a signal. -/
def signalName (number : Nat) : String :=
  ((signals.find? fun entry => entry.2 = number).map Prod.fst).getD ""

/-- Signals that do not end a process. -/
def harmless : List Nat := [0, 17, 18, 19, 20, 21, 22, 23, 28]

/-- Receive a signal. -/
def receive (number : Nat) : Act Unit :=
  modify fun process =>
    match if number = 9 then none else process.traps.lookup (signalName number) with
    | some action => { process with pending := process.pending ++ [action] }
    | none =>
      if harmless.contains number then process
      else process.finish (.killed (UInt8.ofNat number))

/-- Send a signal to processes. The process that has started the shell is not disturbed. -/
def builtinKill (line : Nat) (arguments : List String) : Act Unit := do
  let (number, targets) : Option Nat × List String :=
    match arguments with
    | "-s" :: name :: rest => (signal? name, rest)
    | first :: rest =>
      match first.toList with
      | '-' :: name => (signal? (String.ofList name), rest)
      | _ => (some 15, first :: rest)
    | [] => (none, [])
  match number with
  | none => do
    let letter := ((arguments.headD "").toList.drop 1).take 1
    failWith line 2 ("kill: Illegal option -" ++ String.ofList letter)
  | some number => do
    setStatus 0
    for target in targets do
      let process ← get
      if target = Text.ofNat process.pid then receive number
      else if target = Text.ofNat process.parent then pure ()
      else failWith line 1 "kill: No such process"

/-- Set actions for signals, or for the end of the shell. -/
def builtinTrap (arguments : List String) : Act Unit :=
  modify fun process =>
    let named (text : String) :=
      if text = "0" || text = "EXIT" then "EXIT" else ((signal? text).map signalName).getD text
    let process := { process with status := 0 }
    match arguments with
    | action :: conditions =>
      let names := conditions.map named
      let others := process.traps.filter fun entry => !names.contains entry.1
      let added := if action = "-" then [] else names.map fun name => (name, action)
      { process with traps := added ++ others }
    | [] => process

/-- The path that names lead to from the root, without dots. -/
def plainPath (path : String) : String :=
  let names := (Path.pieces path).foldl
    (fun (names : List String) name =>
      if name = "." then names else if name = ".." then names.dropLast else names ++ [name]) []
  "/" ++ "/".intercalate names

/-- Change the working directory. -/
def builtinCd (line : Nat) (arguments : List String) : Act Unit := do
  let process ← get
  let target := arguments.headD ((process.get? "HOME").getD "/")
  let path := process.pathOf target
  if process.files.isDirectory path then
    set { process with directory := plainPath path, status := 0 }
  else failWith line 2 ("cd: can't cd to " ++ target)

/-- Show or set the mask for new files. -/
def builtinUmask (line : Nat) (arguments : List String) : Act Unit := do
  match arguments with
  | [] =>
    let digits := Nat.toDigits 8 (← get).umask
    let padding := List.replicate (4 - digits.length) '0'
    writeOut line "umask" (textBytes (String.ofList (padding ++ digits ++ ['\n'])))
  | text :: _ =>
    if !text.isEmpty && text.toList.all isOctal then
      let umask := text.toList.foldl (fun value c => value * 8 + Text.digitValue c) 0
      modify fun process => { process with umask, status := 0 }
    else failWith line 2 ("umask: Illegal mode: " ++ text)

/-- Switch an option of the shell on or off. -/
def setOption (on : Bool) (process : Process) (letter : Char) : Process :=
  match letter with
  | 'e' => { process with strict := on }
  | 'u' => { process with strictNames := on }
  | 'x' => { process with traced := on }
  | _ => process

/-- Set options of the shell, and its arguments. -/
def setAll : List String → Process → Process
  | [], process => process
  | "--" :: rest, process => { process with arguments := rest }
  | first :: rest, process =>
    match first.toList with
    | '-' :: letters => setAll rest (letters.foldl (setOption true) process)
    | '+' :: letters => setAll rest (letters.foldl (setOption false) process)
    | _ => { process with arguments := first :: rest }

/-- Set options of the shell, and its arguments. -/
def builtinSet (arguments : List String) : Act Unit :=
  modify fun process => setAll arguments { process with status := 0 }

/-- Drop arguments from the front. -/
def builtinShift (line : Nat) (arguments : List String) : Act Unit := do
  let process ← get
  let count := (arguments.head?.bind statusOf?).getD 1
  if count ≤ process.arguments.length then
    set { process with arguments := process.arguments.drop count, status := 0 }
  else do
    failWith line 2 "shift: can't shift that many"
    modify (Process.finish (.exited 2))

/-- A name and the value that is assigned to it, if a text has this form. -/
def assignment? (text : List Char) : Option (String × List Char) :=
  let name := text.takeWhile isNameChar
  match text.drop name.length with
  | '=' :: value =>
    if name.isEmpty || (name.head?.map Text.isDigit).getD true then none
    else some (String.ofList name, value)
  | _ => none

/-- Let commands see bindings. -/
def builtinExport (arguments : List String) : Act Unit :=
  modify fun process =>
    arguments.foldl
      (fun (process : Process) argument =>
        let (name, process) : String × Process :=
          match assignment? argument.toList with
          | some (name, value) => (name, process.set name (String.ofList value))
          | none => (argument, process)
        { process with
          bindings := process.bindings.map fun entry =>
            if entry.name = name then { entry with exported := true } else entry })
      { process with status := 0 }

/-- Forget bindings. -/
def builtinUnset (arguments : List String) : Act Unit :=
  modify fun process =>
    { process with
      bindings := process.bindings.filter fun entry => !arguments.contains entry.name, status := 0 }

/-- Give variables of a function values that are forgotten when it ends. -/
def builtinLocal (arguments : List String) : Act Unit :=
  modify fun process =>
    arguments.foldl
      (fun (process : Process) argument =>
        let (name, value?) : String × Option String :=
          match assignment? argument.toList with
          | some (name, value) => (name, some (String.ofList value))
          | none => (argument, none)
        let old := process.bindings.find? fun entry => entry.name = name
        let process := { process with shadowed := (name, old) :: process.shadowed }
        match value? with
        | some value => process.set name value
        | none => process)
      { process with status := 0 }

/-- Give variables back the values they had outside a function. -/
def unshadow (process : Process) : Process :=
  process.shadowed.foldl
    (fun (process : Process) (name, old) =>
      { process with
        bindings := old.toList ++ process.bindings.filter fun entry => entry.name != name })
    process

/-- The characters at which words are split. -/
def separators (process : Process) : List Char :=
  match process.get? "IFS" with
  | some text => text.toList
  | none => [' ', '\t', '\n']

/-- The words of a line for a number of names; the last name takes all that is left. -/
def wordsFor (separators : List Char) : Nat → List Char → List (List Char)
  | 0, _ => []
  | names + 1, text =>
    let blank (c : Char) := separators.contains c && Text.isBlank c
    let text := text.dropWhile blank
    if names = 0 then [(text.reverse.dropWhile blank).reverse]
    else
      let word := text.takeWhile fun c => !separators.contains c
      let rest := (text.drop word.length).dropWhile blank
      let rest :=
        match rest with
        | c :: more => if separators.contains c then more else rest
        | [] => []
      word :: wordsFor separators names rest

/-- Read a line of the standard input into variables. -/
def builtinRead (line : Nat) (arguments : List String) : Act Unit := do
  let names := arguments.filter fun argument => argument != "-r"
  if names.isEmpty then failWith line 2 "read: arg count"
  else
    modify fun process =>
      let bytes := process.input.takeWhile (· != 10)
      let rest := process.input.drop bytes.length
      let words := wordsFor (separators process) names.length (Text.Utf8.decodeLossy bytes).toList
      let process := { process with input := rest.drop 1, status := if rest.isEmpty then 1 else 0 }
      (names.zip words).foldl
        (fun process entry => Process.set entry.1 (String.ofList entry.2) process) process

/-- Whether a test on one text holds. -/
def unaryTest? (process : Process) (operator text : String) : Option Bool :=
  let path := process.pathOf text
  match operator with
  | "-n" => some (!text.isEmpty)
  | "-z" => some text.isEmpty
  | "-e" => some (process.files.pathExists path)
  | "-r" => some (process.files.pathExists path)
  | "-w" => some (process.files.pathExists path)
  | "-x" => some (process.files.isDirectory path)
  | "-f" => some (process.files.isFile path)
  | "-d" => some (process.files.isDirectory path)
  | "-s" => some (((process.files.read path).toOption.map fun bytes => !bytes.isEmpty).getD false)
  | "-t" => some false
  | _ => none

/-- Whether a test on two texts holds, or what is wrong with it. -/
def binaryTest? (left operator right : String) : Option (Except String Bool) :=
  let number (text : String) : Except String Int :=
    match Arithmetic.decimal? text with
    | some value => .ok value
    | none => .error ("Illegal number: " ++ text)
  let compare (test : Int → Int → Bool) : Option (Except String Bool) :=
    some do
      let low ← number left
      let high ← number right
      .ok (test low high)
  match operator with
  | "=" => some (.ok (left = right))
  | "!=" => some (.ok (left ≠ right))
  | "<" => some (.ok (left < right))
  | ">" => some (.ok (right < left))
  | "-eq" => compare (· = ·)
  | "-ne" => compare (· ≠ ·)
  | "-lt" => compare (· < ·)
  | "-le" => compare (· ≤ ·)
  | "-gt" => compare (· > ·)
  | "-ge" => compare (· ≥ ·)
  | _ => none

/-- Whether a test without connectives holds, or what is wrong with it. -/
def plainTest (process : Process) : List String → Except String Bool
  | [] => .ok false
  | [text] => .ok (!text.isEmpty)
  | [operator, text] =>
    match unaryTest? process operator text with
    | some holds => .ok holds
    | none => .error (operator ++ ": unexpected operator")
  | left :: operator :: right :: rest =>
    match binaryTest? left operator right, rest with
    | some result, [] => result
    | some _, extra :: _ => .error (extra ++ ": unexpected operator")
    | none, _ => .error (left ++ ": unexpected operator")

/-- Cut words at a connective. -/
def cutAt (connective : String) : List String → List (List String)
  | [] => [[]]
  | word :: rest =>
    if word = connective then [] :: cutAt connective rest
    else
      match cutAt connective rest with
      | [] => [[word]]
      | first :: others => (word :: first) :: others

/-- Whether a test holds that may start with negations, or what is wrong with it. -/
def negatedTest (process : Process) : List String → Except String Bool
  | "!" :: first :: rest => (negatedTest process (first :: rest)).map (!·)
  | words => plainTest process words

/-- Whether a test holds, or what is wrong with it: it holds if all parts of one of its
alternatives do. Up to three words are no connectives. -/
def testHolds (process : Process) (words : List String) : Except String Bool :=
  if words.length ≤ 3 then negatedTest process words
  else do
    let alternatives ← (cutAt "-o" words).mapM fun alternative =>
      (cutAt "-a" alternative).mapM (negatedTest process)
    .ok (alternatives.any fun parts => parts.all id)

/-- Test something. -/
def builtinTest (line : Nat) (name : String) (arguments : List String) : Act Unit := do
  match testHolds (← get) arguments with
  | .ok holds => setStatus (if holds then 0 else 1)
  | .error message => failWith line 2 (name ++ ": " ++ message)

/-- Leave loops. -/
def builtinLeave (again : Bool) (arguments : List String) : Act Unit :=
  modify fun process =>
    let wanted := max 1 ((arguments.head?.bind statusOf?).getD 1)
    if process.loops = 0 then { process with status := 0 }
    else { process with flow := .leaving (min wanted process.loops) again, status := 0 }

/-- Leave a function, or the script. -/
def builtinReturn (arguments : List String) : Act Unit :=
  modify fun process =>
    { process with
      flow := .returning, status := (arguments.head?.bind statusOf?).getD process.status }

/-- The status of a command in the background. -/
def builtinWait (arguments : List String) : Act Unit :=
  modify fun process =>
    match arguments.getLast? with
    | none => { process with status := 0 }
    | some target =>
      let status? := (number? target.toList).bind fun pid => process.jobs.lookup pid
      { process with status := status?.getD 127 }

/-- Write arguments in a format. -/
def builtinPrintf (line : Nat) (arguments : List String) : Act Unit := do
  let arguments := if arguments.head? = some "--" then arguments.drop 1 else arguments
  match arguments with
  | [] => failWith line 2 "printf: usage: printf format [arg ...]"
  | format :: rest => do
    let result := printfText format rest
    writeOut line "printf" result.out
    for fault in result.faults do
      failWith line (if fault.isFatal then 2 else 1) ("printf: " ++ fault.inShell)

/-- The built-in commands that need no further commands to be run. -/
def builtin? (line : Nat) (name : String) (arguments : List String) : Option (Act Unit) :=
  match name with
  | ":" => some (setStatus 0)
  | "true" => some (setStatus 0)
  | "false" => some (setStatus 1)
  | "wait" => some (builtinWait arguments)
  | "exit" => some (builtinExit line arguments)
  | "echo" => some (writeOut line "echo" (echoText true arguments))
  | "printf" => some (builtinPrintf line arguments)
  | "kill" => some (builtinKill line arguments)
  | "trap" => some (builtinTrap arguments)
  | "cd" => some (builtinCd line arguments)
  | "pwd" => some (do writeOut line "pwd" (textBytes ((← get).directory ++ "\n")))
  | "umask" => some (builtinUmask line arguments)
  | "set" => some (builtinSet arguments)
  | "shift" => some (builtinShift line arguments)
  | "local" => some (builtinLocal arguments)
  | "export" => some (builtinExport arguments)
  | "unset" => some (builtinUnset arguments)
  | "read" => some (builtinRead line arguments)
  | "test" => some (builtinTest line name arguments)
  | "[" =>
    if arguments.getLast? = some "]" then some (builtinTest line name arguments.dropLast)
    else some (failWith line 2 "[: missing ]")
  | "break" => some (builtinLeave false arguments)
  | "continue" => some (builtinLeave true arguments)
  | "return" => some (builtinReturn arguments)
  | _ => none

end PgConsole.Shell
