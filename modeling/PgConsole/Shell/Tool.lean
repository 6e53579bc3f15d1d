import PgConsole.FileTree
import PgConsole.Job.Capture
import PgConsole.Shell.Format
import PgConsole.Text.Search

namespace PgConsole.Shell

/-!
# Tools

The small programs that a rehearsed machine has besides its shell. A tool reads its arguments
and its standard input, may change files, and writes to its two output streams.
-/

/-- Where a tool runs. -/
structure Setting where
  files : FileTree
  directory : String
  environment : List (String × String)

/-- What a tool has done. -/
structure ToolResult where
  out : List UInt8 := []
  err : List UInt8 := []
  code : Nat := 0
  files : FileTree

/-- A program that is run with arguments and a standard input. -/
abbrev Tool := Setting → List String → List UInt8 → ToolResult

namespace Tool

/-- The bytes of a line. -/
def lineBytes (text : String) : List UInt8 := Text.Utf8.encode (text ++ "\n")

/-- The place that a path means in a setting. -/
def pathIn (setting : Setting) (path : String) : String := Path.join setting.directory path

/-- The system's words for an error, without its number. -/
def reason : SystemError → String
  | .numbered code => SystemError.description code
  | error => error.message

/-- Add a result to an earlier one. -/
def followedBy (first second : ToolResult) : ToolResult :=
  ⟨first.out ++ second.out, first.err ++ second.err, max first.code second.code, second.files⟩

/-- Do something for each argument in turn. -/
def forEach (act : Setting → String → ToolResult) (setting : Setting) (arguments : List String) :
    ToolResult :=
  arguments.foldl
    (fun result argument => followedBy result (act { setting with files := result.files } argument))
    { files := setting.files }

/-- Report a failure and change nothing. -/
def fail (setting : Setting) (message : String) : ToolResult :=
  { err := lineBytes message, code := 1, files := setting.files }

/-- Use a changed file tree, or report why there is none. -/
def change (setting : Setting) (message : String) : Except SystemError FileTree → ToolResult
  | .ok files => { files }
  | .error error => fail setting (message ++ ": " ++ reason error)

/-- A tool that only succeeds or fails. -/
def constant (code : Nat) : Tool := fun setting _ _ => { code, files := setting.files }

/-- Write the arguments. -/
def echo : Tool := fun setting arguments _ =>
  let escapes := arguments.head? = some "-e"
  { out := echoText escapes (if escapes then arguments.drop 1 else arguments),
    files := setting.files }

/-- Write the arguments in a format. -/
def printf : Tool := fun setting arguments _ =>
  match arguments with
  | [] => { err := lineBytes "printf: missing operand", code := 1, files := setting.files }
  | format :: rest =>
    let result := printfText format rest
    { out := result.out,
      err := result.faults.flatMap fun fault => lineBytes ("printf: " ++ fault.inTool),
      code := if result.faults.isEmpty then 0 else 1, files := setting.files }

/-- Copy files, or the standard input. -/
def cat : Tool := fun setting arguments input =>
  if arguments.isEmpty then { out := input, files := setting.files }
  else
    forEach (fun setting path =>
      if path = "-" then { out := input, files := setting.files }
      else
        match setting.files.read (pathIn setting path) with
        | .ok bytes => { out := bytes, files := setting.files }
        | .error error => fail setting ("cat: " ++ path ++ ": " ++ reason error))
      setting arguments

/-- The number that an argument spells, nought when it spells none. -/
def countOf (argument : String) : Int := (Arithmetic.decimal? argument).getD 0

/-- How much of its input a tool takes. -/
inductive Amount where
  | bytes (count : Nat)
  | lines (count : Nat)
  deriving DecidableEq, Repr

/-- Read the options of a tool that takes a part of its input; the rest are files. -/
def amount : List String → Amount × List String
  | "-c" :: count :: files => (.bytes (countOf count).toNat, files)
  | "-n" :: count :: files => (.lines (countOf count).toNat, files)
  | argument :: files =>
    match argument.toList with
    | '-' :: 'c' :: digits => (.bytes (countOf (String.ofList digits)).toNat, files)
    | '-' :: 'n' :: digits => (.lines (countOf (String.ofList digits)).toNat, files)
    | '-' :: digit :: digits =>
      if Text.isDigit digit then (.lines (countOf (String.ofList (digit :: digits))).toNat, files)
      else (.lines 10, files)
    | _ => (.lines 10, argument :: files)
  | [] => (.lines 10, [])

/-- The lines of a byte sequence, each with its ending. -/
def lineList (bytes : List UInt8) : List (List UInt8) := Job.cut bytes

/-- The beginning of a file or of the standard input. -/
def head : Tool := fun setting arguments input =>
  let (amount, paths) := amount arguments
  let source : Except SystemError (List UInt8) :=
    match paths, amount with
    | [], _ => .ok input
    | path :: _, .bytes count => setting.files.readUpTo (pathIn setting path) count
    | path :: _, .lines _ => setting.files.read (pathIn setting path)
  match source with
  | .error error =>
    fail setting ("head: cannot open '" ++ paths.headD "" ++ "' for reading: " ++ reason error)
  | .ok bytes =>
    let taken :=
      match amount with
      | .bytes count => bytes.take count
      | .lines count => ((lineList bytes).take count).flatten
    { out := taken, files := setting.files }

/-- The end of a file or of the standard input. -/
def tail : Tool := fun setting arguments input =>
  let (amount, paths) := amount arguments
  let source : Except SystemError (List UInt8) :=
    match paths with
    | [] => .ok input
    | path :: _ => setting.files.read (pathIn setting path)
  match source with
  | .error error =>
    fail setting ("tail: cannot open '" ++ paths.headD "" ++ "' for reading: " ++ reason error)
  | .ok bytes =>
    let taken :=
      match amount with
      | .bytes count => bytes.drop (bytes.length - count)
      | .lines count =>
        let lines := lineList bytes
        (lines.drop (lines.length - count)).flatten
    { out := taken, files := setting.files }

/-- The bytes of a set, with its escapes and ranges. -/
def byteSet : Nat → List Char → List UInt8
  | 0, _ => []
  | _, [] => []
  | fuel + 1, text =>
    let (first, rest) : List UInt8 × List Char :=
      match text with
      | '\\' :: rest =>
        match escape .bare rest with
        | (.bytes [byte], length) => ([byte], rest.drop length)
        | (_, length) => ((rest.take length).flatMap charBytes, rest.drop length)
      | c :: rest => (charBytes c, rest)
      | [] => ([], [])
    match first, rest with
    | [low], '-' :: high :: after =>
      let last := (charBytes high).headD 0
      (List.range (last.toNat + 1 - low.toNat)).map (fun step => low + UInt8.ofNat step) ++
        byteSet fuel after
    | _, _ => first ++ byteSet fuel rest

/-- The byte that takes the place of another one. -/
def translated (source target : List UInt8) (byte : UInt8) : UInt8 :=
  match source.idxOf? byte with
  | none => byte
  | some place => (target[place]?).getD (target.getLast?.getD byte)

/-- Translate or delete bytes. -/
def tr : Tool := fun setting arguments input =>
  let set (text : String) := byteSet (text.length + 1) text.toList
  match arguments with
  | ["-d", source] =>
    let dropped := set source
    { out := input.filter fun byte => !dropped.contains byte, files := setting.files }
  | [source, target] =>
    let source := set source
    let target := set target
    { out := input.map (translated source target), files := setting.files }
  | _ => fail setting "tr: missing operand"

/-- The whole numbers from `first` to `last` in steps. -/
def numbers : Nat → Int → Int → Int → List Int
  | 0, _, _, _ => []
  | fuel + 1, first, step, last =>
    if (0 < step && first ≤ last) || (step < 0 && last ≤ first) then
      first :: numbers fuel (first + step) step last
    else []

/-- Count. -/
def seq : Tool := fun setting arguments _ =>
  let count (first step last : Int) : ToolResult :=
    let values := numbers ((last - first).natAbs + 1) first step last
    { out := values.flatMap fun value => lineBytes (Text.ofInt value), files := setting.files }
  match arguments.map countOf with
  | [last] => count 1 1 last
  | [first, last] => count first 1 last
  | [first, step, last] => count first step last
  | _ => fail setting "seq: missing operand"

/-- Whether a byte separates words. -/
def isBlankByte (byte : UInt8) : Bool := byte = 32 || (9 ≤ byte && byte ≤ 13)

/-- The number of words in a byte sequence: how often a blank, or the start, is followed by
something else. -/
def wordCount (bytes : List UInt8) : Nat :=
  (bytes.foldl
    (fun (count, inside) byte =>
      if isBlankByte byte then (count, false)
      else (if inside then count else count + 1, true))
    (0, false)).1

/-- What a tool reads: the file that is named first, or the standard input. -/
def source (setting : Setting) (paths : List String) (input : List UInt8) :
    Except SystemError (List UInt8) :=
  match paths with
  | [] => .ok input
  | "-" :: _ => .ok input
  | path :: _ => setting.files.read (pathIn setting path)

/-- The arguments that are not options. -/
def operands (arguments : List String) : List String :=
  arguments.filter fun argument => argument.toList.head? != some '-' || argument = "-"

/-- Whether one of the options has a letter. -/
def hasOption (arguments : List String) (letter : Char) : Bool :=
  arguments.any fun argument =>
    argument.toList.head? = some '-' && (argument.toList.drop 1).contains letter

/-- Count lines, words and bytes. -/
def wc : Tool := fun setting arguments input =>
  let paths := operands arguments
  match source setting paths input with
  | .error error => fail setting ("wc: " ++ paths.headD "" ++ ": " ++ reason error)
  | .ok bytes =>
    let all := [('l', bytes.count 10), ('w', wordCount bytes), ('c', bytes.length)]
    let chosen := all.filter fun entry => hasOption arguments entry.1
    let columns := (if chosen.isEmpty then all else chosen).map fun entry => Text.ofNat entry.2
    let padded (text : String) :=
      String.ofList (List.replicate (7 - text.length) ' ') ++ text
    let columns := if columns.length = 1 then columns else columns.map padded
    { out := lineBytes (" ".intercalate (columns ++ paths)), files := setting.files }

/-- Whether one byte sequence comes before another or equals it. -/
def isSorted : List UInt8 → List UInt8 → Bool
  | [], _ => true
  | _ :: _, [] => false
  | first :: rest, other :: others => first < other || (first = other && isSorted rest others)

/-- The lines of a byte sequence without their endings. -/
def plainLines (bytes : List UInt8) : List (List UInt8) :=
  (lineList bytes).map fun line => if line.getLast? = some 10 then line.dropLast else line

/-- The bytes of lines. -/
def ofLines (lines : List (List UInt8)) : List UInt8 := lines.flatMap (· ++ [10])

/-- The number at the start of a line. -/
def leadingNumber (line : List UInt8) : Int :=
  let text := (line.map fun byte => Char.ofNat byte.toNat).dropWhile fun c => c = ' ' || c = '\t'
  let digits (text : List Char) := countOf (String.ofList (text.takeWhile Text.isDigit))
  match text with
  | '-' :: text => -digits text
  | text => digits text

/-- Lines without those that equal the one before. -/
def withoutRepeats : List (List UInt8) → List (List UInt8)
  | first :: second :: rest =>
    if first = second then withoutRepeats (second :: rest)
    else first :: withoutRepeats (second :: rest)
  | lines => lines

/-- A tool that changes the lines of a file or of the standard input. -/
def onLines (name : String) (act : List String → List (List UInt8) → List (List UInt8)) : Tool :=
  fun setting arguments input =>
    let paths := operands arguments
    match source setting paths input with
    | .error error =>
      let message := name ++ ": cannot read: " ++ paths.headD "" ++ ": " ++ reason error
      { fail setting message with code := 2 }
    | .ok bytes => { out := ofLines (act arguments (plainLines bytes)), files := setting.files }

/-- Sort lines, by bytes or by the numbers they start with. -/
def sort : Tool := onLines "sort" fun arguments lines =>
  let before (first second : List UInt8) : Bool :=
    if hasOption arguments 'n' then
      let low := leadingNumber first
      let high := leadingNumber second
      low < high || (low = high && isSorted first second)
    else isSorted first second
  let before := if hasOption arguments 'r' then fun first second => before second first else before
  let sorted := lines.mergeSort before
  if hasOption arguments 'u' then withoutRepeats sorted else sorted

/-- Leave out lines that equal the one before. -/
def uniq : Tool := onLines "uniq" fun _ lines => withoutRepeats lines

/-- Lines in reverse order. -/
def tac : Tool := onLines "tac" fun _ lines => lines.reverse

/-- How often a line is repeated that should be repeated without end. -/
def manyTimes : Nat := 100000

/-- Repeat a line. -/
def yes : Tool := fun setting arguments _ =>
  let line := lineBytes (if arguments.isEmpty then "y" else " ".intercalate arguments)
  { out := (List.replicate manyTimes line).flatten, files := setting.files }

/-- Copy the standard input to files as well. -/
def tee : Tool := fun setting arguments input =>
  let result := forEach (fun setting path =>
    change setting ("tee: " ++ path) do
      let (place, files) ←
        setting.files.openForWriting (!hasOption arguments 'a') (pathIn setting path)
      files.append place input) setting (operands arguments)
  { result with out := input }

/-- The last name of a path, without a given ending. -/
def basename : Tool := fun setting arguments _ =>
  match arguments with
  | [] => fail setting "basename: missing operand"
  | path :: rest =>
    let name := (Path.pieces path).getLast?.getD "/"
    let ending := (rest.headD "").toList
    let chars := name.toList
    let cut := chars.drop (chars.length - ending.length) = ending && chars.length != ending.length
    let name := if cut then String.ofList (chars.take (chars.length - ending.length)) else name
    { out := lineBytes name, files := setting.files }

/-- A path without its last name. -/
def dirname : Tool := fun setting arguments _ =>
  forEach (fun setting path =>
    let parent := FileTree.parentPath path
    { out := lineBytes (if parent.isEmpty then "." else parent), files := setting.files })
    setting arguments

/-- List names. -/
def ls : Tool := fun setting arguments _ =>
  let paths := operands arguments
  let listed (path : String) : ToolResult :=
    match setting.files.resolve (pathIn setting path) with
    | .ok ⟨place, some node⟩ =>
      if node.isDirectory then
        let names := (setting.files.children place).map fun entry => Text.Utf8.encode entry.1
        let names := names.filter fun name => hasOption arguments 'A' || name.head? != some 46
        { out := ofLines (names.mergeSort isSorted), files := setting.files }
      else { out := lineBytes path, files := setting.files }
    | .ok ⟨_, none⟩ =>
      { fail setting ("ls: cannot access '" ++ path ++ "': " ++ reason .notFound) with code := 2 }
    | .error error =>
      { fail setting ("ls: cannot access '" ++ path ++ "': " ++ reason error) with code := 2 }
  forEach (fun _ path => listed path) setting (if paths.isEmpty then ["."] else paths)

/-- A size with a letter for thousands and millions. -/
def sizeOf (text : String) : Nat :=
  let digits := text.toList.takeWhile Text.isDigit
  let number := (countOf (String.ofList digits)).toNat
  match text.toList.drop digits.length with
  | ['k'] => number * 1024
  | ['K'] => number * 1024
  | ['M'] => number * 1048576
  | _ => number

/-- Copy blocks. -/
def dd : Tool := fun setting arguments input =>
  let option? (name : String) : Option String :=
    (arguments.findSome? fun argument =>
      Text.stripStart? (name ++ "=").toList argument.toList).map String.ofList
  let size := ((option? "bs").map sizeOf).getD 512
  let wanted := (option? "count").map fun count => sizeOf count * size
  let bytes : Except SystemError (List UInt8) :=
    match option? "if", wanted with
    | none, none => .ok input
    | none, some wanted => .ok (input.take wanted)
    | some path, none => setting.files.read (pathIn setting path)
    | some path, some wanted => setting.files.readUpTo (pathIn setting path) wanted
  match bytes with
  | .error error =>
    fail setting ("dd: failed to open '" ++ (option? "if").getD "" ++ "': " ++ reason error)
  | .ok bytes =>
    let whole := Text.ofNat (bytes.length / size)
    let part := if bytes.length % size = 0 then "0" else "1"
    let summary := lineBytes (whole ++ "+" ++ part ++ " records in") ++
      lineBytes (whole ++ "+" ++ part ++ " records out")
    let err := if option? "status" = some "none" then [] else summary
    match option? "of" with
    | none => { out := bytes, err, files := setting.files }
    | some path =>
      let result := change setting ("dd: failed to open '" ++ path ++ "'") do
        let (place, files) ← setting.files.openForWriting true (pathIn setting path)
        files.append place bytes
      { result with err := result.err ++ err }

/-- Write the values of environment variables. -/
def printenv : Tool := fun setting arguments _ =>
  forEach (fun setting name =>
    match setting.environment.lookup name with
    | some value => { out := lineBytes value, files := setting.files }
    | none => { code := 1, files := setting.files }) setting arguments

/-- Create directories. -/
def mkdir : Tool := fun setting arguments _ =>
  forEach (fun setting path =>
    change setting ("mkdir: cannot create directory '" ++ path ++ "'")
      (if arguments.contains "-p" then setting.files.createAll (pathIn setting path)
        else setting.files.createDirectory (pathIn setting path)))
    setting (operands arguments)

/-- Remove what a path leads to, without following a link at its end; `deep` also removes
directories with all that is in them. -/
def removeAt (deep : Bool) (files : FileTree) (path : String) : Except SystemError FileTree :=
  match FileTree.resolveWith false files path with
  | .error error => .error error
  | .ok ⟨_, none⟩ => .error .notFound
  | .ok ⟨place, some node⟩ =>
    if !node.isDirectory then .ok (files.remove place)
    else if deep then .ok ⟨files.nodes.filter fun entry => !place.isPrefixOf entry.1⟩
    else .error .isDirectory

/-- Remove files. -/
def rm : Tool := fun setting arguments _ =>
  let has := hasOption arguments
  forEach (fun setting path =>
    match removeAt (has 'r' || has 'R') setting.files (pathIn setting path) with
    | .ok files => { files }
    | .error error =>
      if has 'f' && error = .notFound then { files := setting.files }
      else fail setting ("rm: cannot remove '" ++ path ++ "': " ++ reason error))
    setting (operands arguments)

/-- Remove empty directories. -/
def rmdir : Tool := fun setting arguments _ =>
  forEach (fun setting path =>
    change setting ("rmdir: failed to remove '" ++ path ++ "'")
      (match FileTree.resolveWith false setting.files (pathIn setting path) with
      | .error error => .error error
      | .ok ⟨_, none⟩ => .error .notFound
      | .ok ⟨place, some node⟩ =>
        if !node.isDirectory then .error .notDirectory
        else if (setting.files.children place).isEmpty then .ok (setting.files.remove place)
        else .error .notEmpty))
    setting (operands arguments)

/-- Create files that do not exist. -/
def touch : Tool := fun setting arguments _ =>
  forEach (fun setting path =>
    if setting.files.pathExists (pathIn setting path) then { files := setting.files }
    else
      change setting ("touch: cannot touch '" ++ path ++ "'")
        ((setting.files.openForWriting false (pathIn setting path)).map Prod.snd))
    setting (operands arguments)

/-- Rename a file. -/
def mv : Tool := fun setting arguments _ =>
  match operands arguments with
  | [source, target] =>
    change setting ("mv: cannot move '" ++ source ++ "' to '" ++ target ++ "'")
      (setting.files.rename (pathIn setting source) (pathIn setting target))
  | _ => fail setting "mv: missing file operand"

/-- Link a name to another path. -/
def ln : Tool := fun setting arguments _ =>
  match operands arguments with
  | [target, path] =>
    change setting ("ln: failed to create symbolic link '" ++ path ++ "'")
      (match FileTree.resolveWith false setting.files (pathIn setting path) with
      | .error error => .error error
      | .ok ⟨place, none⟩ => .ok (setting.files.put place (.link target))
      | .ok ⟨_, some _⟩ => .error .alreadyExists)
  | _ => fail setting "ln: missing file operand"

/-- The tools by name. -/
def table : List (String × Tool) := [
  ("true", constant 0), ("false", constant 1), ("sleep", constant 0), ("echo", echo),
  ("printf", printf), ("cat", cat), ("head", head), ("tail", tail), ("tr", tr), ("seq", seq),
  ("wc", wc), ("printenv", printenv), ("mkdir", mkdir), ("rm", rm), ("rmdir", rmdir),
  ("touch", touch), ("mv", mv), ("ln", ln), ("sort", sort), ("uniq", uniq), ("tac", tac),
  ("yes", yes), ("tee", tee), ("basename", basename), ("dirname", dirname), ("ls", ls), ("dd", dd)]

end Tool

end PgConsole.Shell
