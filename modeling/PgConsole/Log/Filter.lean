import PgConsole.Text.Blank
import PgConsole.Text.Search

namespace PgConsole.Log

/-!
# Log filters

A filter is a list of directives separated by commas: a level, a target with a level, or a
target alone, which lets every level through. The longest directive whose target starts an
event's target decides about the event; a level without target counts as the shortest. An
event that no directive covers is dropped.
-/

/-- How serious an event is. -/
inductive Level where
  | error
  | warn
  | info
  | debug
  | trace
  deriving DecidableEq, Repr

namespace Level

/-- The number of a level; higher numbers are less serious. -/
def rank : Level → Nat
  | .error => 1
  | .warn => 2
  | .info => 3
  | .debug => 4
  | .trace => 5

/-- The name of a level. -/
def name : Level → String
  | .error => "error"
  | .warn => "warn"
  | .info => "info"
  | .debug => "debug"
  | .trace => "trace"

/-- All levels, the most serious first. -/
def all : List Level := [.error, .warn, .info, .debug, .trace]

end Level

/-- The highest rank that a directive lets through, read from its text: a level's name in any
case or its number, or zero for nothing. -/
def rank? (text : List Char) : Option Nat :=
  match String.ofList (Text.toLowerAscii text) with
  | "off" => some 0
  | "0" => some 0
  | "error" => some 1
  | "1" => some 1
  | "warn" => some 2
  | "2" => some 2
  | "info" => some 3
  | "3" => some 3
  | "debug" => some 4
  | "4" => some 4
  | "trace" => some 5
  | "5" => some 5
  | _ => none

/-- One rule of a filter. -/
structure Directive where
  target : List Char
  rank : Nat
  deriving DecidableEq, Repr

/-- A filter is a list of directives. -/
abbrev Filter := List Directive

/-- Split a text at the first equals sign. -/
def splitAtEquals (text : List Char) : List Char × Option (List Char) :=
  match text.dropWhile (· != '=') with
  | [] => (text, none)
  | _ :: rest => (text.takeWhile (· != '='), some rest)

/-- Read one directive. -/
def directive? (text : List Char) : Option Directive :=
  let text := Text.trim text
  match splitAtEquals text with
  | (target, some level) =>
    if level.isEmpty then some ⟨target, 5⟩ else (rank? level).map (Directive.mk target)
  | (word, none) =>
    match rank? word with
    | some rank => some ⟨[], rank⟩
    | none => some ⟨word, 5⟩

/-- Split a text at its commas. The first argument holds the current piece in reverse. -/
def splitAtCommas : List Char → List Char → List (List Char)
  | current, [] => [current.reverse]
  | current, c :: rest =>
    if c = ',' then current.reverse :: splitAtCommas [] rest else splitAtCommas (c :: current) rest

/-- Read a filter; one bad directive makes the whole filter invalid. -/
def Filter.parse? (text : String) : Option Filter :=
  ((splitAtCommas [] text.toList).filter fun piece => !piece.isEmpty).mapM directive?

/-- Whether one directive is preferred to another: a longer target, or a later place. -/
def prefer (best : Option Directive) (next : Directive) : Option Directive :=
  match best with
  | none => some next
  | some best => if best.target.length ≤ next.target.length then some next else some best

/-- The directive that decides about a target. -/
def Filter.decide? (filter : Filter) (target : String) : Option Directive :=
  (filter.filter fun directive => directive.target.isPrefixOf target.toList).foldl prefer none

/-- Whether a filter lets an event through. -/
def Filter.allows (filter : Filter) (target : String) (level : Level) : Bool :=
  (filter.decide? target).any fun directive => level.rank ≤ directive.rank

/-- The filter of a console when nothing else is asked for. -/
def defaultFilter : String :=
  "debug,pgdeck_core=trace,pgdeck_executor=trace,tokio_postgres=warn,russh=warn"

/-- The filter of a job's log when nothing else is asked for. -/
def defaultJobFilter : String := "debug"

/-- The filter that the environment asks for: of two variables the first that is valid. -/
def environmentFilter? (environment : String → Option String) : Option Filter :=
  ((environment "PGDECK_LOG").bind Filter.parse?).or
    ((environment "RUST_LOG").bind Filter.parse?)

/-- The filter of a console: a custom one, or the environment's, or the default. An invalid
custom filter gives the default. -/
def consoleFilter (custom : Option String) (environment : String → Option String) : Filter :=
  let fallback := (Filter.parse? defaultFilter).getD []
  match custom with
  | some text => (Filter.parse? text).getD fallback
  | none => (environmentFilter? environment).getD fallback

/-- The filter of a job's log. -/
def jobFilter (environment : String → Option String) : Filter :=
  (environmentFilter? environment).getD ((Filter.parse? defaultJobFilter).getD [])

end PgConsole.Log
