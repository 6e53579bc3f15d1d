import PgConsole.Job.StreamLog

namespace PgConsole.Job

/-!
# Copying both streams of a command

The streams of a command are copied into their logs at the same time, by two drains. A drain hands
a record over to be written and then waits until that is done; the machine decides which of the
two goes on. The first failure ends both. A record that the other drain has handed over by then is
not taken back, but nobody waits for it any more.
-/

/-- How far the copying of a stream has got. -/
inductive Drain where
  /-- These lines are still to be written. Behind them the stream ends or breaks off. -/
  | reading (written : Nat) (lines : List (List UInt8)) (broken : Option SystemError)
  /-- A record has been handed over, and its writing is waited for. -/
  | writing (record : List UInt8) (written : Nat) (lines : List (List UInt8))
      (broken : Option SystemError)
  /-- All lines are written and stored. -/
  | drained (written : Nat)
  deriving DecidableEq, Repr

namespace Drain

variable {World : Type}

/-- A stream of which nothing has been written yet. When reading it breaks off, only the lines that
are complete are written. -/
def ofStream : List UInt8 × Option SystemError → Drain
  | (bytes, none) => reading 0 (streamLines bytes) none
  | (bytes, some cause) => reading 0 (streamLines (Chunk.complete bytes)) (some cause)

/-- The number of lines written so far. -/
def written : Drain → Nat
  | reading written _ _ | writing _ written _ _ | drained written => written

/-- The number of steps that are left. -/
def remaining : Drain → Nat
  | reading _ lines _ => 2 * lines.length + 1
  | writing _ _ lines _ => 2 * lines.length + 2
  | drained _ => 0

/-- Go on by one step. -/
def step (host : Host World) (stream : Stream) : Drain → World → Except SystemError Drain × World
  | reading written (line :: lines) broken, world =>
    let (moment, world) := host.now world
    (.ok (writing (OutputLine.record moment line) written lines broken), world)
  | reading _ [] (some cause), world => (.error cause, world)
  | reading written [] none, world =>
    match host.sync (.log stream) world with
    | (.error cause, world) => (.error cause, world)
    | (.ok (), world) => (.ok (drained written), world)
  | writing record written lines broken, world =>
    match host.append (.log stream) record world with
    | (.error cause, world) => (.error cause, world)
    | (.ok (), world) => (.ok (reading (written + 1) lines broken), world)
  | drained written, world => (.ok (drained written), world)

/-- Give a drain up. -/
def drop (host : Host World) (stream : Stream) : Drain → World → World
  | writing record _ _ _, world => host.leave (.log stream) record world
  | _, world => world

theorem remaining_step {host : Host World} {stream : Stream} {drain next : Drain}
    {world after : World} (hStep : drain.step host stream world = (.ok next, after))
    (hRemaining : drain.remaining ≠ 0) : next.remaining < drain.remaining := by
  rw [step.eq_def] at hStep
  split at hStep
  · cases hStep
    simp [remaining]
    omega
  · cases hStep
  · split at hStep <;> cases hStep
    simp [remaining]
  · split at hStep <;> cases hStep
    simp [remaining]
  · exact absurd rfl hRemaining

end Drain

/-- The drains of both streams. -/
structure Drains where
  out : Drain
  err : Drain
  deriving DecidableEq, Repr

namespace Drains

variable {World : Type}

def get (drains : Drains) : Stream → Drain
  | .out => drains.out
  | .err => drains.err

def set (drains : Drains) (drain : Drain) : Stream → Drains
  | .out => { drains with out := drain }
  | .err => { drains with err := drain }

def remaining (drains : Drains) : Nat := drains.out.remaining + drains.err.remaining

/-- The drain that goes on, if one is left. A drain that has come to its end leaves the turn to the
other. -/
def next (host : Host World) (drains : Drains) (world : World) : Option Stream × World :=
  if drains.out.remaining = 0 then
    (if drains.err.remaining = 0 then none else some .err, world)
  else if drains.err.remaining = 0 then (some .out, world)
  else
    let (stream, world) := host.turn world
    (some stream, world)

theorem remaining_of_next {host : Host World} {drains : Drains} {world after : World}
    {stream : Stream} (hNext : drains.next host world = (some stream, after)) :
    (drains.get stream).remaining ≠ 0 := by
  unfold next at hNext
  split at hNext
  · split at hNext <;> cases hNext
    assumption
  · split at hNext
    · cases hNext
      assumption
    · cases stream <;> assumption

theorem remaining_set {drains : Drains} {drain : Drain} {stream : Stream}
    (h : drain.remaining < (drains.get stream).remaining) :
    (drains.set drain stream).remaining < drains.remaining := by
  cases stream <;> simp_all [get, set, remaining]

/-- Let both drains go on until they have come to their ends or one has failed. The answer is how
many lines they have written. -/
def run (host : Host World) (drains : Drains) (world : World) :
    Except SystemError (Nat × Nat) × World :=
  match _hNext : drains.next host world with
  | (none, world) => (.ok (drains.out.written, drains.err.written), world)
  | (some stream, world) =>
    match _hStep : (drains.get stream).step host stream world with
    | (.error cause, world) =>
      (.error cause, (drains.get stream.other).drop host stream.other world)
    | (.ok drain, world) => run host (drains.set drain stream) world
termination_by drains.remaining
decreasing_by exact remaining_set (Drain.remaining_step _hStep (remaining_of_next _hNext))

section

variable {host : Host World} {drains : Drains} {world turned after : World} {stream : Stream}

theorem run_of_end (hNext : drains.next host world = (none, turned)) :
    drains.run host world = (.ok (drains.out.written, drains.err.written), turned) := by
  rw [run]
  split <;> simp_all

theorem run_of_error {cause : SystemError} (hNext : drains.next host world = (some stream, turned))
    (hStep : (drains.get stream).step host stream turned = (.error cause, after)) :
    drains.run host world =
      (.error cause, (drains.get stream.other).drop host stream.other after) := by
  rw [run]
  split
  · simp_all
  · split <;> simp_all

theorem run_of_step {drain : Drain} (hNext : drains.next host world = (some stream, turned))
    (hStep : (drains.get stream).step host stream turned = (.ok drain, after)) :
    drains.run host world = run host (drains.set drain stream) after := by
  rw [run]
  split
  · simp_all
  · split <;> simp_all

end

end Drains

/-- Copy what a command sends. -/
def drainCommand {World : Type} (host : Host World) (pid : UInt32) (world : World) :
    Except SystemError (Nat × Nat) × World :=
  let (out, world) := host.readStream pid .out world
  let (err, world) := host.readStream pid .err world
  Drains.run host ⟨.ofStream out, .ofStream err⟩ world

end PgConsole.Job
