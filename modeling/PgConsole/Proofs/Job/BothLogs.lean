import PgConsole.Proofs.Job.Recording
import PgConsole.Proofs.Job.StreamLog

namespace PgConsole.Job

/-!
# What two drains leave in their logs

A job has both streams of its command drained in turns.  `Drain.outstanding` is what a drain still
adds to its log; every step of the drain adds a part of it (`LogFile.content_step`), and the other
drain adds nothing, if the log is `LogFile.Undisturbed`.  So two drains that come to their ends have
added the records of all lines of each stream to its own log, whatever the turns were
(`LogFile.content_drainCommand`), as `StreamLog.drain` does with a stream alone
(`LogFile.content_drain`).
-/

variable {World : Type}

namespace Drain

/-- What a drain still adds to its log, when the lines that it has not come to yet are captured at
these times. -/
def outstanding (clock : Nat → Moment) : Drain → List UInt8
  | reading _ lines _ =>
    (lines.mapIdx fun place line => OutputLine.record (clock place) line).flatten
  | writing record _ lines _ =>
    record ++ (lines.mapIdx fun place line => OutputLine.record (clock place) line).flatten
  | drained _ => []

/-- The number of lines that a drain will have written in the end. -/
def total : Drain → Nat
  | reading written lines _ => written + lines.length
  | writing _ written lines _ => written + 1 + lines.length
  | drained written => written

theorem total_step {host : Host World} {stream : Stream} {drain next : Drain} {world after : World}
    (hStep : drain.step host stream world = (.ok next, after)) : next.total = drain.total := by
  rw [step.eq_def] at hStep
  split at hStep
  · cases hStep
    simp [total]
    omega
  · cases hStep
  · split at hStep <;> cases hStep
    rfl
  · split at hStep <;> cases hStep
    rfl
  · cases hStep
    rfl

theorem outstanding_of_remaining {drain : Drain} (h : drain.remaining = 0)
    (clock : Nat → Moment) : drain.outstanding clock = [] ∧ drain.written = drain.total := by
  cases drain with
  | drained written => exact ⟨rfl, rfl⟩
  | _ => simp [remaining] at h

theorem total_ofStream (bytes : List UInt8) : (ofStream (bytes, none)).total = lineCount bytes := by
  rw [ofStream, total, length_streamLines, Nat.zero_add]

end Drain

namespace Drains

theorem get_set_self (drains : Drains) (drain : Drain) (stream : Stream) :
    (drains.set drain stream).get stream = drain := by
  cases stream <;> rfl

theorem get_set_other (drains : Drains) (drain : Drain) (stream : Stream) :
    (drains.set drain stream.other).get stream = drains.get stream := by
  cases stream <;> rfl

theorem remaining_of_end {host : Host World} {drains : Drains} {world turned : World}
    (hNext : drains.next host world = (none, turned)) (stream : Stream) :
    (drains.get stream).remaining = 0 := by
  unfold next at hNext
  split at hNext
  · split at hNext
    · cases stream <;> assumption
    · cases hNext
  · split at hNext <;> cases hNext

/-- Of the numbers of lines that two drains have written, the one for a stream. -/
def writtenTo (counts : Nat × Nat) : Stream → Nat
  | .out => counts.1
  | .err => counts.2

end Drains

theorem Stream.eq_or_other (stream other : Stream) : other = stream ∨ other = stream.other := by
  cases stream <;> cases other <;> simp [Stream.other]

/-- What a command sends on its streams, as a job reads it. -/
def sent (host : Host World) (pid : UInt32) (world : World) :
    Stream → List UInt8 × Option SystemError
  | .out => (host.readStream pid .out world).1
  | .err => (host.readStream pid .err (host.readStream pid .out world).2).1

namespace LogFile

variable {host : Host World} {stream : Stream}

/-- A log is left as it is by what is done for the other stream. -/
structure Undisturbed (log : LogFile host stream) : Prop where
  turn {world : World} {held : List UInt8} :
    log.content world = some held → log.content (host.turn world).2 = some held
  readStream {world : World} {held : List UInt8} (pid : UInt32) (read : Stream) :
    log.content world = some held → log.content (host.readStream pid read world).2 = some held
  append {world : World} {held : List UInt8} (bytes : List UInt8) :
    log.content world = some held →
      log.content (host.append (.log stream.other) bytes world).2 = some held
  sync {world : World} {held : List UInt8} :
    log.content world = some held →
      log.content (host.sync (.log stream.other) world).2 = some held

variable (log : LogFile host stream)

/-- A step adds to the log a part of what is outstanding. -/
theorem content_step {drain next : Drain} {world after : World} {held : List UInt8}
    (hHeld : log.content world = some held)
    (hStep : drain.step host stream world = (.ok next, after)) :
    ∃ added, log.content after = some (held ++ added) ∧
      ∀ clock, ∃ times, added ++ next.outstanding clock = drain.outstanding times := by
  cases drain with
  | drained written =>
      cases hStep
      exact ⟨[], by simpa using hHeld, fun clock => ⟨clock, rfl⟩⟩
  | writing record written lines broken =>
      have hAppended := log.append record hHeld
      rcases hAppend : host.append (.log stream) record world with ⟨cause | _, appended⟩
      · simp [Drain.step, hAppend] at hStep
      · rw [hAppend] at hAppended
        simp only [Drain.step, hAppend, Prod.mk.injEq, Except.ok.injEq] at hStep
        obtain ⟨rfl, rfl⟩ := hStep
        exact ⟨record, hAppended rfl, fun clock => ⟨clock, rfl⟩⟩
  | reading written lines broken =>
      cases lines with
      | cons line lines =>
          cases hStep
          refine ⟨[], ?_, fun clock => ?_⟩
          · rw [List.append_nil]
            exact log.now hHeld
          · -- the line that is handed over has the present time, the others those to come
            refine ⟨fun place => if place = 0 then (host.now world).1 else clock (place - 1), ?_⟩
            simp [Drain.outstanding]
      | nil =>
          cases broken with
          | some cause => cases hStep
          | none =>
              have hStored := log.sync hHeld
              rcases hSync : host.sync (.log stream) world with ⟨cause | _, stored⟩
              · simp [Drain.step, hSync] at hStep
              · rw [hSync] at hStored
                simp only [Drain.step, hSync, Prod.mk.injEq, Except.ok.injEq] at hStep
                obtain ⟨rfl, rfl⟩ := hStep
                exact ⟨[], by simpa using hStored rfl, fun clock => ⟨clock, rfl⟩⟩

namespace Undisturbed

variable {log : LogFile host stream}

theorem content_step {drain next : Drain} {world after : World} {held : List UInt8}
    (h : log.Undisturbed) (hHeld : log.content world = some held)
    (hStep : drain.step host stream.other world = (.ok next, after)) :
    log.content after = some held := by
  cases drain with
  | drained written =>
      cases hStep
      exact hHeld
  | writing record written lines broken =>
      have hAppended := h.append record hHeld
      rcases hAppend : host.append (.log stream.other) record world with ⟨cause | _, appended⟩
      · simp [Drain.step, hAppend] at hStep
      · rw [hAppend] at hAppended
        simp only [Drain.step, hAppend, Prod.mk.injEq] at hStep
        rwa [← hStep.2]
  | reading written lines broken =>
      cases lines with
      | cons line lines =>
          cases hStep
          exact log.now hHeld
      | nil =>
          cases broken with
          | some cause => cases hStep
          | none =>
              have hStored := h.sync hHeld
              rcases hSync : host.sync (.log stream.other) world with ⟨cause | _, stored⟩
              · simp [Drain.step, hSync] at hStep
              · rw [hSync] at hStored
                simp only [Drain.step, hSync, Prod.mk.injEq] at hStep
                rwa [← hStep.2]

theorem content_next {drains : Drains} {world turned : World} {stream? : Option Stream}
    {held : List UInt8} (h : log.Undisturbed) (hHeld : log.content world = some held)
    (hNext : drains.next host world = (stream?, turned)) : log.content turned = some held := by
  unfold Drains.next at hNext
  split at hNext
  · cases hNext
    exact hHeld
  · split at hNext
    · cases hNext
      exact hHeld
    · cases hNext
      exact h.turn hHeld

end Undisturbed

/-- Two drains that come to their ends have added to each log what was outstanding for it. -/
theorem content_run (hAlone : log.Undisturbed) {drains : Drains} {world after : World}
    {held : List UInt8} {counts : Nat × Nat} (hHeld : log.content world = some held)
    (hRun : drains.run host world = (.ok counts, after)) :
    Drains.writtenTo counts stream = (drains.get stream).total ∧
      ∃ clock, log.content after = some (held ++ (drains.get stream).outstanding clock) := by
  induction drains, world using Drains.run.induct host generalizing held with
  | case1 drains world turned hNext =>
      rw [Drains.run_of_end hNext] at hRun
      obtain ⟨hCounts, rfl⟩ := Prod.mk.inj hRun
      obtain rfl := Except.ok.inj hCounts
      have hTurned := hAlone.content_next hHeld hNext
      obtain ⟨hNone, hWritten⟩ := Drain.outstanding_of_remaining
        (Drains.remaining_of_end hNext stream) fun _ => .epoch
      refine ⟨?_, fun _ => .epoch, by rw [hNone, List.append_nil, hTurned]⟩
      rw [← hWritten]
      cases stream <;> rfl
  | case2 drains world turn turned hNext cause stepped hStep =>
      rw [Drains.run_of_error hNext hStep] at hRun
      cases hRun
  | case3 drains world turn turned hNext drain stepped hStep ih =>
      rw [Drains.run_of_step hNext hStep] at hRun
      have hTurned := hAlone.content_next hHeld hNext
      -- what an own step adds is no longer outstanding; a step of the other drain adds nothing
      rcases stream.eq_or_other turn with rfl | rfl
      · obtain ⟨added, hAdded, hRest⟩ := log.content_step hTurned hStep
        obtain ⟨hCount, clock, hAfter⟩ := ih hAdded hRun
        rw [Drains.get_set_self] at hCount hAfter
        obtain ⟨times, hTimes⟩ := hRest clock
        refine ⟨hCount.trans (Drain.total_step hStep), times, ?_⟩
        rw [hAfter, List.append_assoc, hTimes]
      · have hKept := hAlone.content_step hTurned hStep
        have hOther := ih hKept hRun
        rwa [Drains.get_set_other] at hOther

/-- When both streams of a command have been drained, each was sent to its end, and its log has the
records of all its lines behind what was there before. -/
theorem content_drainCommand (hAlone : log.Undisturbed) {pid : UInt32} {world after : World}
    {held : List UInt8} {counts : Nat × Nat} (hHeld : log.content world = some held)
    (hDrained : drainCommand host pid world = (.ok counts, after)) :
    ∃ bytes, sent host pid world stream = (bytes, none) ∧
      Drains.writtenTo counts stream = lineCount bytes ∧
      ∃ clock, log.content after = some (held ++ (capture clock bytes).flatten) := by
  rcases hOut : host.readStream pid .out world with ⟨⟨out, outBroken⟩, outRead⟩
  rcases hErr : host.readStream pid .err outRead with ⟨⟨err, errBroken⟩, bothRead⟩
  have hRun : Drains.run host ⟨.ofStream (out, outBroken), .ofStream (err, errBroken)⟩ bothRead =
      (.ok counts, after) := by
    rw [← hDrained]
    simp only [drainCommand, hOut, hErr]
  have hRead : log.content bothRead = some held := by
    have hOutRead := hAlone.readStream pid .out hHeld
    rw [hOut] at hOutRead
    have hErrRead := hAlone.readStream pid .err hOutRead
    rwa [hErr] at hErrRead
  -- a stream that breaks off would have failed its drain
  obtain ⟨rfl, rfl⟩ : outBroken = none ∧ errBroken = none := by
    obtain ⟨_, -, -, hVerdict⟩ := Drains.run_recorded host
      ⟨.ofStream (out, outBroken), .ofStream (err, errBroken)⟩ bothRead
    rcases hVerdict with ⟨_, -, hUnbroken, -⟩ | ⟨_, hError, -⟩
    · simpa [Drains.Broken] using hUnbroken
    · rw [hRun] at hError
      cases hError
  obtain ⟨hCount, clock, hAfter⟩ := log.content_run hAlone hRead hRun
  cases stream with
  | out =>
      refine ⟨out, by rw [sent, hOut], ?_, clock, hAfter⟩
      rw [hCount]
      exact Drain.total_ofStream out
  | err =>
      refine ⟨err, by rw [sent, hOut, hErr], ?_, clock, hAfter⟩
      rw [hCount]
      exact Drain.total_ofStream err

/-- The log that a recorded machine has of a stream is undisturbed by the other one. -/
theorem undisturbed_recordedLog (host : Host World) (stream : Stream) :
    (recordedLog host stream).Undisturbed where
  turn hHeld := hHeld
  readStream {world held} pid read hHeld := by
    have hHeld := Option.some.inj hHeld
    simp [recordedLog, Host.recorded, Outcome.logged, hHeld]
  append {world held} bytes hHeld := by
    have hHeld := Option.some.inj hHeld
    have hOther : stream.other ≠ stream := by cases stream <;> decide
    simp [recordedLog, Host.recorded, Host.note, Outcome.logged, hHeld, hOther]
  sync {world held} hHeld := by
    have hHeld := Option.some.inj hHeld
    simp [recordedLog, Host.recorded, Host.note, Outcome.logged, hHeld]

end LogFile

end PgConsole.Job
