import PgConsole.Job.StreamLog
import PgConsole.Proofs.Job.Capture

namespace PgConsole.Job

/-!
# What a drain leaves in its log

`LogFile` says which bytes a log holds in a world and how the steps of a drain change them:
appending adds at the end, reading the clock and storing add nothing.  A drain that succeeds then
adds the records of all lines of its stream, in order (`LogFile.content_drain`), and answers their
number.

Every machine whose deeds are recorded has such a log: `recordedLog` takes its bytes from what was
appended.
-/

variable {World : Type}

/-- The log of a stream on a machine: the bytes that it holds in a world, if it is a file there
that can be written. -/
structure LogFile (host : Host World) (stream : Stream) where
  content : World → Option (List UInt8)
  now {world : World} {held : List UInt8} :
    content world = some held → content (host.now world).2 = some held
  append {world : World} {held : List UInt8} (bytes : List UInt8) :
    content world = some held → (host.append (.log stream) bytes world).1 = .ok () →
      content (host.append (.log stream) bytes world).2 = some (held ++ bytes)
  sync {world : World} {held : List UInt8} :
    content world = some held → (host.sync (.log stream) world).1 = .ok () →
      content (host.sync (.log stream) world).2 = some held

/-! ## Draining -/

namespace LogFile

variable {host : Host World} {stream : Stream} (log : LogFile host stream)

/-- A line that can be written is added with the time that the clock shows. -/
theorem content_writeLine {line held : List UInt8} {world after : World}
    (hHeld : log.content world = some held)
    (hWritten : StreamLog.writeLine host stream line world = (.ok (), after)) :
    ∃ moment, log.content after = some (held ++ OutputLine.record moment line) := by
  have hAppended : host.append (.log stream) (OutputLine.record (host.now world).1 line)
      (host.now world).2 = (.ok (), after) := hWritten
  have hLonger := log.append (OutputLine.record (host.now world).1 line) (log.now hHeld)
  rw [hAppended] at hLonger
  exact ⟨(host.now world).1, hLonger rfl⟩

theorem content_writeLines {lines : List (List UInt8)} {held : List UInt8} {world after : World}
    (hHeld : log.content world = some held)
    (hWritten : StreamLog.writeLines host stream lines world = (.ok (), after)) :
    ∃ clock : Nat → Moment, log.content after = some (held ++
      (lines.mapIdx fun place line => OutputLine.record (clock place) line).flatten) := by
  induction lines generalizing held world with
  | nil =>
      obtain ⟨-, rfl⟩ := Prod.mk.inj hWritten
      exact ⟨fun _ => .epoch, by simpa using hHeld⟩
  | cons line rest ih =>
      rw [StreamLog.writeLines] at hWritten
      split at hWritten
      · cases hWritten
      · rename_i hLine
        obtain ⟨moment, hMoment⟩ := log.content_writeLine hHeld hLine
        obtain ⟨clock, hClock⟩ := ih hMoment hWritten
        -- the first line has its own time, the others those of the rest
        refine ⟨fun place => if place = 0 then moment else clock (place - 1), ?_⟩
        rw [hClock, List.mapIdx_cons, List.flatten_cons, List.append_assoc]
        rfl

/-- A drain that succeeds adds the records of the stream and answers how many lines it has. -/
theorem content_drain {bytes held : List UInt8} {world after : World} {count : Nat}
    (hHeld : log.content world = some held)
    (hDrained : StreamLog.drain host stream bytes world = (.ok count, after)) :
    count = lineCount bytes ∧
      ∃ clock, log.content after = some (held ++ (capture clock bytes).flatten) := by
  rw [StreamLog.drain] at hDrained
  split at hDrained
  · cases hDrained
  · rename_i written hWritten
    obtain ⟨clock, hClock⟩ := log.content_writeLines hHeld hWritten
    have hSync := log.sync hClock
    split at hDrained
    · cases hDrained
    · rename_i stored hStored
      rw [hStored] at hSync
      obtain ⟨hCount, rfl⟩ := Prod.mk.inj hDrained
      refine ⟨?_, clock, hSync rfl⟩
      rw [← length_streamLines]
      exact (Except.ok.inj hCount).symm

end LogFile

/-! ## The records of a stream -/

theorem length_capture (clock : Nat → Moment) (bytes : List UInt8) :
    (capture clock bytes).length = lineCount bytes := by
  rw [capture, List.length_mapIdx, length_streamLines]

/-- A captured record is the record of one of the stream's lines. -/
theorem exists_of_mem_capture {clock : Nat → Moment} {bytes record : List UInt8}
    (h : record ∈ capture clock bytes) :
    ∃ moment line, lineFeed ∉ line ∧ OutputLine.record moment line = record := by
  obtain ⟨place, hPlace, rfl⟩ := List.mem_mapIdx.mp h
  exact ⟨_, _, lineFeed_not_mem_streamLines (List.getElem_mem hPlace), rfl⟩

theorem terminated_of_mem_capture {clock : Nat → Moment} {bytes record : List UInt8}
    (h : record ∈ capture clock bytes) : Terminated record := by
  obtain ⟨moment, line, hLine, rfl⟩ := exists_of_mem_capture h
  exact ⟨_, OutputLine.lineFeed_not_mem_record_body moment hLine,
    OutputLine.record_eq_concat moment line⟩

theorem isSome_parse?_of_mem_capture {clock : Nat → Moment} {bytes record : List UInt8}
    (h : record ∈ capture clock bytes) : (OutputLine.parse? record).isSome = true := by
  obtain ⟨moment, line, hLine, rfl⟩ := exists_of_mem_capture h
  exact OutputLine.isSome_parse?_record moment hLine

/-! ## Logs of recorded machines -/

/-- The bytes that a deed puts into the log of a stream. -/
def Outcome.logged (stream : Stream) (outcome : Outcome) : List UInt8 :=
  match outcome.deed with
  | .append file bytes => if file = .log stream ∧ outcome.succeeded then bytes else []
  | _ => []

/-- A log that holds what was appended to it. -/
def recordedLog (host : Host World) (stream : Stream) : LogFile host.recorded stream where
  content witnessed := some (witnessed.outcomes.flatMap (Outcome.logged stream))
  now hHeld := hHeld
  append {world held} bytes hHeld hAppended := by
    have hHeld := Option.some.inj hHeld
    have hDone : (host.append (.log stream) bytes world.world).1 = .ok () := hAppended
    simp [Host.recorded, Host.note, Outcome.logged, hHeld, hDone, Except.toOption]
  sync {world held} hHeld _ := by
    have hHeld := Option.some.inj hHeld
    simp [Host.recorded, Host.note, Outcome.logged, hHeld]

end PgConsole.Job
