import Mathlib.Data.List.Induction
import PgConsole.Proofs.Job.StatusHistory

namespace PgConsole.Job

/-!
# Retrying a status write that failed

A keeper changes its record before it writes it, and a failed write does not take the change
back.  So a start that could not be written can be recorded again, but an end cannot: the keeper
takes the job to be over while the status file does not say so, and refuses every further call.

`failed_write_keeps_change` states exactly what a failed write leaves.  For single calls it says
when the record is as before and when a further call succeeds; for whole sequences of calls, that
keeper and file disagree about the end exactly if some call to record the end could not be
written.
-/

variable {World : Type}

namespace StatusCall

/-- The record that a call is to write. -/
def next (host : Host World) (call : StatusCall) (keeper : StatusKeeper) (world : World) :
    StatusRecord :=
  call.update (StatusTime.writeUtc (host.now world).1) keeper.record

/-- The write of a call. -/
def writing (host : Host World) (call : StatusCall) (keeper : StatusKeeper) (world : World) :
    Except SystemError Unit × World :=
  StatusKeeper.write host (call.next host keeper world) (host.now world).2

/-- The keeper's record is still open, and the one that the call makes of it cannot be written. -/
def Unwritten (host : Host World) (call : StatusCall) (keeper : StatusKeeper) (world : World) :
    Prop :=
  keeper.record.isTerminal = false ∧ ∃ cause, (call.writing host keeper world).1 = .error cause

/-- Some call to record the end could not be written. -/
def EndUnwritten (host : Host World) (start : StatusKeeper × World) (calls : List StatusCall) :
    Prop :=
  ∃ before code, before ++ [.finished code] <+: calls ∧
    (finished code).Unwritten host (performAll host start before).1 (performAll host start before).2

section Single

variable (host : Host World) (call : StatusCall) {keeper : StatusKeeper} (world : World)

theorem perform_of_terminal (hTerminal : keeper.record.isTerminal = true) :
    call.perform host keeper world = (.error keeper.alreadyTerminal, keeper, world) := by
  rw [perform_eq_change, StatusKeeper.change_of_terminal _ _ _ hTerminal]

/-- An open record is changed, and then written. -/
theorem perform_of_open (hOpen : keeper.record.isTerminal = false) :
    call.perform host keeper world =
      ((call.writing host keeper world).1.mapError fun cause => .file cause.message,
        { keeper with record := call.next host keeper world },
        (call.writing host keeper world).2) := by
  rw [perform_eq_change, StatusKeeper.change_of_open _ _ _ hOpen]
  rfl

theorem isTerminal_next (hOpen : keeper.record.isTerminal = false) :
    (call.next host keeper world).isTerminal = true ↔ ∃ code, call = .finished code := by
  cases call with
  | started pid =>
      have hStill : ((started pid).next host keeper world).isTerminal = false := hOpen
      simp [hStill]
  | finished code => simp [next, update, StatusRecord.isTerminal]

/-- A call changes an open record unless it repeats the last start at the same time. -/
theorem next_eq_iff (hOpen : keeper.record.isTerminal = false) :
    call.next host keeper world = keeper.record ↔
      ∃ pid, call = .started pid ∧ keeper.record.pid = some pid ∧
        keeper.record.startTime = some (StatusTime.writeUtc (host.now world).1) := by
  cases call with
  | started pid =>
      simp only [next, update, started.injEq, exists_eq_left']
      constructor
      · intro hSame
        rw [← hSame]
        exact ⟨rfl, rfl⟩
      · rintro ⟨hPid, hStart⟩
        rw [← hPid, ← hStart]
  | finished code =>
      simp only [reduceCtorEq, false_and, exists_false, iff_false]
      intro hSame
      rw [← hSame] at hOpen
      cases hOpen

end Single

/-- A call succeeds exactly if the record is open and the new one can be written. -/
theorem perform_eq_ok_iff (host : Host World) (call : StatusCall) (keeper : StatusKeeper)
    (world : World) :
    (call.perform host keeper world).1 = .ok () ↔
      keeper.record.isTerminal = false ∧ (call.writing host keeper world).1 = .ok () := by
  cases hTerminal : keeper.record.isTerminal with
  | true =>
      rw [perform_of_terminal host call world hTerminal]
      simp
  | false =>
      rw [perform_of_open host call world hTerminal]
      cases (call.writing host keeper world).1 with
      | ok _ => exact ⟨fun _ => ⟨rfl, rfl⟩, fun _ => rfl⟩
      | error _ => exact ⟨nofun, nofun⟩

/-- With one more call, the end has gone unwritten before, or this call is the one. -/
theorem endUnwritten_concat {host : Host World} {start : StatusKeeper × World}
    {calls : List StatusCall} {call : StatusCall} :
    EndUnwritten host start (calls ++ [call]) ↔
      EndUnwritten host start calls ∨ ∃ code, call = .finished code ∧
        call.Unwritten host (performAll host start calls).1 (performAll host start calls).2 := by
  constructor
  · rintro ⟨before, code, hPrefix, hUnwritten⟩
    rcases List.prefix_concat_iff.mp hPrefix with hWhole | hEarlier
    · obtain ⟨rfl, hLast⟩ := List.append_inj' hWhole rfl
      obtain rfl := (List.cons.inj hLast).1
      exact .inr ⟨code, rfl, hUnwritten⟩
    · exact .inl ⟨before, code, hEarlier, hUnwritten⟩
  · rintro (⟨before, code, hPrefix, hUnwritten⟩ | ⟨code, rfl, hUnwritten⟩)
    · exact ⟨before, code, hPrefix.trans (List.prefix_append _ _), hUnwritten⟩
    · exact ⟨calls, code, List.prefix_refl _, hUnwritten⟩

end StatusCall

open StatusCall

namespace StatusFiles

variable {host : Host World} {directory : String} (disk : StatusFiles host directory)

/-- The status file says that the job has ended. -/
def ShowsEnd (world : World) : Prop :=
  ∃ record, StatusRecord.read (disk.files world) directory = .ok (some record) ∧
    record.isTerminal = true

/-- What the status file says depends on its bytes alone. -/
theorem showsEnd_congr {first second : World} (hSame : disk.status first = disk.status second) :
    disk.ShowsEnd first ↔ disk.ShowsEnd second := by
  have hContent : (disk.files first).read (Path.join directory StatusRecord.fileName) =
    (disk.files second).read (Path.join directory StatusRecord.fileName) := hSame
  simp only [ShowsEnd, StatusRecord.read, FileTree.readText, hContent]

theorem showsEnd_of_written {world : World} {record : StatusRecord}
    (hWritten : disk.status world = StatusRecord.written (some record)) :
    disk.ShowsEnd world ↔ record.isTerminal = true := by
  unfold ShowsEnd
  rw [StatusRecord.read_of_written hWritten]
  simp only [Except.ok.injEq, Option.some.injEq, exists_eq_left']

/-- Keeper and status file after some calls: the file shows the end of the job exactly if the keeper
holds it and no call to record it went unwritten. -/
structure Standing (start : StatusKeeper × World) (calls : List StatusCall) : Prop where
  apart : disk.apart (performAll host start calls).2
  shows : disk.ShowsEnd (performAll host start calls).2 ↔
    (performAll host start calls).1.record.isTerminal = true ∧ ¬EndUnwritten host start calls
  terminal : EndUnwritten host start calls →
    (performAll host start calls).1.record.isTerminal = true

variable {disk}

theorem standing_fresh {world : World} (hApart : disk.apart world)
    (hRunning : ¬disk.ShowsEnd world) : disk.Standing ({ directory }, world) [] where
  apart := hApart
  shows := ⟨fun hShows => absurd hShows hRunning, fun hHeld => nomatch hHeld.1⟩
  terminal := by
    rintro ⟨before, code, hPrefix, -⟩
    simp at hPrefix

/-- A terminal record refuses one more call, and nothing happens. -/
theorem Standing.concat_of_terminal {start : StatusKeeper × World} {calls : List StatusCall}
    (h : disk.Standing start calls) (call : StatusCall)
    (hTerminal : (performAll host start calls).1.record.isTerminal = true) :
    disk.Standing start (calls ++ [call]) := by
  have hSame : performAll host start (calls ++ [call]) = performAll host start calls := by
    rw [performAll_concat, perform_of_terminal _ _ _ hTerminal]
  have hEnd : EndUnwritten host start (calls ++ [call]) ↔ EndUnwritten host start calls := by
    rw [endUnwritten_concat, or_iff_left]
    rintro ⟨code, -, hOpen, -⟩
    rw [hTerminal] at hOpen
    cases hOpen
  constructor
  · rw [hSame]
    exact h.apart
  · rw [hSame, hEnd]
    exact h.shows
  · rw [hSame, hEnd]
    exact h.terminal

/-- An open record takes one more call, and the status file shows what could be written. -/
theorem Standing.concat_of_open {start : StatusKeeper × World} {calls : List StatusCall}
    (h : disk.Standing start calls) (call : StatusCall)
    (hOpen : (performAll host start calls).1.record.isTerminal = false) :
    disk.Standing start (calls ++ [call]) := by
  have hWritten : ¬EndUnwritten host start calls := by
    intro hEnd
    rw [h.terminal hEnd] at hOpen
    cases hOpen
  have hHidden : ¬disk.ShowsEnd (performAll host start calls).2 := by
    rw [h.shows, hOpen]
    simp
  have hEnd : EndUnwritten host start (calls ++ [call]) ↔ ∃ code, call = .finished code ∧
      call.Unwritten host (performAll host start calls).1 (performAll host start calls).2 := by
    rw [endUnwritten_concat, or_iff_right hWritten]
  have hAfter := performAll_concat host start calls call
  rw [perform_of_open _ _ _ hOpen] at hAfter
  have hApart := h.apart
  generalize performAll host start calls = state at *
  have hNow := disk.now_apart hApart
  have hAfterApart : disk.apart (call.writing host state.1 state.2).2 := disk.apart_write _ hNow
  cases hWrite : call.writing host state.1 state.2 with
  | mk result after =>
      rw [hWrite] at hAfter hAfterApart
      cases result with
      | ok _ =>
          have hStatus : disk.status after = StatusRecord.written (some _) :=
            disk.status_write hNow hWrite
          have hNone : ¬EndUnwritten host start (calls ++ [call]) := by
            rw [hEnd]
            rintro ⟨code, -, -, cause, hFailed⟩
            rw [hWrite] at hFailed
            cases hFailed
          constructor
          · rw [hAfter]
            exact hAfterApart
          · rw [hAfter, disk.showsEnd_of_written hStatus]
            exact ⟨fun hTerminal => ⟨hTerminal, hNone⟩, fun hHeld => hHeld.1⟩
          · exact fun hLost => absurd hLost hNone
      | error cause =>
          -- the file is as it was, and the end is lost if this call was to record it
          have hStatus : disk.status after = disk.status state.2 :=
            (disk.status_write_of_error hNow hWrite).trans (disk.now_status hApart)
          have hLost : EndUnwritten host start (calls ++ [call]) ↔
              (call.next host state.1 state.2).isTerminal = true := by
            rw [hEnd, isTerminal_next host call state.2 hOpen]
            constructor
            · rintro ⟨code, hCall, -⟩
              exact ⟨code, hCall⟩
            · rintro ⟨code, hCall⟩
              exact ⟨code, hCall, hOpen, cause, by rw [hWrite]⟩
          constructor
          · rw [hAfter]
            exact hAfterApart
          · rw [hAfter, disk.showsEnd_congr hStatus, hLost]
            exact ⟨fun hShows => absurd hShows hHidden, fun hHeld => absurd hHeld.1 hHeld.2⟩
          · rw [hAfter]
            exact hLost.mp

/-- Keeper and status file after any calls. -/
theorem standing_performAll {world : World} (hApart : disk.apart world)
    (hRunning : ¬disk.ShowsEnd world) (calls : List StatusCall) :
    disk.Standing ({ directory }, world) calls := by
  induction calls using List.reverseRecOn with
  | nil => exact standing_fresh hApart hRunning
  | append_singleton calls call ih =>
      cases hTerminal :
          (performAll host ({ directory }, world) calls).1.record.isTerminal with
      | true => exact ih.concat_of_terminal call hTerminal
      | false => exact ih.concat_of_open call hTerminal

end StatusFiles

/-- What a failed status write leaves.  A call that could not be written has changed the record
nevertheless, unless it repeats the last start at the same time; and a further call succeeds exactly
if the failed one was a start and the new record can be written.  Over any calls of a new keeper,
where the status file does not show the end of a job to begin with, the keeper takes the job to be
over while the file does not show it exactly if some call to record the end could not be
written. -/
theorem failed_write_keeps_change (host : Host World) :
    (∀ (keeper : StatusKeeper) (world : World) (call : StatusCall),
      call.Unwritten host keeper world →
        let outcome := call.perform host keeper world
        (∃ cause : SystemError, outcome.1 = .error (.file cause.message)) ∧
        (outcome.2.1.record = keeper.record ↔
          ∃ pid, call = .started pid ∧ keeper.record.pid = some pid ∧
            keeper.record.startTime = some (StatusTime.writeUtc (host.now world).1)) ∧
        ∀ (retry : StatusCall) (later : World),
          (retry.perform host outcome.2.1 later).1 = .ok () ↔
            (∃ pid, call = .started pid) ∧ (retry.writing host outcome.2.1 later).1 = .ok ()) ∧
    ∀ (directory : String) (disk : StatusFiles host directory) (world : World),
      disk.apart world → ¬disk.ShowsEnd world → ∀ calls : List StatusCall,
        let state := performAll host ({ directory }, world) calls
        state.1.record.isTerminal = true ∧ ¬disk.ShowsEnd state.2 ↔
          EndUnwritten host ({ directory }, world) calls := by
  constructor
  · rintro keeper world call ⟨hOpen, cause, hFailed⟩ outcome
    have hOutcome : outcome = _ := perform_of_open host call world hOpen
    refine ⟨⟨cause, ?_⟩, ?_, ?_⟩
    · rw [hOutcome, hFailed]
      rfl
    · rw [hOutcome]
      exact next_eq_iff host call world hOpen
    · intro retry later
      rw [perform_eq_ok_iff]
      refine and_congr_left fun _ => ?_
      -- the record that was kept is open exactly if the call was a start
      have hEnds := isTerminal_next host call world hOpen
      rw [hOutcome]
      cases call with
      | started pid => simpa using hEnds
      | finished code => simpa using hEnds
  · intro directory disk world hApart hRunning calls state
    obtain ⟨-, hShows, hTerminal⟩ := disk.standing_performAll hApart hRunning calls
    constructor
    · rintro ⟨hHeld, hHidden⟩
      refine Classical.byContradiction fun hWritten => ?_
      exact hHidden (hShows.mpr ⟨hHeld, hWritten⟩)
    · intro hEnd
      exact ⟨hTerminal hEnd, fun hShown => (hShows.mp hShown).2 hEnd⟩

/-- On the small machine, the publication of the end is refused once.  The keeper holds the end, the
file does not show it, and recording it again is refused although it could be written. -/
theorem failed_write_keeps_change_on_bench :
    let start : StatusKeeper × Bench :=
      ({ directory := Bench.directory }, { refusals := [false, true] })
    let state := performAll Bench.host start [.started 7]
    let after := performAll Bench.host start [.started 7, .finished 3]
    (Bench.disk.apart start.2 ∧ ¬Bench.disk.ShowsEnd start.2 ∧
        (StatusCall.finished 3).Unwritten Bench.host state.1 state.2) ∧
      after.1.record ≠ state.1.record ∧
      (after.1.record.isTerminal = true ∧ ¬Bench.disk.ShowsEnd after.2) ∧
      ((StatusCall.finished 3).writing Bench.host after.1 after.2).1 = .ok () ∧
      ((StatusCall.finished 3).perform Bench.host after.1 after.2).1 ≠ .ok () := by
  intro start state after
  have hRunning : ¬Bench.disk.ShowsEnd start.2 := by
    rintro ⟨record, hRead, -⟩
    cases hRead
  have hUnwritten : (StatusCall.finished 3).Unwritten Bench.host state.1 state.2 :=
    ⟨rfl, .noSpace, rfl⟩
  obtain ⟨hSingle, hAll⟩ := failed_write_keeps_change Bench.host
  obtain ⟨-, hRecord, hRetry⟩ := hSingle state.1 state.2 (.finished 3) hUnwritten
  refine ⟨⟨trivial, hRunning, hUnwritten⟩, ?_, ?_, rfl, ?_⟩
  · intro hSame
    obtain ⟨pid, hCall, -⟩ := hRecord.mp hSame
    cases hCall
  · exact (hAll Bench.directory Bench.disk start.2 trivial hRunning
      [.started 7, .finished 3]).mpr ⟨[.started 7], 3, List.prefix_refl _, hUnwritten⟩
  · intro hOk
    obtain ⟨⟨pid, hCall⟩, -⟩ := (hRetry (.finished 3) after.2).mp hOk
    cases hCall

/-- A machine on which the draft cannot be written: there is a directory in its place. -/
def blockedDraft : Rehearsal.Machine where
  disk := FileTree.populate "/jobs/1" [(JobFile.draft.name, .directory)]

/-- The end cannot be written.  The status file shows nothing, but the keeper's record is terminal;
where the directory is out of the way, the end can be written and is refused. -/
theorem end_not_recorded_again :
    let host := Rehearsal.Machine.host "/jobs/1" 1000
    let keeper : StatusKeeper := { directory := "/jobs/1" }
    let failed := keeper.finished host 1 blockedDraft
    failed.1 = .error (.file SystemError.isDirectory.message) ∧
      (keeper.record.isTerminal = false ∧ failed.2.1.record.isTerminal = true) ∧
      StatusRecord.read failed.2.2.files "/jobs/1" = .ok none ∧
      ((StatusCall.finished 1).writing host failed.2.1 freshMachine).1 = .ok () ∧
      failed.2.1.finished host 1 freshMachine =
        (.error failed.2.1.alreadyTerminal, failed.2.1, freshMachine) :=
  ⟨rfl, ⟨rfl, rfl⟩, rfl, rfl, rfl⟩

end PgConsole.Job
