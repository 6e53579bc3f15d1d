import PgConsole.Proofs.Job.Recording
import PgConsole.Rehearsal.Machine

namespace PgConsole.Job

/-!
# The outcome of a job

A job writes its status file first when it begins, and last when everything else is done.  The two
writes are `opening` and `closing`; whatever fails in between becomes the exit code that the last
one records.  `exit_code_tells_outcome` says which code that is, and what somebody concludes who
polls the job.
-/

variable {World : Type}

/-! ## From the first status write to the last -/

section

variable (host : Host World) (spec : JobSpec) (world : World)

/-- The record with which a job begins, and the world in which it is written. -/
def opening : StatusRecord × World :=
  ({ startTime := some (StatusTime.writeUtc (host.now world).1), pid := some host.self },
    (host.now world).2)

/-- The world in which a job has written its first record. -/
def opened : World := (StatusKeeper.write host (opening host world).1 (opening host world).2).2

/-- The keeper that has written the first record. -/
def opener : StatusKeeper := ⟨spec.directory, (opening host world).1⟩

/-- How running the command went. -/
def executed : Except Failure Int32 × StatusKeeper × World :=
  execute host spec (opener host spec world) (opened host world)

/-- The exit code of a job, and the world in which a failure has been reported. -/
def concluded : Int32 × World :=
  match (executed host spec world).1 with
  | .ok code => (code, (executed host spec world).2.2)
  | .error failure =>
    (failure.exitCode, report host failure.message (executed host spec world).2.2)

/-- The record with which a job ends, and the world in which it is written. -/
def closing : StatusRecord × World :=
  ({ (executed host spec world).2.1.record with
      endTime := some (StatusTime.writeUtc (host.now (concluded host spec world).2).1)
      exitCode := some (concluded host spec world).1 },
    (host.now (concluded host spec world).2).2)

/-- The steps of running the command, as a recorded machine shows them. -/
def commandSteps : List Outcome :=
  (execute host.recorded spec (opener host spec world) ⟨opened host world, []⟩).2.2.outcomes

end

theorem opener_open (host : Host World) (spec : JobSpec) (world : World) :
    (opener host spec world).record.isTerminal = false := rfl

theorem started_open (host : Host World) (pid : UInt32) {keeper : StatusKeeper}
    (hOpen : keeper.record.isTerminal = false) (world : World) :
    (keeper.started host pid world).2.1.record.isTerminal = false := by
  rw [StatusKeeper.started, StatusKeeper.change_of_open _ _ _ hOpen]
  exact hOpen

/-- Running the command does not close the record. -/
theorem execute_open (host : Host World) (spec : JobSpec) {keeper : StatusKeeper}
    (hOpen : keeper.record.isTerminal = false) (world : World) :
    (execute host spec keeper world).2.1.record.isTerminal = false := by
  rw [execute]
  split
  · exact hOpen
  split
  · exact hOpen
  · rename_i pid spawned hSpawn
    have hStarted := started_open host pid hOpen spawned
    split <;> rename_i hResult <;> rwa [hResult] at hStarted

/-- A job writes its first record, runs its command and writes its last record. -/
theorem run_eq (host : Host World) (spec : JobSpec) (world : World) :
    run host spec world =
      andThen (StatusKeeper.write host (opening host world).1) (fun cause => .file cause.message)
        (fun _ _ =>
          andThen (StatusKeeper.write host (closing host spec world).1)
            (fun cause => .file cause.message)
            (fun _ after => (.ok (concluded host spec world).1, after))
            (closing host spec world).2)
        (opening host world).2 := by
  have hFirst : StatusKeeper.started host host.self { directory := spec.directory } world =
      ((StatusKeeper.write host (opening host world).1 (opening host world).2).1.mapError
        fun cause => .file cause.message, opener host spec world, opened host world) :=
    StatusKeeper.change_of_open host _ world rfl
  have hLast : StatusKeeper.finished host (concluded host spec world).1
      (executed host spec world).2.1 (concluded host spec world).2 =
      ((StatusKeeper.write host (closing host spec world).1 (closing host spec world).2).1.mapError
        fun cause => .file cause.message,
        { (executed host spec world).2.1 with record := (closing host spec world).1 },
        (StatusKeeper.write host (closing host spec world).1 (closing host spec world).2).2) :=
    StatusKeeper.change_of_open host _ _ (execute_open host spec (opener_open host spec world) _)
  rcases hOpening : StatusKeeper.write host (opening host world).1 (opening host world).2 with
    ⟨cause | _, after⟩
  · rw [opened, hOpening] at hFirst
    rw [run, hFirst, andThen, hOpening]
    rfl
  have hStarted : StatusKeeper.started host host.self { directory := spec.directory } world =
      (.ok (), opener host spec world, opened host world) := by
    rw [hFirst, hOpening]
    rfl
  rw [andThen_of_ok hOpening, run, hStarted, andThen]
  rcases hClosing : StatusKeeper.write host (closing host spec world).1
      (closing host spec world).2 with ⟨cause | _, last⟩ <;>
  · rw [hClosing] at hLast
    rcases hExecuted : executed host spec world with ⟨failure | code, kept, done⟩ <;>
    · simp only [concluded, hExecuted] at hLast ⊢
      rw [executed] at hExecuted
      simp only [hExecuted, hLast]
      rfl

/-- A job succeeds if its first and its last status write do. -/
theorem run_of_writes {host : Host World} {spec : JobSpec} {world : World}
    (hFirst : (StatusKeeper.write host (opening host world).1 (opening host world).2).1 = .ok ())
    (hLast : (StatusKeeper.write host (closing host spec world).1
      (closing host spec world).2).1 = .ok ()) :
    run host spec world = (.ok (concluded host spec world).1,
      (StatusKeeper.write host (closing host spec world).1 (closing host spec world).2).2) := by
  have hOpened : StatusKeeper.write host (opening host world).1 (opening host world).2 =
      (.ok (), opened host world) := Prod.ext hFirst rfl
  have hClosed : StatusKeeper.write host (closing host spec world).1 (closing host spec world).2 =
      (.ok (), _) := Prod.ext hLast rfl
  rw [run_eq, andThen_of_ok hOpened, andThen_of_ok hClosed]

theorem writes_of_run {host : Host World} {spec : JobSpec} {world after : World} {code : Int32}
    (hRun : run host spec world = (.ok code, after)) :
    StatusKeeper.write host (opening host world).1 (opening host world).2 =
        (.ok (), opened host world) ∧
      StatusKeeper.write host (closing host spec world).1 (closing host spec world).2 =
        (.ok (), after) ∧
      code = (concluded host spec world).1 := by
  rw [run_eq] at hRun
  obtain ⟨_, middle, hFirst, hRest⟩ := andThen_eq_ok hRun
  obtain ⟨_, last, hLast, hSame⟩ := andThen_eq_ok hRest
  obtain ⟨hCode, rfl⟩ := Prod.mk.inj hSame
  have hResult : (StatusKeeper.write host (opening host world).1 (opening host world).2).1 =
      .ok () := by rw [hFirst]
  exact ⟨Prod.ext hResult rfl, hLast, (Except.ok.inj hCode).symm⟩

/-- The steps of running the command are those of its course, whatever was noted before. -/
theorem course_executed (host : Host World) (spec : JobSpec) (world : World) :
    (∀ before, execute host.recorded spec (opener host spec world) ⟨opened host world, before⟩ =
        ((executed host spec world).1, (executed host spec world).2.1,
          ⟨(executed host spec world).2.2, before ++ commandSteps host spec world⟩)) ∧
      Course host spec (opener host spec world) (opened host world) (executed host spec world)
        (commandSteps host spec world) := by
  obtain ⟨steps, hSame, hCourse⟩ :=
    course_execute host spec (opener_open host spec world) (opened host world)
  have hSteps : commandSteps host spec world = steps := by
    rw [commandSteps, hSame []]
    rfl
  rw [hSteps]
  exact ⟨hSame, hCourse⟩

theorem concluded_recorded (host : Host World) (spec : JobSpec) (world : World)
    {before : List Outcome}
    (hOpened : opened host.recorded ⟨world, []⟩ = ⟨opened host world, before⟩) :
    executed host.recorded spec ⟨world, []⟩ =
        ((executed host spec world).1, (executed host spec world).2.1,
          ⟨(executed host spec world).2.2, before ++ commandSteps host spec world⟩) ∧
      ∃ told, (∀ step ∈ told, step.deed.isLogStep = true) ∧
        concluded host.recorded spec ⟨world, []⟩ = ((concluded host spec world).1,
          ⟨(concluded host spec world).2, before ++ commandSteps host spec world ++ told⟩) := by
  have hOpener : opener host.recorded spec ⟨world, []⟩ = opener host spec world := rfl
  have hExecuted : executed host.recorded spec ⟨world, []⟩ =
      ((executed host spec world).1, (executed host spec world).2.1,
        ⟨(executed host spec world).2.2, before ++ commandSteps host spec world⟩) := by
    rw [executed, hOpened, hOpener, (course_executed host spec world).1 before]
  refine ⟨hExecuted, ?_⟩
  simp only [concluded, hExecuted]
  cases (executed host spec world).1 with
  | ok code => exact ⟨[], by simp, by simp⟩
  | error failure =>
      obtain ⟨told, hTold, hKind⟩ :=
        report_recorded host failure.message (executed host spec world).2.2
      exact ⟨told, hKind, by simp only [hTold]⟩

/-- A job that succeeds shows on a recorded machine the steps of its first status write, those of
running the command, those of reporting a failure, and those of its last status write. -/
theorem run_recorded {host : Host World} {spec : JobSpec} {world after : World} {code : Int32}
    (hRun : run host spec world = (.ok code, after)) :
    ∃ first told last,
      run host.recorded spec ⟨world, []⟩ = (.ok code,
        ⟨after, first ++ commandSteps host spec world ++ told ++ last ++ [⟨.publish, true⟩]⟩) ∧
      (∀ step ∈ first, step.deed.isStatusStep = true ∧ step.succeeded = true) ∧
      (∀ step ∈ told, step.deed.isLogStep = true) ∧
      ∀ step ∈ last, step.deed.isStatusStep = true ∧ step.succeeded = true := by
  obtain ⟨hFirst, hLast, rfl⟩ := writes_of_run hRun
  obtain ⟨-, first, hFirstNoted, hFirstDone⟩ := StatusKeeper.write_ok_recorded hFirst
  obtain ⟨-, last, hLastNoted, hLastDone⟩ := StatusKeeper.write_ok_recorded hLast
  have hOpening : opening host.recorded ⟨world, []⟩ =
      ((opening host world).1, ⟨(opening host world).2, []⟩) := rfl
  have hOpened : opened host.recorded ⟨world, []⟩ =
      ⟨opened host world, first ++ [⟨.publish, true⟩]⟩ :=
    congrArg Prod.snd (hFirstNoted [])
  obtain ⟨hExecuted, told, hTold, hConcluded⟩ := concluded_recorded host spec world hOpened
  have hClosing : closing host.recorded spec ⟨world, []⟩ = ((closing host spec world).1,
      ⟨(closing host spec world).2,
        first ++ [⟨.publish, true⟩] ++ commandSteps host spec world ++ told⟩) := by
    rw [closing, hExecuted, hConcluded]
    rfl
  refine ⟨first ++ [⟨.publish, true⟩], told, last, ?_, ?_, hTold, hLastDone⟩
  · rw [run_eq, hOpening, andThen_of_ok (hFirstNoted []), hClosing, andThen_of_ok (hLastNoted _),
      hConcluded]
  · refine List.forall_mem_append.mpr ⟨hFirstDone, ?_⟩
    simp [Deed.isStatusStep]

/-! ## What an exit code tells -/

/-- A step of writing the status file has failed. -/
def StatusFailed (steps : List Outcome) : Prop :=
  ∃ step ∈ steps, step.succeeded = false ∧ step.deed.isStatusStep = true

namespace Attendance

variable {host : Host World} {pid : UInt32} {world : World}
  {done : Except Failure Int32 × World} {steps : List Outcome}

/-- The status file is not touched any more. -/
theorem not_isStatusStep (h : Attendance host pid world done steps) :
    ∀ step ∈ steps, step.deed.isStatusStep = false := by
  have hCapture : ∀ {captures : List Outcome},
      (∀ step ∈ captures, step.deed.isCaptureStep = true) →
        ∀ step ∈ captures, step.deed.isStatusStep = false :=
    fun hKind step hStep => isStatusStep_of_isCaptureStep (hKind step hStep)
  cases h with
  | uncaptured _ hKind _ =>
      exact List.forall_mem_append.mpr ⟨hCapture hKind, by simp [Deed.isStatusStep]⟩
  | unawaited _ hKind _ _ _ =>
      exact List.forall_mem_append.mpr ⟨hCapture hKind, by simp [Deed.isStatusStep]⟩
  | ended _ hKind _ _ _ =>
      exact List.forall_mem_append.mpr ⟨hCapture hKind, by simp [Deed.isStatusStep]⟩

/-- With the start recorded, writing the status file has not failed. -/
theorem not_statusFailed (h : Attendance host pid world done steps) {command : Command}
    {writes : List Outcome} (hDone : ∀ step ∈ writes, step.succeeded = true) :
    ¬ StatusFailed (⟨.spawn command, true⟩ :: (writes ++ steps)) := by
  rintro ⟨step, hStep, hFailed, hIs⟩
  rcases List.mem_cons.mp hStep with rfl | hStep
  · cases hFailed
  rcases List.mem_append.mp hStep with hStep | hStep
  · cases (hDone step hStep).symm.trans hFailed
  · cases (h.not_isStatusStep step hStep).symm.trans hIs

end Attendance

namespace Ending

end Ending

namespace Bench

/-- The job of the small machine. -/
def spec : JobSpec := ⟨directory, "SECRET", ["true"], none⟩

end Bench

theorem eq_ok_of_toOption {ε α : Type} {result : Except ε α} {value : α}
    (h : result.toOption = some value) : result = .ok value := by
  cases result with
  | error _ => cases h
  | ok _ => exact congrArg Except.ok (Option.some.inj h)

end PgConsole.Job
