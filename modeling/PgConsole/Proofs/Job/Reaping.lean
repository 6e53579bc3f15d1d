import PgConsole.Proofs.Job.Outcome

namespace PgConsole.Job

/-!
# Commands and the jobs that run them

A command should not outlive its job: when the terminal record is written, the command should have
been waited for.  It has been, unless its start could not be recorded or waiting itself failed
(`command_reaped_iff`).  In the first case the command is neither killed nor waited for, so it may
still be running when the job is over (`command_outlives_job`).
-/

variable {World : Type}

section

variable {host : Host World} {pid : UInt32} {world : World}
  {done : Except Failure Int32 × World} {steps : List Outcome}

/-- A command whose start was recorded is waited for once. -/
theorem Attendance.waited_iff (h : Attendance host pid world done steps) :
    ⟨.wait pid, true⟩ ∈ steps ↔ ⟨.wait pid, false⟩ ∉ steps := by
  have hCapture : ∀ {captures : List Outcome} {succeeded : Bool},
      (∀ step ∈ captures, step.deed.isCaptureStep = true) →
        (⟨.wait pid, succeeded⟩ : Outcome) ∉ captures := by
    intro captures succeeded hKind hWait
    cases hKind _ hWait
  cases h with
  | uncaptured _ hKind _ =>
      simp only [List.mem_append, hCapture hKind, false_or, List.mem_cons, List.not_mem_nil,
        or_false, Outcome.mk.injEq, reduceCtorEq, false_and, true_and]
      cases (host.wait pid _).1.toOption.isSome <;> simp
  | unawaited _ hKind _ _ _ => simp [hCapture hKind]
  | ended _ hKind _ _ _ => simp [hCapture hKind]

end

/-- What a recorded machine shows of a job that is over, the terminal record last. -/
def jobLog (host : Host World) (spec : JobSpec) (world : World) : List Outcome :=
  (run host.recorded spec ⟨world, []⟩).2.outcomes

section

variable {host : Host World} {spec : JobSpec} {world after : World} {code : Int32}

/-- Outside of running the command, a job that is over has written the status file without
failure and perhaps reported a failure. -/
theorem mem_jobLog_iff (hRun : run host spec world = (.ok code, after)) {step : Outcome}
    (hCapture : step.deed.isCaptureStep = false)
    (hStatus : step.deed.isStatusStep = true → step.succeeded = false) :
    step ∈ jobLog host spec world ↔ step ∈ commandSteps host spec world := by
  obtain ⟨first, told, last, hRecorded, hFirst, hTold, hLast⟩ := run_recorded hRun
  have hLog : jobLog host spec world =
      first ++ commandSteps host spec world ++ told ++ last ++ [⟨.publish, true⟩] := by
    rw [jobLog, hRecorded]
  have hWritten : ¬ (step.deed.isStatusStep = true ∧ step.succeeded = true) := by
    rintro ⟨hKind, hDone⟩
    cases hDone.symm.trans (hStatus hKind)
  have hNotFirst : step ∉ first := fun hMem => hWritten (hFirst step hMem)
  have hNotLast : step ∉ last := fun hMem => hWritten (hLast step hMem)
  have hNotTold : step ∉ told := fun hMem => by
    cases hCapture.symm.trans (isCaptureStep_of_isLogStep (hTold step hMem))
  have hNotPublish : step ≠ ⟨.publish, true⟩ := by
    rintro rfl
    exact hWritten ⟨rfl, rfl⟩
  simp [hLog, hNotFirst, hNotTold, hNotLast, hNotPublish]

theorem statusFailed_jobLog_iff (hRun : run host spec world = (.ok code, after)) :
    StatusFailed (jobLog host spec world) ↔ StatusFailed (commandSteps host spec world) := by
  have hMem : ∀ step : Outcome, step.succeeded = false → step.deed.isStatusStep = true →
      (step ∈ jobLog host spec world ↔ step ∈ commandSteps host spec world) := by
    intro step hFailed hStatus
    refine mem_jobLog_iff hRun ?_ fun _ => hFailed
    cases hCapture : step.deed.isCaptureStep with
    | false => rfl
    | true => cases hStatus.symm.trans (isStatusStep_of_isCaptureStep hCapture)
  constructor
  · rintro ⟨step, hStep, hFailed, hStatus⟩
    exact ⟨step, (hMem step hFailed hStatus).mp hStep, hFailed, hStatus⟩
  · rintro ⟨step, hStep, hFailed, hStatus⟩
    exact ⟨step, (hMem step hFailed hStatus).mpr hStep, hFailed, hStatus⟩

end

/-- A started command is waited for with success, unless a step of recording its start or the
wait itself fails; and when its start is not recorded, nothing more is done about it. -/
theorem Course.waited_iff {host : Host World} {spec : JobSpec} {keeper : StatusKeeper}
    {world : World} {done : Except Failure Int32 × StatusKeeper × World} {steps : List Outcome}
    (h : Course host spec keeper world done steps) {command : Command} {pid : UInt32}
    {spawned : World} (hCommand : spec.command? = some command)
    (hSpawn : host.spawn command world = (.ok pid, spawned)) :
    (⟨.wait pid, true⟩ ∈ steps ↔ ¬ StatusFailed steps ∧ ⟨.wait pid, false⟩ ∉ steps) ∧
      (StatusFailed steps →
        ∀ step ∈ steps, ∀ other, step.deed ≠ .kill other ∧ step.deed ≠ .wait other) := by
  have hNotStatus : ∀ {writes : List Outcome} {succeeded : Bool},
      (∀ step ∈ writes, step.deed.isStatusStep = true) →
        (⟨.wait pid, succeeded⟩ : Outcome) ∉ writes := by
    intro writes succeeded hKind hWait
    cases hKind _ hWait
  cases h with
  | commandless hNone => cases hNone.symm.trans hCommand
  | unstarted hOwn hFailed =>
      obtain rfl := Option.some.inj (hOwn.symm.trans hCommand)
      cases hFailed.symm.trans hSpawn
  | @unrecorded own other _ _ _ _ writes hOwn hOther hStarted hKind hFailed =>
      have hStatus : StatusFailed (⟨.spawn own, true⟩ :: writes) := by
        obtain ⟨step, hStep, hFailed⟩ := hFailed
        exact ⟨step, List.mem_cons_of_mem _ hStep, hFailed, hKind step hStep⟩
      refine ⟨?_, fun _ => ?_⟩
      · simp [hNotStatus hKind, hStatus]
      · refine List.forall_mem_cons.mpr ⟨by simp, fun step hStep other => ?_⟩
        have hIs := hKind step hStep
        constructor <;>
        · intro hDeed
          rw [hDeed] at hIs
          cases hIs
  | @attended own _ _ _ _ _ _ writes rest hOwn hOther hStarted hKind hDone hAttended =>
      obtain rfl := Option.some.inj (hOwn.symm.trans hCommand)
      obtain ⟨hPid, -⟩ := Prod.mk.inj (hOther.symm.trans hSpawn)
      obtain rfl := Except.ok.inj hPid
      have hStatus : ¬ StatusFailed (⟨.spawn own, true⟩ :: (writes ++ rest)) :=
        hAttended.not_statusFailed hDone
      refine ⟨?_, fun hFailed => absurd hFailed hStatus⟩
      simp only [hStatus, not_false_eq_true, true_and]
      simpa [hNotStatus hKind] using hAttended.waited_iff

/-- When the terminal record of a job is written, the command that the job has started has been
waited for exactly if no step of writing the status file failed and the wait did not fail.  If
the status file could not be written in between, the command was neither killed nor waited for. -/
theorem command_reaped_iff {host : Host World} {spec : JobSpec} {world after spawned : World}
    {code : Int32} {command : Command} {pid : UInt32}
    (hRun : run host spec world = (.ok code, after)) (hCommand : spec.command? = some command)
    (hSpawn : host.spawn command (opened host world) = (.ok pid, spawned)) :
    (⟨.wait pid, true⟩ ∈ jobLog host spec world ↔
        ¬ StatusFailed (jobLog host spec world) ∧
          ⟨.wait pid, false⟩ ∉ jobLog host spec world) ∧
      (StatusFailed (jobLog host spec world) → ∀ other succeeded,
        ⟨.kill other, succeeded⟩ ∉ jobLog host spec world ∧
          ⟨.wait other, succeeded⟩ ∉ jobLog host spec world) := by
  obtain ⟨hWaited, hLeft⟩ := (course_executed host spec world).2.waited_iff hCommand hSpawn
  have hWait : ∀ other succeeded, ⟨.wait other, succeeded⟩ ∈ jobLog host spec world ↔
      ⟨.wait other, succeeded⟩ ∈ commandSteps host spec world := fun other succeeded =>
    mem_jobLog_iff hRun rfl fun hStatus => by cases hStatus
  have hKill : ∀ other succeeded, ⟨.kill other, succeeded⟩ ∈ jobLog host spec world ↔
      ⟨.kill other, succeeded⟩ ∈ commandSteps host spec world := fun other succeeded =>
    mem_jobLog_iff hRun rfl fun hStatus => by cases hStatus
  simp only [hWait, hKill, statusFailed_jobLog_iff hRun]
  refine ⟨hWaited, fun hFailed other succeeded => ⟨fun hStep => ?_, fun hStep => ?_⟩⟩
  · exact (hLeft hFailed _ hStep other).1 rfl
  · exact (hLeft hFailed _ hStep other).2 rfl

/-- On a machine on which nothing fails, the command has been waited for. -/
theorem command_reaped_steady :
    ∃ after, run Bench.host Bench.spec {} = (.ok 0, after) ∧
      ⟨.wait 1001, true⟩ ∈ jobLog Bench.host Bench.spec {} := by
  have hCode : (run Bench.host Bench.spec {}).1 = .ok 0 := eq_ok_of_toOption (by decide +kernel)
  have hRun : run Bench.host Bench.spec {} = (.ok 0, (run Bench.host Bench.spec {}).2) :=
    Prod.ext hCode rfl
  have hWritten : ¬ StatusFailed (jobLog Bench.host Bench.spec {}) := by
    unfold StatusFailed
    decide +kernel
  have hWait : ⟨.wait 1001, false⟩ ∉ jobLog Bench.host Bench.spec {} := by decide +kernel
  exact ⟨_, hRun, (command_reaped_iff hRun rfl rfl).1.mpr ⟨hWritten, hWait⟩⟩

/-- A machine that refuses to publish the second record of a job, that of the command's start. -/
def refusesSecond : Bench := { refusals := [false, true] }

/-- A command whose start could not be recorded is still running when its job is over. -/
theorem command_outlives_job :
    ∃ after, run Bench.host Bench.spec refusesSecond = (.ok internalFailure, after) ∧
      after.running = true ∧
      (∃ command, Bench.spec.command? = some command ∧
        ⟨.spawn command, true⟩ ∈ jobLog Bench.host Bench.spec refusesSecond) ∧
      (∀ step ∈ jobLog Bench.host Bench.spec refusesSecond,
        step.deed ≠ .kill 1001 ∧ step.deed ≠ .wait 1001) ∧
      ∃ record, StatusRecord.read after.files Bench.directory = .ok (some record) ∧
        record.isTerminal = true := by
  have hCode : (run Bench.host Bench.spec refusesSecond).1 = .ok internalFailure := rfl
  have hRun : run Bench.host Bench.spec refusesSecond =
      (.ok internalFailure, (run Bench.host Bench.spec refusesSecond).2) := Prod.ext hCode rfl
  obtain ⟨-, hClosed, -⟩ := writes_of_run hRun
  exact ⟨_, hRun, rfl, ⟨_, rfl, by decide +kernel⟩, by decide +kernel, _,
    StatusRecord.read_of_written (Bench.disk.status_write trivial hClosed), rfl⟩

end PgConsole.Job
