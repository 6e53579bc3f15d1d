import PgConsole.Proofs.Job.Outcome

namespace PgConsole.Job

/-!
# Abandoned jobs

A job that cannot be run is abandoned: the reason goes into the log of the error stream, and then
the status file is written twice, with the start of the job and with its end.  The two writes are
`opening` and `abandonment`.  A reason that cannot be written ends the attempt, before anything is
done about the status file.

`abandon_closes_status_iff` says so: where the status file can be written, abandoning a job closes
its status exactly if the reason can be written as well.  A job that is run does not depend on its
logs in this way; the same statement says that it always gets to its last record.
-/

variable {World : Type}

/-- Write a reason into the log of the error stream. -/
def explained (host : Host World) (reason : String) : World → Except SystemError Unit × World :=
  andThen (host.openLog (.log .err)) id fun _ =>
    StreamLog.writeLines host .err (messageLines reason)

/-- The record with which an abandoned job ends, and the world in which it is written. -/
def abandonment (host : Host World) (world : World) : StatusRecord × World :=
  ({ (opening host world).1 with
      endTime := some (StatusTime.writeUtc (host.now (opened host world)).1)
      exitCode := some internalFailure },
    (host.now (opened host world)).2)

/-- The status file can be written: with the start of an abandoned job, and then with its end. -/
structure StatusWritable (host : Host World) (world : World) : Prop where
  opening : (StatusKeeper.write host (opening host world).1 (opening host world).2).1 = .ok ()
  ending : (StatusKeeper.write host (abandonment host world).1 (abandonment host world).2).1 =
    .ok ()

/-- The status file holds a terminal record with a code, and a poller finds the job failed. -/
def StatusFiles.ShowsFailed {host : Host World} {directory : String}
    (disk : StatusFiles host directory) (code : Int32) (world : World) : Prop :=
  ∃ record finish, StatusRecord.read (disk.files world) directory = .ok (some record) ∧
    record.isTerminal = true ∧ record.exitCode = some code ∧
    JobStatus.ofRecord (some record) = .failed code finish

/-- Abandoning a job is a chain of three writes, which breaks off at the first failure. -/
theorem abandon_eq (host : Host World) (spec : JobSpec) (reason : String) :
    abandon host spec reason =
      andThen (explained host reason) (fun cause => .file cause.message) fun _ told =>
        andThen (StatusKeeper.write host (opening host told).1) (fun cause => .file cause.message)
          (fun _ _ =>
            andThen (StatusKeeper.write host (abandonment host told).1)
              (fun cause => .file cause.message) (fun _ after => (.ok (), after))
              (abandonment host told).2)
          (opening host told).2 := by
  funext world
  simp only [abandon, explained, andThen]
  rcases host.openLog (.log .err) world with ⟨_ | _, logged⟩
  · rfl
  simp only
  rcases StreamLog.writeLines host .err (messageLines reason) logged with ⟨_ | _, told⟩
  · rfl
  have hStarted : StatusKeeper.started host host.self { directory := spec.directory } told =
      ((StatusKeeper.write host (opening host told).1 (opening host told).2).1.mapError
        fun cause => .file cause.message, opener host spec told, opened host told) :=
    StatusKeeper.change_of_open host _ told rfl
  have hFinished : (opener host spec told).finished host internalFailure (opened host told) =
      ((StatusKeeper.write host (abandonment host told).1 (abandonment host told).2).1.mapError
        fun cause => .file cause.message,
        { (opener host spec told) with record := (abandonment host told).1 },
        (StatusKeeper.write host (abandonment host told).1 (abandonment host told).2).2) :=
    StatusKeeper.change_of_open host _ _ rfl
  rcases hOpening : StatusKeeper.write host (opening host told).1 (opening host told).2 with
    ⟨_ | _, after⟩
  · rw [opened, hOpening] at hStarted
    simp only [hStarted, hOpening]
    rfl
  · have hBegun : StatusKeeper.started host host.self { directory := spec.directory } told =
        (.ok (), opener host spec told, opened host told) := by
      rw [hStarted, hOpening]
      rfl
    rcases hEnding : StatusKeeper.write host (abandonment host told).1
        (abandonment host told).2 with ⟨_ | _, last⟩ <;>
    · rw [hEnding] at hFinished
      simp only [hBegun, hFinished, hOpening, hEnding]
      rfl

/-- What is done for the reason are steps of writing a log. -/
theorem follows_explained (host : Host World) (reason : String) :
    Follows Deed.isLogStep (explained host.recorded reason) (explained host reason) :=
  (Follows.note rfl rfl _).andThen fun _ => StreamLog.follows_writeLines host .err _

/-- Without its reason a job is not abandoned. -/
theorem abandon_of_unexplained {host : Host World} {reason : String} {world : World}
    {cause : SystemError} (spec : JobSpec)
    (hReason : (explained host reason world).1 = .error cause) :
    abandon host spec reason world =
      (.error (.file cause.message), (explained host reason world).2) := by
  have hTold : explained host reason world = (.error cause, (explained host reason world).2) :=
    Prod.ext hReason rfl
  rw [abandon_eq, andThen, hTold]

/-- What is done then are the steps of writing a log. -/
theorem abandon_recorded_of_unexplained {host : Host World} {reason : String} {world : World}
    {cause : SystemError} (spec : JobSpec)
    (hReason : (explained host reason world).1 = .error cause) :
    ∀ step ∈ (abandon host.recorded spec reason ⟨world, []⟩).2.outcomes,
      step.deed.isStatusStep = false := by
  obtain ⟨steps, hSame, hKind, -⟩ := follows_explained host reason world
  have hNoted : (explained host.recorded reason ⟨world, []⟩).1 = .error cause := by
    rw [hSame, hReason]
  rw [abandon_of_unexplained spec hNoted, hSame, List.nil_append]
  exact fun step hStep =>
    isStatusStep_of_isCaptureStep (isCaptureStep_of_isLogStep (hKind step hStep))

/-- With its reason written, a job is abandoned by two more writes. -/
theorem abandon_of_explained {host : Host World} {reason : String} {world : World}
    (spec : JobSpec) (hReason : (explained host reason world).1 = .ok ())
    (hWritable : StatusWritable host (explained host reason world).2) :
    abandon host spec reason world =
      (.ok (), (StatusKeeper.write host (abandonment host (explained host reason world).2).1
        (abandonment host (explained host reason world).2).2).2) := by
  have hTold : explained host reason world = (.ok (), (explained host reason world).2) :=
    Prod.ext hReason rfl
  generalize (explained host reason world).2 = told at hTold hWritable ⊢
  have hOpened : StatusKeeper.write host (opening host told).1 (opening host told).2 =
      (.ok (), opened host told) := Prod.ext hWritable.opening rfl
  have hEnded : StatusKeeper.write host (abandonment host told).1 (abandonment host told).2 =
      (.ok (), _) := Prod.ext hWritable.ending rfl
  rw [abandon_eq, andThen_of_ok hTold, andThen_of_ok hOpened, andThen_of_ok hEnded]

namespace StatusFiles

variable {host : Host World} {spec : JobSpec} (disk : StatusFiles host spec.directory)

/-- The end of an abandoned job that could be written is found by whoever polls the job. -/
theorem showsFailed_of_writable {told : World} (hApart : disk.apart told)
    (hWritable : StatusWritable host told) :
    disk.ShowsFailed internalFailure
      (StatusKeeper.write host (abandonment host told).1 (abandonment host told).2).2 := by
  have hOpenedApart : disk.apart (opened host told) := disk.apart_write _ (disk.now_apart hApart)
  have hEnded : StatusKeeper.write host (abandonment host told).1 (abandonment host told).2 =
      (.ok (), _) := Prod.ext hWritable.ending rfl
  have hStatus := disk.status_write (disk.now_apart hOpenedApart) hEnded
  exact ⟨(abandonment host told).1, _, StatusRecord.read_of_written hStatus, rfl, rfl, rfl⟩

/-- A job that is run gets to its last record, whatever became of its logs. -/
theorem terminal_of_run {start : World} (hApart : disk.apart (closing host spec start).2)
    (hFirst : (StatusKeeper.write host (opening host start).1 (opening host start).2).1 = .ok ())
    (hLast : (StatusKeeper.write host (closing host spec start).1
      (closing host spec start).2).1 = .ok ()) :
    ∃ code record, (run host spec start).1 = .ok code ∧
      StatusRecord.read (disk.files (run host spec start).2) spec.directory = .ok (some record) ∧
      record.exitCode = some code := by
  have hClosed : StatusKeeper.write host (closing host spec start).1 (closing host spec start).2 =
      (.ok (), _) := Prod.ext hLast rfl
  rw [run_of_writes hFirst hLast]
  exact ⟨_, (closing host spec start).1, rfl,
    StatusRecord.read_of_written (disk.status_write hApart hClosed), rfl⟩

end StatusFiles

/-- Abandoning a job where the status file can be written.  It succeeds, with a terminal record of
an internal failure to be read, exactly if the reason can be written into the log of the error
stream.  Otherwise it fails as writing the reason did, and no step has been taken to write the
status file.  Running the job instead gets to a terminal record whatever became of that log. -/
theorem abandon_closes_status_iff {host : Host World} (spec : JobSpec)
    (disk : StatusFiles host spec.directory) (reason : String) {world : World}
    (hApart : disk.apart (explained host reason world).2)
    (hWritable : StatusWritable host (explained host reason world).2) :
    ((abandon host spec reason world).1 = .ok () ∧
        disk.ShowsFailed internalFailure (abandon host spec reason world).2 ↔
      (explained host reason world).1 = .ok ()) ∧
    (∀ cause, (explained host reason world).1 = .error cause →
      abandon host spec reason world =
          (.error (.file cause.message), (explained host reason world).2) ∧
        ∀ step ∈ (abandon host.recorded spec reason ⟨world, []⟩).2.outcomes,
          step.deed.isStatusStep = false) ∧
    ∀ start : World, disk.apart (closing host spec start).2 →
      (StatusKeeper.write host (opening host start).1 (opening host start).2).1 = .ok () →
      (StatusKeeper.write host (closing host spec start).1
        (closing host spec start).2).1 = .ok () →
      ∃ code record, (run host spec start).1 = .ok code ∧
        StatusRecord.read (disk.files (run host spec start).2) spec.directory =
          .ok (some record) ∧ record.exitCode = some code := by
  refine ⟨⟨?_, ?_⟩, ?_, fun start => disk.terminal_of_run⟩
  · rintro ⟨hOk, -⟩
    cases hReason : (explained host reason world).1 with
    | ok _ => rfl
    | error cause =>
        rw [abandon_of_unexplained spec hReason] at hOk
        cases hOk
  · intro hReason
    rw [abandon_of_explained spec hReason hWritable]
    exact ⟨rfl, disk.showsFailed_of_writable hApart hWritable⟩
  · intro cause hReason
    exact ⟨abandon_of_unexplained spec hReason, abandon_recorded_of_unexplained spec hReason⟩

/-- On the small machine every line of the reason can be written, and the job is found failed. -/
theorem abandon_closes_status_on_bench :
    let told := (explained Bench.host "no runtime\nleft" {}).2
    let outcome := abandon Bench.host Bench.spec "no runtime\nleft" {}
    (Bench.disk.apart told ∧ StatusWritable Bench.host told) ∧
      outcome.1 = .ok () ∧ Bench.disk.ShowsFailed internalFailure outcome.2 := by
  intro told outcome
  have hWritable : StatusWritable Bench.host told := ⟨rfl, rfl⟩
  have hReason : (explained Bench.host "no runtime\nleft" {}).1 = .ok () := rfl
  obtain ⟨hCloses, -⟩ := abandon_closes_status_iff Bench.spec Bench.disk _ trivial hWritable
  exact ⟨⟨trivial, hWritable⟩, hCloses.mpr hReason⟩

/-- Where the log of the error stream is a directory, the status file can be written all the same.
The job is given up without any record, although a run of it would have left one. -/
theorem abandon_leaves_status_open :
    let host := Rehearsal.Machine.host "/jobs/1" 1000
    let machine : Rehearsal.Machine :=
      { disk := FileTree.populate "/jobs/1" [((JobFile.log .err).name, .directory)] }
    let spec : JobSpec := ⟨"/jobs/1", "SECRET", ["true"], none⟩
    StatusWritable host machine ∧
      (abandon host spec "x" machine).1 = .error (.file SystemError.isDirectory.message) ∧
      StatusRecord.read (abandon host spec "x" machine).2.files "/jobs/1" = .ok none ∧
      (run host spec machine).1.toOption = some systemFailure :=
  ⟨⟨rfl, rfl⟩, rfl, rfl, by decide +kernel⟩

end PgConsole.Job
