import PgConsole.Job.Run
import PgConsole.Proofs.Job.Landing
import PgConsole.Proofs.Job.StatusFile

namespace PgConsole.Job

/-!
# Jobs on recorded machines

A job takes the same course on a recorded machine as on the machine itself, and the record shows
whether it succeeded.  `Follows` says this of an action: the recorded action notes deeds of one
kind, the action succeeds exactly if all of them do, and it leaves no write behind unless one of
them fails.  It holds of every action that is a chain of steps which breaks off at the first
failure (`Follows.andThen`), so it holds of writing a status record.  The two drains of a command
are no chain, since they take turns; that they follow as well is shown by induction on the steps
that they still have to take (`Drains.run_recorded`).
-/

variable {World : Type} {α β ε δ : Type}

/-! ## Chains of steps -/

/-- One action after another. The second is left out when the first fails. -/
def andThen (first : World → Except ε α × World) (blame : ε → δ)
    (next : α → World → Except δ β × World) (world : World) : Except δ β × World :=
  match first world with
  | (.error cause, world) => (.error (blame cause), world)
  | (.ok value, world) => next value world

theorem andThen_of_ok {first : World → Except ε α × World} {world middle : World} {value : α}
    (hFirst : first world = (.ok value, middle)) (blame : ε → δ)
    (next : α → World → Except δ β × World) :
    andThen first blame next world = next value middle := by
  rw [andThen, hFirst]

theorem andThen_eq_ok {first : World → Except ε α × World} {blame : ε → δ}
    {next : α → World → Except δ β × World} {world after : World} {result : β}
    (h : andThen first blame next world = (.ok result, after)) :
    ∃ value middle, first world = (.ok value, middle) ∧
      next value middle = (.ok result, after) := by
  rw [andThen] at h
  split at h
  · cases h
  · rename_i value middle hFirst
    exact ⟨value, middle, hFirst, h⟩

theorem Host.note_of_ok {deed : Deed} {act : World → Except SystemError α × World}
    {world after : World} {value : α} (h : act world = (.ok value, after))
    (before : List Outcome) :
    note deed act ⟨world, before⟩ = (.ok value, ⟨after, before ++ [⟨deed, true⟩]⟩) := by
  rw [note, h]
  rfl

theorem Host.note_of_error {deed : Deed} {act : World → Except SystemError α × World}
    {world after : World} {cause : SystemError} (h : act world = (.error cause, after))
    (before : List Outcome) :
    note deed act ⟨world, before⟩ = (.error cause, ⟨after, before ++ [⟨deed, false⟩]⟩) := by
  rw [note, h]
  rfl

/-- What a recorded action does compared with the action itself. -/
def Follows (allowed : Deed → Bool) (noted : Witnessed World → Except ε α × Witnessed World)
    (plain : World → Except ε α × World) : Prop :=
  ∀ world, ∃ steps,
    (∀ before, noted ⟨world, before⟩ = ((plain world).1, ⟨(plain world).2, before ++ steps⟩)) ∧
      (∀ step ∈ steps, allowed step.deed = true) ∧
      ((∃ value, (plain world).1 = .ok value) ↔ ∀ step ∈ steps, step.succeeded = true) ∧
      ((∀ step ∈ steps, step.succeeded = true) → ∀ step ∈ steps, step.deed.isLeft = false)

namespace Follows

variable {allowed : Deed → Bool}

theorem note {deed : Deed} (hAllowed : allowed deed = true) (hKept : deed.isLeft = false)
    (act : World → Except SystemError α × World) : Follows allowed (Host.note deed act) act := by
  intro world
  refine ⟨[⟨deed, (act world).1.toOption.isSome⟩], fun _ => rfl, by simpa using hAllowed, ?_,
    fun _ => by simpa using hKept⟩
  cases hResult : (act world).1 <;> simp [Except.toOption]

theorem pure (value : α) : Follows allowed
    (fun world => ((.ok value, world) : Except ε α × Witnessed World))
    (fun world => ((.ok value, world) : Except ε α × World)) :=
  fun _ => ⟨[], by simp, by simp, by simp, by simp⟩

/-- Two actions in a chain follow, if both do. -/
theorem andThen {noted : Witnessed World → Except ε α × Witnessed World}
    {plain : World → Except ε α × World} {blame : ε → δ}
    {next : α → Witnessed World → Except δ β × Witnessed World}
    {nextPlain : α → World → Except δ β × World} (hFirst : Follows allowed noted plain)
    (hNext : ∀ value, Follows allowed (next value) (nextPlain value)) :
    Follows allowed (Job.andThen noted blame next) (Job.andThen plain blame nextPlain) := by
  intro world
  obtain ⟨steps, hSame, hKind, hFaultless, hKept⟩ := hFirst world
  cases hPlain : plain world with
  | mk result after =>
      rw [hPlain] at hSame hFaultless
      cases result with
      | error cause =>
          refine ⟨steps, ?_, hKind, ?_, hKept⟩
          · intro before
            simp only [Job.andThen, hSame, hPlain]
          · simpa [Job.andThen, hPlain] using hFaultless
      | ok value =>
          obtain ⟨more, hMore, hMoreKind, hMoreFaultless, hMoreKept⟩ := hNext value after
          have hDone : ∀ step ∈ steps, step.succeeded = true := hFaultless.mp ⟨value, rfl⟩
          refine ⟨steps ++ more, ?_, ?_, ?_, ?_⟩
          · intro before
            simp only [Job.andThen, hSame, hPlain, hMore, List.append_assoc]
          · exact List.forall_mem_append.mpr ⟨hKind, hMoreKind⟩
          · rw [List.forall_mem_append]
            simp only [Job.andThen, hPlain, hMoreFaultless]
            exact ⟨fun h => ⟨hDone, h⟩, fun h => h.2⟩
          · intro hAll
            have hAll := List.forall_mem_append.mp hAll
            exact List.forall_mem_append.mpr ⟨hKept hAll.1, hMoreKept hAll.2⟩

end Follows

/-! ## Writing the status file -/

/-- Whether a deed is a step of writing the status file. -/
def Deed.isStatusStep : Deed → Bool
  | .create .draft => true
  | .append .draft _ => true
  | .sync .draft => true
  | .publish => true
  | _ => false

namespace StatusKeeper

theorem writeDraft_eq_andThen (host : Host World) (record : StatusRecord) :
    writeDraft host record =
      andThen (host.create .draft) id fun _ =>
        andThen (host.append .draft (Text.Utf8.encode record.render)) id fun _ =>
          host.sync .draft := by
  funext world
  simp only [writeDraft, andThen]
  rcases host.create .draft world with ⟨_ | _, created⟩
  · rfl
  · rcases hAppended : host.append .draft (Text.Utf8.encode record.render) created with
      ⟨_ | _, appended⟩ <;> simp [hAppended]

theorem write_eq_andThen (host : Host World) (record : StatusRecord) :
    write host record = andThen (writeDraft host record) id fun _ => host.publish := by
  funext world
  simp only [write, andThen]
  rcases writeDraft host record world with ⟨_ | _, created⟩ <;> rfl

theorem follows_writeDraft (host : Host World) (record : StatusRecord) :
    Follows Deed.isStatusStep (writeDraft host.recorded record) (writeDraft host record) := by
  rw [writeDraft_eq_andThen, writeDraft_eq_andThen]
  exact (Follows.note rfl rfl _).andThen fun _ => (Follows.note rfl rfl _).andThen fun _ =>
    Follows.note rfl rfl _

theorem follows_write (host : Host World) (record : StatusRecord) :
    Follows Deed.isStatusStep (write host.recorded record) (write host record) := by
  rw [write_eq_andThen, write_eq_andThen]
  exact (follows_writeDraft host record).andThen fun _ => Follows.note rfl rfl _

/-- Writing a record ends with its publication. -/
theorem write_ok_recorded {host : Host World} {record : StatusRecord} {world after : World}
    (hWrite : write host record world = (.ok (), after)) :
    (∃ filled, host.publish filled = (.ok (), after)) ∧
      ∃ steps,
        (∀ before, write host.recorded record ⟨world, before⟩ =
          (.ok (), ⟨after, before ++ steps ++ [⟨.publish, true⟩]⟩)) ∧
        ∀ step ∈ steps, step.deed.isStatusStep = true ∧ step.succeeded = true := by
  rw [write_eq_andThen] at hWrite
  obtain ⟨_, filled, hFilled, hPublish⟩ := andThen_eq_ok hWrite
  obtain ⟨steps, hSame, hKind, hFaultless, -⟩ := follows_writeDraft host record world
  rw [hFilled] at hSame hFaultless
  have hDone := hFaultless.mp ⟨(), rfl⟩
  refine ⟨⟨filled, hPublish⟩, steps, ?_, fun step hStep => ⟨hKind step hStep, hDone step hStep⟩⟩
  intro before
  rw [write_eq_andThen, andThen_of_ok (hSame before)]
  exact Host.note_of_ok hPublish _

/-- An open record is changed on a recorded machine as on the machine itself. -/
theorem change_recorded (host : Host World) (update : String → StatusRecord → StatusRecord)
    {keeper : StatusKeeper} (hOpen : keeper.record.isTerminal = false) (world : World) :
    ∃ steps,
      (∀ before, keeper.change host.recorded update ⟨world, before⟩ =
        ((keeper.change host update world).1, (keeper.change host update world).2.1,
          ⟨(keeper.change host update world).2.2, before ++ steps⟩)) ∧
      (∀ step ∈ steps, step.deed.isStatusStep = true) ∧
      ((keeper.change host update world).1 = .ok () ↔ ∀ step ∈ steps, step.succeeded = true) := by
  obtain ⟨steps, hSame, hKind, hFaultless, -⟩ := follows_write host
    (update (StatusTime.writeUtc (host.now world).1) keeper.record) (host.now world).2
  refine ⟨steps, ?_, hKind, ?_⟩
  · intro before
    rw [change_of_open _ _ _ hOpen, change_of_open _ _ _ hOpen]
    exact congrArg (fun done : Except SystemError Unit × Witnessed World =>
      (done.1.mapError fun cause => Error.file cause.message,
        { keeper with record := update (StatusTime.writeUtc (host.now world).1) keeper.record },
        done.2)) (hSame before)
  · rw [← hFaultless, change_of_open _ _ _ hOpen]
    simp only
    cases (write host (update (StatusTime.writeUtc (host.now world).1) keeper.record)
      (host.now world).2).1 with
    | error cause => exact ⟨nofun, nofun⟩
    | ok _ => exact ⟨fun _ => ⟨(), rfl⟩, fun _ => rfl⟩

theorem started_recorded (host : Host World) (pid : UInt32) {keeper : StatusKeeper}
    (hOpen : keeper.record.isTerminal = false) (world : World) :
    ∃ steps,
      (∀ before, keeper.started host.recorded pid ⟨world, before⟩ =
        ((keeper.started host pid world).1, (keeper.started host pid world).2.1,
          ⟨(keeper.started host pid world).2.2, before ++ steps⟩)) ∧
      (∀ step ∈ steps, step.deed.isStatusStep = true) ∧
      ((keeper.started host pid world).1 = .ok () ↔ ∀ step ∈ steps, step.succeeded = true) :=
  change_recorded host _ hOpen world

end StatusKeeper

/-! ## Capturing output -/

/-- Whether a deed is a step of writing a log. -/
def Deed.isLogStep : Deed → Bool
  | .openLog _ => true
  | .append (.log _) _ => true
  | .sync (.log _) => true
  | _ => false

/-- Whether a deed is a step of copying streams into their logs. -/
def Deed.isCaptureStep : Deed → Bool
  | .readStream _ _ => true
  | .leave _ _ => true
  | deed => deed.isLogStep

theorem isCaptureStep_of_isLogStep {deed : Deed} (h : deed.isLogStep = true) :
    deed.isCaptureStep = true := by
  cases deed <;> simp_all [Deed.isCaptureStep, Deed.isLogStep]

theorem isLeft_of_isLogStep {deed : Deed} (h : deed.isLogStep = true) : deed.isLeft = false := by
  cases deed <;> simp_all [Deed.isLogStep, Deed.isLeft]

theorem isStatusStep_of_isCaptureStep {deed : Deed} (h : deed.isCaptureStep = true) :
    deed.isStatusStep = false := by
  cases deed with
  | append file bytes =>
      cases file <;> simp_all [Deed.isCaptureStep, Deed.isLogStep, Deed.isStatusStep]
  | sync file => cases file <;> simp_all [Deed.isCaptureStep, Deed.isLogStep, Deed.isStatusStep]
  | _ => simp_all [Deed.isCaptureStep, Deed.isLogStep, Deed.isStatusStep]

theorem isCaptureStep_of_isLeft {deed : Deed} (h : deed.isLeft = true) :
    deed.isCaptureStep = true := by
  cases deed <;> simp_all [Deed.isCaptureStep, Deed.isLeft]

namespace StreamLog

theorem follows_writeLine (host : Host World) (stream : Stream) (line : List UInt8) :
    Follows Deed.isLogStep (writeLine host.recorded stream line)
      (writeLine host stream line) := by
  intro world
  -- reading the clock is not noted
  have hAppend : Follows Deed.isLogStep
      (host.recorded.append (.log stream) (OutputLine.record (host.now world).1 line))
      (host.append (.log stream) (OutputLine.record (host.now world).1 line)) :=
    Follows.note rfl rfl _
  exact hAppend (host.now world).2

theorem writeLines_cons_eq_andThen (host : Host World) (stream : Stream) (line : List UInt8)
    (rest : List (List UInt8)) :
    writeLines host stream (line :: rest) =
      andThen (writeLine host stream line) id fun _ => writeLines host stream rest := by
  funext world
  simp only [writeLines, andThen]
  rcases writeLine host stream line world with ⟨_ | _, written⟩ <;> rfl

theorem follows_writeLines (host : Host World) (stream : Stream) (lines : List (List UInt8)) :
    Follows Deed.isLogStep (writeLines host.recorded stream lines)
      (writeLines host stream lines) := by
  induction lines with
  | nil => exact Follows.pure ()
  | cons line rest ih =>
      rw [writeLines_cons_eq_andThen, writeLines_cons_eq_andThen]
      exact (follows_writeLine host stream line).andThen fun _ => ih

end StreamLog

namespace Drain

/-- Why reading the stream will break off, if it will. -/
def broken : Drain → Option SystemError
  | reading _ _ broken | writing _ _ _ broken => broken
  | drained _ => none

@[simp] theorem broken_ofStream (stream : List UInt8 × Option SystemError) :
    (ofStream stream).broken = stream.2 := by
  obtain ⟨bytes, _ | cause⟩ := stream <;> rfl

theorem broken_of_remaining {drain : Drain} (h : drain.remaining = 0) : drain.broken = none := by
  cases drain with
  | drained written => rfl
  | _ => simp [remaining] at h

/-- A drain that goes on does so alike on a recorded machine, by steps that succeed. -/
theorem step_ok_recorded {host : Host World} {stream : Stream} {drain next : Drain}
    {world after : World} (hStep : drain.step host stream world = (.ok next, after)) :
    next.broken = drain.broken ∧ ∃ steps,
      (∀ before, drain.step host.recorded stream ⟨world, before⟩ =
        (.ok next, ⟨after, before ++ steps⟩)) ∧
      ∀ step ∈ steps, step.deed.isLogStep = true ∧ step.succeeded = true := by
  cases drain with
  | drained written =>
      cases hStep
      exact ⟨rfl, [], by simp [step], by simp⟩
  | writing record written lines broken =>
      rcases hAppend : host.append (.log stream) record world with ⟨cause | _, appended⟩
      · simp [step, hAppend] at hStep
      · simp only [step, hAppend, Prod.mk.injEq, Except.ok.injEq] at hStep
        obtain ⟨rfl, rfl⟩ := hStep
        refine ⟨rfl, [⟨.append (.log stream) record, true⟩], fun before => ?_,
          by simp [Deed.isLogStep]⟩
        simp only [step, Host.recorded, Host.note_of_ok hAppend]
  | reading written lines broken =>
      cases lines with
      | cons line lines =>
          cases hStep
          exact ⟨rfl, [], by simp [step, Host.recorded], by simp⟩
      | nil =>
          cases broken with
          | some cause => cases hStep
          | none =>
              rcases hSync : host.sync (.log stream) world with ⟨cause | _, stored⟩
              · simp [step, hSync] at hStep
              · simp only [step, hSync, Prod.mk.injEq, Except.ok.injEq] at hStep
                obtain ⟨rfl, rfl⟩ := hStep
                refine ⟨rfl, [⟨.sync (.log stream), true⟩], fun before => ?_,
                  by simp [Deed.isLogStep]⟩
                simp only [step, Host.recorded, Host.note_of_ok hSync]

/-- A drain that fails does so alike on a recorded machine: a step fails, or the stream breaks
off. -/
theorem step_error_recorded {host : Host World} {stream : Stream} {drain : Drain}
    {world after : World} {cause : SystemError}
    (hStep : drain.step host stream world = (.error cause, after)) :
    ∃ steps,
      (∀ before, drain.step host.recorded stream ⟨world, before⟩ =
        (.error cause, ⟨after, before ++ steps⟩)) ∧
      (∀ step ∈ steps, step.deed.isLogStep = true) ∧
      (drain.broken ≠ none ∨ ∃ step ∈ steps, step.succeeded = false) := by
  cases drain with
  | drained written => cases hStep
  | writing record written lines broken =>
      rcases hAppend : host.append (.log stream) record world with ⟨blamed | _, appended⟩
      · simp only [step, hAppend, Prod.mk.injEq, Except.error.injEq] at hStep
        obtain ⟨rfl, rfl⟩ := hStep
        refine ⟨[⟨.append (.log stream) record, false⟩], fun before => ?_,
          by simp [Deed.isLogStep], .inr (by simp)⟩
        simp only [step, Host.recorded, Host.note_of_error hAppend]
      · simp [step, hAppend] at hStep
  | reading written lines broken =>
      cases lines with
      | cons line lines => cases hStep
      | nil =>
          cases broken with
          | some blamed =>
              cases hStep
              exact ⟨[], by simp [step], by simp, .inl nofun⟩
          | none =>
              rcases hSync : host.sync (.log stream) world with ⟨blamed | _, stored⟩
              · simp only [step, hSync, Prod.mk.injEq, Except.error.injEq] at hStep
                obtain ⟨rfl, rfl⟩ := hStep
                refine ⟨[⟨.sync (.log stream), false⟩], fun before => ?_,
                  by simp [Deed.isLogStep], .inr (by simp)⟩
                simp only [step, Host.recorded, Host.note_of_error hSync]
              · simp [step, hSync] at hStep

theorem drop_recorded (host : Host World) (stream : Stream) (drain : Drain) (world : World) :
    ∃ steps,
      (∀ before, drain.drop host.recorded stream ⟨world, before⟩ =
        ⟨drain.drop host stream world, before ++ steps⟩) ∧
      ∀ step ∈ steps, step.deed.isLeft = true ∧ step.succeeded = true := by
  cases drain with
  | writing record written lines broken =>
      exact ⟨[⟨.leave (.log stream) record, true⟩], fun _ => rfl, by simp [Deed.isLeft]⟩
  | reading written lines broken => exact ⟨[], by simp [drop], by simp⟩
  | drained written => exact ⟨[], by simp [drop], by simp⟩

end Drain

namespace Drains

/-- A stream that will break off. -/
def Broken (drains : Drains) : Prop := drains.out.broken ≠ none ∨ drains.err.broken ≠ none

theorem broken_of_get {drains : Drains} {stream : Stream}
    (h : (drains.get stream).broken ≠ none) : drains.Broken := by
  cases stream
  · exact .inl h
  · exact .inr h

theorem broken_set {drains : Drains} {drain : Drain} {stream : Stream}
    (h : drain.broken = (drains.get stream).broken) :
    (drains.set drain stream).Broken ↔ drains.Broken := by
  cases stream <;> simp_all [Broken, set, get]

theorem next_recorded {host : Host World} {drains : Drains} {world turned : World}
    {stream? : Option Stream} (h : drains.next host world = (stream?, turned))
    (before : List Outcome) :
    drains.next host.recorded ⟨world, before⟩ = (stream?, ⟨turned, before⟩) := by
  have hSame : drains.next host.recorded ⟨world, before⟩ =
      ((drains.next host world).1, ⟨(drains.next host world).2, before⟩) := by
    unfold next
    split
    · rfl
    · split <;> rfl
  rw [hSame, h]

theorem not_broken_of_next {host : Host World} {drains : Drains} {world turned : World}
    (h : drains.next host world = (none, turned)) : ¬ drains.Broken := by
  unfold next at h
  split at h
  · rename_i hOut
    split at h
    · rename_i hErr
      simp [Broken, Drain.broken_of_remaining hOut, Drain.broken_of_remaining hErr]
    · cases h
  · split at h <;> cases h

/-- Both drains go on alike on a recorded machine.  Where they come to their ends nothing has
failed and nothing is left to be written, and where they do not, a step has failed or a stream has
broken off. -/
theorem run_recorded (host : Host World) (drains : Drains) (world : World) :
    ∃ steps,
      (∀ before, drains.run host.recorded ⟨world, before⟩ =
        ((drains.run host world).1, ⟨(drains.run host world).2, before ++ steps⟩)) ∧
      (∀ step ∈ steps, step.deed.isCaptureStep = true) ∧
      ((∃ counts, (drains.run host world).1 = .ok counts ∧ ¬ drains.Broken ∧
          ∀ step ∈ steps, step.succeeded = true ∧ step.deed.isLeft = false) ∨
        ∃ cause, (drains.run host world).1 = .error cause ∧
          (drains.Broken ∨ ∃ step ∈ steps, step.succeeded = false)) := by
  induction drains, world using run.induct host with
  | case1 drains world turned hNext =>
      rw [run_of_end hNext]
      refine ⟨[], fun before => ?_, by simp, .inl ⟨_, rfl, not_broken_of_next hNext, by simp⟩⟩
      rw [run_of_end (next_recorded hNext before), List.append_nil]
  | case2 drains world stream turned hNext cause stepped hStep =>
      obtain ⟨steps, hSame, hKind, hWhy⟩ := Drain.step_error_recorded hStep
      obtain ⟨dropped, hDropSame, hDropped⟩ :=
        (drains.get stream.other).drop_recorded host stream.other stepped
      rw [run_of_error hNext hStep]
      -- the failing step is noted first, then the write that the other drain leaves
      refine ⟨steps ++ dropped, fun before => ?_, ?_, .inr ⟨cause, rfl, ?_⟩⟩
      · rw [run_of_error (next_recorded hNext before) (hSame before), hDropSame, List.append_assoc]
      · refine List.forall_mem_append.mpr ⟨fun step hMem => ?_, fun step hMem => ?_⟩
        · exact isCaptureStep_of_isLogStep (hKind step hMem)
        · exact isCaptureStep_of_isLeft (hDropped step hMem).1
      · rcases hWhy with hBroken | ⟨step, hMem, hFailed⟩
        · exact .inl (broken_of_get hBroken)
        · exact .inr ⟨step, List.mem_append_left _ hMem, hFailed⟩
  | case3 drains world stream turned hNext drain stepped hStep ih =>
      obtain ⟨hBroken, steps, hSame, hSteps⟩ := Drain.step_ok_recorded hStep
      obtain ⟨more, hMoreSame, hMoreKind, hMoreVerdict⟩ := ih
      -- a step does not change whether a stream will break off
      rw [broken_set hBroken] at hMoreVerdict
      rw [run_of_step hNext hStep]
      refine ⟨steps ++ more, fun before => ?_, ?_, ?_⟩
      · rw [run_of_step (next_recorded hNext before) (hSame before), hMoreSame, List.append_assoc]
      · refine List.forall_mem_append.mpr ⟨fun step hMem => ?_, hMoreKind⟩
        exact isCaptureStep_of_isLogStep (hSteps step hMem).1
      · rcases hMoreVerdict with ⟨counts, hOk, hWhole, hMoreDone⟩ | ⟨cause, hError, hWhy⟩
        · refine .inl ⟨counts, hOk, hWhole, List.forall_mem_append.mpr ⟨fun step hMem => ?_,
            hMoreDone⟩⟩
          exact ⟨(hSteps step hMem).2, isLeft_of_isLogStep (hSteps step hMem).1⟩
        · refine .inr ⟨cause, hError, hWhy.imp_right ?_⟩
          rintro ⟨step, hMem, hFailed⟩
          exact ⟨step, List.mem_append_right _ hMem, hFailed⟩

end Drains

theorem readStream_recorded {host : Host World} {pid : UInt32} {stream : Stream}
    {world after : World} {read : List UInt8 × Option SystemError}
    (hRead : host.readStream pid stream world = (read, after)) (before : List Outcome) :
    host.recorded.readStream pid stream ⟨world, before⟩ =
      (read, ⟨after, before ++ [⟨.readStream pid stream, read.2.isNone⟩]⟩) := by
  simp only [Host.recorded, hRead]

theorem follows_drainCommand (host : Host World) (pid : UInt32) :
    Follows Deed.isCaptureStep (drainCommand host.recorded pid) (drainCommand host pid) := by
  intro world
  rcases hOut : host.readStream pid .out world with ⟨out, outRead⟩
  rcases hErr : host.readStream pid .err outRead with ⟨err, bothRead⟩
  obtain ⟨steps, hSame, hKind, hVerdict⟩ :=
    Drains.run_recorded host ⟨.ofStream out, .ofStream err⟩ bothRead
  have hPlain : drainCommand host pid world =
      Drains.run host ⟨.ofStream out, .ofStream err⟩ bothRead := by
    simp only [drainCommand, hOut, hErr]
  have hWhole : ¬ Drains.Broken ⟨.ofStream out, .ofStream err⟩ ↔
      out.2.isNone = true ∧ err.2.isNone = true := by
    simp [Drains.Broken]
  rw [hPlain]
  refine ⟨⟨.readStream pid .out, out.2.isNone⟩ :: ⟨.readStream pid .err, err.2.isNone⟩ :: steps,
    fun before => ?_, ?_, ?_, ?_⟩
  · simp [drainCommand, readStream_recorded hOut, readStream_recorded hErr, hSame]
  · exact List.forall_mem_cons.mpr ⟨rfl, List.forall_mem_cons.mpr ⟨rfl, hKind⟩⟩
  · simp only [List.forall_mem_cons, ← and_assoc, ← hWhole]
    rcases hVerdict with ⟨counts, hOk, hUnbroken, hDone⟩ | ⟨cause, hError, hWhy⟩
    · exact ⟨fun _ => ⟨hUnbroken, fun step hStep => (hDone step hStep).1⟩, fun _ => ⟨counts, hOk⟩⟩
    · rw [hError]
      refine ⟨nofun, fun ⟨hUnbroken, hDone⟩ => ?_⟩
      obtain ⟨step, hStep, hFailed⟩ := hWhy.resolve_left hUnbroken
      cases hFailed.symm.trans (hDone step hStep)
  · simp only [List.forall_mem_cons, ← and_assoc, ← hWhole]
    rintro ⟨hUnbroken, hAll⟩
    refine ⟨⟨rfl, rfl⟩, ?_⟩
    rcases hVerdict with ⟨_, -, -, hDone⟩ | ⟨_, -, hWhy⟩
    · exact fun step hStep => (hDone step hStep).2
    · obtain ⟨step, hStep, hFailed⟩ := hWhy.resolve_left hUnbroken
      cases hFailed.symm.trans (hAll step hStep)

theorem captureStreams_eq_andThen (host : Host World) (pid : UInt32) :
    captureStreams host pid =
      andThen (host.openLog (.log .out)) (.system "Failed to open the output log") fun _ =>
        andThen (host.openLog (.log .err)) (.system "Failed to open the error log") fun _ =>
          andThen (drainCommand host pid) (.system "Failed to capture output")
            fun counts world => (.ok counts, world) := by
  funext world
  simp only [captureStreams, andThen]
  rcases host.openLog (.log .out) world with ⟨_ | _, outOpened⟩
  · rfl
  simp only
  rcases host.openLog (.log .err) outOpened with ⟨_ | _, errOpened⟩
  · rfl
  simp only
  rcases drainCommand host pid errOpened with ⟨_ | _, drained⟩ <;> rfl

theorem follows_captureStreams (host : Host World) (pid : UInt32) :
    Follows Deed.isCaptureStep (captureStreams host.recorded pid) (captureStreams host pid) := by
  rw [captureStreams_eq_andThen, captureStreams_eq_andThen]
  exact (Follows.note rfl rfl _).andThen fun _ => (Follows.note rfl rfl _).andThen fun _ =>
    (follows_drainCommand host pid).andThen fun _ => Follows.pure _

theorem report_recorded (host : Host World) (message : String) (world : World) :
    ∃ steps, (∀ before, report host.recorded message ⟨world, before⟩ =
        ⟨report host message world, before ++ steps⟩) ∧
      ∀ step ∈ steps, step.deed.isLogStep = true := by
  have hReport : ∀ {Place : Type} (machine : Host Place) (place : Place),
      report machine message place =
        (andThen (machine.openLog (.log .err)) id
          (fun _ => StreamLog.writeLines machine .err (messageLines message)) place).2 := by
    intro Place machine place
    rw [report, andThen]
    rcases machine.openLog (.log .err) place with ⟨_ | _, opened⟩ <;> rfl
  have hFollows : Follows Deed.isLogStep
      (andThen (host.recorded.openLog (.log .err)) id
        fun _ => StreamLog.writeLines host.recorded .err (messageLines message))
      (andThen (host.openLog (.log .err)) id
        fun _ => StreamLog.writeLines host .err (messageLines message)) :=
    (Follows.note rfl rfl _).andThen fun _ => StreamLog.follows_writeLines host .err _
  obtain ⟨steps, hSame, hKind, -⟩ := hFollows world
  refine ⟨steps, fun before => ?_, hKind⟩
  rw [hReport, hReport, hSame]

/-! ## The course of a job -/

theorem exists_failed_of_not {steps : List Outcome}
    (h : ¬ ∀ step ∈ steps, step.succeeded = true) : ∃ step ∈ steps, step.succeeded = false := by
  simpa using h

/-- All that can happen to a command once its start has been recorded, with the steps that are
taken. -/
inductive Attendance (host : Host World) (pid : UInt32) (world : World) :
    Except Failure Int32 × World → List Outcome → Prop
  /-- The output could not be captured. The command is killed and reaped, as far as that can be
  done. -/
  | uncaptured {captured : World} {failure : Failure} {captures : List Outcome}
      (hCapture : captureStreams host pid world = (.error failure, captured))
      (hKind : ∀ step ∈ captures, step.deed.isCaptureStep = true)
      (hFailed : ∃ step ∈ captures, step.succeeded = false) :
      Attendance host pid world (.error failure, (host.wait pid (host.kill pid captured).2).2)
        (captures ++ [⟨.kill pid, (host.kill pid captured).1.toOption.isSome⟩,
          ⟨.wait pid, (host.wait pid (host.kill pid captured).2).1.toOption.isSome⟩])
  /-- The output was captured to its end, but waiting for the command failed. -/
  | unawaited {captured after : World} {counts : Nat × Nat} {cause : SystemError}
      {captures : List Outcome}
      (hCapture : captureStreams host pid world = (.ok counts, captured))
      (hKind : ∀ step ∈ captures, step.deed.isCaptureStep = true)
      (hDone : ∀ step ∈ captures, step.succeeded = true)
      (hKept : ∀ step ∈ captures, step.deed.isLeft = false)
      (hWait : host.wait pid captured = (.error cause, after)) :
      Attendance host pid world (.error (.system "Failed to wait for the command" cause), after)
        (captures ++ [⟨.wait pid, false⟩])
  /-- The command was seen through to its end. -/
  | ended {captured after : World} {counts : Nat × Nat} {ending : Ending}
      {captures : List Outcome}
      (hCapture : captureStreams host pid world = (.ok counts, captured))
      (hKind : ∀ step ∈ captures, step.deed.isCaptureStep = true)
      (hDone : ∀ step ∈ captures, step.succeeded = true)
      (hKept : ∀ step ∈ captures, step.deed.isLeft = false)
      (hWait : host.wait pid captured = (.ok ending, after)) :
      Attendance host pid world (.ok ending.code, after) (captures ++ [⟨.wait pid, true⟩])

theorem attend_of_uncaptured {host : Host World} {pid : UInt32} {world captured : World}
    {failure : Failure} (hCapture : captureStreams host pid world = (.error failure, captured)) :
    attend host pid world = (.error failure, (host.wait pid (host.kill pid captured).2).2) := by
  rw [attend, hCapture]

theorem attend_of_captured {host : Host World} {pid : UInt32} {world captured : World}
    {counts : Nat × Nat} (hCapture : captureStreams host pid world = (.ok counts, captured)) :
    attend host pid world =
      andThen (host.wait pid) (.system "Failed to wait for the command")
        (fun ending world => (.ok ending.code, world)) captured := by
  simp only [attend, hCapture, andThen]
  rcases host.wait pid captured with ⟨_ | _, after⟩ <;> rfl

/-- Seeing a command through takes one of these ways, and a recorded machine shows its steps. -/
theorem attendance_attend (host : Host World) (pid : UInt32) (world : World) :
    ∃ steps,
      (∀ before, attend host.recorded pid ⟨world, before⟩ =
        ((attend host pid world).1, ⟨(attend host pid world).2, before ++ steps⟩)) ∧
      Attendance host pid world (attend host pid world) steps := by
  obtain ⟨captures, hNoted, hKind, hFaultless, hUnleft⟩ := follows_captureStreams host pid world
  rcases hCapture : captureStreams host pid world with ⟨failure | counts, captured⟩
  · rw [hCapture] at hNoted hFaultless
    have hFailed : ∃ step ∈ captures, step.succeeded = false :=
      exists_failed_of_not fun hDone => by simpa using hFaultless.mpr hDone
    rw [attend_of_uncaptured hCapture]
    refine ⟨_, fun before => ?_, .uncaptured hCapture hKind hFailed⟩
    rw [attend_of_uncaptured (hNoted before), ← List.append_assoc, List.append_cons]
    rfl
  · rw [hCapture] at hNoted hFaultless
    have hDone : ∀ step ∈ captures, step.succeeded = true := hFaultless.mp ⟨counts, rfl⟩
    have hKept := hUnleft hDone
    rw [attend_of_captured hCapture]
    rcases hWait : host.wait pid captured with ⟨cause | ending, after⟩
    · refine ⟨captures ++ [⟨.wait pid, false⟩], fun before => ?_, ?_⟩
      · rw [attend_of_captured (hNoted before)]
        simp only [andThen, Host.recorded, Host.note_of_error hWait, hWait, List.append_assoc]
      · simp only [andThen, hWait]
        exact .unawaited hCapture hKind hDone hKept hWait
    · refine ⟨captures ++ [⟨.wait pid, true⟩], fun before => ?_, ?_⟩
      · rw [attend_of_captured (hNoted before)]
        simp only [andThen, Host.recorded, Host.note_of_ok hWait, hWait, List.append_assoc]
      · simp only [andThen, hWait]
        exact .ended hCapture hKind hDone hKept hWait

/-- All that can happen between the first status write of a job and the report of a failure, with
the steps that are taken. -/
inductive Course (host : Host World) (spec : JobSpec) (keeper : StatusKeeper) (world : World) :
    Except Failure Int32 × StatusKeeper × World → List Outcome → Prop
  /-- There is no command. -/
  | commandless (hCommand : spec.command? = none) :
      Course host spec keeper world
        (.error (.internal (.process "No command to execute" false)), keeper, world) []
  /-- The command could not be started. -/
  | unstarted {command : Command} {cause : SystemError} {after : World}
      (hCommand : spec.command? = some command)
      (hSpawn : host.spawn command world = (.error cause, after)) :
      Course host spec keeper world
        (.error (.system ("Failed to start " ++ command.program) cause), keeper, after)
        [⟨.spawn command, false⟩]
  /-- The command was started, but its start could not be recorded. It is left to itself. -/
  | unrecorded {command : Command} {pid : UInt32} {spawned after : World} {error : Error}
      {kept : StatusKeeper} {writes : List Outcome} (hCommand : spec.command? = some command)
      (hSpawn : host.spawn command world = (.ok pid, spawned))
      (hStarted : keeper.started host pid spawned = (.error error, kept, after))
      (hKind : ∀ step ∈ writes, step.deed.isStatusStep = true)
      (hFailed : ∃ step ∈ writes, step.succeeded = false) :
      Course host spec keeper world (.error (.internal error), kept, after)
        (⟨.spawn command, true⟩ :: writes)
  /-- The command was started, and its start was recorded. -/
  | attended {command : Command} {pid : UInt32} {spawned ready after : World}
      {kept : StatusKeeper} {result : Except Failure Int32} {writes steps : List Outcome}
      (hCommand : spec.command? = some command)
      (hSpawn : host.spawn command world = (.ok pid, spawned))
      (hStarted : keeper.started host pid spawned = (.ok (), kept, ready))
      (hKind : ∀ step ∈ writes, step.deed.isStatusStep = true)
      (hDone : ∀ step ∈ writes, step.succeeded = true)
      (hAttended : Attendance host pid ready (result, after) steps) :
      Course host spec keeper world (result, kept, after)
        (⟨.spawn command, true⟩ :: (writes ++ steps))

/-- Running the command takes one of these courses, and a recorded machine shows its steps. -/
theorem course_execute (host : Host World) (spec : JobSpec) {keeper : StatusKeeper}
    (hOpen : keeper.record.isTerminal = false) (world : World) :
    ∃ steps,
      (∀ before, execute host.recorded spec keeper ⟨world, before⟩ =
        ((execute host spec keeper world).1, (execute host spec keeper world).2.1,
          ⟨(execute host spec keeper world).2.2, before ++ steps⟩)) ∧
      Course host spec keeper world (execute host spec keeper world) steps := by
  rcases hCommand : spec.command? with _ | command
  · refine ⟨[], fun before => ?_, ?_⟩
    · simp only [execute, hCommand, List.append_nil]
    · simp only [execute, hCommand]
      exact .commandless hCommand
  rcases hSpawn : host.spawn command world with ⟨cause | pid, spawned⟩
  · have hNoted : ∀ before, host.recorded.spawn command ⟨world, before⟩ =
        (.error cause, ⟨spawned, before ++ [⟨.spawn command, false⟩]⟩) :=
      Host.note_of_error hSpawn
    refine ⟨[⟨.spawn command, false⟩], fun before => ?_, ?_⟩
    · simp only [execute, hCommand, hNoted, hSpawn]
    · simp only [execute, hCommand, hSpawn]
      exact .unstarted hCommand hSpawn
  · have hNoted : ∀ before, host.recorded.spawn command ⟨world, before⟩ =
        (.ok pid, ⟨spawned, before ++ [⟨.spawn command, true⟩]⟩) :=
      Host.note_of_ok hSpawn
    obtain ⟨writes, hWrites, hKind, hFaultless⟩ := keeper.started_recorded host pid hOpen spawned
    rcases hStarted : keeper.started host pid spawned with ⟨error | _, kept, ready⟩
    · rw [hStarted] at hWrites hFaultless
      have hFailed : ∃ step ∈ writes, step.succeeded = false :=
        exists_failed_of_not fun hDone => by simpa using hFaultless.mpr hDone
      refine ⟨⟨.spawn command, true⟩ :: writes, fun before => ?_, ?_⟩
      · simp [execute, hCommand, hNoted, hSpawn, hWrites, hStarted]
      · simp only [execute, hCommand, hSpawn, hStarted]
        exact .unrecorded hCommand hSpawn hStarted hKind hFailed
    · rw [hStarted] at hWrites hFaultless
      obtain ⟨steps, hSteps, hAttended⟩ := attendance_attend host pid ready
      refine ⟨⟨.spawn command, true⟩ :: (writes ++ steps), fun before => ?_, ?_⟩
      · simp only [execute, hCommand, hNoted, hSpawn, hWrites, hStarted, hSteps]
        simp
      · simp only [execute, hCommand, hSpawn, hStarted]
        exact .attended hCommand hSpawn hStarted hKind (hFaultless.mp rfl) hAttended

end PgConsole.Job
