import PgConsole.Proofs.Rehearsal.Machine

namespace PgConsole.Job

/-!
# The history of a status file

What somebody sees who looks at a status file at any moment while its keeper is called again and
again and any step of a call may fail.  `Host.watched` keeps the world before every step, so its
`moments` are all the worlds in which the file can be read.  `Forward` is how what is read later
relates to what is read earlier: a job never goes back, and once it has ended nothing changes.

A keeper that was refused a write knows more than the file says.  The argument only needs that
it never knows less: while the keeper's record is open, the file does not show a finished job.
-/

variable {World : Type}

/-! ## Watched machines -/

/-- A world together with the worlds before it. -/
structure Watched (World : Type) where
  past : List World
  world : World

/-- All worlds so far, the present one last. -/
def Watched.moments (watched : Watched World) : List World := watched.past ++ [watched.world]

namespace Host

/-- Do something and keep the world in which it was done. -/
def watch {α : Type} (act : World → α × World) (watched : Watched World) : α × Watched World :=
  ((act watched.world).1, ⟨watched.moments, (act watched.world).2⟩)

/-- The same machine, with the worlds before every step kept. -/
def watched (host : Host World) : Host (Watched World) where
  self := host.self
  now := watch host.now
  create file := watch (host.create file)
  openLog file := watch (host.openLog file)
  append file bytes := watch (host.append file bytes)
  sync file := watch (host.sync file)
  publish := watch host.publish
  spawn command := watch (host.spawn command)
  readStream pid stream := watch (host.readStream pid stream)
  turn := watch host.turn
  leave file bytes watched := ⟨watched.moments, host.leave file bytes watched.world⟩
  kill pid := watch (host.kill pid)
  wait pid := watch (host.wait pid)

end Host

/-- Watching a machine does not change its files. -/
def StatusFiles.watched {host : Host World} {directory : String}
    (disk : StatusFiles host directory) : StatusFiles host.watched directory where
  files watched := disk.files watched.world
  apart watched := disk.apart watched.world
  now_apart := disk.now_apart
  create_apart := disk.create_apart
  append_apart := disk.append_apart
  sync_apart := disk.sync_apart
  publish_apart := disk.publish_apart
  create := disk.create
  append := disk.append
  sync := disk.sync
  publish := disk.publish
  publish_error := disk.publish_error
  now_status := disk.now_status
  create_status := disk.create_status
  append_status := disk.append_status
  sync_status := disk.sync_status

/-- What an action does to the world, apart from the worlds that are kept. -/
def Watched.forget {α : Type} (done : α × Watched World) : α × World := (done.1, done.2.world)

theorem forget_writeDraft (host : Host World) (record : StatusRecord) (watched : Watched World) :
    Watched.forget (StatusKeeper.writeDraft host.watched record watched) =
      StatusKeeper.writeDraft host record watched.world := by
  simp only [StatusKeeper.writeDraft, Host.watched, Host.watch]
  rcases host.create .draft watched.world with ⟨_ | _, created⟩
  · rfl
  · simp only
    rcases host.append .draft (Text.Utf8.encode record.render) created with
      ⟨_ | _, appended⟩ <;> rfl

theorem forget_write (host : Host World) (record : StatusRecord) (watched : Watched World) :
    Watched.forget (StatusKeeper.write host.watched record watched) =
      StatusKeeper.write host record watched.world := by
  rw [StatusKeeper.write, StatusKeeper.write, ← forget_writeDraft]
  rcases StatusKeeper.writeDraft host.watched record watched with ⟨_ | _, filled⟩ <;> rfl

/-- Watching does not change what a keeper does. -/
theorem change_watched (host : Host World) (update : String → StatusRecord → StatusRecord)
    (keeper : StatusKeeper) (watched : Watched World) :
    keeper.change host update watched.world =
      ((keeper.change host.watched update watched).1,
        Watched.forget (keeper.change host.watched update watched).2) := by
  cases hTerminal : keeper.record.isTerminal with
  | true =>
      rw [StatusKeeper.change_of_terminal _ _ _ hTerminal,
        StatusKeeper.change_of_terminal _ _ _ hTerminal]
      rfl
  | false =>
      rw [StatusKeeper.change_of_open _ _ _ hTerminal, StatusKeeper.change_of_open _ _ _ hTerminal]
      have hWrite := forget_write host
        (update (StatusTime.writeUtc (host.now watched.world).1) keeper.record)
        (host.watched.now watched).2
      have hWorld : (host.watched.now watched).2.world = (host.now watched.world).2 := rfl
      rw [hWorld] at hWrite
      simp only [← hWrite]
      rfl

/-! ## Calls of a keeper -/

/-- A call of a status keeper. -/
inductive StatusCall where
  | started (pid : UInt32)
  | finished (code : Int32)
  deriving DecidableEq, Repr

namespace StatusCall

/-- How a call changes the record at a time. -/
def update : StatusCall → String → StatusRecord → StatusRecord
  | .started pid, time, record => { record with startTime := some time, pid := some pid }
  | .finished code, time, record => { record with endTime := some time, exitCode := some code }

/-- Call the keeper. -/
def perform (host : Host World) (call : StatusCall) (keeper : StatusKeeper) (world : World) :
    Except Error Unit × StatusKeeper × World :=
  match call with
  | .started pid => keeper.started host pid world
  | .finished code => keeper.finished host code world

/-- Call the keeper again and again, whatever the calls answer. -/
def performAll (host : Host World) (state : StatusKeeper × World) (calls : List StatusCall) :
    StatusKeeper × World :=
  calls.foldl (fun state call => (call.perform host state.1 state.2).2) state

theorem perform_eq_change (host : Host World) (call : StatusCall) (keeper : StatusKeeper)
    (world : World) : call.perform host keeper world = keeper.change host call.update world := by
  cases call <;> rfl

/-- A record that a call has made says who runs the job or how it ended. -/
theorem isTerminal_or_pid_update (call : StatusCall) (time : String) (record : StatusRecord) :
    (call.update time record).isTerminal = true ∨ (call.update time record).pid.isSome = true := by
  cases call with
  | started pid => exact .inr rfl
  | finished code => exact .inl rfl

end StatusCall

/-! ## Moving forward -/

/-- How far a job has come, as a number. -/
def JobStatus.stage : JobStatus → Nat
  | .spawning => 0
  | .running _ _ => 1
  | .completed _ _ => 2
  | .failed _ _ => 2

namespace JobStatus

theorem isFinished_ofRecord (record : StatusRecord) :
    (ofRecord (some record)).isFinished = record.isTerminal := by
  obtain ⟨startTime, endTime, exitCode, pid⟩ := record
  cases exitCode with
  | none => cases pid <;> rfl
  | some code =>
      simp only [ofRecord, StatusRecord.isTerminal]
      split <;> rfl

theorem stage_le_one {status : JobStatus} (hOpen : status.isFinished = false) :
    status.stage ≤ 1 := by
  cases status <;> simp_all [isFinished, stage]

theorem one_le_stage_ofRecord {record : StatusRecord}
    (h : record.isTerminal = true ∨ record.pid.isSome = true) :
    1 ≤ (ofRecord (some record)).stage := by
  obtain ⟨startTime, endTime, exitCode, pid⟩ := record
  cases exitCode with
  | none =>
      cases pid with
      | none => simp [StatusRecord.isTerminal] at h
      | some pid => exact Nat.le_refl 1
  | some code =>
      simp only [ofRecord]
      split <;> simp [stage]

end JobStatus

/-- What is read later may follow what is read earlier. -/
structure Forward (earlier later : Option StatusRecord) : Prop where
  stage : (JobStatus.ofRecord earlier).stage ≤ (JobStatus.ofRecord later).stage
  final : (JobStatus.ofRecord earlier).isFinished = true → later = earlier

namespace Forward

theorem refl (shown : Option StatusRecord) : Forward shown shown :=
  ⟨Nat.le_refl _, fun _ => rfl⟩

theorem trans {first second third : Option StatusRecord} (hFirst : Forward first second)
    (hSecond : Forward second third) : Forward first third where
  stage := Nat.le_trans hFirst.stage hSecond.stage
  final hFinished := by
    obtain rfl := hFirst.final hFinished
    exact hSecond.final hFinished

/-- As long as a job has not ended, any record that says something may follow. -/
theorem of_open {shown : Option StatusRecord} {record : StatusRecord}
    (hOpen : (JobStatus.ofRecord shown).isFinished = false)
    (hSays : record.isTerminal = true ∨ record.pid.isSome = true) :
    Forward shown (some record) where
  stage := Nat.le_trans (JobStatus.stage_le_one hOpen) (JobStatus.one_le_stage_ofRecord hSays)
  final hFinished := by
    rw [hOpen] at hFinished
    cases hFinished

end Forward

/-! ## Chronicles -/

section

variable {host : Host World} {directory : String} (disk : StatusFiles host directory)

/-- The moments of a watched world, in all of which the status file shows nothing or one of the
records in `held`, and in which it moves forward. `shown` is what it shows at present. -/
structure Chronicle (held : StatusRecord → Prop) (watched : Watched World)
    (shown : Option StatusRecord) : Prop where
  apart : disk.apart watched.world
  present : disk.status watched.world = StatusRecord.written shown
  complete : ∀ moment ∈ watched.moments, ∃ record?,
    disk.status moment = StatusRecord.written record? ∧ ∀ record ∈ record?, held record
  forward : watched.moments.Pairwise fun earlier later => ∀ first second,
    disk.status earlier = StatusRecord.written first →
      disk.status later = StatusRecord.written second → Forward first second

namespace Chronicle

variable {disk} {held : StatusRecord → Prop} {watched : Watched World}
  {shown : Option StatusRecord}

theorem init {world : World} (hApart : disk.apart world)
    (hAbsent : disk.status world = .error .notFound) :
    Chronicle disk held ⟨[], world⟩ none where
  apart := hApart
  present := hAbsent
  complete := by
    simp only [Watched.moments, List.nil_append, List.mem_singleton]
    rintro moment rfl
    exact ⟨none, hAbsent, by simp⟩
  forward := List.pairwise_singleton _ _

theorem mono {more : StatusRecord → Prop} (h : Chronicle disk held watched shown)
    (hMore : ∀ record, held record → more record) : Chronicle disk more watched shown where
  apart := h.apart
  present := h.present
  complete moment hMoment := by
    obtain ⟨record?, hShown, hHeld⟩ := h.complete moment hMoment
    exact ⟨record?, hShown, fun record hRecord => hMore record (hHeld record hRecord)⟩
  forward := h.forward

/-- Every moment so far is followed by the present one. -/
theorem forward_present (h : Chronicle disk held watched shown) {moment : World}
    (hMoment : moment ∈ watched.moments) {record? : Option StatusRecord}
    (hRecord : disk.status moment = StatusRecord.written record?) : Forward record? shown := by
  rcases List.mem_append.mp hMoment with hPast | hNow
  · exact (List.pairwise_append.mp h.forward).2.2 moment hPast watched.world
      List.mem_cons_self record? shown hRecord h.present
  · obtain rfl := List.mem_singleton.mp hNow
    obtain rfl := StatusRecord.written_injective (hRecord.symm.trans h.present)
    exact .refl _

/-- One more moment that may follow the present one. -/
theorem extend (h : Chronicle disk held watched shown) {world : World}
    {next : Option StatusRecord} (hApart : disk.apart world)
    (hNext : disk.status world = StatusRecord.written next)
    (hForward : Forward shown next) (hHeld : ∀ record ∈ next, held record) :
    Chronicle disk held ⟨watched.moments, world⟩ next where
  apart := hApart
  present := hNext
  complete moment hMoment := by
    rcases List.mem_append.mp hMoment with hPast | hNow
    · exact h.complete moment hPast
    · obtain rfl := List.mem_singleton.mp hNow
      exact ⟨next, hNext, hHeld⟩
  forward := by
    refine List.pairwise_append.mpr ⟨h.forward, List.pairwise_singleton _ _, ?_⟩
    intro earlier hEarlier later hLater first second hFirst hSecond
    obtain rfl := List.mem_singleton.mp hLater
    obtain rfl := StatusRecord.written_injective (hSecond.symm.trans hNext)
    exact (h.forward_present hEarlier hFirst).trans hForward

/-- A step that does not touch the status file. -/
theorem stay (h : Chronicle disk held watched shown) {world : World} (hApart : disk.apart world)
    (hSame : disk.status world = disk.status watched.world) :
    Chronicle disk held ⟨watched.moments, world⟩ shown := by
  obtain ⟨record?, hShown, hHeld⟩ := h.complete watched.world (by simp [Watched.moments])
  obtain rfl := StatusRecord.written_injective (hShown.symm.trans h.present)
  exact h.extend hApart (hSame.trans hShown) (.refl _) hHeld

theorem writeDraft (h : Chronicle disk held watched shown) (record : StatusRecord) :
    Chronicle disk held (StatusKeeper.writeDraft host.watched record watched).2 shown := by
  have hCreate : Chronicle disk held (host.watched.create .draft watched).2 shown :=
    h.stay (disk.create_apart h.apart) (disk.create_status h.apart)
  rw [StatusKeeper.writeDraft]
  split
  · rename_i created hCreated
    rwa [hCreated] at hCreate
  · rename_i created hCreated
    rw [hCreated] at hCreate
    have hAppend : Chronicle disk held
        (host.watched.append .draft (Text.Utf8.encode record.render) created).2 shown :=
      hCreate.stay (disk.append_apart _ hCreate.apart) (disk.append_status _ hCreate.apart)
    split
    · rename_i appended hAppended
      rwa [hAppended] at hAppend
    · rename_i appended hAppended
      rw [hAppended] at hAppend
      exact hAppend.stay (disk.sync_apart hAppend.apart) (disk.sync_status hAppend.apart)

/-- Writing a record ends with the record in the file, or with the file as it was. -/
theorem write (h : Chronicle disk held watched shown) {record : StatusRecord}
    (hForward : Forward shown (some record)) (hHeld : held record)
    {result : Except SystemError Unit} {after : Watched World}
    (hWrite : StatusKeeper.write host.watched record watched = (result, after)) :
    (result = .ok () ∧ Chronicle disk held after (some record)) ∨
      ((∃ cause, result = .error cause) ∧ Chronicle disk held after shown) := by
  have hDraft := h.writeDraft record
  rw [StatusKeeper.write] at hWrite
  split at hWrite
  · rename_i cause filled hFilled
    rw [hFilled] at hDraft
    obtain ⟨rfl, rfl⟩ := Prod.mk.inj hWrite
    exact .inr ⟨⟨cause, rfl⟩, hDraft⟩
  · rename_i filled hFilled
    rw [hFilled] at hDraft
    have hContent : disk.draft filled.world = .ok (Text.Utf8.encode record.render) :=
      (disk.watched.draft_writeDraft h.apart hFilled).2
    have hApart := disk.publish_apart hDraft.apart
    obtain ⟨hResult, rfl⟩ := Prod.mk.inj hWrite
    have hPublish : (host.publish filled.world).1 = result := hResult
    cases result with
    | ok =>
        refine .inl ⟨rfl, hDraft.extend hApart (disk.publish hDraft.apart hContent hPublish)
          hForward ?_⟩
        rintro other hOther
        obtain rfl := Option.some.inj hOther
        exact hHeld
    | error cause =>
        exact .inr ⟨⟨cause, rfl⟩, hDraft.stay hApart (disk.publish_error hDraft.apart hPublish)⟩

end Chronicle

/-- A keeper in a watched world: while its record is open, the job has not ended. -/
structure Kept (held : StatusRecord → Prop) (keeper : StatusKeeper) (watched : Watched World)
    (shown : Option StatusRecord) : Prop where
  chronicle : Chronicle disk held watched shown
  opened : keeper.record.isTerminal = false → (JobStatus.ofRecord shown).isFinished = false

variable {disk} in
/-- What a call leaves behind. A call that succeeds leaves the keeper's record in the file. -/
theorem Kept.perform {held : StatusRecord → Prop} {keeper : StatusKeeper}
    {watched : Watched World} {shown : Option StatusRecord}
    (h : Kept disk held keeper watched shown) (call : StatusCall)
    (hHeld : held (call.perform host.watched keeper watched).2.1.record) :
    ∃ next, Kept disk held (call.perform host.watched keeper watched).2.1
        (call.perform host.watched keeper watched).2.2 next ∧
      ((call.perform host.watched keeper watched).1 = .ok () →
        next = some (call.perform host.watched keeper watched).2.1.record) := by
  rw [call.perform_eq_change] at hHeld ⊢
  cases hTerminal : keeper.record.isTerminal with
  | true =>
      rw [StatusKeeper.change_of_terminal _ _ _ hTerminal]
      refine ⟨shown, h, fun hOk => ?_⟩
      cases hOk
  | false =>
      have hNow : Chronicle disk held (host.watched.now watched).2 shown :=
        h.chronicle.stay (disk.now_apart h.chronicle.apart) (disk.now_status h.chronicle.apart)
      rw [StatusKeeper.change_of_open _ _ _ hTerminal] at hHeld ⊢
      simp only at hHeld ⊢
      generalize hRecord : call.update (StatusTime.writeUtc (host.watched.now watched).1)
        keeper.record = record at hHeld ⊢
      have hForward : Forward shown (some record) :=
        .of_open (h.opened hTerminal) (hRecord ▸ call.isTerminal_or_pid_update _ _)
      cases hWrite : StatusKeeper.write host.watched record (host.watched.now watched).2 with
      | mk result after =>
          rcases hNow.write hForward hHeld hWrite with ⟨rfl, hAfter⟩ | ⟨⟨cause, rfl⟩, hAfter⟩
          · refine ⟨some record, ⟨hAfter, fun hStill => ?_⟩, fun _ => rfl⟩
            rwa [JobStatus.isFinished_ofRecord]
          · refine ⟨shown, ⟨hAfter, fun _ => h.opened hTerminal⟩, fun hOk => ?_⟩
            cases hOk

end

/-! ## Sequences of calls -/

namespace StatusCall

/-- The keeper of a directory before it is called, in a world that is watched from now on. -/
def fresh (directory : String) (world : World) : StatusKeeper × Watched World :=
  ({ directory }, ⟨[], world⟩)

theorem performAll_concat (host : Host World) (state : StatusKeeper × World)
    (calls : List StatusCall) (call : StatusCall) :
    performAll host state (calls ++ [call]) =
      (call.perform host (performAll host state calls).1 (performAll host state calls).2).2 := by
  rw [performAll, List.foldl_append]
  rfl

theorem forget_performAll (host : Host World) (state : StatusKeeper × Watched World)
    (calls : List StatusCall) :
    Watched.forget (performAll host.watched state calls) =
      performAll host (Watched.forget state) calls := by
  induction calls generalizing state with
  | nil => rfl
  | cons call rest ih =>
      have hCall : call.perform host state.1 state.2.world =
          ((call.perform host.watched state.1 state.2).1,
            Watched.forget (call.perform host.watched state.1 state.2).2) := by
        rw [perform_eq_change, perform_eq_change]
        exact change_watched host call.update state.1 state.2
      have hNext := ih (call.perform host.watched state.1 state.2).2
      rw [performAll, performAll, List.foldl_cons, List.foldl_cons]
      rw [performAll, performAll] at hNext
      rw [hNext]
      exact congrArg (rest.foldl _) (congrArg Prod.snd hCall).symm

/-- A record that the keeper holds before, between or after the calls. -/
def Held (host : Host World) (state : StatusKeeper × World) (calls : List StatusCall)
    (record : StatusRecord) : Prop :=
  ∃ done, done <+: calls ∧ (performAll host state done).1.record = record

end StatusCall

open StatusCall

variable {host : Host World} {directory : String}

/-- One more call keeps the history in order. -/
theorem Kept.concat {disk : StatusFiles host directory} {state : StatusKeeper × Watched World}
    {calls : List StatusCall} {shown : Option StatusRecord}
    (h : Kept disk (Held host.watched state calls) (performAll host.watched state calls).1
      (performAll host.watched state calls).2 shown) (call : StatusCall) :
    ∃ next, Kept disk (Held host.watched state (calls ++ [call]))
        (performAll host.watched state (calls ++ [call])).1
        (performAll host.watched state (calls ++ [call])).2 next ∧
      ((call.perform host.watched (performAll host.watched state calls).1
          (performAll host.watched state calls).2).1 = .ok () →
        next = some (performAll host.watched state (calls ++ [call])).1.record) := by
  have hMore : ∀ record, Held host.watched state calls record →
      Held host.watched state (calls ++ [call]) record := by
    rintro record ⟨done, hDone, rfl⟩
    exact ⟨done, hDone.trans (List.prefix_append _ _), rfl⟩
  have hLast : Held host.watched state (calls ++ [call])
      (performAll host.watched state (calls ++ [call])).1.record :=
    ⟨_, List.prefix_refl _, rfl⟩
  rw [performAll_concat] at hLast ⊢
  exact Kept.perform ⟨h.chronicle.mono hMore, h.opened⟩ call hLast

/-- Every sequence of calls keeps the history in order. -/
theorem exists_kept_performAll (disk : StatusFiles host directory) {world : World}
    (hApart : disk.apart world) (hAbsent : disk.status world = .error .notFound)
    (calls : List StatusCall) :
    ∃ shown, Kept disk (Held host.watched (fresh directory world) calls)
      (performAll host.watched (fresh directory world) calls).1
      (performAll host.watched (fresh directory world) calls).2 shown := by
  -- the calls still to come are added one by one to those that are done
  suffices hRest : ∀ rest done, (∃ shown, Kept disk (Held host.watched (fresh directory world) done)
      (performAll host.watched (fresh directory world) done).1
      (performAll host.watched (fresh directory world) done).2 shown) →
      ∃ shown, Kept disk (Held host.watched (fresh directory world) (done ++ rest))
        (performAll host.watched (fresh directory world) (done ++ rest)).1
        (performAll host.watched (fresh directory world) (done ++ rest)).2 shown by
    exact hRest calls [] ⟨none, .init hApart hAbsent, fun _ => rfl⟩
  intro rest
  induction rest with
  | nil =>
      intro done h
      rwa [List.append_nil]
  | cons call rest ih =>
      rintro done ⟨shown, h⟩
      obtain ⟨next, hNext, -⟩ := h.concat call
      simpa using ih (done ++ [call]) ⟨next, hNext⟩

/-- The history of a status file.  A keeper is called again and again in a directory without a
status file, and each call may fail at any step.  Whoever reads the file at any moment finds
nothing or the whole text of a record that the keeper held.  A call that succeeds leaves the
keeper's record to be read.  Once the file shows a terminal record it does not change, and
somebody who polls the job sees it move forward only, until its status is final. -/
theorem StatusFiles.history_moves_forward (disk : StatusFiles host directory) {world : World}
    (hApart : disk.apart world) (hAbsent : disk.status world = .error .notFound)
    (calls : List StatusCall) :
    let run := performAll host.watched (fresh directory world)
    let moments := (run calls).2.moments
    -- watching the machine does not change what is done
    Watched.forget (run calls) = performAll host ({ directory }, world) calls ∧
    (∀ moment ∈ moments, disk.status moment = .error .notFound ∨
      ∃ done, done <+: calls ∧
        disk.status moment = .ok (Text.Utf8.encode (run done).1.record.render)) ∧
    (∀ call, (call.perform host.watched (run calls).1 (run calls).2).1 = .ok () →
      StatusRecord.read (disk.files (run (calls ++ [call])).2.world) directory =
        .ok (some (run (calls ++ [call])).1.record)) ∧
    moments.Pairwise (fun earlier later => ∀ record,
      StatusRecord.read (disk.files earlier) directory = .ok (some record) →
        record.isTerminal = true → disk.status later = disk.status earlier) ∧
    ∀ job : BackgroundJob, job.directory = directory →
      (∀ moment ∈ moments, ∃ status, job.status (disk.files moment) = .ok status) ∧
      moments.Pairwise fun earlier later => ∀ first second,
        job.status (disk.files earlier) = .ok first →
          job.status (disk.files later) = .ok second →
            first.stage ≤ second.stage ∧ (first.isFinished = true → second = first) := by
  intro run moments
  obtain ⟨shown, hKept⟩ := exists_kept_performAll disk hApart hAbsent calls
  have hComplete : ∀ moment ∈ moments, ∃ record?,
      disk.status moment = StatusRecord.written record? ∧
        StatusRecord.read (disk.files moment) directory = .ok record? ∧
          ∀ record ∈ record?, Held host.watched (fresh directory world) calls record := by
    intro moment hMoment
    obtain ⟨record?, hShown, hHeld⟩ := hKept.chronicle.complete moment hMoment
    exact ⟨record?, hShown, StatusRecord.read_of_written hShown, hHeld⟩
  have hForward := hKept.chronicle.forward
  refine ⟨forget_performAll host _ calls, ?_, ?_, ?_, ?_⟩
  · intro moment hMoment
    obtain ⟨record?, hShown, -, hHeld⟩ := hComplete moment hMoment
    cases record? with
    | none => exact .inl hShown
    | some record =>
        obtain ⟨done, hDone, rfl⟩ := hHeld record rfl
        exact .inr ⟨done, hDone, hShown⟩
  · intro call hOk
    obtain ⟨next, hNext, hRecord⟩ := hKept.concat call
    obtain rfl := hRecord hOk
    exact StatusRecord.read_of_written hNext.chronicle.present
  · refine hForward.imp_of_mem ?_
    intro earlier later hEarlier hLater hPair record hRead hTerminal
    obtain ⟨first, hFirst, hFirstRead, -⟩ := hComplete earlier hEarlier
    obtain ⟨second, hSecond, -⟩ := hComplete later hLater
    obtain rfl := Except.ok.inj (hFirstRead.symm.trans hRead)
    have hFinished : (JobStatus.ofRecord (some record)).isFinished = true := by
      rwa [JobStatus.isFinished_ofRecord]
    rw [hFirst, hSecond, (hPair _ _ hFirst hSecond).final hFinished]
  · rintro job rfl
    have hStatus : ∀ moment record?, StatusRecord.read (disk.files moment) job.directory =
        .ok record? → job.status (disk.files moment) = .ok (JobStatus.ofRecord record?) := by
      intro moment record? hRead
      rw [BackgroundJob.status, BackgroundJob.record, hRead]
      rfl
    constructor
    · intro moment hMoment
      obtain ⟨record?, -, hRead, -⟩ := hComplete moment hMoment
      exact ⟨_, hStatus moment record? hRead⟩
    · refine hForward.imp_of_mem ?_
      intro earlier later hEarlier hLater hPair first second hFirst hSecond
      obtain ⟨before, hBefore, hBeforeRead, -⟩ := hComplete earlier hEarlier
      obtain ⟨after, hAfter, hAfterRead, -⟩ := hComplete later hLater
      obtain rfl := Except.ok.inj ((hStatus earlier before hBeforeRead).symm.trans hFirst)
      obtain rfl := Except.ok.inj ((hStatus later after hAfterRead).symm.trans hSecond)
      have hStep := hPair before after hBefore hAfter
      exact ⟨hStep.stage, fun hFinished => by rw [hStep.final hFinished]⟩

/-- A machine with an empty directory for a job. -/
def freshMachine : Rehearsal.Machine where
  disk := FileTree.populate "/jobs/1" []

theorem freshMachine_apart :
    freshMachine.Apart "/jobs/1" ["jobs", "1", "status.tmp"] ["jobs", "1", "status"] where
  left := by decide
  right.left := { leaf := rfl, resolve := by rintro (_ | _) <;> rfl }
  right.right := { leaf := rfl, resolve := by rintro (_ | _) <;> rfl }

/-- On a rehearsal machine, the end of a job is read together with its start. -/
theorem StatusFiles.history_on_rehearsal_machine :
    let run := performAll (Rehearsal.Machine.host "/jobs/1" 1000).watched
      (fresh "/jobs/1" freshMachine)
    JobFile.status.content "/jobs/1" freshMachine.files = .error .notFound ∧
      StatusRecord.read (run [.started 7, .finished 3]).2.world.files "/jobs/1" = .ok (some {
        startTime := some "1970-01-01 00:00:00.000000 +0000"
        endTime := some "1970-01-01 00:00:00.000000 +0000"
        exitCode := some 3
        pid := some 7 }) := by
  intro run
  have hAbsent : JobFile.status.content "/jobs/1" freshMachine.files = .error .notFound := rfl
  obtain ⟨-, -, hRead, -⟩ := (Rehearsal.Machine.statusFiles "/jobs/1" 1000).history_moves_forward
    ⟨_, _, freshMachine_apart⟩ hAbsent [.started 7]
  have hRecord : (run [.started 7, .finished 3]).1.record = {
      startTime := some "1970-01-01 00:00:00.000000 +0000"
      endTime := some "1970-01-01 00:00:00.000000 +0000"
      exitCode := some 3
      pid := some 7 } := by decide +kernel
  refine ⟨hAbsent, ?_⟩
  rw [← hRecord]
  exact hRead (.finished 3) rfl

/-- A machine on which the draft is a link to the status file that is yet to be written. -/
def linkedDraft : Rehearsal.Machine where
  disk := FileTree.populate "/jobs/1" [(JobFile.draft.name, .link JobFile.status.name)]

/-- The start is written through the link, and then the link takes the place of the file: it leads
to itself, and nothing can be read although the call has succeeded. -/
theorem StatusFiles.record_lost_behind_link :
    JobFile.status.content "/jobs/1" linkedDraft.files = .error .notFound ∧
      ∃ keeper after,
        StatusKeeper.started (Rehearsal.Machine.host "/jobs/1" 1000) 5 { directory := "/jobs/1" }
          linkedDraft = (.ok (), keeper, after) ∧
        StatusRecord.read after.files "/jobs/1" ≠ .ok (some keeper.record) := by
  generalize hStarted : StatusKeeper.started (Rehearsal.Machine.host "/jobs/1" 1000) 5
    { directory := "/jobs/1" } linkedDraft = done
  have hDone : done.1 = .ok () := by
    rw [← hStarted]
    rfl
  have hRead : StatusRecord.read done.2.2.files "/jobs/1" =
      .error (.file SystemError.tooManyLinks.message) := by
    rw [← hStarted]
    rfl
  refine ⟨rfl, done.2.1, done.2.2, Prod.ext hDone rfl, ?_⟩
  rw [hRead]
  simp

end PgConsole.Job
