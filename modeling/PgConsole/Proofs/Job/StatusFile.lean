import PgConsole.Job.Background
import PgConsole.Job.StatusKeeper
import PgConsole.Proofs.JsonText
import PgConsole.Proofs.SnapshotJson
import PgConsole.Proofs.Text.Utf8

namespace PgConsole.Job

/-!
# Status files

A status record is read back from its text, and from a file that holds this text.
`StatusFiles` says what a job relies on when it writes its status file: as long as the draft is a
file of its own, writing it does not touch the status file, and publishing puts all of it in the
place of the status file or leaves that as it is.  Nothing is said about when a step succeeds, nor
about the draft after a step that has failed.
-/

namespace StatusRecord

theorem readable_of_mem_toJson {record : StatusRecord} {fields : List (String × Json)}
    (hFields : record.toJson = .object fields) : ∀ field ∈ fields, field.2.Readable := by
  have hCode : ∀ code : Int32, (Json.integer code.toInt).Readable := fun code =>
    Json.readable_integer (by have := code.le_toInt; omega) (by have := code.toInt_lt; omega)
  have hPid : ∀ pid : UInt32, (Json.ofNat pid.toNat).Readable := fun pid =>
    Json.readable_integer (by simp) (by have := pid.toNat_lt; simp; omega)
  obtain rfl := Json.object.inj hFields
  obtain ⟨startTime, endTime, exitCode, pid⟩ := record
  cases startTime <;> cases endTime <;> cases exitCode <;> cases pid <;>
    simp [field, Json.readable_text, hCode, hPid]

theorem ofJson?_toJson (record : StatusRecord) : ofJson? record.toJson = some record := by
  have hText : ∀ value : String,
      Json.nullable Json.text? (.text value) = some (some value) := fun _ => rfl
  have hCode : ∀ code : Int32,
      Json.nullable Json.int32? (.integer code.toInt) = some (some code) := fun code =>
    Json.nullable_eq_some (Json.int32?_integer code) (by simp)
  have hPid : ∀ pid : UInt32,
      Json.nullable Json.uint32? (.ofNat pid.toNat) = some (some pid) := fun pid =>
    Json.nullable_eq_some (Json.uint32?_ofNat pid) (by simp [Json.ofNat])
  obtain ⟨startTime, endTime, exitCode, pid⟩ := record
  cases startTime <;> cases endTime <;> cases exitCode <;> cases pid <;>
    simp [toJson, field, ofJson?, Json.defaultedRecord?, Json.record?, Json.unrepeated, fieldNames,
      Json.optional, List.lookup_cons, hText, hCode, hPid]

/-- A record is read back from its text. -/
theorem parse?_render (record : StatusRecord) : parse? record.render = some record := by
  have hObject : Json.parse? record.toJson.render = some record.toJson := by
    cases hFields : record.toJson with
    | object fields => exact Json.parse?_render_object (readable_of_mem_toJson hFields)
    | _ => cases hFields
  rw [parse?, render, hObject, Option.bind_some, ofJson?_toJson]

end StatusRecord

/-- The bytes of a file of a job's directory. -/
def JobFile.content (file : JobFile) (directory : String) (files : FileTree) :
    Except SystemError (List UInt8) :=
  files.read (Path.join directory file.name)

namespace StatusRecord

/-- What a status file that shows a record, or nothing yet, looks like when it is read. -/
def written : Option StatusRecord → Except SystemError (List UInt8)
  | none => .error .notFound
  | some record => .ok (Text.Utf8.encode record.render)

theorem read_of_written {files : FileTree} {directory : String} {record? : Option StatusRecord}
    (h : JobFile.status.content directory files = written record?) :
    read files directory = .ok record? := by
  have hContent : files.read (Path.join directory fileName) = written record? := h
  cases record? with
  | none => simp [read, FileTree.readText, hContent, written, ofFile]
  | some record =>
      simp [read, FileTree.readText, hContent, written, ofFile, Text.Utf8.decode?_encode,
        parse?_render]

theorem written_injective {left right : Option StatusRecord} (h : written left = written right) :
    left = right := by
  cases left with
  | none =>
      cases right with
      | none => rfl
      | some record => cases h
  | some first =>
      cases right with
      | none => cases h
      | some second =>
          have hBytes := congrArg Text.Utf8.decode? (Except.ok.inj h)
          rw [Text.Utf8.decode?_encode, Text.Utf8.decode?_encode] at hBytes
          have hRecords := congrArg parse? (Option.some.inj hBytes)
          rwa [parse?_render, parse?_render] at hRecords

end StatusRecord

variable {World : Type}

namespace StatusKeeper

variable (host : Host World) (update : String → StatusRecord → StatusRecord)
  {keeper : StatusKeeper} (world : World)

theorem change_of_terminal (hTerminal : keeper.record.isTerminal = true) :
    keeper.change host update world = (.error keeper.alreadyTerminal, keeper, world) := by
  rw [change, if_pos hTerminal]

/-- A keeper with an open record takes the change over, whether it can be written or not. -/
theorem change_of_open (hOpen : keeper.record.isTerminal = false) :
    keeper.change host update world =
      let record := update (StatusTime.writeUtc (host.now world).1) keeper.record
      let written := write host record (host.now world).2
      (written.1.mapError fun cause => .file cause.message, { keeper with record }, written.2) := by
  rw [change, if_neg (by simp [hOpen])]

end StatusKeeper

/-- The status file of a job on a machine, and its draft. -/
structure StatusFiles (host : Host World) (directory : String) where
  files : World → FileTree
  /-- The draft is a file of its own: its name does not lead to the status file. -/
  apart : World → Prop
  now_apart {world : World} : apart world → apart (host.now world).2
  create_apart {world : World} : apart world → apart (host.create .draft world).2
  append_apart {world : World} (bytes : List UInt8) :
    apart world → apart (host.append .draft bytes world).2
  sync_apart {world : World} : apart world → apart (host.sync .draft world).2
  publish_apart {world : World} : apart world → apart (host.publish world).2
  create {world : World} :
    apart world → (host.create .draft world).1 = .ok () →
      JobFile.draft.content directory (files (host.create .draft world).2) = .ok []
  append {world : World} {held : List UInt8} (bytes : List UInt8) :
    apart world → JobFile.draft.content directory (files world) = .ok held →
      (host.append .draft bytes world).1 = .ok () →
        JobFile.draft.content directory (files (host.append .draft bytes world).2) =
          .ok (held ++ bytes)
  sync {world : World} {held : List UInt8} :
    apart world → JobFile.draft.content directory (files world) = .ok held →
      (host.sync .draft world).1 = .ok () →
        JobFile.draft.content directory (files (host.sync .draft world).2) = .ok held
  publish {world : World} {held : List UInt8} :
    apart world → JobFile.draft.content directory (files world) = .ok held →
      (host.publish world).1 = .ok () →
        JobFile.status.content directory (files (host.publish world).2) = .ok held
  /-- A publication that fails has not begun. -/
  publish_error {world : World} {cause : SystemError} :
    apart world → (host.publish world).1 = .error cause →
      JobFile.status.content directory (files (host.publish world).2) =
        JobFile.status.content directory (files world)
  now_status {world : World} :
    apart world → JobFile.status.content directory (files (host.now world).2) =
      JobFile.status.content directory (files world)
  create_status {world : World} :
    apart world → JobFile.status.content directory (files (host.create .draft world).2) =
      JobFile.status.content directory (files world)
  append_status {world : World} (bytes : List UInt8) :
    apart world → JobFile.status.content directory (files (host.append .draft bytes world).2) =
      JobFile.status.content directory (files world)
  sync_status {world : World} :
    apart world → JobFile.status.content directory (files (host.sync .draft world).2) =
      JobFile.status.content directory (files world)

namespace StatusFiles

variable {host : Host World} {directory : String} (disk : StatusFiles host directory)

/-- What is read from the status file. -/
def status (world : World) : Except SystemError (List UInt8) :=
  JobFile.status.content directory (disk.files world)

/-- What is read from the draft. -/
def draft (world : World) : Except SystemError (List UInt8) :=
  JobFile.draft.content directory (disk.files world)

/-- A draft that could be filled holds the record. -/
theorem draft_writeDraft {record : StatusRecord} {world after : World}
    (hApart : disk.apart world)
    (hFilled : StatusKeeper.writeDraft host record world = (.ok (), after)) :
    disk.apart after ∧ disk.draft after = .ok (Text.Utf8.encode record.render) := by
  rw [StatusKeeper.writeDraft] at hFilled
  have hCreated := disk.create hApart
  have hCreatedApart := disk.create_apart hApart
  split at hFilled
  · cases hFilled
  · rename_i created hCreate
    rw [hCreate] at hCreated hCreatedApart
    have hAppended :=
      disk.append (Text.Utf8.encode record.render) hCreatedApart (hCreated rfl)
    have hAppendedApart := disk.append_apart (Text.Utf8.encode record.render) hCreatedApart
    split at hFilled
    · cases hFilled
    · rename_i appended hAppend
      rw [hAppend] at hAppended hAppendedApart
      have hSynced := disk.sync hAppendedApart (hAppended rfl)
      have hSyncedApart := disk.sync_apart hAppendedApart
      rw [hFilled, List.nil_append] at hSynced
      rw [hFilled] at hSyncedApart
      exact ⟨hSyncedApart, hSynced rfl⟩

/-- A record that could be written is the one that is read. -/
theorem status_write {record : StatusRecord} {world after : World}
    (hApart : disk.apart world)
    (hWritten : StatusKeeper.write host record world = (.ok (), after)) :
    disk.status after = StatusRecord.written (some record) := by
  rw [StatusKeeper.write] at hWritten
  split at hWritten
  · cases hWritten
  · rename_i filled hFilled
    obtain ⟨hFilledApart, hDraft⟩ := disk.draft_writeDraft hApart hFilled
    have hPublished := disk.publish hFilledApart hDraft
    rw [hWritten] at hPublished
    exact hPublished rfl

/-- Filling the draft leaves the status file alone, whether it succeeds or not. -/
theorem status_writeDraft (record : StatusRecord) {world : World} (hApart : disk.apart world) :
    disk.apart (StatusKeeper.writeDraft host record world).2 ∧
      disk.status (StatusKeeper.writeDraft host record world).2 = disk.status world := by
  have hCreatedApart := disk.create_apart hApart
  have hCreatedStatus := disk.create_status hApart
  rw [StatusKeeper.writeDraft]
  split
  · rename_i created hCreate
    rw [hCreate] at hCreatedApart hCreatedStatus
    exact ⟨hCreatedApart, hCreatedStatus⟩
  · rename_i created hCreate
    rw [hCreate] at hCreatedApart hCreatedStatus
    have hAppendedApart := disk.append_apart (Text.Utf8.encode record.render) hCreatedApart
    have hAppendedStatus := disk.append_status (Text.Utf8.encode record.render) hCreatedApart
    split
    · rename_i appended hAppend
      rw [hAppend] at hAppendedApart hAppendedStatus
      exact ⟨hAppendedApart, hAppendedStatus.trans hCreatedStatus⟩
    · rename_i appended hAppend
      rw [hAppend] at hAppendedApart hAppendedStatus
      exact ⟨disk.sync_apart hAppendedApart,
        (disk.sync_status hAppendedApart).trans (hAppendedStatus.trans hCreatedStatus)⟩

theorem apart_write (record : StatusRecord) {world : World} (hApart : disk.apart world) :
    disk.apart (StatusKeeper.write host record world).2 := by
  obtain ⟨hFilledApart, -⟩ := disk.status_writeDraft record hApart
  rw [StatusKeeper.write]
  split
  · rename_i filled hFilled
    rwa [hFilled] at hFilledApart
  · rename_i filled hFilled
    rw [hFilled] at hFilledApart
    exact disk.publish_apart hFilledApart

/-- A record that could not be written has left the status file as it was. -/
theorem status_write_of_error {record : StatusRecord} {world after : World} {cause : SystemError}
    (hApart : disk.apart world)
    (hFailed : StatusKeeper.write host record world = (.error cause, after)) :
    disk.status after = disk.status world := by
  obtain ⟨hFilledApart, hFilledStatus⟩ := disk.status_writeDraft record hApart
  rw [StatusKeeper.write] at hFailed
  split at hFailed
  · rename_i filled hFilled
    rw [hFilled] at hFilledStatus
    cases hFailed
    exact hFilledStatus
  · rename_i filled hFilled
    rw [hFilled] at hFilledApart hFilledStatus
    have hRefused : (host.publish filled).1 = .error cause := by rw [hFailed]
    have hPublished := disk.publish_error hFilledApart hRefused
    rw [hFailed] at hPublished
    exact hPublished.trans hFilledStatus

end StatusFiles

/-! ## A small machine -/

/-- A machine with one job directory, on which only publishing can fail. -/
structure Bench where
  status : Option (List UInt8) := none
  draft : Option (List UInt8) := none
  /-- Whether the next publications are refused. -/
  refusals : List Bool := []
  /-- Whether the command of the job is running. -/
  running : Bool := false
  /-- Which of the drains go on next; then it is always that of `out`. -/
  turns : List Stream := []

namespace Bench

/-- The job's directory. -/
def directory : String := "/jobs/1"

/-- A file with some bytes, if it exists. -/
def entry (file : JobFile) (content : Option (List UInt8)) :
    List (FileTree.Place × FileNode) :=
  (content.map fun bytes => (["jobs", "1", file.name], FileNode.file bytes)).toList

def files (bench : Bench) : FileTree where
  nodes := (["jobs"], .directory) :: (["jobs", "1"], .directory) ::
    (entry .status bench.status ++ entry .draft bench.draft)

/-- Let the draft take the place of the status file, unless that is refused. -/
def publish (bench : Bench) : Except SystemError Unit × Bench :=
  match bench.refusals, bench.draft with
  | true :: rest, _ => (.error .noSpace, { bench with refusals := rest })
  | _, none => (.error .notFound, { bench with refusals := bench.refusals.tail })
  | _, some bytes =>
    (.ok (), { bench with status := some bytes, draft := none, refusals := bench.refusals.tail })

/-- The machine as the host of its job. Its clock stands still, and its command says nothing and
exits with code 0. -/
def host : Host Bench where
  self := 1000
  now bench := (.epoch, bench)
  create file bench := (.ok (), if file = .draft then { bench with draft := some [] } else bench)
  openLog _ bench := (.ok (), bench)
  append file bytes bench :=
    (.ok (), if file = .draft then { bench with draft := bench.draft.map (· ++ bytes) } else bench)
  sync _ bench := (.ok (), bench)
  publish := publish
  spawn _ bench := (.ok 1001, { bench with running := true })
  readStream _ _ bench := (([], none), bench)
  turn bench := (bench.turns.headD .out, { bench with turns := bench.turns.tail })
  leave _ _ bench := bench
  kill _ bench := (.ok (), { bench with running := false })
  wait _ bench := (.ok (.exited 0), { bench with running := false })

/-- What is read from a file with some bytes, or from none. -/
def reading : Option (List UInt8) → Except SystemError (List UInt8)
  | none => .error .notFound
  | some bytes => .ok bytes

theorem content_of_resolve {bench : Bench} {file : JobFile} (content : Option (List UInt8))
    (hResolve : bench.files.resolve (Path.join directory file.name) =
      .ok ⟨["jobs", "1", file.name], content.map .file⟩) :
    file.content directory bench.files = reading content := by
  rw [JobFile.content, FileTree.read, hResolve]
  cases content <;> rfl

theorem content_status (bench : Bench) :
    JobFile.status.content directory bench.files = reading bench.status := by
  obtain ⟨status, draft, refusals, running, turns⟩ := bench
  refine content_of_resolve status ?_
  cases status <;> cases draft <;> rfl

theorem content_draft (bench : Bench) :
    JobFile.draft.content directory bench.files = reading bench.draft := by
  obtain ⟨status, draft, refusals, running, turns⟩ := bench
  refine content_of_resolve draft ?_
  cases status <;> cases draft <;> rfl

/-- Publishing either hands the draft over or leaves both files alone. -/
theorem publish_cases (bench : Bench) :
    (∃ bytes, bench.draft = some bytes ∧ bench.publish.1 = .ok () ∧
        bench.publish.2.status = some bytes) ∨
      ∃ cause, bench.publish.1 = .error cause ∧ bench.publish.2.status = bench.status := by
  unfold publish
  split
  · exact .inr ⟨_, rfl, rfl⟩
  · exact .inr ⟨_, rfl, rfl⟩
  · rename_i bytes hDraft _
    exact .inl ⟨bytes, hDraft, rfl, rfl⟩

/-- The status file of the small machine. There are no links on it. -/
def disk : StatusFiles host directory where
  files := files
  apart _ := True
  now_apart _ := trivial
  create_apart _ := trivial
  append_apart _ _ := trivial
  sync_apart _ := trivial
  publish_apart _ := trivial
  create _ _ := by rw [content_draft]; rfl
  append {bench held} bytes _ hHeld _ := by
    rw [content_draft] at hHeld ⊢
    cases hDraft : bench.draft <;> simp_all [host, reading]
  sync _ hHeld _ := hHeld
  publish {bench held} _ hHeld hDone := by
    rw [content_draft] at hHeld
    rw [content_status]
    rcases bench.publish_cases with ⟨bytes, hDraft, -, hStatus⟩ | ⟨cause, hFailed, -⟩
    · rw [hDraft] at hHeld
      obtain rfl := Except.ok.inj hHeld
      exact congrArg reading hStatus
    · cases hFailed.symm.trans hDone
  publish_error {bench cause} _ hFailed := by
    rw [content_status, content_status]
    rcases bench.publish_cases with ⟨_, -, hDone, -⟩ | ⟨_, -, hStatus⟩
    · cases hDone.symm.trans hFailed
    · exact congrArg reading hStatus
  now_status _ := rfl
  create_status _ := by rw [content_status, content_status]; rfl
  append_status _ _ := by rw [content_status, content_status]; rfl
  sync_status _ := rfl

end Bench

end PgConsole.Job
