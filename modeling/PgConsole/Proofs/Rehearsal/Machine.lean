import PgConsole.Proofs.FileTree
import PgConsole.Proofs.Job.StatusFile
import PgConsole.Rehearsal.Machine

namespace PgConsole.Rehearsal.Machine

/-!
# The status file on a rehearsal machine

A rehearsal machine keeps what has been appended last apart from its files.  Seen through
`files`, appending adds bytes to one file and leaves everything else alone.  It follows that the
machine serves every job whose draft and status file are two different files, neither of them
behind a link (`statusFiles`).
-/

open Job FileTree

/-! ## Files and what has been appended to them -/

theorem files_of_recent {machine : Machine} {disk : FileTree} {place : Place}
    {bytes content : List UInt8} (hDisk : machine.disk = disk)
    (hRecent : machine.recent = some (place, bytes))
    (hFile : disk.at? place = some (.file content)) :
    machine.files = disk.put place (.file (content ++ bytes.reverse)) := by
  subst hDisk
  rw [files, hRecent]
  simp only [hFile]

/-- All that the files can be: the disk, or the disk with one file that has been appended to. -/
theorem files_cases (machine : Machine) :
    machine.files = machine.disk ∨
      ∃ last recent content, machine.recent = some (last, recent) ∧
        machine.disk.at? last = some (.file content) ∧
        machine.files = machine.disk.put last (.file (content ++ recent.reverse)) := by
  unfold files
  split
  · exact .inl rfl
  · rename_i last recent hRecent
    split
    · rename_i content hFile
      exact .inr ⟨last, recent, content, hRecent, hFile, rfl⟩
    · exact .inl rfl

theorem sameWays_files (machine : Machine) : SameWays machine.disk machine.files := by
  rcases machine.files_cases with hFiles | ⟨last, recent, content, -, hFile, hFiles⟩
  · rw [hFiles]
    exact .refl _
  · rw [hFiles]
    exact (OnlyAt.put (by rw [hFile]; rfl) _).sameWays

section

variable {machine : Machine} {place : Place}

theorem appendAt_of_recent {recent : List UInt8} (hRecent : machine.recent = some (place, recent))
    (bytes : List UInt8) :
    machine.appendAt place bytes =
      { machine with recent := some (place, bytes.reverseAux recent) } := by
  simp only [appendAt, hRecent, if_true]

theorem appendAt_of_not_recent (hNot : ∀ recent, machine.recent ≠ some (place, recent))
    (bytes : List UInt8) :
    machine.appendAt place bytes =
      { machine with disk := machine.files, recent := some (place, bytes.reverse) } := by
  cases hRecent : machine.recent with
  | none => simp only [appendAt, files, hRecent]
  | some latest =>
      obtain ⟨last, recent⟩ := latest
      have hLast : last ≠ place := by
        rintro rfl
        exact hNot recent hRecent
      simp only [appendAt, hRecent, hLast, if_false, setFiles]

theorem at?_files_of_not_recent (hNot : ∀ recent, machine.recent ≠ some (place, recent)) :
    machine.files.at? place = machine.disk.at? place := by
  rcases machine.files_cases with hFiles | ⟨last, recent, content, hRecent, hFile, hFiles⟩
  · rw [hFiles]
  · have hLast : place ≠ last := by
      rintro rfl
      exact hNot recent hRecent
    rw [hFiles, at?_put (ne_nil_of_isLeaf (by rw [hFile]; rfl)), if_neg hLast]

/-- What is not on the disk has not been appended to. -/
theorem at?_files_of_none (hNone : machine.disk.at? place = none) :
    machine.files.at? place = none := by
  rcases machine.files_cases with hFiles | ⟨last, recent, content, -, hFile, hFiles⟩
  · rw [hFiles, hNone]
  · have hLast : place ≠ last := by
      rintro rfl
      cases hNone.symm.trans hFile
    rw [hFiles, at?_put (ne_nil_of_isLeaf (by rw [hFile]; rfl)), if_neg hLast, hNone]

/-- Appending adds bytes to the file at a place. -/
theorem at?_files_appendAt {start : List UInt8}
    (hFile : machine.disk.at? place = some (.file start)) (bytes : List UInt8) :
    ∃ content, machine.files.at? place = some (.file content) ∧
      ∀ other, (machine.appendAt place bytes).files.at? other =
        if other = place then some (.file (content ++ bytes)) else machine.files.at? other := by
  have hPlace : place ≠ [] := ne_nil_of_isLeaf (by rw [hFile]; rfl)
  by_cases hRecent : ∃ recent, machine.recent = some (place, recent)
  · obtain ⟨recent, hRecent⟩ := hRecent
    have hFiles := files_of_recent rfl hRecent hFile
    have hAfter : (machine.appendAt place bytes).files =
        machine.disk.put place (.file (start ++ (bytes.reverseAux recent).reverse)) :=
      files_of_recent (by rw [appendAt_of_recent hRecent]) (by rw [appendAt_of_recent hRecent])
        hFile
    refine ⟨start ++ recent.reverse, by rw [hFiles, at?_put hPlace, if_pos rfl], fun other => ?_⟩
    rw [hAfter, hFiles, at?_put hPlace, at?_put hPlace]
    by_cases hOther : other = place <;> simp [hOther, List.reverseAux_eq]
  · have hNot := not_exists.mp hRecent
    have hSame := (at?_files_of_not_recent hNot).trans hFile
    have hAfter : (machine.appendAt place bytes).files =
        machine.files.put place (.file (start ++ bytes.reverse.reverse)) :=
      files_of_recent (by rw [appendAt_of_not_recent hNot]) (by rw [appendAt_of_not_recent hNot])
        hSame
    refine ⟨start, hSame, fun other => ?_⟩
    rw [hAfter, at?_put hPlace, List.reverse_reverse]

end

/-! ## The draft and the status file -/

/-- The draft and the status file of a job are two different files. -/
def Apart (directory : String) (machine : Machine) (draft status : Place) : Prop :=
  draft ≠ status ∧
    machine.files.LeadsTo (Path.join directory JobFile.draft.name) draft ∧
    machine.files.LeadsTo (Path.join directory JobFile.status.name) status

section

variable {directory : String} {machine after : Machine} {draft status : Place}

theorem Apart.of_sameWays (h : Apart directory machine draft status)
    (hSame : SameWays machine.files after.files) : Apart directory after draft status :=
  ⟨h.1, h.2.1.of_sameWays hSame, h.2.2.of_sameWays hSame⟩

/-- The status file is not touched by a change of the draft. -/
theorem Apart.status_of_onlyAt (h : Apart directory machine draft status)
    (hOnly : OnlyAt draft machine.files after.files) :
    JobFile.status.content directory after.files = JobFile.status.content directory machine.files :=
  h.2.2.read_congr (h.of_sameWays hOnly.sameWays).2.2 (hOnly.elsewhere h.1.symm)

variable (self : UInt32)

theorem create_draft (h : Apart directory machine draft status) :
    OnlyAt draft machine.files ((host directory self).create .draft machine).2.files ∧
      (((host directory self).create .draft machine).1 = .ok () →
        ((host directory self).create .draft machine).2.files.at? draft = some (.file [])) := by
  have hLeaf := h.2.1.leaf
  simp only [host]
  rcases h.2.1.openForWriting_cases with hOpened | hFailed
  · rw [hOpened]
    refine ⟨OnlyAt.put hLeaf [], fun _ => ?_⟩
    exact (at?_put (ne_nil_of_isLeaf hLeaf) _ _ _).trans (if_pos rfl)
  · rw [hFailed]
    exact ⟨OnlyAt.refl hLeaf, nofun⟩

theorem append_draft (h : Apart directory machine draft status) (bytes : List UInt8) :
    OnlyAt draft machine.files ((host directory self).append .draft bytes machine).2.files ∧
      ∀ held, machine.files.at? draft = some (.file held) →
        ((host directory self).append .draft bytes machine).2.files.at? draft =
          some (.file (held ++ bytes)) := by
  have hLeaf := h.2.1.leaf
  have hDisk : machine.disk.LeadsTo (Path.join directory JobFile.draft.name) draft :=
    h.2.1.of_sameWays machine.sameWays_files.symm
  have hResolve : machine.disk.resolve (Path.join directory JobFile.draft.name) =
      .ok ⟨draft, machine.disk.at? draft⟩ := hDisk.resolve true
  simp only [host, hResolve]
  rcases hDisk.file_or_none with hNone | ⟨start, hFile⟩
  · have hMissing := at?_files_of_none hNone
    have hPath : machine.files.resolve (Path.join directory JobFile.draft.name) =
        .ok ⟨draft, none⟩ := (h.2.1.resolve true).trans (by rw [hMissing])
    simp only [hNone, onFile, hPath]
    refine ⟨OnlyAt.refl hLeaf, fun held hHeld => ?_⟩
    cases hMissing.symm.trans hHeld
  · simp only [hFile]
    obtain ⟨content, hContent, hAfter⟩ := at?_files_appendAt hFile bytes
    refine ⟨⟨hLeaf, ?_, fun hOther => (hAfter _).trans (if_neg hOther)⟩, ?_⟩
    · rw [hAfter, if_pos rfl]
      rfl
    · intro held hHeld
      obtain rfl := FileNode.file.inj (Option.some.inj (hContent.symm.trans hHeld))
      rw [hAfter, if_pos rfl]

theorem sync_draft (h : Apart directory machine draft status) :
    ((host directory self).sync .draft machine).2.files = machine.files := by
  simp only [host, onFile, resolve, h.2.1.resolve true]
  rcases h.2.1.file_or_none with hNone | ⟨held, hFile⟩
  · simp only [hNone]
  · simp only [hFile, FileTree.sync]
    rfl

/-- Publishing moves the draft to the place of the status file, unless there is no draft. -/
theorem publish_draft (h : Apart directory machine draft status) :
    (∃ held, machine.files.at? draft = some (.file held) ∧
        ((host directory self).publish machine).1 = .ok () ∧
        SameWays machine.files ((host directory self).publish machine).2.files ∧
        ((host directory self).publish machine).2.files.at? status = some (.file held)) ∨
      (host directory self).publish machine = (.error .notFound, machine) := by
  simp only [host]
  rcases h.2.1.rename_cases h.2.2 with ⟨held, hHeld, hRenamed⟩ | hFailed
  · have hRemoved := OnlyAt.remove h.2.1.leaf
    have hPut := OnlyAt.put (hRemoved.sameWays.isLeaf_at? h.2.2.leaf) held
    refine .inl ⟨held, hHeld, ?_⟩
    rw [hRenamed]
    refine ⟨rfl, hRemoved.sameWays.trans hPut.sameWays, ?_⟩
    exact (at?_put (ne_nil_of_isLeaf h.2.2.leaf) _ _ _).trans (if_pos rfl)
  · rw [hFailed]
    exact .inr rfl

end

/-- The status file of a job on a rehearsal machine. -/
def statusFiles (directory : String) (self : UInt32) :
    StatusFiles (host directory self) directory where
  files := files
  apart machine := ∃ draft status, Apart directory machine draft status
  now_apart h := h
  create_apart := by
    rintro machine ⟨draft, status, h⟩
    exact ⟨draft, status, h.of_sameWays (create_draft self h).1.sameWays⟩
  append_apart := by
    rintro machine bytes ⟨draft, status, h⟩
    exact ⟨draft, status, h.of_sameWays (append_draft self h bytes).1.sameWays⟩
  sync_apart := by
    rintro machine ⟨draft, status, h⟩
    refine ⟨draft, status, h.of_sameWays ?_⟩
    rw [sync_draft self h]
    exact .refl _
  publish_apart := by
    rintro machine ⟨draft, status, h⟩
    rcases publish_draft self h with ⟨_, -, -, hSame, -⟩ | hFailed
    · exact ⟨draft, status, h.of_sameWays hSame⟩
    · rw [hFailed]
      exact ⟨draft, status, h⟩
  create := by
    rintro machine ⟨draft, status, h⟩ hDone
    obtain ⟨hOnly, hEmpty⟩ := create_draft self h
    exact (h.of_sameWays hOnly.sameWays).2.1.read_eq_ok_iff.mpr (hEmpty hDone)
  append := by
    rintro machine held bytes ⟨draft, status, h⟩ hHeld -
    obtain ⟨hOnly, hLonger⟩ := append_draft self h bytes
    exact (h.of_sameWays hOnly.sameWays).2.1.read_eq_ok_iff.mpr
      (hLonger held (h.2.1.read_eq_ok_iff.mp hHeld))
  sync := by
    rintro machine held ⟨draft, status, h⟩ hHeld -
    rwa [sync_draft self h]
  publish := by
    rintro machine held ⟨draft, status, h⟩ hHeld hDone
    rcases publish_draft self h with ⟨content, hDraft, -, hSame, hStatus⟩ | hFailed
    · have hContent : content = held := by
        simpa using hDraft.symm.trans (h.2.1.read_eq_ok_iff.mp hHeld)
      rw [hContent] at hStatus
      exact (h.of_sameWays hSame).2.2.read_eq_ok_iff.mpr hStatus
    · rw [hFailed] at hDone
      cases hDone
  publish_error := by
    rintro machine cause ⟨draft, status, h⟩ hError
    rcases publish_draft self h with ⟨_, -, hDone, -⟩ | hFailed
    · cases hDone.symm.trans hError
    · rw [hFailed]
  now_status _ := rfl
  create_status := by
    rintro machine ⟨draft, status, h⟩
    exact h.status_of_onlyAt (create_draft self h).1
  append_status := by
    rintro machine bytes ⟨draft, status, h⟩
    exact h.status_of_onlyAt (append_draft self h bytes).1
  sync_status := by
    rintro machine ⟨draft, status, h⟩
    rw [sync_draft self h]

end PgConsole.Rehearsal.Machine
