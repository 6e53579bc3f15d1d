import PgConsole.Job.Background
import PgConsole.Proofs.Job.StreamLog
import PgConsole.Rehearsal.Machine

namespace PgConsole.Job

/-!
# Every captured line is polled once

A log is polled while it grows: each poll goes on at the offset that the one before has answered,
and what it finds of the log may end anywhere, in the middle of a stamp or of a character.
`BackgroundJob.output_of_shows` says what one poll answers: the records that have become complete
since the poll before it, and the offset behind the last of them.  `BackgroundJob.follow_eq` says
it of any number of polls.

Together with the records that a drain leaves in its log, this accounts for every line of a
stream: none is lost, none is answered twice, and none is answered in part.
-/

namespace Chunk

/-- The answer of a poll that finds `last` records complete, when `first` of them have been
answered before. -/
def between (records : List (List UInt8)) (first last : Nat) : Chunk :=
  ⟨((records.take last).drop first).filterMap OutputLine.parse?,
    (records.take last).flatten.length⟩

/-- The answers of polls that find more and more complete records. -/
def series (records : List (List UInt8)) (first : Nat) (ends : List Nat) : List Chunk :=
  List.zipWith (between records) (first :: ends) ends

theorem series_cons (records : List (List UInt8)) (first last : Nat) (ends : List Nat) :
    series records first (last :: ends) = between records first last :: series records last ends :=
  rfl

section

variable {records : List (List UInt8)} {first last : Nat} {ends : List Nat}

theorem take_append_window (hOrder : first ≤ last) :
    records.take first ++ (records.take last).drop first = records.take last := by
  have hFirst : records.take first = (records.take last).take first := by
    rw [List.take_take, Nat.min_eq_left hOrder]
  rw [hFirst, List.take_append_drop]

theorem length_flatten_take_le (hOrder : first ≤ last) :
    (records.take first).flatten.length ≤ (records.take last).flatten.length := by
  rw [← take_append_window hOrder, List.flatten_append, List.length_append]
  exact Nat.le_add_right _ _

/-- Together, the polls answer each record once. -/
theorem lines_series (hOrder : (first :: ends).Pairwise (· ≤ ·)) :
    (records.take first).filterMap OutputLine.parse? ++
        (series records first ends).flatMap Chunk.lines =
      (records.take (ends.getLastD first)).filterMap OutputLine.parse? := by
  induction ends generalizing first with
  | nil => simp [series]
  | cons last ends ih =>
      obtain ⟨hFirst, hRest⟩ := List.pairwise_cons.mp hOrder
      rw [series_cons, List.flatMap_cons, ← List.append_assoc, between, ← List.filterMap_append,
        take_append_window (hFirst last List.mem_cons_self), ih hRest, List.getLastD_cons]

theorem next_series :
    (series records first ends).map Chunk.next =
      ends.map fun last => (records.take last).flatten.length := by
  induction ends generalizing first with
  | nil => rfl
  | cons last ends ih => rw [series_cons, List.map_cons, List.map_cons, ih, between]

theorem take_series (count : Nat) :
    (series records first ends).take count = series records first (ends.take count) := by
  induction ends generalizing first count with
  | nil => simp [series]
  | cons last ends ih =>
      cases count with
      | zero => rfl
      | succ count => rw [series_cons, List.take_succ_cons, List.take_succ_cons, series_cons, ih]

/-- Polls from the start answer the records that the last of them finds complete. -/
theorem lines_series_zero (hOrder : (0 :: ends).Pairwise (· ≤ ·)) :
    (series records 0 ends).flatMap Chunk.lines =
      (records.take (ends.getLastD 0)).filterMap OutputLine.parse? := by
  rw [← lines_series hOrder, List.take_zero, List.filterMap_nil, List.nil_append]

/-- Up to any of the polls, the records have been answered that it finds complete. -/
theorem lines_take_series (hOrder : (0 :: ends).Pairwise (· ≤ ·)) {place : Nat}
    (hPlace : ends[place]? = some last) :
    ((series records 0 ends).take (place + 1)).flatMap Chunk.lines =
      (records.take last).filterMap OutputLine.parse? := by
  have hTaken : (0 :: ends.take (place + 1)).Pairwise (· ≤ ·) :=
    hOrder.sublist ((List.take_sublist _ _).cons_cons 0)
  have hLast : (ends.take (place + 1)).getLastD 0 = last := by
    rw [List.getLastD_eq_getLast?, List.getLast?_take]
    simp [hPlace]
  rw [take_series, lines_series_zero hTaken, hLast]

/-- The offsets that polls answer never go back. -/
theorem pairwise_next_series (hOrder : (first :: ends).Pairwise (· ≤ ·)) :
    (0 :: (series records first ends).map Chunk.next).Pairwise (· ≤ ·) := by
  rw [next_series, List.pairwise_cons, List.pairwise_map]
  exact ⟨fun _ _ => Nat.zero_le _, (List.pairwise_cons.mp hOrder).2.imp length_flatten_take_le⟩

end

end Chunk

/-! ## One poll -/

namespace BackgroundJob

/-- Where the log of a stream is. -/
def logPath (job : BackgroundJob) (stream : Stream) : String :=
  Path.join job.directory (JobFile.log stream).name

/-- What files show of a log: nothing while it does not exist, and else the bytes of a file.  No
file is longer than the offsets reach. -/
inductive Shows (job : BackgroundJob) (stream : Stream) (files : FileTree) : List UInt8 → Prop
  | missing (hMissing : files.readFrom (job.logPath stream) 0 = .error .notFound) :
      Shows job stream files []
  | file {place : FileTree.Place} {content : List UInt8}
      (hFile : files.resolve (job.logPath stream) = .ok ⟨place, some (.file content)⟩)
      (hLength : content.length < FileTree.offsetLimit) : Shows job stream files content

variable {job : BackgroundJob} {stream : Stream}

theorem output_of_missing {files : FileTree} {offset : Nat}
    (hRead : files.readFrom (job.logPath stream) offset = .error .notFound) :
    job.output stream offset files = .ok ⟨[], offset⟩ := by
  rw [logPath] at hRead
  -- not by its equation, which takes long to generate
  delta output
  rw [hRead]
  rfl

theorem output_of_readFrom {files : FileTree} {offset : Nat} {rest : List UInt8}
    (hRead : files.readFrom (job.logPath stream) offset = .ok rest) :
    job.output stream offset files = .ok (Chunk.ofRest offset rest) := by
  rw [logPath] at hRead
  delta output
  rw [hRead]

/-- A poll answers the records that have become complete, and goes on behind them. -/
theorem output_of_shows {records : List (List UInt8)} {files : FileTree} {log : List UInt8}
    {first : Nat} (hEnded : ∀ record ∈ records, Terminated record)
    (hShows : job.Shows stream files log) (hPrefix : log <+: records.flatten)
    (hFirst : first ≤ log.count lineFeed) :
    job.output stream (records.take first).flatten.length files =
      .ok (Chunk.between records first (log.count lineFeed)) := by
  cases hShows with
  | missing hMissing =>
      obtain rfl : first = 0 := Nat.le_zero.mp hFirst
      exact output_of_missing hMissing
  | file hFile hLength =>
      obtain ⟨tail, hSplits⟩ := splits_of_isPrefix hEnded hPrefix
      have hTake : (records.take (log.count lineFeed)).take first = records.take first := by
        rw [List.take_take, Nat.min_eq_left hFirst]
      have hWindow : records.take first ++ (records.take (log.count lineFeed)).drop first =
          records.take (log.count lineFeed) := Chunk.take_append_window hFirst
      have hWithin : (records.take first).flatten.length ≤ log.length :=
        Nat.le_trans (Chunk.length_flatten_take_le hFirst) hSplits.length_flatten_le
      have hRest := hSplits.drop first
      rw [hTake] at hRest
      have hRead : files.readFrom (job.logPath stream) (records.take first).flatten.length =
          .ok (log.drop (records.take first).flatten.length) := by
        rw [FileTree.readFrom, hFile]
        exact if_pos (Nat.lt_of_le_of_lt hWithin hLength)
      rw [output_of_readFrom hRead, hRest.ofRest_eq]
      rw [← List.length_append, ← List.flatten_append, hWindow, Chunk.between]

/-! ## Polls of a growing log -/

/-- Poll a stream once for each state of the files, the first time from an offset and then from
where the poll before has ended. -/
def follow (job : BackgroundJob) (stream : Stream) :
    Nat → List FileTree → Except Error (List Chunk)
  | _, [] => .ok []
  | offset, files :: rest =>
    (job.output stream offset files).bind fun chunk =>
      (job.follow stream chunk.next rest).map (chunk :: ·)

theorem follow_of_output {offset : Nat} {files : FileTree} {chunk : Chunk}
    (hPoll : job.output stream offset files = .ok chunk) (rest : List FileTree) :
    job.follow stream offset (files :: rest) =
      (job.follow stream chunk.next rest).map (chunk :: ·) := by
  rw [follow, hPoll]
  rfl

/-- What a poll finds: the files, and the bytes that the log has in them. -/
structure View where
  files : FileTree
  log : List UInt8

/-- The number of lines that end in the log. -/
def View.ended (view : View) : Nat := view.log.count lineFeed

/-- Polls that find a log while it is written: it only grows, and the last poll finds all of
it. -/
structure Growth (job : BackgroundJob) (stream : Stream) (views : List View)
    (final : List UInt8) : Prop where
  visible : ∀ view ∈ views, job.Shows stream view.files view.log
  grows : views.Pairwise fun earlier later => earlier.log <+: later.log
  finished : views.getLast?.map View.log = some final

/-- Every poll answers the records that have become complete since the poll before it. -/
theorem follow_eq {records : List (List UInt8)} {views : List View} {first : Nat}
    (hEnded : ∀ record ∈ records, Terminated record)
    (hVisible : ∀ view ∈ views, job.Shows stream view.files view.log)
    (hPrefix : ∀ view ∈ views, view.log <+: records.flatten)
    (hOrder : (first :: views.map View.ended).Pairwise (· ≤ ·)) :
    job.follow stream (records.take first).flatten.length (views.map View.files) =
      .ok (Chunk.series records first (views.map View.ended)) := by
  induction views generalizing first with
  | nil => rfl
  | cons view views ih =>
      rw [List.forall_mem_cons] at hVisible hPrefix
      obtain ⟨hFirst, hRest⟩ := List.pairwise_cons.mp hOrder
      have hPoll : job.output stream (records.take first).flatten.length view.files =
          .ok (Chunk.between records first view.ended) :=
        output_of_shows hEnded hVisible.1 hPrefix.1 (hFirst view.ended List.mem_cons_self)
      have hLater : job.follow stream (Chunk.between records first view.ended).next
          (views.map View.files) = .ok (Chunk.series records view.ended (views.map View.ended)) :=
        ih hVisible.2 hPrefix.2 hRest
      rw [List.map_cons, follow_of_output hPoll, hLater]
      rfl

namespace Growth

variable {views : List View} {final : List UInt8}

/-- What a poll finds of the log is a beginning of it. -/
theorem log_isPrefix (h : job.Growth stream views final) :
    ∀ view ∈ views, view.log <+: final := by
  have hGrows := h.grows
  have hLast := h.finished
  rcases List.eq_nil_or_concat views with rfl | ⟨earlier, last, rfl⟩
  · cases hLast
  · rw [List.concat_eq_append] at hGrows hLast ⊢
    obtain rfl : last.log = final := by simpa using hLast
    intro view hView
    rcases List.mem_append.mp hView with hEarlier | hLater
    · exact (List.pairwise_append.mp hGrows).2.2 view hEarlier last List.mem_cons_self
    · obtain rfl : view = last := List.mem_singleton.mp hLater
      exact List.prefix_rfl

theorem pairwise_ended (h : job.Growth stream views final) :
    (0 :: views.map View.ended).Pairwise (· ≤ ·) := by
  rw [List.pairwise_cons, List.pairwise_map]
  exact ⟨fun _ _ => Nat.zero_le _, h.grows.imp fun hPrefix => hPrefix.sublist.count_le lineFeed⟩

end Growth

/-! ## Polls of a log of records -/

section

variable {records : List (List UInt8)} {views : List View}

theorem count_flatten (hEnded : ∀ record ∈ records, Terminated record) :
    records.flatten.count lineFeed = records.length :=
  (splits_flatten hEnded).count_eq

/-- One poll of the finished log answers all of its records. -/
theorem output_finished (hEnded : ∀ record ∈ records, Terminated record) {files : FileTree}
    (hShows : job.Shows stream files records.flatten) :
    job.output stream 0 files =
      .ok ⟨records.filterMap OutputLine.parse?, records.flatten.length⟩ := by
  have hPoll := output_of_shows hEnded hShows List.prefix_rfl (Nat.zero_le _)
  rw [count_flatten hEnded] at hPoll
  simpa [Chunk.between] using hPoll

theorem Growth.follow_eq (hEnded : ∀ record ∈ records, Terminated record)
    (h : job.Growth stream views records.flatten) :
    job.follow stream 0 (views.map View.files) =
      .ok (Chunk.series records 0 (views.map View.ended)) := by
  have hFollow := BackgroundJob.follow_eq hEnded h.visible h.log_isPrefix h.pairwise_ended
  simpa using hFollow

/-- The polls answer all records in the end. -/
theorem Growth.lines_eq (hEnded : ∀ record ∈ records, Terminated record)
    (h : job.Growth stream views records.flatten) :
    (Chunk.series records 0 (views.map View.ended)).flatMap Chunk.lines =
      records.filterMap OutputLine.parse? := by
  have hLast : (views.map View.ended).getLastD 0 = records.length := by
    obtain ⟨last, hSome, hLog⟩ := Option.map_eq_some_iff.mp h.finished
    rw [List.getLastD_eq_getLast?, List.getLast?_map, hSome, Option.map_some, Option.getD_some,
      View.ended, hLog, count_flatten hEnded]
  rw [Chunk.lines_series_zero h.pairwise_ended, hLast, List.take_length]

/-- The offset that a poll answers stands behind the records that it finds complete, and so
within the file. -/
theorem Growth.next_eq (hEnded : ∀ record ∈ records, Terminated record)
    (h : job.Growth stream views records.flatten) {place : Nat} {view : View}
    (hView : views[place]? = some view) :
    ∃ chunk, (Chunk.series records 0 (views.map View.ended))[place]? = some chunk ∧
      chunk.next = (records.take view.ended).flatten.length ∧ chunk.next ≤ view.log.length := by
  have hNext : (Chunk.series records 0 (views.map View.ended))[place]?.map Chunk.next =
      some (records.take view.ended).flatten.length := by
    rw [← List.getElem?_map, Chunk.next_series, List.getElem?_map, List.getElem?_map, hView]
    rfl
  obtain ⟨chunk, hChunk, hOffset⟩ := Option.map_eq_some_iff.mp hNext
  obtain ⟨tail, hSplits⟩ :=
    splits_of_isPrefix hEnded (h.log_isPrefix view (List.mem_of_getElem? hView))
  exact ⟨chunk, hChunk, hOffset, hOffset ▸ hSplits.length_flatten_le⟩

end

end BackgroundJob

/-! ## Drained and polled -/

theorem map_some_filterMap_parse? {records : List (List UInt8)}
    (hReadable : ∀ record ∈ records, (OutputLine.parse? record).isSome = true) :
    (records.filterMap OutputLine.parse?).map some = records.map OutputLine.parse? := by
  induction records with
  | nil => rfl
  | cons record records ih =>
      rw [List.forall_mem_cons] at hReadable
      obtain ⟨line, hLine⟩ := Option.isSome_iff_exists.mp hReadable.1
      rw [List.filterMap_cons_some hLine, List.map_cons, List.map_cons, ih hReadable.2, hLine]

open BackgroundJob in
/-- Whoever follows the log of a drained stream gets every line of the stream once: the polls
answer as many lines as the drain has counted, each read from its own record, and all of them
together answer what one poll of the finished log does.  After every poll, exactly the records
that are complete in the file have been answered, and the next poll starts behind the last of
them. -/
theorem LogFile.every_line_polled_once {World : Type} {host : Host World} {stream : Stream}
    (log : LogFile host stream) {bytes : List UInt8} {before after : World} {count : Nat}
    (hEmpty : log.content before = some [])
    (hDrained : StreamLog.drain host stream bytes before = (.ok count, after)) :
    count = lineCount bytes ∧
      ∃ (clock : Nat → Moment) (records : List (List UInt8)),
        records = capture clock bytes ∧ log.content after = some records.flatten ∧
          ∀ (job : BackgroundJob) (views : List View),
            job.Growth stream views records.flatten →
              ∃ chunks, job.follow stream 0 (views.map View.files) = .ok chunks ∧
                (chunks.flatMap Chunk.lines).length = count ∧
                (chunks.flatMap Chunk.lines).map some = records.map OutputLine.parse? ∧
                -- one poll of the finished log answers the same
                (∀ files, job.Shows stream files records.flatten →
                  job.output stream 0 files =
                    .ok ⟨chunks.flatMap Chunk.lines, records.flatten.length⟩) ∧
                -- every poll ends behind a whole record, and within the file
                (∀ place view, views[place]? = some view →
                  ∃ chunk, chunks[place]? = some chunk ∧
                    ((chunks.take (place + 1)).flatMap Chunk.lines).map some =
                      (records.take view.ended).map OutputLine.parse? ∧
                    chunk.next = (records.take view.ended).flatten.length ∧
                    chunk.next ≤ view.log.length) ∧
                (0 :: chunks.map Chunk.next).Pairwise (· ≤ ·) := by
  obtain ⟨hCount, clock, hContent⟩ := log.content_drain hEmpty hDrained
  refine ⟨hCount, clock, capture clock bytes, rfl, hContent, fun job views hGrowth => ?_⟩
  -- from here on, the records count only as terminated lines that can be read
  generalize hRecords : capture clock bytes = records at hContent hGrowth ⊢
  have hLength : records.length = count := by
    rw [← hRecords, length_capture, hCount]
  have hEnded : ∀ record ∈ records, Terminated record :=
    fun record hMem => terminated_of_mem_capture (hRecords ▸ hMem)
  have hReadable : ∀ record ∈ records, (OutputLine.parse? record).isSome = true :=
    fun record hMem => isSome_parse?_of_mem_capture (hRecords ▸ hMem)
  have hLines := hGrowth.lines_eq hEnded
  have hParsed := map_some_filterMap_parse? hReadable
  refine ⟨_, hGrowth.follow_eq hEnded, ?_, ?_, ?_, ?_, ?_⟩
  · rw [hLines, ← List.length_map (f := some), hParsed, List.length_map, hLength]
  · rw [hLines, hParsed]
  · intro files hShows
    rw [hLines, output_finished hEnded hShows]
  · intro place view hView
    obtain ⟨chunk, hChunk, hNext, hWithin⟩ := hGrowth.next_eq hEnded hView
    refine ⟨chunk, hChunk, ?_, hNext, hWithin⟩
    have hPlace : (views.map View.ended)[place]? = some view.ended := by
      rw [List.getElem?_map, hView, Option.map_some]
    rw [Chunk.lines_take_series hGrowth.pairwise_ended hPlace]
    exact map_some_filterMap_parse? fun record hMem => hReadable record (List.mem_of_mem_take hMem)
  · exact Chunk.pairwise_next_series hGrowth.pairwise_ended

/-- The files of a job whose log holds some bytes, or does not exist yet. -/
def filesWithLog (log : Option (List UInt8)) : FileTree :=
  FileTree.populate "/jobs/1" (log.map fun bytes => ("out", FileNode.file bytes)).toList

/-- The log of two lines, the second of which is not well-formed text. -/
def twoLineLog : List UInt8 :=
  Text.Utf8.encode "700101000000000,a\n700101000000000," ++ [255, 10]

/-- The job whose log that is. -/
def twoLineJob : BackgroundJob := ⟨⟨1⟩, "/jobs/1"⟩

/-- What polls find before the log exists, in the middle of the second stamp, and at the end. -/
def twoLineViews : List BackgroundJob.View :=
  [⟨filesWithLog none, []⟩,
    ⟨filesWithLog (some (twoLineLog.take 22)), twoLineLog.take 22⟩,
    ⟨filesWithLog (some twoLineLog), twoLineLog⟩]

theorem growth_twoLineViews : twoLineJob.Growth .out twoLineViews twoLineLog := by
  have hMissing : (filesWithLog none).readFrom (twoLineJob.logPath .out) 0 =
      .error .notFound := by rfl
  have hPart : (filesWithLog (some (twoLineLog.take 22))).resolve (twoLineJob.logPath .out) =
      .ok ⟨["jobs", "1", "out"], some (.file (twoLineLog.take 22))⟩ := by rfl
  have hWhole : (filesWithLog (some twoLineLog)).resolve (twoLineJob.logPath .out) =
      .ok ⟨["jobs", "1", "out"], some (.file twoLineLog)⟩ := by rfl
  refine ⟨?_, ?_, rfl⟩
  · simp only [twoLineViews, List.forall_mem_cons]
    exact ⟨.missing hMissing, .file hPart (by decide +kernel), .file hWhole (by decide +kernel),
      by simp⟩
  · simp [twoLineViews, List.take_prefix]

/-- A machine whose clock stands still. -/
def stillHost : Host Rehearsal.Machine := Rehearsal.Machine.host "/jobs/1" 1000

/-- That machine with an empty log. -/
def emptyLog : Witnessed Rehearsal.Machine := ⟨{ disk := filesWithLog (some []) }, []⟩

/-- Two lines, drained into an empty log and polled three times while they are written. -/
theorem LogFile.two_lines_polled_once :
    (recordedLog stillHost .out).content emptyLog = some [] ∧
      twoLineJob.Growth .out twoLineViews twoLineLog ∧
      ∃ after, StreamLog.drain stillHost.recorded .out [97, 13, 10, 255] emptyLog =
          (.ok 2, after) ∧
        twoLineJob.Shows .out after.world.files twoLineLog ∧
        ∃ chunks, twoLineJob.follow .out 0 (twoLineViews.map BackgroundJob.View.files) =
            .ok chunks ∧
          (chunks.flatMap Chunk.lines).length = 2 := by
  have hEmpty : (recordedLog stillHost .out).content emptyLog = some [] := rfl
  have hCount : (StreamLog.drain stillHost.recorded .out [97, 13, 10, 255] emptyLog).1 =
      .ok 2 := by rfl
  have hContent : (recordedLog stillHost .out).content
      (StreamLog.drain stillHost.recorded .out [97, 13, 10, 255] emptyLog).2 =
        some twoLineLog := by decide +kernel
  have hFile : (StreamLog.drain stillHost.recorded .out [97, 13, 10, 255]
      emptyLog).2.world.files.resolve (twoLineJob.logPath .out) =
        .ok ⟨["jobs", "1", "out"], some (.file twoLineLog)⟩ := by rfl
  cases hDrained : StreamLog.drain stillHost.recorded .out [97, 13, 10, 255] emptyLog with
  | mk result after =>
      rw [hDrained] at hCount hContent hFile
      subst hCount
      obtain ⟨-, clock, records, -, hRecords, hPolls⟩ :=
        (recordedLog stillHost .out).every_line_polled_once hEmpty hDrained
      have hFinal : records.flatten = twoLineLog :=
        Option.some.inj (hRecords.symm.trans hContent)
      rw [hFinal] at hPolls
      obtain ⟨chunks, hFollow, hLength, -⟩ := hPolls twoLineJob twoLineViews growth_twoLineViews
      exact ⟨hEmpty, growth_twoLineViews, after, rfl, .file hFile (by decide +kernel), chunks,
        hFollow, hLength⟩

end PgConsole.Job
