import PgConsole.Proofs.Job.Polling

namespace PgConsole.Job

/-!
# Stored lines read back

A record ends in a line feed, but whoever reads it takes a carriage return in front of the line feed
for a part of the ending.  So a stored line is read back as it was captured exactly if it does not
itself end in a carriage return (`decodeLossy_eq_iff`), and a line of a stream exactly if none is
left at its end once its own ending is off (`LogFile.lines_read_back_iff`).
-/

/-- The line that a piece of a stream stands for: the piece without its ending, which is a line feed
or a carriage return and a line feed. -/
def lineOf (piece : List UInt8) : List UInt8 :=
  if piece.getLast? = some lineFeed then dropLastByte carriageReturn piece.dropLast else piece

theorem lineOf_concat (body : List UInt8) :
    lineOf (body ++ [lineFeed]) = dropLastByte carriageReturn body := by
  simp [lineOf]

theorem lineOf_of_not_mem {piece : List UInt8} (hPiece : lineFeed ∉ piece) :
    lineOf piece = piece := by
  rw [lineOf, if_neg]
  intro hLast
  exact hPiece (List.mem_of_getLast? hLast)

theorem trimEnding_of_not_mem {line : List UInt8} (hLine : lineFeed ∉ line) :
    trimEnding line = dropLastByte carriageReturn line := by
  rw [trimEnding_eq, dropLastByte_of_not_mem hLine]

/-- Of a line that ends in a carriage return at least that one is gone when it is read. -/
theorem dropLastByte_trimEnding {bytes piece : List UInt8} (hPiece : piece ∈ cut bytes) :
    dropLastByte carriageReturn (trimEnding piece) = dropLastByte carriageReturn (lineOf piece) ∨
      dropLastByte carriageReturn (trimEnding piece) =
        dropLastByte carriageReturn (dropLastByte carriageReturn (lineOf piece)) := by
  obtain ⟨pieces, tail, hSplits⟩ := exists_splits bytes
  rw [hSplits.cut_eq, List.mem_append] at hPiece
  rcases hPiece with hEnded | hLast
  · obtain ⟨body, -, rfl⟩ := hSplits.ended piece hEnded
    rw [lineOf_concat, trimEnding_eq, dropLastByte_concat, if_pos rfl]
    exact .inl rfl
  · -- without a line feed, a carriage return has been taken off before the line was stored
    have hTail : piece = tail := by
      cases hEmpty : tail.isEmpty <;> simp_all
    have hPiece : lineFeed ∉ piece := hTail ▸ hSplits.unfinished
    rw [lineOf_of_not_mem hPiece, trimEnding_of_not_mem hPiece]
    exact .inr rfl

/-! ## Texts without a carriage return at their end -/

theorem length_decodeLossy_dropLastByte (line : List UInt8) :
    (Text.Utf8.decodeLossy (dropLastByte carriageReturn line)).length +
        (if line.getLast? = some carriageReturn then 1 else 0) =
      (Text.Utf8.decodeLossy line).length := by
  rcases List.eq_nil_or_concat line with rfl | ⟨start, last, rfl⟩
  · rfl
  · rw [List.concat_eq_append, dropLastByte_concat, List.getLast?_concat]
    by_cases hLast : last = carriageReturn
    · subst hLast
      rw [Text.Utf8.decodeLossy_concat (by decide), if_pos rfl, if_pos rfl, String.length_push]
    · rw [if_neg hLast, if_neg (hLast ∘ Option.some.inj), Nat.add_zero]

/-- Without one or two carriage returns at its end a line has another text than with them. -/
theorem decodeLossy_eq_iff {line read : List UInt8}
    (hRead : read = dropLastByte carriageReturn line ∨
      read = dropLastByte carriageReturn (dropLastByte carriageReturn line)) :
    Text.Utf8.decodeLossy read = Text.Utf8.decodeLossy line ↔
      line.getLast? ≠ some carriageReturn := by
  constructor
  · intro hSame hLast
    have hOnce := length_decodeLossy_dropLastByte line
    have hTwice := length_decodeLossy_dropLastByte (dropLastByte carriageReturn line)
    rw [if_pos hLast] at hOnce
    rcases hRead with rfl | rfl
    · rw [hSame] at hOnce
      omega
    · rw [hSame] at hTwice
      omega
  · intro hLast
    have hKept : dropLastByte carriageReturn line = line := by
      rw [dropLastByte, if_neg hLast]
    rw [hKept, hKept, or_self] at hRead
    rw [hRead]

/-! ## Records read back -/

/-- A stored line is read back without a carriage return at its end. -/
theorem OutputLine.exists_parse?_record (moment : Moment) {line : List UInt8}
    (hLine : lineFeed ∉ line) :
    ∃ read, parse? (record moment line) = some read ∧
      read.text = Text.Utf8.decodeLossy (dropLastByte carriageReturn line) := by
  obtain ⟨time, hTime⟩ := Option.isSome_iff_exists.mp (isSome_stampTime?_stamp moment)
  refine ⟨⟨time, Text.Utf8.decodeLossy (trimEnding line)⟩, ?_, ?_⟩
  · rw [parse?_record moment hLine, hTime, Option.map_some]
  · rw [trimEnding_of_not_mem hLine]

/-- The pieces of what is captured are the records. -/
theorem cut_capture (clock : Nat → Moment) (bytes : List UInt8) :
    cut (capture clock bytes).flatten = capture clock bytes := by
  have hEnded : ∀ record ∈ capture clock bytes, Terminated record :=
    fun record hMem => terminated_of_mem_capture hMem
  rw [(splits_flatten hEnded).cut_eq, List.isEmpty_nil, if_pos rfl, List.append_nil]

/-- What is captured is read back as one line for every piece of the stream, the place of which it
takes. -/
theorem exists_lines_of_capture (clock : Nat → Moment) (bytes : List UInt8) :
    ∃ lines : List OutputLine,
      (capture clock bytes).map OutputLine.parse? = lines.map some ∧
        lines.map OutputLine.text = (cut bytes).map fun piece =>
          Text.Utf8.decodeLossy (dropLastByte carriageReturn (trimEnding piece)) := by
  have hFree : ∀ line ∈ streamLines bytes, lineFeed ∉ line :=
    fun line hMem => lineFeed_not_mem_streamLines hMem
  rw [capture]
  simp only [streamLines] at hFree ⊢
  generalize cut bytes = pieces at hFree ⊢
  induction pieces generalizing clock with
  | nil => exact ⟨[], rfl, rfl⟩
  | cons piece rest ih =>
      rw [List.map_cons, List.forall_mem_cons] at hFree
      obtain ⟨read, hRead, hText⟩ := OutputLine.exists_parse?_record (clock 0) hFree.1
      obtain ⟨lines, hLines, hTexts⟩ := ih (fun place => clock (place + 1)) hFree.2
      refine ⟨read :: lines, ?_, ?_⟩
      · rw [List.map_cons, List.mapIdx_cons, List.map_cons, hLines, hRead, List.map_cons]
      · rw [List.map_cons, List.map_cons, hText, hTexts]

/-- A line without a line feed is stored as a record that can be read, whenever that happens, and
the record gives its text exactly if the line does not end in a carriage return.  What a drain adds
to a log is read back as one line for every line of the stream, in order, and each of them has the
text that its line has without its ending exactly if no carriage return is left at the end of
that. -/
theorem LogFile.lines_read_back_iff {World : Type} {host : Host World} {stream : Stream}
    (log : LogFile host stream) {bytes held : List UInt8} {before after : World} {count : Nat}
    (hHeld : log.content before = some held)
    (hDrained : StreamLog.drain host stream bytes before = (.ok count, after)) :
    (∀ moment line, lineFeed ∉ line →
      ∃ read, OutputLine.parse? (OutputLine.record moment line) = some read ∧
        (read.text = Text.Utf8.decodeLossy line ↔ line.getLast? ≠ some carriageReturn)) ∧
    ∃ (added : List UInt8) (lines : List OutputLine),
      log.content after = some (held ++ added) ∧
      (cut added).map OutputLine.parse? = lines.map some ∧
      lines.length = (cut bytes).length ∧
      ∀ (place : Nat) (piece : List UInt8) (line : OutputLine),
        (cut bytes)[place]? = some piece → lines[place]? = some line →
        (line.text = Text.Utf8.decodeLossy (lineOf piece) ↔
          (lineOf piece).getLast? ≠ some carriageReturn) := by
  constructor
  · intro moment line hLine
    obtain ⟨read, hRead, hText⟩ := OutputLine.exists_parse?_record moment hLine
    refine ⟨read, hRead, ?_⟩
    rw [hText, decodeLossy_eq_iff (.inl rfl)]
  · obtain ⟨-, clock, hContent⟩ := log.content_drain hHeld hDrained
    obtain ⟨lines, hLines, hTexts⟩ := exists_lines_of_capture clock bytes
    refine ⟨_, lines, hContent, ?_, ?_, ?_⟩
    · rw [cut_capture, hLines]
    · simpa using congrArg List.length hTexts
    · intro place piece line hPiece hLine
      have hText : line.text =
          Text.Utf8.decodeLossy (dropLastByte carriageReturn (trimEnding piece)) := by
        have hPlace := congrArg (fun texts => texts[place]?) hTexts
        simpa [List.getElem?_map, hPiece, hLine] using hPlace
      rw [hText, decodeLossy_eq_iff (dropLastByte_trimEnding (List.mem_of_getElem? hPiece))]

/-- A stored line with a carriage return in its middle, and two lines of a stream, one with a
carriage return in its ending and one that is not well-formed text. -/
theorem LogFile.two_lines_read_back :
    (recordedLog stillHost .out).content emptyLog = some [] ∧
      lineFeed ∉ ([97, 13, 98] : List UInt8) ∧
      (∃ read, OutputLine.parse? (OutputLine.record .epoch [97, 13, 98]) = some read ∧
        read.text = Text.Utf8.decodeLossy [97, 13, 98]) ∧
      ∃ after, StreamLog.drain stillHost.recorded .out [97, 13, 10, 255] emptyLog =
          (.ok 2, after) ∧
        ∃ added first second, (recordedLog stillHost .out).content after = some added ∧
          (cut added).map OutputLine.parse? = [some first, some second] ∧
          first.text = "a" ∧ second.text = "\ufffd" := by
  have hEmpty : (recordedLog stillHost .out).content emptyLog = some [] := rfl
  have hCount : (StreamLog.drain stillHost.recorded .out [97, 13, 10, 255] emptyLog).1 =
      .ok 2 := by rfl
  cases hDrained : StreamLog.drain stillHost.recorded .out [97, 13, 10, 255] emptyLog with
  | mk result after =>
      rw [hDrained] at hCount
      subst hCount
      obtain ⟨hStored, added, lines, hContent, hLines, hLength, hTexts⟩ :=
        (recordedLog stillHost .out).lines_read_back_iff hEmpty hDrained
      obtain ⟨read, hRead, hText⟩ := hStored .epoch [97, 13, 98] (by decide)
      have hTwo : lines.length = 2 := hLength.trans (by decide)
      obtain ⟨first, rest, rfl⟩ := List.exists_cons_of_length_eq_add_one hTwo
      obtain ⟨second, rfl⟩ := List.length_eq_one_iff.mp (Nat.succ.inj hTwo)
      have hFirst := (hTexts 0 [97, 13, 10] first (by decide) rfl).mpr (by decide)
      have hSecond := (hTexts 1 [255] second (by decide) rfl).mpr (by decide)
      refine ⟨hEmpty, by decide, ⟨read, hRead, hText.mpr (by decide)⟩, after, rfl, added, first,
        second, hContent, hLines, ?_, ?_⟩
      · rw [hFirst]
        decide +kernel
      · rw [hSecond]
        decide +kernel

/-- A line that ends in a carriage return is read back without it, stored by itself or drained from
a stream in which it has an ending of its own. -/
theorem LogFile.carriage_return_lost :
    lineFeed ∉ ([97, 13] : List UInt8) ∧ Text.Utf8.decodeLossy [97, 13] = "a\r" ∧
      (OutputLine.parse? (OutputLine.record .epoch [97, 13])).map OutputLine.text = some "a" ∧
      cut [97, 13, 13, 10] = [[97, 13, 13, 10]] ∧ lineOf [97, 13, 13, 10] = [97, 13] ∧
      ∃ after added, StreamLog.drain stillHost.recorded .out [97, 13, 13, 10] emptyLog =
          (.ok 1, after) ∧
        (recordedLog stillHost .out).content after = some added ∧
        (cut added).map (fun record => (OutputLine.parse? record).map OutputLine.text) =
          [some "a"] := by
  refine ⟨by decide, by decide +kernel, by decide +kernel, by decide, by decide, ?_⟩
  have hCount : (StreamLog.drain stillHost.recorded .out [97, 13, 13, 10] emptyLog).1 =
      .ok 1 := by rfl
  have hContent : (recordedLog stillHost .out).content
      (StreamLog.drain stillHost.recorded .out [97, 13, 13, 10] emptyLog).2 =
        some (OutputLine.record .epoch [97, 13]) := by decide +kernel
  exact ⟨_, _, Prod.ext hCount rfl, hContent, by decide +kernel⟩

end PgConsole.Job
