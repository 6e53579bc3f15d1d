import PgConsole.Job.Capture
import PgConsole.Proofs.Job.OutputLine

namespace PgConsole.Job

/-!
# Streams cut into lines

`Splits` describes a stream without running anything: the lines that end in it, and what stands
behind the last line feed.  Every stream splits in this way, and what the readers of a log compute
follows from the split: `cut`, `complete` and `ofRest` each have one lemma.

A prefix of a log splits into the records that are complete in it (`splits_of_isPrefix`), and
what is left of a log behind some of its records splits into the others (`Splits.drop`).
-/

/-- A line that ends in its only line feed. -/
def Terminated (piece : List UInt8) : Prop :=
  ∃ body, lineFeed ∉ body ∧ piece = body ++ [lineFeed]

/-- A stream as the lines that end in it and the unfinished one behind them. -/
structure Splits (bytes : List UInt8) (pieces : List (List UInt8)) (tail : List UInt8) : Prop where
  whole : bytes = pieces.flatten ++ tail
  ended : ∀ piece ∈ pieces, Terminated piece
  unfinished : lineFeed ∉ tail

theorem exists_splits (bytes : List UInt8) : ∃ pieces tail, Splits bytes pieces tail := by
  induction bytes with
  | nil => exact ⟨[], [], rfl, by simp, by simp⟩
  | cons byte rest ih =>
      obtain ⟨pieces, tail, hWhole, hEnded, hTail⟩ := ih
      by_cases hByte : byte = lineFeed
      · -- the line feed is a line of its own
        have hLine : Terminated [byte] := ⟨[], by simp, by simp [hByte]⟩
        refine ⟨[byte] :: pieces, tail, by simp [hWhole], ?_, hTail⟩
        exact List.forall_mem_cons.mpr ⟨hLine, hEnded⟩
      · -- another byte belongs to the line that follows, or to the unfinished one
        have hOther : lineFeed ≠ byte := Ne.symm hByte
        cases pieces with
        | nil => exact ⟨[], byte :: tail, by simp [hWhole], by simp, by simp [hOther, hTail]⟩
        | cons piece pieces =>
            obtain ⟨⟨body, hBody, hPiece⟩, hOthers⟩ := List.forall_mem_cons.mp hEnded
            have hLonger : Terminated (byte :: piece) :=
              ⟨byte :: body, by simp [hOther, hBody], by simp [hPiece]⟩
            refine ⟨(byte :: piece) :: pieces, tail, by simp [hWhole], ?_, hTail⟩
            exact List.forall_mem_cons.mpr ⟨hLonger, hOthers⟩

variable {bytes tail : List UInt8} {pieces : List (List UInt8)}

/-! ## Cutting -/

theorem cutFrom_eq_append (pieces : List (List UInt8)) (current bytes : List UInt8) :
    cutFrom pieces current bytes = pieces.reverse ++ cutFrom [] current bytes := by
  induction bytes generalizing pieces current with
  | nil => by_cases hCurrent : current.isEmpty <;> simp [cutFrom, hCurrent]
  | cons byte rest ih =>
      by_cases hByte : byte = lineFeed
      · rw [cutFrom, if_pos hByte, ih, cutFrom, if_pos hByte, ih [_]]
        simp
      · rw [cutFrom, if_neg hByte, ih, cutFrom, if_neg hByte]

/-- Bytes that end no line are added to the current one. -/
theorem cutFrom_append {body : List UInt8} (hBody : lineFeed ∉ body) (current rest : List UInt8) :
    cutFrom [] current (body ++ rest) = cutFrom [] (body.reverse ++ current) rest := by
  induction body generalizing current with
  | nil => rfl
  | cons byte body ih =>
      rw [List.mem_cons, not_or] at hBody
      rw [List.cons_append, cutFrom, if_neg (Ne.symm hBody.1), ih hBody.2]
      simp

theorem cut_terminated_append {piece : List UInt8} (hPiece : Terminated piece)
    (rest : List UInt8) : cut (piece ++ rest) = piece :: cut rest := by
  obtain ⟨body, hBody, rfl⟩ := hPiece
  rw [cut, List.append_assoc, cutFrom_append hBody, List.singleton_append, cutFrom, if_pos rfl,
    cutFrom_eq_append]
  simp [cut]

theorem cut_unfinished (hTail : lineFeed ∉ tail) :
    cut tail = if tail.isEmpty then [] else [tail] := by
  have hCut := cutFrom_append hTail [] []
  rw [List.append_nil] at hCut
  rw [cut, hCut]
  cases tail <;> simp [cutFrom]

theorem Splits.cut_eq (h : Splits bytes pieces tail) :
    cut bytes = pieces ++ if tail.isEmpty then [] else [tail] := by
  obtain ⟨rfl, hEnded, hTail⟩ := h
  induction pieces with
  | nil => exact cut_unfinished hTail
  | cons piece pieces ih =>
      rw [List.forall_mem_cons] at hEnded
      rw [List.flatten_cons, List.append_assoc, cut_terminated_append hEnded.1, ih hEnded.2]
      rfl

/-! ## The number of lines -/

/-- The number of lines of a stream: one for every line feed, and one for what stands behind the
last of them, if anything does. -/
def lineCount (bytes : List UInt8) : Nat :=
  bytes.count lineFeed + if bytes.getLast?.all (· == lineFeed) then 0 else 1

theorem count_terminated {piece : List UInt8} (hPiece : Terminated piece) :
    piece.count lineFeed = 1 := by
  obtain ⟨body, hBody, rfl⟩ := hPiece
  rw [List.count_append, List.count_eq_zero.mpr hBody, List.count_singleton_self]

theorem Splits.count_eq (h : Splits bytes pieces tail) :
    bytes.count lineFeed = pieces.length := by
  obtain ⟨rfl, hEnded, hTail⟩ := h
  rw [List.count_append, List.count_eq_zero.mpr hTail]
  induction pieces with
  | nil => rfl
  | cons piece pieces ih =>
      rw [List.forall_mem_cons] at hEnded
      rw [List.flatten_cons, List.count_append, count_terminated hEnded.1, List.length_cons]
      have hOthers := ih hEnded.2
      omega

/-- Complete lines end in a line feed, unless there are none. -/
theorem flatten_terminated
    (hEnded : ∀ piece ∈ pieces, Terminated piece) :
    pieces.flatten = [] ∨ ∃ start, pieces.flatten = start ++ [lineFeed] := by
  rcases List.eq_nil_or_concat pieces with rfl | ⟨others, last, rfl⟩
  · exact .inl rfl
  · obtain ⟨body, -, rfl⟩ := hEnded last (by simp)
    exact .inr ⟨others.flatten ++ body, by simp⟩

/-- The last line lacks its line feed exactly if something stands behind the complete ones. -/
theorem Splits.getLast?_all (h : Splits bytes pieces tail) :
    bytes.getLast?.all (· == lineFeed) = tail.isEmpty := by
  obtain ⟨rfl, hEnded, hTail⟩ := h
  rcases List.eq_nil_or_concat tail with rfl | ⟨start, last, rfl⟩
  · rcases flatten_terminated hEnded with hNone | ⟨start, hSome⟩
    · simp [hNone]
    · simp [hSome]
  · have hLast : last ≠ lineFeed := by
      rintro rfl
      exact hTail (by simp)
    have hSome : (start ++ [last]).isEmpty = false := by simp
    simp [hLast, hSome]

theorem length_streamLines (bytes : List UInt8) : (streamLines bytes).length = lineCount bytes := by
  obtain ⟨pieces, tail, hSplits⟩ := exists_splits bytes
  rw [streamLines, List.length_map, hSplits.cut_eq, lineCount, hSplits.count_eq,
    hSplits.getLast?_all, List.length_append]
  cases tail.isEmpty <;> rfl

theorem mem_of_mem_dropLastByte {byte other : UInt8} {line : List UInt8}
    (h : other ∈ dropLastByte byte line) : other ∈ line := by
  unfold dropLastByte at h
  split at h
  · exact List.dropLast_subset line h
  · exact h

/-- A line without its ending has no line feed. -/
theorem lineFeed_not_mem_streamLines {bytes line : List UInt8} (h : line ∈ streamLines bytes) :
    lineFeed ∉ line := by
  obtain ⟨pieces, tail, hSplits⟩ := exists_splits bytes
  rw [streamLines, hSplits.cut_eq, List.mem_map] at h
  obtain ⟨piece, hPiece, rfl⟩ := h
  rw [trimEnding_eq]
  refine fun hMem => absurd (mem_of_mem_dropLastByte hMem) ?_
  rcases List.mem_append.mp hPiece with hPiece | hLast
  · obtain ⟨body, hBody, rfl⟩ := hSplits.ended piece hPiece
    rwa [dropLastByte_concat, if_pos rfl]
  · have hTail : piece = tail := by
      cases hEmpty : tail.isEmpty <;> simp_all
    rw [hTail, dropLastByte_of_not_mem hSplits.unfinished]
    exact hSplits.unfinished

/-! ## Complete lines -/

namespace Chunk

theorem complete_append (hTail : lineFeed ∉ tail) (bytes : List UInt8) :
    complete (bytes ++ tail) = complete bytes := by
  have hNone : ∀ byte ∈ tail.reverse, (byte != lineFeed) = true := by
    intro byte hMem
    rw [bne_iff_ne]
    rintro rfl
    exact hTail (List.mem_reverse.mp hMem)
  rw [complete, List.reverse_append, List.dropWhile_append_of_pos hNone]
  rfl

theorem complete_concat (bytes : List UInt8) :
    complete (bytes ++ [lineFeed]) = bytes ++ [lineFeed] := by
  simp [complete]

end Chunk

theorem Splits.complete_eq (h : Splits bytes pieces tail) :
    Chunk.complete bytes = pieces.flatten := by
  obtain ⟨rfl, hEnded, hTail⟩ := h
  rw [Chunk.complete_append hTail]
  rcases flatten_terminated hEnded with hNone | ⟨start, hSome⟩
  · rw [hNone]
    rfl
  · rw [hSome, Chunk.complete_concat]

theorem splits_flatten (hEnded : ∀ piece ∈ pieces, Terminated piece) :
    Splits pieces.flatten pieces [] :=
  ⟨by simp, hEnded, by simp⟩

theorem Splits.length_flatten_le (h : Splits bytes pieces tail) :
    pieces.flatten.length ≤ bytes.length := by
  rw [h.whole, List.length_append]
  exact Nat.le_add_right _ _

/-- A poll answers what can be read of the complete lines and goes on behind them. -/
theorem Splits.ofRest_eq (h : Splits bytes pieces tail) (offset : Nat) :
    Chunk.ofRest offset bytes =
      ⟨pieces.filterMap OutputLine.parse?, offset + pieces.flatten.length⟩ := by
  have hCut := (splits_flatten h.ended).cut_eq
  rw [List.isEmpty_nil, if_pos rfl, List.append_nil] at hCut
  simp only [Chunk.ofRest, h.complete_eq, hCut]

/-! ## Parts of a log -/

/-- What has been written of some lines splits into those whose line feed has been written. -/
theorem splits_of_isPrefix {records : List (List UInt8)} {written : List UInt8}
    (hEnded : ∀ record ∈ records, Terminated record) (hPrefix : written <+: records.flatten) :
    ∃ tail, Splits written (records.take (written.count lineFeed)) tail := by
  induction records generalizing written with
  | nil =>
      obtain rfl : written = [] := List.prefix_nil.mp hPrefix
      exact ⟨[], rfl, by simp, by simp⟩
  | cons record records ih =>
      rw [List.forall_mem_cons] at hEnded
      obtain ⟨hRecord, hOthers⟩ := hEnded
      rw [List.flatten_cons] at hPrefix
      rcases Nat.lt_or_ge written.length record.length with hShort | hLong
      · -- the first line is still being written
        obtain ⟨body, hBody, rfl⟩ := hRecord
        have hBodyPrefix : written <+: body := by
          rw [List.append_assoc] at hPrefix
          refine List.prefix_of_prefix_length_le hPrefix (List.prefix_append _ _) ?_
          rw [List.length_append, List.length_singleton] at hShort
          omega
        have hFree : lineFeed ∉ written := fun hMem => hBody (hBodyPrefix.subset hMem)
        rw [List.count_eq_zero.mpr hFree]
        exact ⟨written, rfl, by simp, hFree⟩
      · obtain ⟨more, rfl⟩ :=
          List.prefix_of_prefix_length_le (List.prefix_append _ _) hPrefix hLong
        obtain ⟨tail, hSplits⟩ := ih hOthers ((List.prefix_append_right_inj record).mp hPrefix)
        rw [List.count_append, count_terminated hRecord, Nat.add_comm, List.take_succ_cons]
        refine ⟨tail, ?_, List.forall_mem_cons.mpr ⟨hRecord, hSplits.ended⟩, hSplits.unfinished⟩
        rw [List.flatten_cons, List.append_assoc, ← hSplits.whole]

/-- Behind some of the complete lines stand the others. -/
theorem Splits.drop (h : Splits bytes pieces tail) (count : Nat) :
    Splits (bytes.drop (pieces.take count).flatten.length) (pieces.drop count) tail := by
  refine ⟨?_, fun piece hPiece => h.ended piece (List.mem_of_mem_drop hPiece), h.unfinished⟩
  have hWhole : bytes = (pieces.take count).flatten ++ ((pieces.drop count).flatten ++ tail) := by
    rw [← List.append_assoc, ← List.flatten_append, List.take_append_drop, h.whole]
  rw [hWhole, List.drop_left]

end PgConsole.Job
