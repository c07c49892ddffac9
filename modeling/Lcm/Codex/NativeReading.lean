import Lcm.Codex.NativeReader
import Mathlib.Data.List.Basic

namespace Lcm.Codex
open Text

section Chunks

variable {Number : Type} (numbers : JsNumbers Number) (checks : RecordChecks Number)
variable (config : NativeTranscriptJsonlReadSnapshot Number)

theorem appendRecordBytes_append (accumulator : RecordAccumulator) (first second : List UInt8) (limit : Nat) :
    appendRecordBytes (appendRecordBytes accumulator first limit) second limit =
      appendRecordBytes accumulator (first ++ second) limit := by
  obtain ⟨parts, rawHash, byteLength, oversized⟩ := accumulator
  simp only [appendRecordBytes, List.length_append, ← Nat.add_assoc]
  by_cases before : oversized
  · simp [before]
  · by_cases early : limit < byteLength + first.length
    · simp [before, early, Nat.lt_add_right]
    · simp [before, early]

/-- Bytes before the start of the progress are dropped. -/
theorem trackProgressBytes_eq (state : ReaderState Number) (bytes : List UInt8) (start : Nat) :
    trackProgressBytes config state bytes start =
      { state with
        progressRangeHash :=
          state.progressRangeHash ++ bytes.drop (config.progressStartByteOffset - start) } := by
  dsimp only [trackProgressBytes]
  split
  · rfl
  · next outside =>
      rw [List.drop_eq_nil_of_le (Nat.le_of_not_lt outside), List.append_nil]

/-- Two parts of a record are one part. -/
theorem takeSegment_append (state : ReaderState Number) (first second : List UInt8) :
    takeSegment config (takeSegment config state first) second = takeSegment config state (first ++ second) := by
  have later : config.progressStartByteOffset - state.byteOffset - first.length =
      config.progressStartByteOffset - (state.byteOffset + first.length) := Nat.sub_sub _ _ _
  simp only [takeSegment, trackProgressBytes_eq, appendRecordBytes_append, List.append_assoc, List.drop_append,
    List.length_append, Nat.add_assoc, later]

theorem finishSegment_takeSegment (state : ReaderState Number) (first second : List UInt8) :
    finishSegment numbers checks config (takeSegment config state first) second =
      finishSegment numbers checks config state (first ++ second) := by
  rw [finishSegment, takeSegment_append]
  rfl

theorem scanChunk_takeSegment (state : ReaderState Number) (first second rest : List UInt8) :
    scanChunk numbers checks config (takeSegment config state first) second rest =
      scanChunk numbers checks config state (first ++ second) rest := by
  induction rest generalizing second with
  | nil => exact takeSegment_append config state first second
  | cons byte rest ih =>
      rw [scanChunk, scanChunk, finishSegment_takeSegment, ih, List.append_assoc]

/-- A chunk can be cut anywhere. -/
theorem scanChunk_append (state : ReaderState Number) (segment first second : List UInt8) :
    scanChunk numbers checks config (scanChunk numbers checks config state segment first) [] second =
      scanChunk numbers checks config state segment (first ++ second) := by
  induction first generalizing state segment with
  | nil =>
      rw [scanChunk, scanChunk_takeSegment, List.append_nil, List.nil_append]
  | cons byte first ih =>
      rw [scanChunk, List.cons_append, scanChunk]
      split
      · exact ih _ _
      · exact ih _ _

theorem foldl_scanChunk {state : ReaderState Number} (settled : takeSegment config state [] = state)
    (chunks : List (List UInt8)) :
    chunks.foldl (fun state chunk => scanChunk numbers checks config state [] chunk) state =
      scanChunk numbers checks config state [] chunks.flatten := by
  induction chunks generalizing state with
  | nil => exact settled.symm
  | cons chunk chunks ih =>
      have kept : takeSegment config (scanChunk numbers checks config state [] chunk) [] =
          scanChunk numbers checks config state [] chunk := by
        have cut := scanChunk_append numbers checks config state [] chunk []
        rw [List.append_nil] at cut
        exact cut
      rw [List.foldl_cons, ih kept, scanChunk_append, List.flatten_cons]

/-- The reading does not depend on how the content is cut into chunks. -/
theorem readNativeTranscriptJsonl_flatten (chunks : List (List UInt8)) :
    readNativeTranscriptJsonl numbers checks config chunks =
      finishContent numbers checks config (scanChunk numbers checks config .initial [] chunks.flatten) := by
  have settled : takeSegment config (.initial : ReaderState Number) [] = .initial := by
    have fits : ¬ config.maxRecordBytes < 0 := Nat.not_lt_zero _
    simp [takeSegment, trackProgressBytes, ReaderState.initial, appendRecordBytes, newAccumulator, fits]
  rw [readNativeTranscriptJsonl, foldl_scanChunk numbers checks config settled]

/-- The pieces of a content, all but the last of them with a line feed. -/
def readPieces (state : ReaderState Number) : List (List UInt8) → ReaderState Number
  | [] => state
  | [last] => takeSegment config state last
  | piece :: next :: rest => readPieces (finishSegment numbers checks config state piece) (next :: rest)

theorem scanChunk_pieces (state : ReaderState Number) (segment content : List UInt8) :
    scanChunk numbers checks config state segment content =
      readPieces numbers checks config state ((content.splitOn 10).modifyHead (segment ++ ·)) := by
  induction content generalizing state segment with
  | nil => simp [scanChunk, readPieces]
  | cons byte content ih =>
      obtain ⟨first, others, pieces⟩ := List.exists_cons_of_ne_nil (List.splitOn_ne_nil 10 content)
      rw [scanChunk, List.splitOn_cons_eq_if_modifyHead]
      by_cases feed : byte = 10
      · rw [if_pos feed, ih, feed, pieces]
        simp [readPieces]
      · rw [if_neg feed, ih, pieces]
        simp [feed]

end Chunks

/-- A line of a content with its place. -/
structure PhysicalLine where
  bytes : List UInt8
  startByteOffset : Nat
  endByteOffset : Nat
  deriving DecidableEq

/-- The lines whose pieces start at a position. Behind the last line feed there is a line only if it has bytes. -/
def physicalLines (start : Nat) : List (List UInt8) → List PhysicalLine
  | [] => []
  | [last] => if last = [] then [] else [⟨last, start, start + last.length⟩]
  | piece :: next :: rest =>
      ⟨piece, start, start + piece.length + 1⟩ :: physicalLines (start + piece.length + 1) (next :: rest)

def contentLines (content : List UInt8) : List PhysicalLine := physicalLines 0 (content.splitOn 10)

/-- Blank lines do not count, unless they are too large. -/
def PhysicalLine.counts (maxRecordBytes : Nat) (line : PhysicalLine) : Bool :=
  maxRecordBytes < line.bytes.length || !isJsonlBlank line.bytes

def countedLines (maxRecordBytes : Nat) (content : List UInt8) : List PhysicalLine :=
  (contentLines content).filter (PhysicalLine.counts maxRecordBytes)

section Lines

variable {Number : Type} (numbers : JsNumbers Number) (checks : RecordChecks Number)
variable (config : NativeTranscriptJsonlReadSnapshot Number) (content : List UInt8)

/-- The outcome of a counted line and the digest that it adds to the earlier ones. -/
def lineOutcome (ordinal : Nat) (earlier : List JsString) (line : PhysicalLine) :
    NativeTranscriptReadOutcome Number × List JsString :=
  let prefixSha256 := checks.sha256 (content.take line.endByteOffset)
  let quarantine reason :=
    quarantineOutcome config ordinal line.endByteOffset prefixSha256 reason (checks.sha256 line.bytes)
  if config.maxRecordBytes < line.bytes.length then (quarantine .recordTooLarge, earlier)
  else
    match prepareRecord numbers checks config ordinal (withoutReturn line.bytes) with
    | .error reason => (quarantine reason, earlier)
    | .ok prepared =>
        (preparedOutcome numbers checks config ordinal line.endByteOffset prefixSha256 prepared
          (earlier.count prepared.contentSha256 + 1), prepared.contentSha256 :: earlier)

/-- The outcomes of counted lines, whose ordinals go on from the first one. -/
def lineOutcomes (ordinal : Nat) (earlier : List JsString) :
    List PhysicalLine → List (NativeTranscriptReadOutcome Number)
  | [] => []
  | line :: rest =>
      let read := lineOutcome numbers checks config content ordinal earlier line
      read.1 :: lineOutcomes (ordinal + 1) read.2 rest

/-- The progress of the lines that end behind the start of the progress. -/
def lineProgress (lines : List PhysicalLine) : List NativeTranscriptProgress :=
  (lines.filter fun line => config.progressStartByteOffset < line.endByteOffset).map fun line =>
    let start := max line.startByteOffset config.progressStartByteOffset
    ⟨start, line.endByteOffset, checks.sha256 ((content.take line.endByteOffset).drop start),
      checks.sha256 (content.take line.endByteOffset)⟩

/-- The state at the end of a line, which has not been finished yet. -/
structure LineRead (earlier : List JsString) (line : PhysicalLine) (state : ReaderState Number) : Prop where
  hashed : state.prefixHash = content.take line.endByteOffset
  offset : state.byteOffset = line.endByteOffset
  started : state.recordStartByteOffset = line.startByteOffset
  ranged : state.progressRangeHash =
    (content.take line.endByteOffset).drop (max line.startByteOffset config.progressStartByteOffset)
  held : state.accumulator = appendRecordBytes newAccumulator line.bytes config.maxRecordBytes
  counted : state.occurrences = fun digest => earlier.count digest

/-- What finishing lines adds to a state. -/
structure LinesRead (earlier later : List JsString) (lines : List PhysicalLine) (before after : ReaderState Number) :
    Prop where
  counted : after.occurrences = fun digest => later.count digest
  progress : after.progress = before.progress ++ lineProgress checks config content lines
  outcomes : ∀ rest, after.outcomes ++ lineOutcomes numbers checks config content after.sourceOrdinal later rest =
    before.outcomes ++ lineOutcomes numbers checks config content before.sourceOrdinal earlier
      (lines.filter (PhysicalLine.counts config.maxRecordBytes) ++ rest)

variable {numbers checks config content}

theorem appendRecordBytes_new (bytes : List UInt8) (limit : Nat) :
    appendRecordBytes newAccumulator bytes limit =
      if limit < bytes.length then ⟨[], bytes, bytes.length, true⟩ else ⟨bytes, bytes, bytes.length, false⟩ := by
  simp [appendRecordBytes, newAccumulator]

theorem isJsonlBlank_withoutReturn (bytes : List UInt8) : isJsonlBlank (withoutReturn bytes) = isJsonlBlank bytes := by
  unfold withoutReturn
  split
  · next ended =>
      obtain ⟨before, rfl⟩ := List.getLast?_eq_some_iff.mp ended
      simp [isJsonlBlank]
  · rfl

theorem reportProgress_line {earlier : List JsString} {line : PhysicalLine} {state : ReaderState Number}
    (read : LineRead config content earlier line state) :
    reportProgress checks config state =
      { state with progress := state.progress ++ lineProgress checks config content [line] } := by
  unfold reportProgress lineProgress
  by_cases behind : config.progressStartByteOffset < line.endByteOffset
  · rw [if_pos (read.offset ▸ behind), read.offset, read.started, read.ranged, read.hashed]
    simp [behind]
  · rw [if_neg (read.offset ▸ behind)]
    simp [behind]

/-- Finishing a record yields the outcome of its line, if the line counts. -/
theorem finishRecord_line {earlier : List JsString} {line : PhysicalLine} {state : ReaderState Number}
    (read : LineRead config content earlier line state) :
    ∃ later, LinesRead numbers checks config content earlier later [line] state
      (finishRecord numbers checks config state) := by
  have held := read.held
  rw [appendRecordBytes_new] at held
  dsimp only [finishRecord]
  rw [reportProgress_line read, read.hashed, read.offset]
  by_cases large : config.maxRecordBytes < line.bytes.length
  · rw [if_pos large] at held
    rw [if_pos (by rw [held])]
    refine ⟨earlier, read.counted, rfl, fun rest => ?_⟩
    simp [held, yieldOutcome, PhysicalLine.counts, large, lineOutcomes, lineOutcome]
  · rw [if_neg large] at held
    have bytes : accumulatedBytes state.accumulator = withoutReturn line.bytes := by rw [held, accumulatedBytes]
    rw [if_neg (by rw [held]; exact Bool.false_ne_true), bytes, isJsonlBlank_withoutReturn]
    by_cases blank : isJsonlBlank line.bytes = true
    · rw [if_pos blank]
      refine ⟨earlier, read.counted, rfl, fun rest => ?_⟩
      simp [PhysicalLine.counts, large, blank]
    · rw [if_neg blank]
      have counts : PhysicalLine.counts config.maxRecordBytes line = true := by
        simp [PhysicalLine.counts, blank]
      cases prepared : prepareRecord numbers checks config state.sourceOrdinal (withoutReturn line.bytes) with
      | error reason =>
          refine ⟨earlier, read.counted, rfl, fun rest => ?_⟩
          simp [held, yieldOutcome, counts, lineOutcomes, lineOutcome, large, prepared]
      | ok record =>
          refine ⟨record.contentSha256 :: earlier, ?_, rfl, fun rest => ?_⟩
          · funext digest
            by_cases same : digest = record.contentSha256
            · simp [same, read.counted]
            · simp [same, read.counted, List.count_cons_of_ne (Ne.symm same)]
          · simp [yieldOutcome, counts, lineOutcomes, lineOutcome, large, prepared, read.counted]

/-- Finishing a record reads no bytes. -/
theorem finishRecord_bytes (state : ReaderState Number) :
    (finishRecord numbers checks config state).prefixHash = state.prefixHash ∧
      (finishRecord numbers checks config state).byteOffset = state.byteOffset := by
  have reported : (reportProgress checks config state).prefixHash = state.prefixHash ∧
      (reportProgress checks config state).byteOffset = state.byteOffset := by
    unfold reportProgress
    split
    · exact ⟨rfl, rfl⟩
    · exact ⟨rfl, rfl⟩
  dsimp only [finishRecord]
  split
  · exact reported
  · split
    · exact reported
    · split
      · exact reported
      · exact reported

/-- The state behind a line feed. -/
structure LineStart (earlier : List JsString) (seen : List UInt8) (state : ReaderState Number) : Prop where
  hashed : state.prefixHash = seen
  offset : state.byteOffset = seen.length
  started : state.recordStartByteOffset = seen.length
  fresh : state.accumulator = newAccumulator
  ranged : state.progressRangeHash = []
  counted : state.occurrences = fun digest => earlier.count digest

/-- The bytes of a line that count for the progress are those behind its start. -/
theorem drop_max_length (seen bytes : List UInt8) (start : Nat) :
    (seen ++ bytes).drop (max seen.length start) = bytes.drop (start - seen.length) := by
  rw [List.drop_append, List.drop_eq_nil_of_le (Nat.le_max_left ..), List.nil_append]
  congr 1
  omega

/-- The bytes behind the last line feed. -/
theorem LineStart.takeSegment {earlier : List JsString} {seen last : List UInt8} {state : ReaderState Number}
    (start : LineStart earlier seen state) (whole : content = seen ++ last) :
    LineRead config content earlier ⟨last, seen.length, seen.length + last.length⟩ (takeSegment config state last) := by
  have bytes : content.take (seen.length + last.length) = seen ++ last := by
    rw [whole, ← List.length_append, List.take_length]
  refine ⟨?_, ?_, ?_, ?_, ?_, ?_⟩
  · simp [Codex.takeSegment, trackProgressBytes_eq, start.hashed, bytes]
  · simp [Codex.takeSegment, trackProgressBytes_eq, start.offset]
  · simp [Codex.takeSegment, trackProgressBytes_eq, start.started]
  · simp [Codex.takeSegment, trackProgressBytes_eq, start.ranged, start.offset, bytes, drop_max_length]
  · simp [Codex.takeSegment, trackProgressBytes_eq, start.fresh]
  · simp [Codex.takeSegment, trackProgressBytes_eq, start.counted]

/-- A line up to its line feed. -/
theorem LineStart.finishSegment {earlier : List JsString} {seen piece rest : List UInt8}
    {state : ReaderState Number} (start : LineStart earlier seen state)
    (whole : content = seen ++ piece ++ 10 :: rest) :
    ∃ later, LinesRead numbers checks config content earlier later
      [⟨piece, seen.length, seen.length + piece.length + 1⟩] state (finishSegment numbers checks config state piece) ∧
      LineStart later (seen ++ piece ++ [10]) (finishSegment numbers checks config state piece) := by
  have length : seen.length + piece.length + 1 = (seen ++ piece ++ [10]).length := by simp [Nat.add_assoc]
  have bytes : content.take (seen.length + piece.length + 1) = seen ++ (piece ++ [10]) := by
    have parts : seen ++ piece ++ 10 :: rest = (seen ++ piece ++ [10]) ++ rest := by simp
    rw [whole, length, parts, List.take_left, List.append_assoc]
  let taken := Codex.takeSegment config state piece
  let tracked := trackProgressBytes config taken [0x0a] taken.byteOffset
  let ended := { tracked with prefixHash := tracked.prefixHash ++ [0x0a], byteOffset := tracked.byteOffset + 1 }
  have read : LineRead config content earlier ⟨piece, seen.length, seen.length + piece.length + 1⟩ ended := by
    refine ⟨?_, ?_, ?_, ?_, ?_, ?_⟩
    · simp [ended, tracked, taken, Codex.takeSegment, trackProgressBytes_eq, start.hashed, bytes]
    · simp [ended, tracked, taken, Codex.takeSegment, trackProgressBytes_eq, start.offset]
    · simp [ended, tracked, taken, Codex.takeSegment, trackProgressBytes_eq, start.started]
    · rw [bytes, drop_max_length, List.drop_append, Nat.sub_sub]
      simp [ended, tracked, taken, Codex.takeSegment, trackProgressBytes_eq, start.ranged, start.offset]
    · simp [ended, tracked, taken, Codex.takeSegment, trackProgressBytes_eq, start.fresh]
    · simp [ended, tracked, taken, Codex.takeSegment, trackProgressBytes_eq, start.counted]
  obtain ⟨later, finished⟩ := @finishRecord_line _ numbers checks config content _ _ _ read
  have keeps := @finishRecord_bytes _ numbers checks config ended
  have kept : ended.outcomes = state.outcomes ∧ ended.progress = state.progress ∧
      ended.sourceOrdinal = state.sourceOrdinal := by
    simp [ended, tracked, taken, Codex.takeSegment, trackProgressBytes_eq]
  refine ⟨later, ⟨finished.counted, ?_, fun rest => ?_⟩, ⟨?_, ?_, ?_, rfl, rfl, finished.counted⟩⟩
  · exact kept.2.1 ▸ finished.progress
  · exact kept.1 ▸ kept.2.2 ▸ finished.outcomes rest
  · rw [List.append_assoc, ← bytes]
    exact keeps.1.trans read.hashed
  · exact (keeps.2.trans read.offset).trans length
  · exact (keeps.2.trans read.offset).trans length

theorem LinesRead.trans {earlier between later : List JsString} {first second : List PhysicalLine}
    {before middle after : ReaderState Number}
    (front : LinesRead numbers checks config content earlier between first before middle)
    (back : LinesRead numbers checks config content between later second middle after) :
    LinesRead numbers checks config content earlier later (first ++ second) before after := by
  refine ⟨back.counted, ?_, fun rest => ?_⟩
  · rw [back.progress, front.progress, List.append_assoc, lineProgress, lineProgress, lineProgress,
      List.filter_append, List.map_append]
  · rw [back.outcomes, front.outcomes, List.filter_append, List.append_assoc]

/-- The last line is finished only if it has bytes. -/
theorem LineStart.finishContent {earlier : List JsString} {seen last : List UInt8} {state : ReaderState Number}
    (start : LineStart earlier seen state) (whole : content = seen ++ last) :
    ∃ later, LinesRead numbers checks config content earlier later (physicalLines seen.length [last]) state
      (finishContent numbers checks config (Codex.takeSegment config state last)) := by
  have read := @LineStart.takeSegment _ config content _ _ _ _ start whole
  have taken : (Codex.takeSegment config state last).outcomes = state.outcomes ∧
      (Codex.takeSegment config state last).progress = state.progress ∧
      (Codex.takeSegment config state last).sourceOrdinal = state.sourceOrdinal := by
    simp [Codex.takeSegment, trackProgressBytes_eq]
  have length : (Codex.takeSegment config state last).accumulator.byteLength = last.length := by
    rw [read.held, appendRecordBytes_new]
    split
    · rfl
    · rfl
  rw [Codex.finishContent, length, physicalLines]
  by_cases empty : last = []
  · have none' : ¬ 0 < last.length := by simp [empty]
    rw [if_neg none', if_pos empty]
    exact ⟨earlier, read.counted, by simp [taken, lineProgress], fun rest => by simp [taken]⟩
  · rw [if_pos (List.length_pos_iff.mpr empty), if_neg empty]
    obtain ⟨later, finished⟩ := @finishRecord_line _ numbers checks config content _ _ _ read
    refine ⟨later, finished.counted, ?_, fun rest => ?_⟩
    · rw [finished.progress, taken.2.1]
    · rw [finished.outcomes, taken.1, taken.2.2]

theorem readPieces_lines {earlier : List JsString} {seen : List UInt8} {pieces : List (List UInt8)}
    {state : ReaderState Number} (start : LineStart earlier seen state) (some' : pieces ≠ [])
    (whole : content = seen ++ [10].intercalate pieces) :
    ∃ later, LinesRead numbers checks config content earlier later (physicalLines seen.length pieces) state
      (finishContent numbers checks config (readPieces numbers checks config state pieces)) := by
  match pieces with
  | [] => exact absurd rfl some'
  | [last] => exact start.finishContent (by simpa using whole)
  | piece :: next :: rest =>
      have parts : content = seen ++ piece ++ 10 :: [10].intercalate (next :: rest) := by
        rw [whole, List.intercalate_cons_cons]
        simp
      obtain ⟨between, read, behind⟩ := 
        @LineStart.finishSegment _ numbers checks config content _ _ _ _ _ start parts
      have rest' : content = seen ++ piece ++ [10] ++ [10].intercalate (next :: rest) := by
        rw [parts]
        simp
      obtain ⟨later, finished⟩ := readPieces_lines behind (List.cons_ne_nil _ _) rest'
      refine ⟨later, ?_⟩
      have both := read.trans finished
      simpa [physicalLines, readPieces, Nat.add_assoc] using both

/-- The reading of chunks is that of the lines of their content. -/
theorem readNativeTranscriptJsonl_lines (chunks : List (List UInt8)) :
    (readNativeTranscriptJsonl numbers checks config chunks).outcomes =
        lineOutcomes numbers checks config chunks.flatten 0 []
          (countedLines config.maxRecordBytes chunks.flatten) ∧
      (readNativeTranscriptJsonl numbers checks config chunks).progress =
        lineProgress checks config chunks.flatten (contentLines chunks.flatten) := by
  have start : LineStart [] [] (.initial : ReaderState Number) := ⟨rfl, rfl, rfl, rfl, rfl, rfl⟩
  obtain ⟨later, read⟩ := @readPieces_lines _ numbers checks config chunks.flatten _ _
    (chunks.flatten.splitOn 10) _ start (List.splitOn_ne_nil _ _) (by simp [List.intercalate_splitOn])
  have pieces : (chunks.flatten.splitOn 10).modifyHead ([] ++ ·) = chunks.flatten.splitOn 10 := by
    obtain ⟨first, others, pieces⟩ := List.exists_cons_of_ne_nil (List.splitOn_ne_nil (10 : UInt8) chunks.flatten)
    simp [pieces]
  rw [readNativeTranscriptJsonl_flatten, scanChunk_pieces, pieces]
  refine ⟨?_, read.progress⟩
  have outcomes := read.outcomes []
  rw [lineOutcomes, List.append_nil, List.append_nil] at outcomes
  exact outcomes

end Lines

end Lcm.Codex
