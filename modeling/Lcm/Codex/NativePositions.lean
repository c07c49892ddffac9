import Lcm.Codex.NativeReading
import Lcm.Library.Except
import Lcm.Library.Pieces
import Lcm.Text.Utf8Encoding

namespace Lcm.Codex
open Text

section Decoding

/-- Decoding keeps the lines of a content apart. -/
theorem decodeUtf8_intercalate {pieces : List (List UInt8)} (some' : pieces ≠ []) :
    decodeUtf8 ([10].intercalate pieces) = [10].intercalate (pieces.map decodeUtf8) := by
  match pieces with
  | [] => exact absurd rfl some'
  | [last] => simp
  | piece :: next :: rest =>
      have later := decodeUtf8_intercalate (List.cons_ne_nil next rest)
      rw [List.intercalate_cons_cons, List.append_assoc, List.singleton_append,
        decodeUtf8_append_ascii piece _ (by decide), later]
      simp only [List.map_cons, List.intercalate_cons_cons, List.append_assoc, List.singleton_append]
      rfl

theorem lines_decodeUtf8 (content : List UInt8) :
    lines (decodeUtf8 content) = (content.splitOn 10).map decodeUtf8 := by
  have whole := decodeUtf8_intercalate (List.splitOn_ne_nil (10 : UInt8) content)
  rw [List.intercalate_splitOn] at whole
  rw [whole, lines, List.splitOn_intercalate]
  · intro piece inside feed
    obtain ⟨bytes, listed, rfl⟩ := List.mem_map.mp inside
    obtain ⟨byte, own, same⟩ := decodeUtf8_ascii (by decide) feed
    exact (mem_of_mem_splitOn listed byte own).2 (UInt8.toNat_inj.mp same.symm)
  · simp [List.splitOn_ne_nil]

theorem validUtf8_pieces {pieces : List (List UInt8)} (valid : ValidUtf8 ([10].intercalate pieces)) :
    ∀ piece ∈ pieces, ValidUtf8 piece := by
  match pieces with
  | [] => exact nofun
  | [last] => simpa using valid
  | piece :: next :: rest =>
      rw [List.intercalate_cons_cons, List.append_assoc, List.singleton_append, ValidUtf8,
        DecoderState.run_append_ascii _ _ _ (by decide), List.mem_append, List.mem_cons, not_or, not_or] at valid
      exact List.forall_mem_cons.mpr ⟨valid.1, validUtf8_pieces valid.2.2⟩

/-- A piece is blank for the parser when it is blank for the reader. -/
theorem nativeBlank_decodeUtf8 (bytes : List UInt8) : nativeBlank (decodeUtf8 bytes) = isJsonlBlank bytes := by
  rw [Bool.eq_iff_iff, nativeBlank, isJsonlBlank, List.all_eq_true, List.all_eq_true]
  constructor
  · intro blank byte inside
    by_cases ascii : byte.toNat < 0x80
    · have unit := blank _ (mem_decodeUtf8_of_ascii inside ascii)
      simp only [List.mem_cons, List.not_mem_nil, or_false, decide_eq_true_eq, ← UInt16.toNat_inj,
        UInt8.toNat_toUInt16] at unit
      simp only [Bool.or_eq_true, decide_eq_true_eq, ← UInt8.toNat_inj]
      rcases unit with tab | return' | space
      · exact .inl (.inl tab)
      · exact .inl (.inr return')
      · exact .inr space
    · obtain ⟨unit, decoded, high⟩ := exists_decodeUtf8_high inside (Nat.le_of_not_lt ascii)
      have own := blank unit decoded
      simp only [List.mem_cons, List.not_mem_nil, or_false, decide_eq_true_eq] at own
      rcases own with rfl | rfl | rfl
      · exact absurd high (by decide)
      · exact absurd high (by decide)
      · exact absurd high (by decide)
  · intro blank
    have ascii : ∀ byte ∈ bytes, byte.toNat < 0x80 := by
      intro byte inside
      have own := blank byte inside
      simp only [Bool.or_eq_true, decide_eq_true_eq] at own
      rcases own with (rfl | rfl) | rfl
      · decide
      · decide
      · decide
    have plain := decodeUtf8_append_map [] ascii
    rw [List.nil_append] at plain
    rw [plain]
    refine List.forall_mem_map.mpr ?_
    intro byte inside
    have own := blank byte inside
    simp only [Bool.or_eq_true, decide_eq_true_eq] at own
    rcases own with (rfl | rfl) | rfl
    · decide
    · decide
    · decide

theorem oversized_decodeUtf8 {bytes : List UInt8} (valid : ValidUtf8 bytes) :
    oversized (decodeUtf8 bytes) = decide (nativeRecordByteLimit < bytes.length) := by
  have bound := valid.length_le
  rw [oversized, valid.length_encodeUtf8]
  by_cases large : nativeRecordByteLimit < bytes.length
  · simp [large, Nat.lt_of_lt_of_le large bound]
  · simp [large]

end Decoding

section Progress

/-- Adjacent ranges from a position to the end of a content, with the digests of their bytes. -/
def ProgressTiles (sha256 : List UInt8 → JsString) (content : List UInt8) : Nat → List NativeTranscriptProgress → Prop
  | position, [] => content.length ≤ position
  | position, range :: rest =>
      range.startByteOffset = position ∧ position < range.endByteOffset ∧ range.endByteOffset ≤ content.length ∧
        range.rangeSha256 = sha256 ((content.take range.endByteOffset).drop position) ∧
        range.prefixSha256 = sha256 (content.take range.endByteOffset) ∧
        ProgressTiles sha256 content range.endByteOffset rest

variable {Number : Type} (checks : RecordChecks Number) (config : NativeTranscriptJsonlReadSnapshot Number)
variable {content : List UInt8}

theorem lineProgress_cons (line : PhysicalLine) (rest : List PhysicalLine)
    (ends : line.endByteOffset ≤ content.length) (long : line.startByteOffset < line.endByteOffset)
    (later : ProgressTiles checks.sha256 content (max line.endByteOffset config.progressStartByteOffset)
      (lineProgress checks config content rest)) :
    ProgressTiles checks.sha256 content (max line.startByteOffset config.progressStartByteOffset)
      (lineProgress checks config content (line :: rest)) := by
  unfold lineProgress at later ⊢
  rw [List.filter_cons]
  by_cases behind : config.progressStartByteOffset < line.endByteOffset
  · rw [if_pos (decide_eq_true behind), List.map_cons]
    rw [Nat.max_eq_left (Nat.le_of_lt behind)] at later
    exact ⟨rfl, Nat.max_lt.mpr ⟨long, behind⟩, ends, rfl, rfl, later⟩
  · rw [if_neg (by simpa using behind)]
    have same : max line.startByteOffset config.progressStartByteOffset =
        max line.endByteOffset config.progressStartByteOffset := by omega
    rw [same]
    exact later

theorem lineProgress_tiles {start : Nat} {pieces : List (List UInt8)} (some' : pieces ≠ [])
    (whole : content.length = start + ([10].intercalate pieces).length) :
    ProgressTiles checks.sha256 content (max start config.progressStartByteOffset)
      (lineProgress checks config content (physicalLines start pieces)) := by
  match pieces with
  | [] => exact absurd rfl some'
  | [last] =>
      rw [List.intercalate_singleton] at whole
      have behind : ProgressTiles checks.sha256 content
          (max (start + last.length) config.progressStartByteOffset) (lineProgress checks config content []) :=
        whole ▸ Nat.le_max_left ..
      rw [physicalLines]
      by_cases empty : last = []
      · rw [if_pos empty]
        simpa [empty] using behind
      · have long := List.length_pos_iff.mpr empty
        rw [if_neg empty]
        exact lineProgress_cons checks config ⟨last, start, start + last.length⟩ [] (Nat.le_of_eq whole.symm)
          (Nat.lt_add_of_pos_right long) behind
  | piece :: next :: rest =>
      rw [List.intercalate_cons_cons, List.length_append, List.length_append, List.length_singleton] at whole
      have later : content.length = start + piece.length + 1 + ([10].intercalate (next :: rest)).length := by omega
      exact lineProgress_cons checks config ⟨piece, start, start + piece.length + 1⟩ _ (by simp only; omega)
        (by simp only; omega) (lineProgress_tiles (List.cons_ne_nil _ _) later)

end Progress

section Positions

variable {Number : Type} (numbers : JsNumbers Number) (checks : RecordChecks Number)
variable (config : NativeTranscriptJsonlReadSnapshot Number) (content : List UInt8)

/-- Where an outcome is: its ordinal, the end of its line and the digest of the bytes up to there. -/
def NativeTranscriptReadOutcome.position (outcome : NativeTranscriptReadOutcome Number) : Nat × Nat × JsString :=
  (outcome.sourceOrdinal, outcome.endByteOffset, outcome.prefixSha256)

def NativeTranscriptReadOutcome.inheritedHistory (outcome : NativeTranscriptReadOutcome Number) : Option Bool :=
  match outcome.content with
  | .record _ _ _ _ _ _ inherited => inherited
  | .quarantine _ _ => none

/-- A boundary that only looks at positions. -/
def CodexInheritedBoundary.IsCopiedFork : CodexInheritedBoundary → Prop
  | .ordinal _ _ => False
  | _ => True

/-- Blank pieces are too large for a reader when they are too large for the parser. -/
def SameLimit (maxRecordBytes : Nat) (content : List UInt8) : Prop :=
  ∀ piece ∈ content.splitOn 10, isJsonlBlank piece = true →
    (maxRecordBytes < piece.length ↔ nativeRecordByteLimit < piece.length)

theorem lineOutcome_position (ordinal : Nat) (earlier : List JsString) (line : PhysicalLine) :
    (lineOutcome numbers checks config content ordinal earlier line).1.position =
      (ordinal, line.endByteOffset, checks.sha256 (content.take line.endByteOffset)) := by
  unfold lineOutcome
  dsimp only
  split
  · rfl
  · split
    · rfl
    · rfl

theorem lineOutcomes_positions (ordinal : Nat) (earlier : List JsString) (lines : List PhysicalLine) :
    (lineOutcomes numbers checks config content ordinal earlier lines).map NativeTranscriptReadOutcome.position =
      (lines.zipIdx ordinal).map fun (line, position) =>
        (position, line.endByteOffset, checks.sha256 (content.take line.endByteOffset)) := by
  induction lines generalizing ordinal earlier with
  | nil => rfl
  | cons line rest ih =>
      rw [lineOutcomes, List.map_cons, lineOutcome_position, ih, List.zipIdx_cons, List.map_cons]

variable {numbers checks config content}

/-- A copied fork classifies a record by its position. -/
theorem isInheritedSubagentRecord_fork {boundary : CodexInheritedBoundary} (fork : boundary.IsCopiedFork)
    (record other : Json Number) (position : Nat) :
    isInheritedSubagentRecord numbers record (some boundary) position =
      isInheritedSubagentRecord numbers other (some boundary) position := by
  cases boundary with
  | ordinal start paginated => exact fork.elim
  | copiedFork startRecord => rfl
  | pending => rfl

theorem prepareRecord_inherited {boundary : CodexInheritedBoundary} (set : config.inheritedBoundary = some boundary)
    (fork : boundary.IsCopiedFork) {ordinal : Nat} {bytes : List UInt8} {prepared : PreparedRecord Number}
    (ok : prepareRecord numbers checks config ordinal bytes = .ok prepared) :
    prepared.inheritedHistory = some (isInheritedSubagentRecord numbers .null (some boundary) ordinal) := by
  unfold prepareRecord at ok
  obtain ⟨text, _, ok⟩ := Except.bind_eq_ok.mp ok
  obtain ⟨parsed, _, ok⟩ := Except.bind_eq_ok.mp ok
  obtain ⟨_, _, ok⟩ := Except.bind_eq_ok.mp ok
  obtain ⟨payload, _, ok⟩ := Except.bind_eq_ok.mp ok
  dsimp only at ok
  split at ok
  · cases ok
  · cases ok
    rw [set, Option.map_some, isInheritedSubagentRecord_fork fork parsed .null]

theorem lineOutcomes_inherited {boundary : CodexInheritedBoundary} (set : config.inheritedBoundary = some boundary)
    (fork : boundary.IsCopiedFork) {ordinal : Nat} {earlier : List JsString} {lines : List PhysicalLine} :
    ∀ outcome ∈ lineOutcomes numbers checks config content ordinal earlier lines, ∀ inherited,
      outcome.inheritedHistory = some inherited →
      inherited = isInheritedSubagentRecord numbers .null (some boundary) outcome.sourceOrdinal := by
  induction lines generalizing ordinal earlier with
  | nil =>
      intro _ inside
      cases inside
  | cons line rest ih =>
      rw [lineOutcomes]
      refine List.forall_mem_cons.mpr ⟨?_, ih⟩
      intro inherited
      unfold lineOutcome
      dsimp only
      split
      · intro none
        cases none
      · split
        · intro none
          cases none
        · next prepared ok =>
            intro read
            have flag := prepareRecord_inherited set fork ok
            exact Option.some.inj (read.symm.trans flag)

/-- The counted lines hold the pieces that count. -/
theorem physicalLines_counted (limit start : Nat) (pieces : List (List UInt8)) :
    ((physicalLines start pieces).filter (PhysicalLine.counts limit)).map PhysicalLine.bytes =
      pieces.filter fun piece => limit < piece.length || !isJsonlBlank piece := by
  match pieces with
  | [] => rfl
  | [last] =>
      rw [physicalLines]
      by_cases empty : last = []
      · simp [empty, isJsonlBlank]
      · rw [if_neg empty, List.filter_cons, List.filter_cons, PhysicalLine.counts]
        split
        · rfl
        · rfl
  | piece :: next :: rest =>
      have later := physicalLines_counted limit (start + piece.length + 1) (next :: rest)
      rw [physicalLines, List.filter_cons, List.filter_cons, ← later, PhysicalLine.counts]
      split
      · rfl
      · rfl

/-- The lines that the parser counts are those that the reader counts. -/
theorem nativeSourceLines_counted (valid : ValidUtf8 content) {limit : Nat} (same : SameLimit limit content) :
    nativeSourceLines (lines (decodeUtf8 content)) =
      (countedLines limit content).map fun line => decodeUtf8 line.bytes := by
  have pieces : ∀ piece ∈ content.splitOn 10,
      (oversized (decodeUtf8 piece) || !nativeBlank (decodeUtf8 piece)) =
        (decide (limit < piece.length) || !isJsonlBlank piece) := by
    intro piece inside
    rw [nativeBlank_decodeUtf8, oversized_decodeUtf8 (validUtf8_pieces (by rwa [List.intercalate_splitOn]) piece inside)]
    by_cases blank : isJsonlBlank piece = true
    · rw [decide_eq_decide.mpr (same piece inside blank)]
    · simp [blank]
  have kept := congrArg (List.map decodeUtf8) (physicalLines_counted limit 0 (content.splitOn 10))
  rw [List.map_map] at kept
  rw [lines_decodeUtf8, nativeSourceLines, List.filter_map]
  exact (congrArg (List.map decodeUtf8) (List.filter_congr pieces)).trans kept.symm

/-- The parser of a copied fork keeps the lines whose positions are not inherited. -/
theorem ownForkLines_eq {boundary : CodexInheritedBoundary} (fork : boundary.IsCopiedFork) (lines : List JsString) :
    ownForkLines boundary lines = ((nativeSourceLines lines).zipIdx.filter fun (_, position) =>
      !isInheritedSubagentRecord numbers .null (some boundary) position).map Prod.fst := by
  cases boundary with
  | ordinal start paginated => exact fork.elim
  | copiedFork startRecord => simp only [ownForkLines, isInheritedSubagentRecord, ← decide_not, Nat.not_lt]
  | pending => simp [ownForkLines, isInheritedSubagentRecord]

end Positions

section Theorem

variable {Number : Type} (numbers : JsNumbers Number) (checks : RecordChecks Number)
variable (config : NativeTranscriptJsonlReadSnapshot Number)

/-- A reading yields the outcomes of the counted lines of a content and reports its bytes. A parser of the same
content gives the counted lines the same positions and leaves out the same ones as inherited. -/
structure ReadsContent (content : List UInt8) (reading : ReaderState Number) : Prop where
  outcomes : reading.outcomes =
    lineOutcomes numbers checks config content 0 [] (countedLines config.maxRecordBytes content)
  positions : reading.outcomes.map NativeTranscriptReadOutcome.position =
    (countedLines config.maxRecordBytes content).zipIdx.map fun (line, position) =>
      (position, line.endByteOffset, checks.sha256 (content.take line.endByteOffset))
  progress : ProgressTiles checks.sha256 content config.progressStartByteOffset reading.progress
  parsed : ValidUtf8 content → SameLimit config.maxRecordBytes content →
    nativeSourceLines (lines (decodeUtf8 content)) =
      (countedLines config.maxRecordBytes content).map fun line => decodeUtf8 line.bytes
  classified : ∀ boundary, config.inheritedBoundary = some boundary → boundary.IsCopiedFork →
    ∀ outcome ∈ reading.outcomes, ∀ inherited, outcome.inheritedHistory = some inherited →
      inherited = isInheritedSubagentRecord numbers .null (some boundary) outcome.sourceOrdinal
  excluded : ∀ boundary : CodexInheritedBoundary, boundary.IsCopiedFork → ValidUtf8 content →
    SameLimit config.maxRecordBytes content →
    ownForkLines boundary (lines (decodeUtf8 content)) =
      (((countedLines config.maxRecordBytes content).map fun line => decodeUtf8 line.bytes).zipIdx.filter
        fun (_, position) => !isInheritedSubagentRecord numbers .null (some boundary) position).map Prod.fst

/-- The streaming reader equals the reading of the whole content, however it is cut into chunks. -/
theorem readNativeTranscriptJsonl_content (chunks : List (List UInt8)) :
    ReadsContent numbers checks config chunks.flatten (readNativeTranscriptJsonl numbers checks config chunks) := by
  obtain ⟨outcomes, progress⟩ := @readNativeTranscriptJsonl_lines _ numbers checks config chunks
  refine ⟨outcomes, ?_, ?_, fun valid => nativeSourceLines_counted valid, ?_, ?_⟩
  · rw [outcomes, lineOutcomes_positions]
  · have tiles := @lineProgress_tiles _ checks config chunks.flatten 0 _ (List.splitOn_ne_nil 10 chunks.flatten)
      (by rw [List.intercalate_splitOn, Nat.zero_add])
    rw [progress]
    rwa [Nat.zero_max] at tiles
  · intro boundary set fork
    rw [outcomes]
    exact lineOutcomes_inherited set fork
  · intro boundary fork valid same
    rw [@ownForkLines_eq _ numbers _ fork, nativeSourceLines_counted valid same]

end Theorem

section Samples

/-- A reader with the limit of the program that stores each record as it is. -/
def sampleReader : NativeTranscriptJsonlReadSnapshot Nat :=
  ⟨⟨js "codex", js "codex-jsonl", js "v1"⟩, js "session", js "rollout.jsonl", js "v1", .ok, fun _ => 0,
    nativeRecordByteLimit, by decide, 0, none⟩

def sampleChecks : RecordChecks Nat :=
  ⟨fun bytes => bytes.map UInt8.toUInt16, fun _ => true, fun _ => true, fun _ => .ok (), fun _ => []⟩

/-- A content in three chunks, with a blank line and a last line without a line feed. -/
def sampleChunks : List (List UInt8) := [[123], [125, 13, 10, 32, 10], [91, 93]]

theorem readNativeTranscriptJsonl_content_sample :
    ValidUtf8 sampleChunks.flatten ∧
      nativeSourceLines (lines (decodeUtf8 sampleChunks.flatten)) =
        (countedLines nativeRecordByteLimit sampleChunks.flatten).map fun line => decodeUtf8 line.bytes :=
  ⟨by decide, (readNativeTranscriptJsonl_content naturalNumbers sampleChecks sampleReader sampleChunks).parsed
    (by decide) fun _ _ _ => Iff.rfl⟩

/-- A blank piece that is larger than the limit of a record is not dropped but counted. -/
theorem large_blank_counts :
    ¬ ∀ content : List UInt8, (readNativeTranscriptJsonl naturalNumbers sampleChecks sampleReader [content]).outcomes.length =
      ((contentLines content).filter fun line => !isJsonlBlank line.bytes).length := by
  intro dropped
  obtain ⟨content, length, blank, plain⟩ : ∃ content : List UInt8, content.length = nativeRecordByteLimit + 1 ∧
      isJsonlBlank content = true ∧ 10 ∉ content :=
    ⟨List.replicate (nativeRecordByteLimit + 1) 32, List.length_replicate, by simp [isJsonlBlank], by simp⟩
  have line : contentLines content = [⟨content, 0, 0 + content.length⟩] := by
    have some' : content ≠ [] := List.length_pos_iff.mp (by omega)
    rw [contentLines, List.splitOn_eq_singleton plain, physicalLines, if_neg some']
  have counted : countedLines nativeRecordByteLimit content = [⟨content, 0, 0 + content.length⟩] := by
    rw [countedLines, line, List.filter_cons, if_pos (by simp [PhysicalLine.counts, length])]
    rfl
  have outcomes := (@readNativeTranscriptJsonl_lines _ naturalNumbers sampleChecks sampleReader [content]).1
  rw [List.flatten_singleton] at outcomes
  have same := dropped content
  rw [outcomes, show sampleReader.maxRecordBytes = nativeRecordByteLimit from rfl, counted, line] at same
  simp [lineOutcomes, blank] at same

end Samples

end Lcm.Codex
