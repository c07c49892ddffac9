import Lcm.Codex.Transcript
import Lcm.Text.Utf8Decoder

namespace Lcm.Codex
open Text

inductive TranscriptQuarantineReason
  | recordTooLarge | binaryInput | invalidUtf8 | malformedJson | nonContainerJson | nestingTooDeep
  | nulCharacter | redactedKeyCollision | residualSecret
  deriving DecidableEq

structure NativeTranscriptFormat where
  clientName : JsString
  formatName : JsString
  formatVersion : JsString
  deriving DecidableEq

/-- The functions around the reader that work on one record only. -/
structure RecordChecks (Number : Type) where
  sha256 : List UInt8 → JsString
  uniqueJsonObjectKeys : JsString → Bool
  losslessJsonNumbers : JsString → Bool
  assertJsonTreeSafe : Json Number → Except TranscriptQuarantineReason Unit
  canonicalNativeTranscriptJson : Json Number → JsString

structure NativeTranscriptJsonlReadSnapshot (Number : Type) where
  format : NativeTranscriptFormat
  nativeSessionId : JsString
  sourceLocator : JsString
  scrubberVersion : JsString
  scrubJson : Json Number → Except TranscriptQuarantineReason (Json Number)
  /-- The clock is read once for each counted record. -/
  clock : Nat → Int
  maxRecordBytes : Nat
  positive : 1 ≤ maxRecordBytes
  progressStartByteOffset : Nat
  inheritedBoundary : Option CodexInheritedBoundary

/-- What was read of a counted record. -/
inductive RecordContent (Number : Type)
  | quarantine (reason : TranscriptQuarantineReason) (quarantinedAt : Int)
  | record (format : NativeTranscriptFormat) (nativeSessionId : JsString) (observedAt : Int)
      (scrubberVersion ingestKey : JsString) (nativePayload : Json Number) (inheritedHistory : Option Bool)

structure NativeTranscriptReadOutcome (Number : Type) where
  sourceOrdinal : Nat
  endByteOffset : Nat
  prefixSha256 : JsString
  contentSha256 : JsString
  content : RecordContent Number

structure NativeTranscriptProgress where
  startByteOffset : Nat
  endByteOffset : Nat
  rangeSha256 : JsString
  prefixSha256 : JsString
  deriving DecidableEq

/-- The bytes of a record so far. A record that is too large keeps its hash and length only. -/
structure RecordAccumulator where
  parts : List UInt8
  rawHash : List UInt8
  byteLength : Nat
  oversized : Bool
  deriving DecidableEq

def newAccumulator : RecordAccumulator := ⟨[], [], 0, false⟩

def appendRecordBytes (accumulator : RecordAccumulator) (bytes : List UInt8) (maxRecordBytes : Nat) :
    RecordAccumulator :=
  let hashed : RecordAccumulator :=
    { accumulator with
      rawHash := accumulator.rawHash ++ bytes, byteLength := accumulator.byteLength + bytes.length }
  if hashed.oversized then hashed
  else if maxRecordBytes < hashed.byteLength then { hashed with oversized := true, parts := [] }
  else { hashed with parts := hashed.parts ++ bytes }

/-- The bytes of a record without the carriage return before its line feed. -/
def withoutReturn (bytes : List UInt8) : List UInt8 :=
  if bytes.getLast? = some 0x0d then bytes.dropLast else bytes

def accumulatedBytes (accumulator : RecordAccumulator) : List UInt8 := withoutReturn accumulator.parts

def isJsonlBlank (bytes : List UInt8) : Bool :=
  bytes.all fun byte => byte = 0x09 || byte = 0x0d || byte = 0x20

section Records

variable {Number : Type} (numbers : JsNumbers Number) (checks : RecordChecks Number)

/-- The decoder drops a byte order mark and throws on an error. -/
def decodeRecord (bytes : List UInt8) : Except TranscriptQuarantineReason JsString :=
  if 0 ∈ bytes then .error .binaryInput
  else if ValidUtf8 bytes then
    .ok (if (decodeUtf8 bytes).head? = some 0xfeff then (decodeUtf8 bytes).drop 1 else decodeUtf8 bytes)
  else .error .invalidUtf8

def parsedContainer (text : JsString) : Except TranscriptQuarantineReason (Json Number) :=
  if checks.uniqueJsonObjectKeys text && checks.losslessJsonNumbers text then
    match Json.parse numbers.format text with
    | none => .error .malformedJson
    | some (.object members) => .ok (.object members)
    | some (.array elements) => .ok (.array elements)
    | some _ => .error .nonContainerJson
  else .error .malformedJson

/-- Whether a record belongs to the history that a rollout inherited. -/
def isInheritedSubagentRecord (record : Json Number) (boundary : Option CodexInheritedBoundary) (position : Nat) :
    Bool :=
  match boundary with
  | none => false
  | some (.ordinal start paginated) => isInheritedByOrdinal numbers record (start, paginated)
  | some (.copiedFork startRecord) => position < startRecord
  | some .pending => true

/-- A record that can be stored. -/
structure PreparedRecord (Number : Type) where
  nativePayload : Json Number
  contentSha256 : JsString
  inheritedHistory : Option Bool

variable (config : NativeTranscriptJsonlReadSnapshot Number)

/-- The record is classified before it is scrubbed. -/
def prepareRecord (sourceOrdinal : Nat) (bytes : List UInt8) :
    Except TranscriptQuarantineReason (PreparedRecord Number) := do
  let text ← decodeRecord bytes
  let parsed ← parsedContainer numbers checks text
  checks.assertJsonTreeSafe parsed
  let inheritedHistory := config.inheritedBoundary.map fun boundary =>
    isInheritedSubagentRecord numbers parsed (some boundary) sourceOrdinal
  let nativePayload ← config.scrubJson parsed
  let canonicalPayload := encodeUtf8 (checks.canonicalNativeTranscriptJson nativePayload)
  if config.maxRecordBytes < canonicalPayload.length then .error .recordTooLarge
  else .ok ⟨nativePayload, checks.sha256 canonicalPayload, inheritedHistory⟩

def ingestKey (contentSha256 : JsString) (occurrence : Nat) : JsString :=
  checks.sha256 (encodeUtf8 (Json.print numbers.format (.array
    [.string config.format.clientName, .string config.format.formatName, .string config.format.formatVersion,
      .string config.nativeSessionId, .string config.sourceLocator, .string contentSha256,
      .number (numbers.ofNat occurrence)])))

def quarantineOutcome (sourceOrdinal endByteOffset : Nat) (prefixSha256 : JsString)
    (reason : TranscriptQuarantineReason) (contentSha256 : JsString) : NativeTranscriptReadOutcome Number :=
  ⟨sourceOrdinal, endByteOffset, prefixSha256, contentSha256, .quarantine reason (config.clock sourceOrdinal)⟩

/-- The record that is the given occurrence of its content. -/
def preparedOutcome (sourceOrdinal endByteOffset : Nat) (prefixSha256 : JsString) (prepared : PreparedRecord Number)
    (occurrence : Nat) : NativeTranscriptReadOutcome Number :=
  ⟨sourceOrdinal, endByteOffset, prefixSha256, prepared.contentSha256,
    .record config.format config.nativeSessionId (config.clock sourceOrdinal) config.scrubberVersion
      (ingestKey numbers checks config prepared.contentSha256 occurrence) prepared.nativePayload
      prepared.inheritedHistory⟩

end Records

/-- The variables of the reader, with what it yielded and reported. A hash is the bytes that it was given. -/
structure ReaderState (Number : Type) where
  prefixHash : List UInt8
  occurrences : JsString → Nat
  accumulator : RecordAccumulator
  sourceOrdinal : Nat
  byteOffset : Nat
  recordStartByteOffset : Nat
  progressRangeHash : List UInt8
  outcomes : List (NativeTranscriptReadOutcome Number)
  progress : List NativeTranscriptProgress

def ReaderState.initial {Number : Type} : ReaderState Number := ⟨[], fun _ => 0, newAccumulator, 0, 0, 0, [], [], []⟩

section Reader

variable {Number : Type} (numbers : JsNumbers Number) (checks : RecordChecks Number)
variable (config : NativeTranscriptJsonlReadSnapshot Number)

def trackProgressBytes (state : ReaderState Number) (bytes : List UInt8) (startByteOffset : Nat) :
    ReaderState Number :=
  let relativeStart := config.progressStartByteOffset - startByteOffset
  if relativeStart < bytes.length then
    { state with progressRangeHash := state.progressRangeHash ++ bytes.drop relativeStart }
  else state

/-- The part of a record in a chunk. -/
def takeSegment (state : ReaderState Number) (segment : List UInt8) : ReaderState Number :=
  let tracked := trackProgressBytes config state segment state.byteOffset
  { tracked with
    accumulator := appendRecordBytes tracked.accumulator segment config.maxRecordBytes,
    prefixHash := tracked.prefixHash ++ segment, byteOffset := tracked.byteOffset + segment.length }

def reportProgress (state : ReaderState Number) : ReaderState Number :=
  if config.progressStartByteOffset < state.byteOffset then
    { state with
      progress := state.progress ++
        [⟨max state.recordStartByteOffset config.progressStartByteOffset, state.byteOffset,
          checks.sha256 state.progressRangeHash, checks.sha256 state.prefixHash⟩] }
  else state

/-- An outcome takes the next ordinal. -/
def yieldOutcome (state : ReaderState Number) (outcome : NativeTranscriptReadOutcome Number) : ReaderState Number :=
  { state with outcomes := state.outcomes ++ [outcome], sourceOrdinal := state.sourceOrdinal + 1 }

def finishRecord (state : ReaderState Number) : ReaderState Number :=
  let prefixSha256 := checks.sha256 state.prefixHash
  let rawDigest := checks.sha256 state.accumulator.rawHash
  let reported := reportProgress checks config state
  if state.accumulator.oversized then
    yieldOutcome reported
      (quarantineOutcome config state.sourceOrdinal state.byteOffset prefixSha256 .recordTooLarge rawDigest)
  else
    let bytes := accumulatedBytes state.accumulator
    if isJsonlBlank bytes then reported
    else
      match prepareRecord numbers checks config state.sourceOrdinal bytes with
      | .error reason =>
          yieldOutcome reported
            (quarantineOutcome config state.sourceOrdinal state.byteOffset prefixSha256 reason rawDigest)
      | .ok prepared =>
          let occurrence := state.occurrences prepared.contentSha256 + 1
          { yieldOutcome reported
              (preparedOutcome numbers checks config state.sourceOrdinal state.byteOffset prefixSha256 prepared
                occurrence) with
            occurrences := fun digest =>
              if digest = prepared.contentSha256 then occurrence else state.occurrences digest }

/-- The part of a record up to its line feed, which ends the record. -/
def finishSegment (state : ReaderState Number) (segment : List UInt8) : ReaderState Number :=
  let taken := takeSegment config state segment
  let tracked := trackProgressBytes config taken [0x0a] taken.byteOffset
  let finished := finishRecord numbers checks config
    { tracked with prefixHash := tracked.prefixHash ++ [0x0a], byteOffset := tracked.byteOffset + 1 }
  { finished with
    accumulator := newAccumulator, progressRangeHash := [], recordStartByteOffset := finished.byteOffset }

/-- The bytes of a chunk behind the segment that was scanned last. -/
def scanChunk (state : ReaderState Number) (segment : List UInt8) : List UInt8 → ReaderState Number
  | [] => takeSegment config state segment
  | byte :: rest =>
      if byte = 0x0a then scanChunk (finishSegment numbers checks config state segment) [] rest
      else scanChunk state (segment ++ [byte]) rest

/-- The last record may have no line feed. -/
def finishContent (state : ReaderState Number) : ReaderState Number :=
  if 0 < state.accumulator.byteLength then finishRecord numbers checks config state else state

def readNativeTranscriptJsonl (chunks : List (List UInt8)) : ReaderState Number :=
  finishContent numbers checks config
    (chunks.foldl (fun state chunk => scanChunk numbers checks config state [] chunk) .initial)

end Reader

end Lcm.Codex
