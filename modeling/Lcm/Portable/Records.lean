import Lcm.Migration.Protocol

namespace Lcm.Portable
open Text Migration

inductive PortableDomain where
  | machines
  | project
  | projectAliases
  | conversations
  | messages
  | messageParts
  | largeFiles
  | summaries
  | summaryFileLinks
  | summaryMessageLinks
  | summaryParentLinks
  | contextItems
  | promotedMemories
  | promotedMemoryTags
  | recallSurfacings
  | redactionCounters
  | sessionIngest
  | sessionInstructions
  | nativeTranscripts
  | nativeTranscriptMessageLinks
  | nativeTranscriptCheckpoints
  | passiveEvents
  deriving DecidableEq

open PortableDomain in
def portableRecordDomainOrder : List PortableDomain :=
  [machines, project, projectAliases, conversations, messages, messageParts, largeFiles, summaries,
    summaryFileLinks, summaryMessageLinks, summaryParentLinks, contextItems, promotedMemories,
    promotedMemoryTags, recallSurfacings, redactionCounters, sessionIngest, sessionInstructions,
    nativeTranscripts, nativeTranscriptMessageLinks, nativeTranscriptCheckpoints, passiveEvents]

def PortableDomain.name : PortableDomain → String
  | machines => "machines"
  | project => "project"
  | projectAliases => "project-aliases"
  | conversations => "conversations"
  | messages => "messages"
  | messageParts => "message-parts"
  | largeFiles => "large-files"
  | summaries => "summaries"
  | summaryFileLinks => "summary-file-links"
  | summaryMessageLinks => "summary-message-links"
  | summaryParentLinks => "summary-parent-links"
  | contextItems => "context-items"
  | promotedMemories => "promoted-memories"
  | promotedMemoryTags => "promoted-memory-tags"
  | recallSurfacings => "recall-surfacings"
  | redactionCounters => "redaction-counters"
  | sessionIngest => "session-ingest"
  | sessionInstructions => "session-instructions"
  | nativeTranscripts => "native-transcripts"
  | nativeTranscriptMessageLinks => "native-transcript-message-links"
  | nativeTranscriptCheckpoints => "native-transcript-checkpoints"
  | passiveEvents => "passive-events"

/-- The domains that a record of a domain depends on, each with its alternatives. -/
def PortableDomain.dependencies : PortableDomain → List (List PortableDomain)
  | machines | project => []
  | projectAliases | sessionInstructions | nativeTranscripts | nativeTranscriptCheckpoints
  | passiveEvents => [[machines], [project]]
  | conversations | promotedMemories | recallSurfacings | redactionCounters | sessionIngest => [[project]]
  | messages | largeFiles | summaries => [[conversations]]
  | messageParts => [[messages]]
  | summaryFileLinks | summaryParentLinks => [[summaries]]
  | summaryMessageLinks => [[summaries], [messages]]
  | contextItems => [[conversations], [messages, summaries]]
  | promotedMemoryTags => [[promotedMemories]]
  | nativeTranscriptMessageLinks => [[nativeTranscripts], [messages]]

def maxBatchRecords : Nat := 500

def maxBatchBytes : Nat := 144 * 1024 * 1024

def maxRecordBytes : Nat := 128 * 1024 * 1024

inductive PortableStreamErrorCode where
  | unknownDomain
  | malformedRecord
  | duplicateIdentity
  | orderRegression
  | dependencyOrder
  | malformedManifest
  | invalidLimit
  | batchLimitExceeded
  | checkpointMismatch
  | partialBatch
  | sourceChanged
  | sourceInvalid
  | sourceUnavailable
  | aborted
  | closed
  deriving DecidableEq

structure PortableStreamError where
  code : PortableStreamErrorCode
  domain : Option PortableDomain
  ordinal : Option Nat
  retryable : Bool
  deriving DecidableEq

/-- What the portable format uses of its runtime: numbers, SHA-256 and UTF-8; and the digest of its
schema. -/
structure PortablePlatform (Number : Type) where
  numbers : JsNumbers Number
  sha256Bytes : List UInt8 → Hash
  utf8 : JsString → List UInt8
  portableRecordSchemaSha256 : Hash

/-- The digest of a text is that of its UTF-8 bytes. -/
def PortablePlatform.migration {Number : Type} (platform : PortablePlatform Number) :
    MigrationPlatform Number where
  numbers := platform.numbers
  sha256 text := platform.sha256Bytes (platform.utf8 text)

inductive PortableOrderScalar where
  | null
  | text (value : JsString)
  | integer (value : Int)
  deriving DecidableEq

/-- A parsed record with the bytes that it is serialized to. -/
structure PortableRecord where
  domain : PortableDomain
  ordinal : Nat
  order : List PortableOrderScalar
  identitySha256 : Hash
  dependencies : List (PortableDomain × Hash)
  recordSha256 : Hash
  bytes : List UInt8
  deriving DecidableEq

section Order

variable (utf8 : JsString → List UInt8)

/-- Nothing comes first, then texts in the order of their bytes, then integers. -/
def compareOrderScalar : PortableOrderScalar → PortableOrderScalar → Ordering
  | .null, .null => .eq
  | .null, _ => .lt
  | _, .null => .gt
  | .text left, .text right => compare ((utf8 left).map UInt8.toNat) ((utf8 right).map UInt8.toNat)
  | .text _, .integer _ => .lt
  | .integer _, .text _ => .gt
  | .integer left, .integer right => compare left right

/-- The first scalars that differ decide. -/
def compareOrderScalars : List PortableOrderScalar → List PortableOrderScalar → Ordering
  | left :: lefts, right :: rights =>
      (compareOrderScalar utf8 left right).then (compareOrderScalars lefts rights)
  | _, _ => .eq

def comparePortableOrder (left right : List PortableOrderScalar) : Except PortableStreamError Ordering :=
  if left.length ≠ right.length then .error ⟨.malformedRecord, none, none, false⟩
  else .ok (compareOrderScalars utf8 left right)

end Order

section Prefixes

variable {Number : Type} (platform : PortablePlatform Number)

/-- The byte of two hexadecimal digits. -/
def hexBytes : JsString → List UInt8
  | high :: low :: rest => UInt8.ofNat (hexValue high * 16 + hexValue low) :: hexBytes rest
  | _ => []
where
  hexValue (digit : UInt16) : Nat := if digit < 58 then digit.toNat - 48 else digit.toNat - 87

def uint64be (value : Nat) : List UInt8 :=
  (List.range 8).map fun index => UInt8.ofNat (value / 256 ^ (7 - index))

def appendLengthPrefixed (previousSha256 : Hash) (bytes : List UInt8) : Hash :=
  platform.sha256Bytes (hexBytes previousSha256.1 ++ uint64be bytes.length ++ bytes)

def canonicalSha256 (value : Json Number) : Hash :=
  platform.migration.sha256 (canonicalJson platform.migration value)

def initialDomainPrefix (domain : PortableDomain) : Hash :=
  canonicalSha256 platform (.array [.string (js "lcm-portable-domain-v1"),
    .string platform.portableRecordSchemaSha256.1, .string (js domain.name),
    writeNatural platform.migration 1])

/-- The digest of a sequence of records from the start of its domain. -/
def prefixSha256 (domain : PortableDomain) (records : List PortableRecord) : Hash :=
  records.foldl (fun digest record => appendLengthPrefixed platform digest record.bytes)
    (initialDomainPrefix platform domain)

def aggregateContentSha256 (prefixes : List Hash) : Hash :=
  prefixes.foldl (fun digest part => appendLengthPrefixed platform digest (hexBytes part.1))
    (canonicalSha256 platform (.array [.string (js "lcm-portable-content-v1"),
      .string platform.portableRecordSchemaSha256.1]))

theorem prefixSha256_append (domain : PortableDomain) (records : List PortableRecord)
    (record : PortableRecord) : prefixSha256 platform domain (records ++ [record]) =
      appendLengthPrefixed platform (prefixSha256 platform domain records) record.bytes :=
  List.foldl_concat ..

end Prefixes

end Lcm.Portable
