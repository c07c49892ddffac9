import Lcm.Library.Except
import Lcm.Portable.Records

namespace Lcm.Portable
open Text Migration

/-- The evidence that a source has a domain, or that it has nothing of it. -/
inductive PortableCoverageEvidence where
  | available (evidenceSha256 : Hash)
  | authoritativeEmpty (evidenceSha256 : Hash)
  deriving DecidableEq

structure PortableSourceDescription where
  capturedAt : JsString
  sourceIdentitySha256 : Hash
  sourceWitnessSha256 : Hash
  coverage : PortableDomain → PortableCoverageEvidence

structure PortableDomainManifest where
  recordCount : Nat
  prefixSha256 : Hash
  deriving DecidableEq

/-- A validated manifest; it has each domain once and the coverage of its source. -/
structure PortableManifest where
  source : PortableSourceDescription
  domains : PortableDomain → PortableDomainManifest
  contentSha256 : Hash
  manifestSha256 : Hash

structure PortableCheckpoint where
  manifestSha256 : Hash
  domain : PortableDomain
  nextOrdinal : Nat
  recordCount : Nat
  prefixSha256 : Hash
  lastRecordIdentitySha256 : Option Hash
  lastRecordSha256 : Option Hash
  previousCheckpointSha256 : Option Hash
  complete : Bool
  checkpointSha256 : Hash
  deriving DecidableEq

structure PortableBatch where
  manifestSha256 : Hash
  domain : PortableDomain
  records : List PortableRecord
  framedBytes : Nat
  complete : Bool
  priorCheckpointSha256 : Option Hash
  checkpoint : PortableCheckpoint
  deriving DecidableEq

structure PortableSourcePage where
  predecessor : Option PortableRecord
  records : List PortableRecord
  complete : Bool

def streamError (code : PortableStreamErrorCode) (domain : Option PortableDomain) (ordinal : Option Nat)
    (retryable : Bool) : PortableStreamError := ⟨code, domain, ordinal, retryable⟩

def failWhen (condition : Prop) [Decidable condition] (error : PortableStreamError) :
    Except PortableStreamError Unit := if condition then .error error else .ok ()

theorem failWhen_eq_ok {condition : Prop} [Decidable condition] {error : PortableStreamError}
    {value : Unit} : failWhen condition error = .ok value ↔ ¬ condition := by
  rw [failWhen]
  split
  · next holds => simp [holds]
  · next fails => simp [fails]

theorem failWhen_eq_error {condition : Prop} [Decidable condition] {error failure : PortableStreamError} :
    failWhen condition error = .error failure ↔ condition ∧ error = failure := by
  rw [failWhen]
  split
  · next holds => simp [holds]
  · next fails => simp [fails]

section Checkpoints

variable {Number : Type} (platform : PortablePlatform Number)

def nullableHash (hash : Option Hash) : Json Number := writeNullable (fun hash => .string hash.1) hash

namespace PortableCheckpoint

/-- The members of a checkpoint that its digest covers. -/
def body (checkpoint : PortableCheckpoint) : Json Number :=
  .object [(js "version", writeNatural platform.migration 1),
    (js "manifestSha256", .string checkpoint.manifestSha256.1),
    (js "domain", .string (js checkpoint.domain.name)),
    (js "nextOrdinal", writeNatural platform.migration checkpoint.nextOrdinal),
    (js "recordCount", writeNatural platform.migration checkpoint.recordCount),
    (js "prefixSha256", .string checkpoint.prefixSha256.1),
    (js "lastRecordIdentitySha256", nullableHash checkpoint.lastRecordIdentitySha256),
    (js "lastRecordSha256", nullableHash checkpoint.lastRecordSha256),
    (js "previousCheckpointSha256", nullableHash checkpoint.previousCheckpointSha256),
    (js "complete", .boolean checkpoint.complete)]

/-- The ends of a checkpoint: at the start of its domain it has no record and no checkpoint before. -/
def hasEnds (checkpoint : PortableCheckpoint) : Bool :=
  if checkpoint.nextOrdinal = 0 then checkpoint.lastRecordIdentitySha256.isNone &&
    checkpoint.lastRecordSha256.isNone && checkpoint.previousCheckpointSha256.isNone
  else checkpoint.lastRecordIdentitySha256.isSome && checkpoint.lastRecordSha256.isSome

end PortableCheckpoint

def checkpointMismatch : PortableStreamError := streamError .checkpointMismatch none none false

def validateCheckpoint (checkpoint : PortableCheckpoint) : Except PortableStreamError Unit := do
  failWhen (maxSafeNatural < checkpoint.nextOrdinal ∨ checkpoint.recordCount ≠ checkpoint.nextOrdinal)
    checkpointMismatch
  failWhen (¬ checkpoint.hasEnds) checkpointMismatch
  failWhen (checkpoint.checkpointSha256 ≠ canonicalSha256 platform (checkpoint.body platform))
    checkpointMismatch

def verifyPortableCheckpoint (checkpoint : PortableCheckpoint) (manifest : PortableManifest) :
    Except PortableStreamError Unit := do
  validateCheckpoint platform checkpoint
  failWhen (checkpoint.manifestSha256 ≠ manifest.manifestSha256) checkpointMismatch
  let terminal := manifest.domains checkpoint.domain
  failWhen (terminal.recordCount < checkpoint.nextOrdinal ∨
    (checkpoint.complete ∧ (checkpoint.nextOrdinal ≠ terminal.recordCount ∨
      checkpoint.prefixSha256 ≠ terminal.prefixSha256)) ∨
    (checkpoint.complete = false ∧ terminal.recordCount ≤ checkpoint.nextOrdinal)) checkpointMismatch
  failWhen (checkpoint.nextOrdinal = 0 ∧
    checkpoint.prefixSha256 ≠ initialDomainPrefix platform checkpoint.domain) checkpointMismatch

/-- A checkpoint with its digest; the digest of the argument is not read. -/
def makeCheckpoint (checkpoint : PortableCheckpoint) : PortableCheckpoint :=
  { checkpoint with checkpointSha256 := canonicalSha256 platform (checkpoint.body platform) }

end Checkpoints

section Batches

variable {Number : Type} (platform : PortablePlatform Number)

def validateDependencyContract (record : PortableRecord) (domain : PortableDomain) :
    Except PortableStreamError Unit :=
  let expected := domain.dependencies
  failWhen (record.dependencies.isEmpty ≠ expected.isEmpty ∨
    (∃ dependency ∈ record.dependencies, ∀ candidate ∈ expected, dependency.1 ∉ candidate) ∨
    ∃ candidate ∈ expected, ∀ dependency ∈ record.dependencies, dependency.1 ∉ candidate)
    (streamError .dependencyOrder domain record.ordinal false)

/-- The records of a page so far, and those of them that the caller's limits select. -/
structure BatchScan where
  framedBytes : Nat
  identities : List Hash
  previous : Option PortableRecord
  selectionOpen : Bool
  selectedBytes : Nat
  selectedCount : Nat
  callerLimitOrdinal : Option Nat
  prefixSha256 : Hash

/-- A record is selected while the limits allow it. -/
def BatchScan.select (maxRecords maxBytes : Nat) (record : PortableRecord) (scan : BatchScan) : BatchScan :=
  let size := record.bytes.length
  if !scan.selectionOpen then scan
  else if scan.selectedCount = 0 ∧ maxBytes < size then
    { scan with callerLimitOrdinal := some record.ordinal, selectionOpen := false }
  else if scan.selectedCount < maxRecords ∧ scan.selectedBytes + size ≤ maxBytes then
    { scan with
      selectedBytes := scan.selectedBytes + size
      selectedCount := scan.selectedCount + 1
      prefixSha256 := appendLengthPrefixed platform scan.prefixSha256 record.bytes }
  else { scan with selectionOpen := false }

def checkOrder (domain : PortableDomain) (previous : Option PortableRecord) (record : PortableRecord) :
    Except PortableStreamError Unit :=
  match previous with
  | none => .ok ()
  | some previous => do
      let comparison ← comparePortableOrder platform.utf8 previous.order record.order
      failWhen (comparison ≠ .lt) (streamError .orderRegression domain record.ordinal false)

def scanRecord (domain : PortableDomain) (maxRecords maxBytes : Nat) (scan : BatchScan)
    (record : PortableRecord) : Except PortableStreamError BatchScan := do
  validateDependencyContract record domain
  failWhen (record.domain ≠ domain) (streamError .checkpointMismatch domain record.ordinal false)
  let framedBytes := scan.framedBytes + record.bytes.length
  failWhen (maxBatchBytes < framedBytes) (streamError .batchLimitExceeded domain record.ordinal true)
  failWhen (record.identitySha256 ∈ scan.identities)
    (streamError .duplicateIdentity domain record.ordinal false)
  checkOrder platform domain scan.previous record
  pure { scan.select platform maxRecords maxBytes record with
    framedBytes
    identities := record.identitySha256 :: scan.identities
    previous := some record }

/-- The first record that is not at its ordinal. -/
def misplaced (startOrdinal : Nat) (records : List PortableRecord) : Option Nat :=
  ((records.zipIdx startOrdinal).find? fun entry => entry.1.ordinal ≠ entry.2).map fun entry =>
    entry.1.ordinal

/-- The predecessor of a page is the last record of the prior checkpoint. -/
def isPredecessor (domain : PortableDomain) (priorCheckpoint : Option PortableCheckpoint)
    (predecessor : Option PortableRecord) : Bool :=
  match priorCheckpoint, predecessor with
  | none, predecessor => predecessor.isNone
  | some _, none => false
  | some prior, some predecessor => predecessor.domain = domain ∧
      predecessor.ordinal + 1 = prior.nextOrdinal ∧
      some predecessor.identitySha256 = prior.lastRecordIdentitySha256 ∧
      some predecessor.recordSha256 = prior.lastRecordSha256

def validateBatchRequest (domain : PortableDomain) (maxRecords maxBytes : Nat) :
    Except PortableStreamError Unit :=
  failWhen (maxRecords = 0 ∨ maxBatchRecords < maxRecords ∨ maxBytes = 0 ∨ maxBatchBytes < maxBytes)
    (streamError .invalidLimit domain none false)

def verifyPrior (manifest : PortableManifest) (domain : PortableDomain) :
    Option PortableCheckpoint → Except PortableStreamError Unit
  | none => .ok ()
  | some prior => do
      verifyPortableCheckpoint platform prior manifest
      failWhen (prior.domain ≠ domain) checkpointMismatch

/-- The checkpoint after the selected records. -/
def batchCheckpoint (manifest : PortableManifest) (domain : PortableDomain)
    (priorCheckpoint : Option PortableCheckpoint) (last : Option PortableRecord) (nextOrdinal : Nat)
    (prefixSha256 : Hash) (complete : Bool) : PortableCheckpoint :=
  makeCheckpoint platform {
    manifestSha256 := manifest.manifestSha256
    domain
    nextOrdinal
    recordCount := nextOrdinal
    prefixSha256
    lastRecordIdentitySha256 := last.map (·.identitySha256)
    lastRecordSha256 := last.map (·.recordSha256)
    previousCheckpointSha256 := priorCheckpoint.map (·.checkpointSha256)
    complete
    checkpointSha256 := prefixSha256 }

def createPortableBatch (manifest : PortableManifest) (domain : PortableDomain) (page : PortableSourcePage)
    (priorCheckpoint : Option PortableCheckpoint) (maxRecords maxBytes : Nat) :
    Except PortableStreamError PortableBatch := do
  validateBatchRequest domain maxRecords maxBytes
  verifyPrior platform manifest domain priorCheckpoint
  let terminal := manifest.domains domain
  let startOrdinal := priorCheckpoint.elim 0 (·.nextOrdinal)
  failWhen (maxBatchRecords < page.records.length) (streamError .batchLimitExceeded domain none true)
  failWhen (¬ isPredecessor domain priorCheckpoint page.predecessor)
    (streamError .checkpointMismatch domain none false)
  failWhen (page.records = [] ∧ page.complete = false) (streamError .partialBatch domain none false)
  let scan ← page.records.foldlM (scanRecord platform domain maxRecords maxBytes)
    ⟨0, (page.predecessor.map (·.identitySha256)).toList, page.predecessor, true, 0, 0, none,
      priorCheckpoint.elim (initialDomainPrefix platform domain) (·.prefixSha256)⟩
  let misplacedOrdinal := misplaced startOrdinal page.records
  failWhen misplacedOrdinal.isSome (streamError .checkpointMismatch domain misplacedOrdinal false)
  failWhen (terminal.recordCount < startOrdinal + page.records.length)
    (streamError .partialBatch domain (some (startOrdinal + page.records.length)) false)
  failWhen scan.callerLimitOrdinal.isSome (streamError .batchLimitExceeded domain scan.callerLimitOrdinal true)
  let selected := page.records.take scan.selectedCount
  let nextOrdinal := startOrdinal + selected.length
  let complete := page.complete && selected.length == page.records.length
  failWhen (page.complete = false ∧ terminal.recordCount ≤ nextOrdinal)
    (streamError .partialBatch domain nextOrdinal false)
  failWhen (complete ∧ (nextOrdinal ≠ terminal.recordCount ∨ scan.prefixSha256 ≠ terminal.prefixSha256))
    (streamError .partialBatch domain nextOrdinal false)
  let last := (selected.getLast?).or page.predecessor
  pure {
    manifestSha256 := manifest.manifestSha256
    domain
    records := selected
    framedBytes := scan.selectedBytes
    complete
    priorCheckpointSha256 := priorCheckpoint.map (·.checkpointSha256)
    checkpoint := batchCheckpoint platform manifest domain priorCheckpoint last nextOrdinal
      scan.prefixSha256 complete }

end Batches

end Lcm.Portable
