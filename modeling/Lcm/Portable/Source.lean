import Mathlib.Logic.Function.Basic
import Lcm.Portable.Stream

namespace Lcm.Portable
open Text Migration

def framedBytes (records : List PortableRecord) : Nat := (records.map fun record => record.bytes.length).sum

/-- What a source has: its records of each domain, and none of a domain that is known to be empty. -/
structure PortableSequences where
  description : PortableSourceDescription
  records : PortableDomain → List PortableRecord
  empty : ∀ domain evidence, description.coverage domain = .authoritativeEmpty evidence → records domain = []

/-- A source that serves its records in pages within the limits. -/
structure FaithfulSource extends PortableSequences where
  pageLength : PortableDomain → Nat → Nat
  few : ∀ domain after, pageLength domain after ≤ maxBatchRecords
  small : ∀ domain after,
    framedBytes (((records domain).drop after).take (pageLength domain after)) ≤ maxBatchBytes
  advances : ∀ domain after, after < (records domain).length → 0 < pageLength domain after

/-- What a source is asked to verify of a checkpoint. -/
structure SourceBoundary where
  domain : PortableDomain
  nextOrdinal : Nat
  prefixSha256 : Hash
  lastRecordIdentitySha256 : Option Hash
  lastRecordSha256 : Option Hash

inductive SourceVerification where
  | unchanged
  | changed
  | invalid
  deriving DecidableEq

namespace FaithfulSource

variable {Number : Type} (platform : PortablePlatform Number) (source : FaithfulSource)

def readDomainPage (domain : PortableDomain) (afterOrdinal : Nat) (includePredecessor : Bool) :
    PortableSourcePage where
  predecessor :=
    if includePredecessor ∧ 0 < afterOrdinal then (source.records domain)[afterOrdinal - 1]? else none
  records := ((source.records domain).drop afterOrdinal).take (source.pageLength domain afterOrdinal)
  complete := (source.records domain).length ≤ afterOrdinal + source.pageLength domain afterOrdinal

def verifySource (boundary : SourceBoundary) : SourceVerification :=
  let records := source.records boundary.domain
  let last := (records.take boundary.nextOrdinal).getLast?
  if records.length < boundary.nextOrdinal then .invalid
  else if prefixSha256 platform boundary.domain (records.take boundary.nextOrdinal) ≠ boundary.prefixSha256 ∨
      last.map (·.recordSha256) ≠ boundary.lastRecordSha256 ∨
      last.map (·.identitySha256) ≠ boundary.lastRecordIdentitySha256 then .changed
  else .unchanged

end FaithfulSource

section Scan

variable {Number : Type} (platform : PortablePlatform Number)

def invalidSource : PortableStreamError := streamError .sourceInvalid none none false

/-- Whatever is wrong with a record of a source makes the source invalid. -/
def orInvalid {Value : Type} (result : Except PortableStreamError Value) : Except PortableStreamError Value :=
  result.mapError fun _ => invalidSource

/-- A page so far. -/
structure PageScan where
  framedBytes : Nat
  nextOrdinal : Nat
  prefixSha256 : Hash
  prior : Option PortableRecord
  projectIdentitySha256 : Option Hash

/-- Of the records before only the neighbour is compared. -/
def checkNeighbour (prior : Option PortableRecord) (record : PortableRecord) :
    Except PortableStreamError Unit :=
  match prior with
  | none => .ok ()
  | some prior => do
      failWhen (prior.identitySha256 = record.identitySha256) invalidSource
      let comparison ← comparePortableOrder platform.utf8 prior.order record.order
      failWhen (comparison ≠ .lt) invalidSource

def scanSourceRecord (domain : PortableDomain) (expectedProjectIdentitySha256 : Option Hash)
    (scan : PageScan) (record : PortableRecord) : Except PortableStreamError PageScan := do
  orInvalid (validateDependencyContract record domain)
  let framedBytes := scan.framedBytes + record.bytes.length
  failWhen (maxBatchBytes < framedBytes ∨ record.domain ≠ domain ∨ record.ordinal ≠ scan.nextOrdinal)
    invalidSource
  checkNeighbour platform scan.prior record
  failWhen (domain = .project ∧ scan.projectIdentitySha256.isSome) invalidSource
  failWhen (∃ dependency ∈ record.dependencies,
    dependency.1 = .project ∧ some dependency.2 ≠ expectedProjectIdentitySha256) invalidSource
  pure {
    framedBytes
    nextOrdinal := scan.nextOrdinal + 1
    prefixSha256 := appendLengthPrefixed platform scan.prefixSha256 record.bytes
    prior := some record
    projectIdentitySha256 :=
      if domain = .project then some record.identitySha256 else scan.projectIdentitySha256 }

/-- A domain so far. -/
structure DomainScan where
  nextOrdinal : Nat
  prefixSha256 : Hash
  previous : Option PortableRecord
  projectIdentitySha256 : Option Hash

/-- The predecessor of a page is the last record of the pages before. -/
def followsPage (domain : PortableDomain) (scan : DomainScan) (predecessor : Option PortableRecord) : Bool :=
  if scan.nextOrdinal = 0 then predecessor.isNone
  else match predecessor, scan.previous with
    | some predecessor, some previous => predecessor.domain = domain ∧
        predecessor.ordinal + 1 = scan.nextOrdinal ∧
        predecessor.identitySha256 = previous.identitySha256 ∧
        predecessor.recordSha256 = previous.recordSha256
    | _, _ => false

def scanSourcePage (domain : PortableDomain) (expectedProjectIdentitySha256 : Option Hash)
    (page : PortableSourcePage) (scan : DomainScan) : Except PortableStreamError DomainScan := do
  failWhen (maxBatchRecords < page.records.length) invalidSource
  failWhen (page.records = [] ∧ page.complete = false) invalidSource
  failWhen (¬ followsPage domain scan page.predecessor) invalidSource
  let scanned ← page.records.foldlM (scanSourceRecord platform domain expectedProjectIdentitySha256)
    ⟨0, scan.nextOrdinal, scan.prefixSha256, page.predecessor, none⟩
  failWhen (scanned.projectIdentitySha256.isSome ∧ scan.projectIdentitySha256.isSome) invalidSource
  pure {
    nextOrdinal := scanned.nextOrdinal
    prefixSha256 := scanned.prefixSha256
    previous := scanned.prior
    projectIdentitySha256 := scanned.projectIdentitySha256.or scan.projectIdentitySha256 }

/-- The pages of a domain to its end, as far as they are counted. -/
def scanPages (source : FaithfulSource) (domain : PortableDomain)
    (expectedProjectIdentitySha256 : Option Hash) :
    Nat → DomainScan → Except PortableStreamError DomainScan
  | 0, _ => .error (streamError .sourceUnavailable none none true)
  | pages + 1, scan => do
      let page := source.readDomainPage domain scan.nextOrdinal (0 < scan.nextOrdinal)
      let scanned ← scanSourcePage platform domain expectedProjectIdentitySha256 page scan
      if page.complete then pure scanned
      else scanPages source domain expectedProjectIdentitySha256 pages scanned

def scanDomain (pages : Nat) (source : FaithfulSource) (domain : PortableDomain)
    (expectedProjectIdentitySha256 : Option Hash) : Except PortableStreamError DomainScan :=
  let start : DomainScan := ⟨0, initialDomainPrefix platform domain, none, none⟩
  match source.description.coverage domain with
  | .authoritativeEmpty _ => pure start
  | .available _ => scanPages platform source domain expectedProjectIdentitySha256 pages start

/-- The domains so far, with the one project that the others depend on. -/
structure ManifestScan where
  domains : PortableDomain → PortableDomainManifest
  projectIdentitySha256 : Option Hash

def scanNext (pages : Nat) (source : FaithfulSource) (scan : ManifestScan) (domain : PortableDomain) :
    Except PortableStreamError ManifestScan := do
  let entry ← scanDomain platform pages source domain scan.projectIdentitySha256
  failWhen (domain = .project ∧ (entry.nextOrdinal ≠ 1 ∨ entry.projectIdentitySha256.isNone)) invalidSource
  pure {
    domains := Function.update scan.domains domain ⟨entry.nextOrdinal, entry.prefixSha256⟩
    projectIdentitySha256 :=
      if domain = .project then entry.projectIdentitySha256 else scan.projectIdentitySha256 }

end Scan

section Manifests

variable {Number : Type} (platform : PortablePlatform Number)

def PortableCoverageEvidence.toJson : PortableCoverageEvidence → Json Number
  | .available evidenceSha256 =>
      .object [(js "state", .string (js "available")), (js "evidenceSha256", .string evidenceSha256.1)]
  | .authoritativeEmpty evidenceSha256 =>
      .object [(js "state", .string (js "authoritative-empty")),
        (js "reason", .string (js "not-in-source-generation")), (js "evidenceSha256", .string evidenceSha256.1)]

def PortableSourceDescription.toJson (source : PortableSourceDescription) : Json Number :=
  .object [(js "capturedAt", .string source.capturedAt),
    (js "sourceIdentitySha256", .string source.sourceIdentitySha256.1),
    (js "sourceWitnessSha256", .string source.sourceWitnessSha256.1),
    (js "coverage", .object (portableRecordDomainOrder.map fun domain =>
      (js domain.name, (source.coverage domain).toJson)))]

def limitsJson : Json Number :=
  .object [(js "maxJsonDepth", writeNatural platform.migration 100),
    (js "maxRecordBytes", writeNatural platform.migration maxRecordBytes),
    (js "maxBatchRecords", writeNatural platform.migration maxBatchRecords),
    (js "maxBatchBytes", writeNatural platform.migration maxBatchBytes),
    (js "maxControlBytes", writeNatural platform.migration (1024 * 1024))]

def manifestDomainJson (source : PortableSourceDescription) (domain : PortableDomain)
    (manifest : PortableDomainManifest) : Json Number :=
  .object [(js "domain", .string (js domain.name)), (js "domainVersion", writeNatural platform.migration 1),
    (js "coverage", (source.coverage domain).toJson),
    (js "recordCount", writeNatural platform.migration manifest.recordCount),
    (js "prefixSha256", .string manifest.prefixSha256.1)]

/-- The members of a manifest that its digest covers. -/
def PortableManifest.body (manifest : PortableManifest) : Json Number :=
  .object [(js "version", writeNatural platform.migration 1),
    (js "schemaSha256", .string platform.portableRecordSchemaSha256.1),
    (js "source", manifest.source.toJson),
    (js "domains", .array (portableRecordDomainOrder.map fun domain =>
      manifestDomainJson platform manifest.source domain (manifest.domains domain))),
    (js "contentSha256", .string manifest.contentSha256.1),
    (js "limits", limitsJson platform)]

/-- A manifest with its digest; the digest of the argument is not read. -/
def createPortableManifest (manifest : PortableManifest) : Except PortableStreamError PortableManifest := do
  failWhen (∃ domain ∈ portableRecordDomainOrder, maxSafeNatural < (manifest.domains domain).recordCount)
    (streamError .malformedManifest none none false)
  pure { manifest with manifestSha256 := canonicalSha256 platform (manifest.body platform) }

def buildManifest (pages : Nat) (source : FaithfulSource) : Except PortableStreamError PortableManifest := do
  let scan ← portableRecordDomainOrder.foldlM (scanNext platform pages source)
    ⟨fun domain => ⟨0, initialDomainPrefix platform domain⟩, none⟩
  let contentSha256 := aggregateContentSha256 platform
    (portableRecordDomainOrder.map fun domain => (scan.domains domain).prefixSha256)
  createPortableManifest platform ⟨source.description, scan.domains, contentSha256, contentSha256⟩

end Manifests

/-- A source that was scanned to its end, whatever the number of its pages. -/
structure PortableRecordStream {Number : Type} (platform : PortablePlatform Number) where
  source : FaithfulSource
  manifest : PortableManifest
  created : ∃ pages, buildManifest platform pages source = .ok manifest

structure PortableVerification where
  manifestSha256 : Hash
  domain : PortableDomain
  checkpointSha256 : Hash
  nextOrdinal : Nat
  recordCount : Nat
  prefixSha256 : Hash
  complete : Bool
  matchesManifestBoundary : Bool
  deriving DecidableEq

namespace PortableRecordStream

variable {Number : Type} {platform : PortablePlatform Number} (stream : PortableRecordStream platform)

def readPage (domain : PortableDomain) (after : Option PortableCheckpoint) : PortableSourcePage :=
  match stream.manifest.source.coverage domain with
  | .authoritativeEmpty _ => ⟨none, [], true⟩
  | .available _ => stream.source.readDomainPage domain (after.elim 0 (·.nextOrdinal)) after.isSome

def readBatch (domain : PortableDomain) (after : Option PortableCheckpoint) (maxRecords maxBytes : Nat) :
    Except PortableStreamError PortableBatch := do
  validateBatchRequest domain maxRecords maxBytes
  verifyPrior platform stream.manifest domain after
  createPortableBatch platform stream.manifest domain (stream.readPage domain after) after maxRecords maxBytes

def boundaryOf (checkpoint : PortableCheckpoint) : SourceBoundary where
  domain := checkpoint.domain
  nextOrdinal := checkpoint.nextOrdinal
  prefixSha256 := checkpoint.prefixSha256
  lastRecordIdentitySha256 := checkpoint.lastRecordIdentitySha256
  lastRecordSha256 := checkpoint.lastRecordSha256

def verify (checkpoint : PortableCheckpoint) : Except PortableStreamError PortableVerification := do
  verifyPortableCheckpoint platform checkpoint stream.manifest
  let verification := stream.source.verifySource platform (boundaryOf checkpoint)
  failWhen (verification = .changed) (streamError .sourceChanged none none false)
  failWhen (verification = .invalid) invalidSource
  pure {
    manifestSha256 := stream.manifest.manifestSha256
    domain := checkpoint.domain
    checkpointSha256 := checkpoint.checkpointSha256
    nextOrdinal := checkpoint.nextOrdinal
    recordCount := checkpoint.recordCount
    prefixSha256 := checkpoint.prefixSha256
    complete := checkpoint.complete
    matchesManifestBoundary := checkpoint.complete }

end PortableRecordStream

end Lcm.Portable
