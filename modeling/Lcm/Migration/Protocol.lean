import Lcm.Migration.Manifest

namespace Lcm.Migration
open Text

section Canonical

variable {Number : Type} (platform : MigrationPlatform Number)

mutual

/-- A value with its members in the order of their names; a negative zero is a zero. -/
def canonicalValue : Json Number → Json Number
  | .array elements => .array (canonicalElements elements)
  | .object members => .object (sortedBy (fun member => member.1.map UInt16.toNat)
      (canonicalMembers members))
  | .number value => .number (if platform.numbers.isNegativeZero value then platform.numbers.ofNat 0
      else value)
  | value => value

def canonicalElements : List (Json Number) → List (Json Number)
  | [] => []
  | element :: rest => canonicalValue element :: canonicalElements rest

def canonicalMembers : List (JsString × Json Number) → List (JsString × Json Number)
  | [] => []
  | (key, value) :: rest => (key, canonicalValue value) :: canonicalMembers rest

end

def canonicalJson (value : Json Number) : JsString :=
  Json.print platform.numbers.format (canonicalValue platform value)

end Canonical

def compareCheckpointsKey (checkpoint : MigrationCheckpoint) : List Nat ×ₗ Nat :=
  toLex (checkpoint.domain.1.map UInt16.toNat, checkpoint.ordinal.1)

def sortCheckpoints (checkpoints : List MigrationCheckpoint) : List MigrationCheckpoint :=
  sortedBy compareCheckpointsKey checkpoints

def compareReportsKey (report : MigrationReportReference) : List Nat ×ₗ List Nat ×ₗ List Nat :=
  toLex (((reportKinds.lookup report.kind).getD []).map UInt16.toNat,
    toLex (report.reportId.1.map UInt16.toNat, report.createdAt.1.map UInt16.toNat))

def sortReports (reports : List MigrationReportReference) : List MigrationReportReference :=
  sortedBy compareReportsKey reports

section Manifests

variable {Number : Type} (platform : MigrationPlatform Number)

namespace UnsignedMigrationManifest

/-- The members of a manifest with those of its checksum between. -/
def members (manifest : UnsignedMigrationManifest) (checksum : RecordValue Number) :
    RecordValue Number :=
  [(js "activationEligible", .boolean manifest.activationEligible),
    (js "checkpoints", .array (manifest.checkpoints.map (MigrationCheckpoint.toJson platform)))] ++
  checksum ++
  [(js "createdAt", .string manifest.createdAt.1),
    (js "destination", manifest.destination.toJson platform),
    (js "generationId", .string manifest.generationId.1),
    (js "pendingEffect", writeNullable PendingMigrationEffect.toJson manifest.pendingEffect),
    (js "phase", writeName phases manifest.phase),
    (js "previousManifestSha256", writeNullable (fun hash => .string hash.1)
      manifest.previousManifestSha256),
    (js "reports", .array (manifest.reports.map MigrationReportReference.toJson)),
    (js "revision", writeNatural platform manifest.revision),
    (js "rollbackLineage", manifest.rollbackLineage.toJson),
    (js "source", manifest.source.toJson platform),
    (js "updatedAt", .string manifest.updatedAt.1), (js "version", writeNatural platform 1)]

def toJson (manifest : UnsignedMigrationManifest) : Json Number := .object (manifest.members platform [])

/-- A manifest with its collections in order. -/
def normalizeManifestCollections (manifest : UnsignedMigrationManifest) :
    UnsignedMigrationManifest :=
  { manifest with
    checkpoints := sortCheckpoints manifest.checkpoints
    reports := sortReports manifest.reports }

def migrationManifestCanonicalSha256 (manifest : UnsignedMigrationManifest) : Hash :=
  platform.sha256 (canonicalJson platform (manifest.normalizeManifestCollections.toJson platform))

end UnsignedMigrationManifest

def MigrationManifest.toJson (manifest : MigrationManifest) : Json Number :=
  .object (manifest.members platform [(js "checksumSha256", .string manifest.checksumSha256.1)])

def assertUniqueCollections (checkpoints : List MigrationCheckpoint)
    (reports : List MigrationReportReference) : Except MigrationProtocolError Unit :=
  if ¬ (checkpoints.map (·.domain)).Nodup then
    protocolError .malformedManifest "checkpoints must be unique"
  else if ¬ (reports.map (·.reportId)).Nodup then
    protocolError .malformedManifest "reports must be unique"
  else .ok ()

structure LegalEffect where
  targetPhase : MigrationPhase
  recovery : MigrationRecovery
  deriving DecidableEq

def legalEffect (phase : MigrationPhase) (effect : MigrationEffectKind) : Option LegalEffect :=
  match phase, effect with
  | .planned, .verifyDryRun => some ⟨.dryRunVerified, .retryIdempotent⟩
  | .dryRunVerified, .copyBatch | .copying, .copyBatch =>
      some ⟨.copying, .authoritativeReadbackRequired⟩
  | .copying, .completeCopy => some ⟨.copied, .authoritativeReadbackRequired⟩
  | .copied, .verifyGeneration => some ⟨.verified, .retryIdempotent⟩
  | .verified, .prepareActivation => some ⟨.activating, .retryIdempotent⟩
  | .activating, .publishActivation => some ⟨.active, .authoritativeReadbackRequired⟩
  | .verified, .prepareRollback | .active, .prepareRollback => some ⟨.rollingBack, .retryIdempotent⟩
  | .rollingBack, .publishRollback => some ⟨.rolledBack, .authoritativeReadbackRequired⟩
  | .planned, .abort | .dryRunVerified, .abort | .copying, .abort | .copied, .abort
  | .verified, .abort => some ⟨.aborted, .retryIdempotent⟩
  | _, _ => none

def MigrationPhase.isTerminal (phase : MigrationPhase) : Bool :=
  phase ∈ [.rolledBack, .aborted]

/-- The phases after a verified generation. -/
def MigrationPhase.isEligible (phase : MigrationPhase) : Bool :=
  phase ∈ [.verified, .activating, .active, .rollingBack, .rolledBack]

def UnsignedMigrationManifest.hasVerification (manifest : UnsignedMigrationManifest) : Bool :=
  manifest.reports.any fun report => report.kind = .verification

def assertPendingEffect (phase : MigrationPhase) (reason : MigrationProtocolReason) :
    Option PendingMigrationEffect → Except MigrationProtocolError Unit
  | none => .ok ()
  | some pendingEffect => do
      refuse (pendingEffect.fromPhase ≠ phase) reason "pending effect phase is invalid"
      refuse (legalEffect phase pendingEffect.kind ≠
          some ⟨pendingEffect.targetPhase, pendingEffect.recovery⟩) reason
        "pending effect transition is invalid"

def assertCrossFieldInvariants (manifest : UnsignedMigrationManifest)
    (reason : MigrationProtocolReason) : Except MigrationProtocolError Unit := do
  let lineage := manifest.rollbackLineage
  let rollbackPhase := manifest.phase = .rollingBack ∨ manifest.phase = .rolledBack
  refuse (manifest.source.backend.isPostgreSql ∨ ¬ manifest.destination.backend.isPostgreSql) reason
    "migration manifest backend direction is invalid"
  refuse (¬ (manifest.revision = 0 ↔ manifest.previousManifestSha256 = none)) reason
    "revision predecessor is invalid"
  refuse (manifest.phase.isTerminal ∧ manifest.pendingEffect ≠ none) reason
    "terminal phase cannot have a pending effect"
  assertPendingEffect manifest.phase reason manifest.pendingEffect
  refuse (manifest.activationEligible ≠ (manifest.phase.isEligible && manifest.hasVerification)) reason
    "activation eligibility is invalid"
  refuse (lineage.returnPhase ≠ none ∧ ¬ rollbackPhase) reason "rollback return phase is invalid"
  refuse (manifest.phase = .rollingBack ∧ lineage.returnPhase = none) reason
    "rolling-back phase requires a sealed return phase"
  refuse (lineage.mode ≠ none ∧ manifest.phase ≠ .rolledBack) reason "rollback mode is invalid"
  refuse (manifest.phase = .rolledBack ∧ lineage.mode = none) reason
    "rolled-back phase requires rollback mode"
  refuse (manifest.phase = .rolledBack ∧ lineage.returnPhase = none) reason
    "rolled-back phase requires a sealed return phase"

def manifestKeys : List String :=
  ["activationEligible", "checkpoints", "checksumSha256", "createdAt", "destination", "generationId",
    "pendingEffect", "phase", "previousManifestSha256", "reports", "revision", "rollbackLineage",
    "source", "updatedAt", "version"]

/-- The fields of a manifest that are not records of their own. -/
structure ManifestFields (Number : Type) where
  generationId : Identifier
  revision : SafeNatural
  phase : MigrationPhase
  checkpoints : List (Json Number)
  reports : List (Json Number)
  activationEligible : Bool
  previousManifestSha256 : Option Hash
  createdAt : IsoTimestamp
  updatedAt : IsoTimestamp
  checksumSha256 : Hash

def readArray : Option (Json Number) → Option (List (Json Number))
  | some (.array elements) => some elements
  | _ => none

def readManifestFields (manifest : RecordValue Number) : Option (ManifestFields Number) := do
  let generationId ← readText (own manifest "generationId")
  let revision ← readNatural platform (own manifest "revision")
  let phase ← readName phases (own manifest "phase")
  let checkpoints ← readArray (own manifest "checkpoints")
  let reports ← readArray (own manifest "reports")
  let activationEligible ← readBoolean (own manifest "activationEligible")
  let previousManifestSha256 ← readNullable readText (own manifest "previousManifestSha256")
  let createdAt ← readText (own manifest "createdAt")
  let updatedAt ← readText (own manifest "updatedAt")
  let checksumSha256 ← readText (own manifest "checksumSha256")
  if isVersionOne platform (own manifest "version") then
    some ⟨generationId, revision, phase, checkpoints, reports, activationEligible,
      previousManifestSha256, createdAt, updatedAt, checksumSha256⟩
  else none

/-- A manifest that is a text is read as JSON. -/
def manifestObject (value : Json Number) : Except MigrationProtocolError (Json Number) :=
  match value with
  | .string text =>
      if text.any (127 < ·) then protocolError .malformedManifest "manifest must be ASCII"
      else match Json.parse platform.numbers.format text with
        | some parsed => .ok parsed
        | none => protocolError .malformedManifest "manifest is not valid JSON"
  | value => .ok value

def parseMigrationManifest (value : Json Number) : Except MigrationProtocolError MigrationManifest := do
  let parsed ← manifestObject platform value
  let members ← assertRecord parsed .malformedManifest "manifest must be an object"
  let manifest ← assertExactObject (some (.object members)) manifestKeys "manifest" .malformedManifest
  let fields ← orProtocolError (readManifestFields platform manifest) .malformedManifest
    "manifest is invalid"
  let source ← parseWitness platform (own manifest "source") "source" .malformedManifest
  let destination ← parseWitness platform (own manifest "destination") "destination" .malformedManifest
  let checkpoints ← fields.checkpoints.mapM fun checkpoint =>
    parseCheckpoint platform (some checkpoint) .malformedManifest
  let reports ← fields.reports.mapM fun report => parseReport (some report) .malformedManifest
  let rollbackLineage ← parseRollbackLineage (own manifest "rollbackLineage")
  let pendingEffect ← parsePendingEffect (own manifest "pendingEffect")
  assertUniqueCollections (sortCheckpoints checkpoints) (sortReports reports)
  let payload : UnsignedMigrationManifest := {
    generationId := fields.generationId
    revision := fields.revision
    phase := fields.phase
    source
    destination
    checkpoints := sortCheckpoints checkpoints
    reports := sortReports reports
    activationEligible := fields.activationEligible
    rollbackLineage
    pendingEffect
    previousManifestSha256 := fields.previousManifestSha256
    createdAt := fields.createdAt
    updatedAt := fields.updatedAt }
  assertCrossFieldInvariants payload .malformedManifest
  refuse (payload.migrationManifestCanonicalSha256 platform ≠ fields.checksumSha256) .checksumMismatch
    "manifest checksum does not match"
  pure { payload with checksumSha256 := fields.checksumSha256 }

/-- A manifest with its checksum, when its fields fit together. -/
def sealMigrationManifest (payload : UnsignedMigrationManifest) (reason : MigrationProtocolReason) :
    Except MigrationProtocolError MigrationManifest := do
  assertCrossFieldInvariants payload reason
  pure { payload with checksumSha256 := payload.migrationManifestCanonicalSha256 platform }

def createMigrationManifest (input : Json Number) : Except MigrationProtocolError MigrationManifest := do
  let members ← assertRecord input .invalidInput "manifest creation input has an invalid shape"
  refuse (¬ exactKeys members ["createdAt", "destination", "generationId", "parentGenerationId",
      "preservedSourceGenerationId", "source"]) .invalidInput
    "manifest creation input has an invalid shape"
  let (generationId, parentGenerationId, preservedSourceGenerationId, createdAt) ← orProtocolError (do
    let generationId : Identifier ← readText (own members "generationId")
    let parentGenerationId : Option Identifier ←
      readNullable readText (own members "parentGenerationId")
    let preservedSourceGenerationId : Identifier ←
      readText (own members "preservedSourceGenerationId")
    let createdAt : IsoTimestamp ← readText (own members "createdAt")
    some (generationId, parentGenerationId, preservedSourceGenerationId, createdAt))
      .invalidInput "manifest creation input is invalid"
  let source ← parseWitness platform (own members "source") "source" .invalidInput
  let destination ← parseWitness platform (own members "destination") "destination" .invalidInput
  sealMigrationManifest platform {
    generationId
    revision := 0
    phase := .planned
    source
    destination
    checkpoints := []
    reports := []
    activationEligible := false
    rollbackLineage := ⟨parentGenerationId, preservedSourceGenerationId, none, none⟩
    pendingEffect := none
    previousManifestSha256 := none
    createdAt
    updatedAt := createdAt } .invalidInput

/-- The next revision of a manifest with some of its fields changed. -/
def sealMigrationSuccessor (current : MigrationManifest) (updatedAt : IsoTimestamp)
    (overrides : UnsignedMigrationManifest → UnsignedMigrationManifest) :
    Except MigrationProtocolError MigrationManifest :=
  sealMigrationManifest platform { overrides current.toUnsignedMigrationManifest with
    revision := current.revision + 1
    previousManifestSha256 := some current.checksumSha256
    updatedAt } .unexpectedState

def beginMigrationEffect (manifest input : Json Number) :
    Except MigrationProtocolError MigrationManifest := do
  let current ← parseMigrationManifest platform manifest
  let members ← assertRecord input .invalidInput "migration effect input has an invalid shape"
  refuse (¬ exactKeys members ["effectId", "inputSha256", "kind", "startedAt"]) .invalidInput
    "migration effect input has an invalid shape"
  let (effectId, kind, inputSha256, startedAt) ← orProtocolError (do
    let effectId : Identifier ← readText (own members "effectId")
    let kind ← readName effects (own members "kind")
    let inputSha256 : Hash ← readText (own members "inputSha256")
    let startedAt : IsoTimestamp ← readText (own members "startedAt")
    some (effectId, kind, inputSha256, startedAt)) .invalidInput "migration effect input is invalid"
  refuse (current.pendingEffect ≠ none) .unexpectedState
    "migration already has a pending effect"
  let legal ← orProtocolError (legalEffect current.phase kind) .unexpectedState
    "migration effect is not legal in the current phase"
  refuse (current.revision = maxSafeNatural) .unexpectedState
    "migration manifest revision is exhausted"
  refuse (startedAt.time < current.updatedAt.time) .unexpectedState
    "migration effect timestamp regressed"
  sealMigrationSuccessor platform current startedAt fun payload => { payload with
    pendingEffect := some ⟨effectId, kind, current.phase, legal.targetPhase, inputSha256,
      legal.recovery, startedAt⟩ }

/-- What a completion brings with it. -/
structure CompletionEvidence where
  checkpoint : Option MigrationCheckpoint
  report : Option MigrationReportReference
  activationEligible : Option Bool
  rollbackMode : Option RollbackMode
  deriving DecidableEq

/-- The evidence that each effect needs. -/
def CompletionEvidence.isValid (evidence : CompletionEvidence) (kind : MigrationEffectKind) : Bool :=
  let reportKind := evidence.report.map (·.kind)
  let exactReport := fun kind => evidence.checkpoint.isNone && reportKind == some kind &&
    evidence.activationEligible.isNone && evidence.rollbackMode.isNone
  match kind with
  | .verifyDryRun => exactReport .dryRun
  | .copyBatch => evidence.checkpoint.isSome && evidence.report.isNone &&
      evidence.activationEligible.isNone && evidence.rollbackMode.isNone
  | .completeCopy | .prepareActivation | .prepareRollback =>
      evidence.checkpoint.isNone && evidence.report.isNone && evidence.activationEligible.isNone &&
        evidence.rollbackMode.isNone
  | .verifyGeneration => evidence.checkpoint.isNone && reportKind == some .verification &&
      evidence.activationEligible == some true && evidence.rollbackMode.isNone
  | .publishActivation => exactReport .activation
  | .publishRollback => evidence.checkpoint.isNone && reportKind == some .rollback &&
      evidence.activationEligible.isNone && evidence.rollbackMode.isSome
  | .abort => exactReport .abort

/-- A member of an input may be left out. -/
def readOptional {Value : Type} (read : Option (Json Number) → Option Value)
    (value : Option (Json Number)) : Option (Option Value) :=
  if value.isNone then some none else (read value).map some

def parseOptional {Value : Type}
    (parse : Option (Json Number) → Except MigrationProtocolError Value)
    (value : Option (Json Number)) : Except MigrationProtocolError (Option Value) :=
  if value.isNone then .ok none else (parse value).map some

def assertCompletionEvidence (pending : PendingMigrationEffect) (input : RecordValue Number)
    (activationEligible : Option Bool) (rollbackMode : Option RollbackMode) :
    Except MigrationProtocolError CompletionEvidence := do
  let checkpoint ← parseOptional (parseCheckpoint platform · .invalidInput) (own input "checkpoint")
  let report ← parseOptional (parseReport · .invalidInput) (own input "report")
  let evidence : CompletionEvidence := ⟨checkpoint, report, activationEligible, rollbackMode⟩
  refuse (¬ evidence.isValid pending.kind) .invalidInput "migration completion evidence is invalid"
  pure evidence

def nextCheckpoints (current : List MigrationCheckpoint) (checkpointValue : Option MigrationCheckpoint) :
    Except MigrationProtocolError (List MigrationCheckpoint) :=
  match checkpointValue with
  | none => .ok current
  | some checkpointValue =>
      let existing := current.find? fun checkpoint => checkpoint.domain = checkpointValue.domain
      if existing.any fun existing => checkpointValue.ordinal ≤ existing.ordinal ∨
          checkpointValue.recordCount < existing.recordCount then
        protocolError .unexpectedState "migration checkpoint regressed"
      else .ok (sortCheckpoints ((current.filter fun checkpoint =>
        checkpoint.domain ≠ checkpointValue.domain) ++ [checkpointValue]))

def nextReports (current : List MigrationReportReference)
    (reportValue : Option MigrationReportReference) :
    Except MigrationProtocolError (List MigrationReportReference) :=
  match reportValue with
  | none => .ok current
  | some reportValue =>
      if current.any fun report => report.reportId = reportValue.reportId then
        protocolError .unexpectedState "migration report identity already exists"
      else .ok (sortReports (current ++ [reportValue]))

/-- The time of a report lies between the start of its effect and its end. -/
def reportWithin (report : MigrationReportReference) (startedAt endedAt : IsoTimestamp) : Bool :=
  startedAt.time ≤ report.createdAt.time && report.createdAt.time ≤ endedAt.time

/-- The rollback lineage after an effect. -/
def nextLineage (current : MigrationRollbackLineage) (pending : PendingMigrationEffect)
    (rollbackMode : Option RollbackMode) : MigrationRollbackLineage :=
  match pending.kind with
  | .prepareRollback => { current with
      returnPhase := some (if pending.fromPhase = .active then .active else .verified) }
  | .publishRollback => { current with mode := rollbackMode }
  | _ => current

def nextEligibility (current : Bool) (kind : MigrationEffectKind) : Bool :=
  match kind with
  | .verifyGeneration => true
  | .abort => false
  | _ => current

def completeMigrationEffect (manifest input : Json Number) :
    Except MigrationProtocolError MigrationManifest := do
  let current ← parseMigrationManifest platform manifest
  let members ← assertRecord input .invalidInput "migration completion input has an invalid shape"
  refuse (¬ (members.all fun member => member.1 ∈ ["activationEligible", "checkpoint", "completedAt",
        "effectId", "report", "rollbackMode"].map js) ∨
      (own members "effectId").isNone ∨ (own members "completedAt").isNone) .invalidInput
    "migration completion input has an invalid shape"
  let (effectId, completedAt, activationEligible, rollbackMode) ← orProtocolError (do
    let effectId : Identifier ← readText (own members "effectId")
    let completedAt : IsoTimestamp ← readText (own members "completedAt")
    let activationEligible ← readOptional readBoolean (own members "activationEligible")
    let rollbackMode ← readOptional (readName rollbackModes) (own members "rollbackMode")
    some (effectId, completedAt, activationEligible, rollbackMode))
      .invalidInput "migration completion input is invalid"
  let pending ← orProtocolError (current.pendingEffect.filter fun pending => pending.effectId = effectId)
    .unexpectedState "migration completion does not match the pending effect"
  refuse (current.revision = maxSafeNatural) .unexpectedState
    "migration manifest revision is exhausted"
  refuse (completedAt.time < current.updatedAt.time) .unexpectedState
    "migration completion timestamp regressed"
  let evidence ← assertCompletionEvidence platform pending members activationEligible rollbackMode
  refuse (evidence.report.any fun report => ¬ reportWithin report pending.startedAt completedAt) .invalidInput
    "migration report timestamp is outside the effect boundary"
  let checkpoints ← nextCheckpoints current.checkpoints evidence.checkpoint
  let reports ← nextReports current.reports evidence.report
  sealMigrationSuccessor platform current completedAt fun payload => { payload with
    phase := pending.targetPhase
    checkpoints
    reports
    activationEligible := nextEligibility current.activationEligible pending.kind
    rollbackLineage := nextLineage current.rollbackLineage pending evidence.rollbackMode
    pendingEffect := none }

/-- The effects whose publication can be abandoned. -/
def MigrationEffectKind.isPublication (kind : MigrationEffectKind) : Bool :=
  kind ∈ [.publishActivation, .publishRollback]

def abandonMigrationEffect (manifest input : Json Number) :
    Except MigrationProtocolError MigrationManifest := do
  let current ← parseMigrationManifest platform manifest
  let members ← assertRecord input .invalidInput "migration abandonment input has an invalid shape"
  refuse (¬ exactKeys members ["abandonedAt", "effectId", "report"]) .invalidInput
    "migration abandonment input has an invalid shape"
  let (effectId, abandonedAt) ← orProtocolError (do
    let effectId : Identifier ← readText (own members "effectId")
    let abandonedAt : IsoTimestamp ← readText (own members "abandonedAt")
    some (effectId, abandonedAt)) .invalidInput "migration abandonment input is invalid"
  let reportValue ← parseReport (own members "report") .invalidInput
  refuse (reportValue.kind ≠ .abandonment) .invalidInput
    "migration abandonment report is invalid"
  let pending ← orProtocolError (current.pendingEffect.filter fun pending =>
      pending.effectId = effectId ∧ pending.kind.isPublication)
    .unexpectedState "migration abandonment does not match a pending publication"
  refuse (current.revision = maxSafeNatural) .unexpectedState
    "migration manifest revision is exhausted"
  refuse (abandonedAt.time < current.updatedAt.time) .unexpectedState
    "migration abandonment timestamp regressed"
  refuse (¬ reportWithin reportValue pending.startedAt abandonedAt) .invalidInput
    "migration abandonment report timestamp is outside the effect boundary"
  -- A rollback that is published always has a phase to return to.
  let returnPhase := if pending.kind = .publishActivation then MigrationPhase.verified
    else current.rollbackLineage.returnPhase.elim .verified ReturnPhase.phase
  let reports ← nextReports current.reports (some reportValue)
  sealMigrationSuccessor platform current abandonedAt fun payload => { payload with
    phase := returnPhase
    reports
    rollbackLineage := if pending.kind = .publishRollback then
        { current.rollbackLineage with returnPhase := none }
      else current.rollbackLineage
    pendingEffect := none }

def successorValidationError {Value : Type} : Except MigrationProtocolError Value :=
  protocolError .unexpectedState "migration manifest is not a legal immediate protocol successor"

/-- The element of a list with exactly one. -/
def single {Value : Type} : List Value → Option Value
  | [value] => some value
  | _ => none

def newReports (current next : MigrationManifest) : List MigrationReportReference :=
  next.reports.filter fun report => !current.reports.any fun existing =>
    existing.reportId = report.reportId

def changedCheckpoints (current next : MigrationManifest) : List MigrationCheckpoint :=
  next.checkpoints.filter fun checkpoint =>
    (current.checkpoints.find? fun value => value.domain = checkpoint.domain).all fun existing =>
      canonicalJson platform (existing.toJson platform) ≠
        canonicalJson platform (checkpoint.toJson platform)

/-- The report with which a publication was abandoned. -/
def abandonmentReport (pending : PendingMigrationEffect) (current next : MigrationManifest) :
    Option MigrationReportReference :=
  (single (newReports current next)).filter fun report =>
    report.kind = .abandonment ∧ pending.kind.isPublication

def beginInput (pending : PendingMigrationEffect) : RecordValue Number :=
  [(js "effectId", .string pending.effectId.1), (js "kind", writeName effects pending.kind),
    (js "inputSha256", .string pending.inputSha256.1), (js "startedAt", .string pending.startedAt.1)]

def abandonInput (pending : PendingMigrationEffect) (abandonedAt : IsoTimestamp)
    (report : MigrationReportReference) : RecordValue Number :=
  [(js "effectId", .string pending.effectId.1), (js "abandonedAt", .string abandonedAt.1),
    (js "report", report.toJson)]

/-- The input of a completion; evidence that is missing is left out. -/
def completeInput (pending : PendingMigrationEffect) (completedAt : IsoTimestamp)
    (evidence : CompletionEvidence) : RecordValue Number :=
  [(js "effectId", .string pending.effectId.1), (js "completedAt", .string completedAt.1)] ++
  (evidence.checkpoint.toList.map fun checkpoint => (js "checkpoint", checkpoint.toJson platform)) ++
  (evidence.report.toList.map fun report => (js "report", report.toJson)) ++
  (evidence.activationEligible.toList.map fun eligible => (js "activationEligible", .boolean eligible)) ++
  (evidence.rollbackMode.toList.map fun mode => (js "rollbackMode", writeName rollbackModes mode))

/-- The evidence that two manifests show of the completion between them. -/
def shownEvidence (pending : PendingMigrationEffect) (current next : MigrationManifest) :
    CompletionEvidence where
  checkpoint := single (changedCheckpoints platform current next)
  report := single (newReports current next)
  activationEligible :=
    if pending.kind = .verifyGeneration then some next.activationEligible else none
  rollbackMode := if pending.kind = .publishRollback then next.rollbackLineage.mode else none

/-- The one step that a manifest can represent after another. -/
def reconstructSuccessor (current next : MigrationManifest) :
    Except MigrationProtocolError MigrationManifest :=
  match current.pendingEffect, next.pendingEffect with
  | none, none => successorValidationError
  | some _, some _ => successorValidationError
  | none, some pending =>
      beginMigrationEffect platform (current.toJson platform) (.object (beginInput pending))
  | some pending, none =>
      match abandonmentReport pending current next with
      | some report =>
          abandonMigrationEffect platform (current.toJson platform)
            (.object (abandonInput pending next.updatedAt report))
      | none =>
          completeMigrationEffect platform (current.toJson platform)
            (.object (completeInput platform pending next.updatedAt
              (shownEvidence platform pending current next)))

def sameManifest (left right : MigrationManifest) : Bool :=
  canonicalJson platform (left.toJson platform) == canonicalJson platform (right.toJson platform)

def assertMigrationManifestSuccessor (previous candidate : Json Number) :
    Except MigrationProtocolError MigrationManifest :=
  match parseMigrationManifest platform previous, parseMigrationManifest platform candidate with
  | .ok current, .ok next =>
      match reconstructSuccessor platform current next with
      | .ok expected => if sameManifest platform expected next then .ok next else successorValidationError
      | .error _ => successorValidationError
  | _, _ => successorValidationError

end Manifests

end Lcm.Migration
