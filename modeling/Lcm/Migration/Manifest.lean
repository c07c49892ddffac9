import Lcm.Library.Except
import Lcm.Library.SortedBy
import Lcm.Text.JsDate
import Mathlib.Data.List.Lex

namespace Lcm.Migration
open Text

inductive MigrationPhase where
  | planned
  | dryRunVerified
  | copying
  | copied
  | verified
  | activating
  | active
  | rollingBack
  | rolledBack
  | aborted
  deriving DecidableEq

inductive MigrationEffectKind where
  | verifyDryRun
  | copyBatch
  | completeCopy
  | verifyGeneration
  | prepareActivation
  | publishActivation
  | prepareRollback
  | publishRollback
  | abort
  deriving DecidableEq

inductive MigrationReportKind where
  | dryRun
  | verification
  | activation
  | rollback
  | abort
  | abandonment
  deriving DecidableEq

inductive MigrationRecovery where
  | retryIdempotent
  | authoritativeReadbackRequired
  deriving DecidableEq

inductive RollbackMode where
  | preWrite
  | postWrite
  deriving DecidableEq

/-- The phases that a rollback can return to. -/
inductive ReturnPhase where
  | verified
  | active
  deriving DecidableEq

def ReturnPhase.phase : ReturnPhase → MigrationPhase
  | .verified => .verified
  | .active => .active

def phases : List (MigrationPhase × JsString) :=
  [(.planned, js "planned"), (.dryRunVerified, js "dry-run-verified"), (.copying, js "copying"),
    (.copied, js "copied"), (.verified, js "verified"), (.activating, js "activating"),
    (.active, js "active"), (.rollingBack, js "rolling-back"), (.rolledBack, js "rolled-back"),
    (.aborted, js "aborted")]

def effects : List (MigrationEffectKind × JsString) :=
  [(.verifyDryRun, js "verify-dry-run"), (.copyBatch, js "copy-batch"),
    (.completeCopy, js "complete-copy"), (.verifyGeneration, js "verify-generation"),
    (.prepareActivation, js "prepare-activation"), (.publishActivation, js "publish-activation"),
    (.prepareRollback, js "prepare-rollback"), (.publishRollback, js "publish-rollback"),
    (.abort, js "abort")]

def reportKinds : List (MigrationReportKind × JsString) :=
  [(.dryRun, js "dry-run"), (.verification, js "verification"), (.activation, js "activation"),
    (.rollback, js "rollback"), (.abort, js "abort"), (.abandonment, js "abandonment")]

def recoveries : List (MigrationRecovery × JsString) :=
  [(.retryIdempotent, js "retry-idempotent"),
    (.authoritativeReadbackRequired, js "authoritative-readback-required")]

def rollbackModes : List (RollbackMode × JsString) :=
  [(.preWrite, js "pre-write"), (.postWrite, js "post-write")]

def returnPhases : List (ReturnPhase × JsString) :=
  [(.verified, js "verified"), (.active, js "active")]

def isHash (text : JsString) : Bool := text.length == 64 && text.all isHexDigit

def isSystemIdentifier (text : JsString) : Bool :=
  text.all Json.isDigit && 1 ≤ text.length && text.length ≤ 20 && (text.length == 1 || text.head? != some 48)

/-- A letter or digit and up to 127 more with dots, underscores, colons and hyphens. -/
def isIdentifier (text : JsString) : Bool :=
  let isAlphanumeric := fun unit : UInt16 => isWordCharacter unit && unit != 95
  1 ≤ text.length && text.length ≤ 128 && text.head?.all isAlphanumeric &&
    text.all fun unit => isWordCharacter unit || unit ∈ [46, 58, 45]

abbrev Hash := { text : JsString // isHash text = true }

abbrev Identifier := { text : JsString // isIdentifier text = true }

abbrev SystemIdentifier := { text : JsString // isSystemIdentifier text = true }

def maxSafeNatural : Nat := 2 ^ 53 - 1

abbrev SafeNatural := { value : Nat // value ≤ maxSafeNatural }

/-- Only PostgreSQL storage may record a system identifier. -/
inductive MigrationBackend where
  | sqlite
  | postgresql (systemIdentifier : Option SystemIdentifier)
  deriving DecidableEq

def MigrationBackend.isPostgreSql : MigrationBackend → Bool
  | .sqlite => false
  | .postgresql _ => true

structure MigrationStorageWitness where
  backend : MigrationBackend
  identitySha256 : Hash
  schemaSha256 : Hash
  contentSha256 : Hash
  capturedAt : IsoTimestamp
  deriving DecidableEq

structure MigrationCheckpoint where
  domain : Identifier
  ordinal : SafeNatural
  recordCount : SafeNatural
  sourceCheckpointSha256 : Hash
  destinationCommitSha256 : Hash
  deriving DecidableEq

structure MigrationReportReference where
  kind : MigrationReportKind
  reportId : Identifier
  reportSha256 : Hash
  createdAt : IsoTimestamp
  deriving DecidableEq

structure MigrationRollbackLineage where
  parentGenerationId : Option Identifier
  preservedSourceGenerationId : Identifier
  mode : Option RollbackMode
  returnPhase : Option ReturnPhase
  deriving DecidableEq

structure PendingMigrationEffect where
  effectId : Identifier
  kind : MigrationEffectKind
  fromPhase : MigrationPhase
  targetPhase : MigrationPhase
  inputSha256 : Hash
  recovery : MigrationRecovery
  startedAt : IsoTimestamp
  deriving DecidableEq

/-- A manifest without its checksum. -/
structure UnsignedMigrationManifest where
  generationId : Identifier
  revision : Nat
  phase : MigrationPhase
  source : MigrationStorageWitness
  destination : MigrationStorageWitness
  checkpoints : List MigrationCheckpoint
  reports : List MigrationReportReference
  activationEligible : Bool
  rollbackLineage : MigrationRollbackLineage
  pendingEffect : Option PendingMigrationEffect
  previousManifestSha256 : Option Hash
  createdAt : IsoTimestamp
  updatedAt : IsoTimestamp
  deriving DecidableEq

structure MigrationManifest extends UnsignedMigrationManifest where
  checksumSha256 : Hash
  deriving DecidableEq

inductive MigrationProtocolReason where
  | invalidInput
  | malformedManifest
  | checksumMismatch
  | recoveryRequired
  | unexpectedState
  deriving DecidableEq

structure MigrationProtocolError where
  reason : MigrationProtocolReason
  message : String
  deriving DecidableEq

def protocolError {Value : Type} (reason : MigrationProtocolReason) (message : String) :
    Except MigrationProtocolError Value := .error ⟨reason, message⟩

/-- A condition that must not hold. -/
def refuse (condition : Prop) [Decidable condition] (reason : MigrationProtocolReason)
    (message : String) : Except MigrationProtocolError Unit :=
  if condition then protocolError reason message else .ok ()

/-- What the protocol uses of its runtime: the numbers and the digest of a text. -/
structure MigrationPlatform (Number : Type) where
  numbers : JsNumbers Number
  sha256 : JsString → Hash

/-- The members of an object. -/
abbrev RecordValue (Number : Type) := List (JsString × Json Number)

section Fields

variable {Number : Type} (platform : MigrationPlatform Number)

def own (members : RecordValue Number) (key : String) : Option (Json Number) :=
  List.lookup (js key) members

def readText {check : JsString → Bool} :
    Option (Json Number) → Option { text : JsString // check text = true }
  | some (.string text) => if valid : check text = true then some ⟨text, valid⟩ else none
  | _ => none

/-- The value that a text names in a table. -/
def readName {Value : Type} (names : List (Value × JsString)) : Option (Json Number) → Option Value
  | some (.string text) => (names.find? fun entry => entry.2 = text).map Prod.fst
  | _ => none

def readNullable {Value : Type} (read : Option (Json Number) → Option Value) :
    Option (Json Number) → Option (Option Value)
  | some .null => some none
  | value => (read value).map some

/-- A safe integer that is not negative, nor a negative zero. -/
def readNatural : Option (Json Number) → Option SafeNatural
  | some (.number value) =>
      match platform.numbers.toSafeInteger value with
      | some (.ofNat natural) =>
          if valid : natural ≤ maxSafeNatural ∧ platform.numbers.isNegativeZero value = false then
            some ⟨natural, valid.1⟩
          else none
      | _ => none
  | _ => none

def readBoolean : Option (Json Number) → Option Bool
  | some (.boolean value) => some value
  | _ => none

/-- The number one. -/
def isVersionOne : Option (Json Number) → Bool
  | some (.number value) => platform.numbers.toInteger value == some 1
  | _ => false

def writeName {Value : Type} [DecidableEq Value] (names : List (Value × JsString)) (value : Value) :
    Json Number := .string ((names.lookup value).getD [])

def writeNullable {Value : Type} (write : Value → Json Number) (value : Option Value) :
    Json Number := value.elim .null write

def writeNatural (value : Nat) : Json Number := .number (platform.numbers.ofNat value)

end Fields

section Objects

variable {Number : Type} (platform : MigrationPlatform Number)

/-- The names in the order of their code units. -/
def sortNames (names : List JsString) : List JsString :=
  sortedBy (fun name => name.map UInt16.toNat) names

def exactKeys (value : RecordValue Number) (expected : List String) : Bool :=
  sortNames (value.map Prod.fst) == sortNames (expected.map js)

def assertRecord (value : Json Number) (reason : MigrationProtocolReason) (message : String) :
    Except MigrationProtocolError (RecordValue Number) :=
  match value with
  | .object members => .ok members
  | _ => protocolError reason message

def assertExactObject (value : Option (Json Number)) (keys : List String) (label : String)
    (reason : MigrationProtocolReason) : Except MigrationProtocolError (RecordValue Number) :=
  match value with
  | some (.object members) =>
      if exactKeys members keys then .ok members
      else protocolError reason (label ++ " has an invalid shape")
  | _ => protocolError reason (label ++ " has an invalid shape")

/-- A value that is missing is an error. -/
def orProtocolError {Value : Type} (value : Option Value) (reason : MigrationProtocolReason)
    (message : String) : Except MigrationProtocolError Value :=
  match value with
  | some value => .ok value
  | none => protocolError reason message

def witnessKeys : List String :=
  ["backend", "capturedAt", "contentSha256", "identitySha256", "schemaSha256", "version"]

def MigrationBackend.text : MigrationBackend → JsString
  | .sqlite => js "sqlite"
  | .postgresql _ => js "postgresql"

def MigrationBackend.systemIdentifier : MigrationBackend → Option SystemIdentifier
  | .sqlite => none
  | .postgresql systemIdentifier => systemIdentifier

def MigrationStorageWitness.members (witness : MigrationStorageWitness) : RecordValue Number :=
  [(js "backend", .string witness.backend.text), (js "capturedAt", .string witness.capturedAt.1),
    (js "contentSha256", .string witness.contentSha256.1),
    (js "identitySha256", .string witness.identitySha256.1),
    (js "schemaSha256", .string witness.schemaSha256.1)] ++
  (witness.backend.systemIdentifier.toList.map fun systemIdentifier =>
    (js "systemIdentifier", .string systemIdentifier.1)) ++
  [(js "version", writeNatural platform 1)]

def MigrationStorageWitness.toJson (witness : MigrationStorageWitness) : Json Number :=
  .object (witness.members platform)

/-- SQLite storage records no system identifier. -/
def readBackend (witness : RecordValue Number) : Option MigrationBackend :=
  match own witness "backend", own witness "systemIdentifier" with
  | some (.string text), none =>
      if text = js "sqlite" then some .sqlite
      else if text = js "postgresql" then some (.postgresql none)
      else none
  | some (.string text), systemIdentifier =>
      if text = js "postgresql" then (readText systemIdentifier).map fun systemIdentifier =>
        .postgresql (some systemIdentifier)
      else none
  | _, _ => none

def parseWitness (value : Option (Json Number)) (label : String) (reason : MigrationProtocolReason) :
    Except MigrationProtocolError MigrationStorageWitness := do
  let recordsSystemIdentifier : Bool := match value with
    | some (.object members) => (own members "systemIdentifier").isSome
    | _ => false
  let witness ← assertExactObject value
    (if recordsSystemIdentifier then witnessKeys ++ ["systemIdentifier"] else witnessKeys) label reason
  orProtocolError (do
    let backend ← readBackend witness
    let identitySha256 ← readText (own witness "identitySha256")
    let schemaSha256 ← readText (own witness "schemaSha256")
    let contentSha256 ← readText (own witness "contentSha256")
    let capturedAt ← readText (own witness "capturedAt")
    if isVersionOne platform (own witness "version") then
      some ⟨backend, identitySha256, schemaSha256, contentSha256, capturedAt⟩
    else none) reason (label ++ " is invalid")

def MigrationCheckpoint.members (checkpoint : MigrationCheckpoint) : RecordValue Number :=
  [(js "destinationCommitSha256", .string checkpoint.destinationCommitSha256.1),
    (js "domain", .string checkpoint.domain.1),
    (js "ordinal", writeNatural platform checkpoint.ordinal.1),
    (js "recordCount", writeNatural platform checkpoint.recordCount.1),
    (js "sourceCheckpointSha256", .string checkpoint.sourceCheckpointSha256.1)]

def MigrationCheckpoint.toJson (checkpoint : MigrationCheckpoint) : Json Number := .object (checkpoint.members platform)

def parseCheckpoint (value : Option (Json Number)) (reason : MigrationProtocolReason) :
    Except MigrationProtocolError MigrationCheckpoint := do
  let checkpoint ← assertExactObject value
    ["destinationCommitSha256", "domain", "ordinal", "recordCount", "sourceCheckpointSha256"]
      "checkpoint" reason
  orProtocolError (do
    let domain ← readText (own checkpoint "domain")
    let ordinal ← readNatural platform (own checkpoint "ordinal")
    let recordCount ← readNatural platform (own checkpoint "recordCount")
    let sourceCheckpointSha256 ← readText (own checkpoint "sourceCheckpointSha256")
    let destinationCommitSha256 ← readText (own checkpoint "destinationCommitSha256")
    some ⟨domain, ordinal, recordCount, sourceCheckpointSha256, destinationCommitSha256⟩)
      reason "checkpoint is invalid"

def MigrationReportReference.members (report : MigrationReportReference) : RecordValue Number :=
  [(js "createdAt", .string report.createdAt.1), (js "kind", writeName reportKinds report.kind),
    (js "reportId", .string report.reportId.1), (js "reportSha256", .string report.reportSha256.1)]

def MigrationReportReference.toJson (report : MigrationReportReference) : Json Number := .object report.members

def parseReport (value : Option (Json Number)) (reason : MigrationProtocolReason) :
    Except MigrationProtocolError MigrationReportReference := do
  let report ← assertExactObject value ["createdAt", "kind", "reportId", "reportSha256"] "report" reason
  orProtocolError (do
    let kind ← readName reportKinds (own report "kind")
    let reportId ← readText (own report "reportId")
    let reportSha256 ← readText (own report "reportSha256")
    let createdAt ← readText (own report "createdAt")
    some ⟨kind, reportId, reportSha256, createdAt⟩) reason "report is invalid"

def MigrationRollbackLineage.members (lineage : MigrationRollbackLineage) : RecordValue Number :=
  [(js "mode", writeNullable (writeName rollbackModes) lineage.mode),
    (js "parentGenerationId", writeNullable (fun parent => .string parent.1) lineage.parentGenerationId),
    (js "preservedSourceGenerationId", .string lineage.preservedSourceGenerationId.1),
    (js "returnPhase", writeNullable (writeName returnPhases) lineage.returnPhase)]

def MigrationRollbackLineage.toJson (lineage : MigrationRollbackLineage) : Json Number := .object lineage.members

def parseRollbackLineage (value : Option (Json Number)) :
    Except MigrationProtocolError MigrationRollbackLineage := do
  let lineage ← assertExactObject value
    ["mode", "parentGenerationId", "preservedSourceGenerationId", "returnPhase"] "rollbackLineage"
      .malformedManifest
  orProtocolError (do
    let parentGenerationId ← readNullable readText (own lineage "parentGenerationId")
    let preservedSourceGenerationId ← readText (own lineage "preservedSourceGenerationId")
    let mode ← readNullable (readName rollbackModes) (own lineage "mode")
    let returnPhase ← readNullable (readName returnPhases) (own lineage "returnPhase")
    some ⟨parentGenerationId, preservedSourceGenerationId, mode, returnPhase⟩)
      .malformedManifest "rollbackLineage is invalid"

def PendingMigrationEffect.members (effect : PendingMigrationEffect) : RecordValue Number :=
  [(js "effectId", .string effect.effectId.1), (js "fromPhase", writeName phases effect.fromPhase),
    (js "inputSha256", .string effect.inputSha256.1), (js "kind", writeName effects effect.kind),
    (js "recovery", writeName recoveries effect.recovery), (js "startedAt", .string effect.startedAt.1),
    (js "targetPhase", writeName phases effect.targetPhase)]

def PendingMigrationEffect.toJson (effect : PendingMigrationEffect) : Json Number := .object effect.members

def parsePendingEffect (value : Option (Json Number)) :
    Except MigrationProtocolError (Option PendingMigrationEffect) :=
  match value with
  | some .null => .ok none
  | _ => do
      let effect ← assertExactObject value ["effectId", "fromPhase", "inputSha256", "kind", "recovery",
        "startedAt", "targetPhase"] "pendingEffect" .malformedManifest
      orProtocolError (do
        let effectId ← readText (own effect "effectId")
        let kind ← readName effects (own effect "kind")
        let fromPhase ← readName phases (own effect "fromPhase")
        let targetPhase ← readName phases (own effect "targetPhase")
        let inputSha256 ← readText (own effect "inputSha256")
        let recovery ← readName recoveries (own effect "recovery")
        let startedAt ← readText (own effect "startedAt")
        some (some ⟨effectId, kind, fromPhase, targetPhase, inputSha256, recovery, startedAt⟩))
          .malformedManifest "pendingEffect is invalid"

end Objects

end Lcm.Migration
