import Lcm.Library.Interruptible
import Lcm.Publication.Journal

namespace Lcm.Publication
open Text

inductive PublicationReason where
  | invalidInput
  | unsafeStorage
  | malformedJournal
  | checksumMismatch
  | unexpectedState
  | unresolvedPublication
  | publicationEvidenceMissing
  deriving DecidableEq

/-- How a call fails: by the coordinator itself, because a file is missing or in the way, or because a
remote call failed. -/
inductive PublicationFailure where
  | journal (reason : PublicationReason) (message : String)
  | missing
  | collision
  | remote
  deriving DecidableEq

inductive MutationAccess where
  | publish
  | restore
  deriving DecidableEq

/-- A write of one of the two files with the state that it was made in. -/
structure FileMutation (Digest : Type) where
  file : LocalFile
  access : MutationAccess
  before : FileWitness Digest
  journal : PublicationJournal Digest
  released : Bool

/-- What a home keeps. For proofs it records the writes of its two files, and whether somebody else
changed one of them or the coordinator released a guard since the publication of its journal began. -/
structure PublicationHome (Digest Remote : Type) where
  files : LocalState RecoveryFile
  materials : JsString → Option RecoveryMaterial
  journal : Option (StoredJournal Digest)
  history : List (StoredJournal Digest)
  remote : Remote
  mutations : List (FileMutation Digest)
  edited : Bool
  released : Bool

inductive RemoteOperation where
  | acquire
  | release
  deriving DecidableEq

structure RemoteContext (Digest : Type) where
  journal : PublicationJournal Digest
  project : ProjectRecord Digest

/-- A remote call; it may fail with or without an effect. -/
abbrev RemoteHook (Remote Input Answer : Type) := Input → Remote → Option Answer × Remote

structure PublicationDriver (Digest Remote : Type) where
  /-- Where the next file is written. -/
  newIdentity : LocalState RecoveryFile → FileIdentity
  acquireRemoteGuard : Option (RemoteHook Remote (RemoteContext Digest) (FenceRecord Digest))
  readRemoteGuard : Option (RemoteHook Remote (RemoteContext Digest × RemoteOperation)
    (Option (FenceRecord Digest)))
  releaseRemoteGuard : Option (RemoteHook Remote (RemoteContext Digest × FenceRecord Digest) Unit)
  readRemoteGuardForReleaseReconciliation : Option (RemoteHook Remote (RemoteContext Digest)
    (Option (FenceRecord Digest)))
  retainCompletedMaterial : Option (RemoteHook Remote (PublicationJournal Digest) Unit)
  /-- Tells also whether it removed the material. -/
  cleanupAbortedMaterial : Option (PublicationJournal Digest → Remote → (Option Unit × Remote) × Bool)

def PublicationDriver.hasCompleteGuardProvider {Digest Remote : Type}
    (driver : PublicationDriver Digest Remote) : Bool :=
  driver.acquireRemoteGuard.isSome && driver.readRemoteGuard.isSome && driver.releaseRemoteGuard.isSome

def fail {Value : Type} (reason : PublicationReason) (message : String) :
    Except PublicationFailure Value :=
  .error (.journal reason message)

def refuse (refused : Prop) [Decidable refused] (reason : PublicationReason) (message : String) :
    Except PublicationFailure Unit :=
  if refused then fail reason message else .ok ()

def isDigits (text : JsString) : Bool := !text.isEmpty && text.all fun unit => 48 ≤ unit && unit ≤ 57

def bigInt (text : JsString) : Nat := text.foldl (fun value unit => 10 * value + (unit.toNat - 48)) 0

section Fences

variable {Digest : Type} [DecidableEq Digest]

def activeFence (fence : Option (FenceRecord Digest)) : Bool :=
  fence.any fun fence => fence.releasedAt.isNone && !fence.databaseExpired

def sameFenceIdentity (left right : FenceRecord Digest) : Bool :=
  left.projectId = right.projectId && left.machineId = right.machineId &&
    left.publicationId = right.publicationId && left.targetBackend = right.targetBackend &&
      left.evidenceSha256 = right.evidenceSha256

/-- A positive token without leading zeros. -/
def isFencingToken (text : JsString) : Bool := isDigits text && text.head? != some 48

def supersededByReleasedSuccessor (persisted authoritative : FenceRecord Digest)
    (project : ProjectRecord Digest) : Bool :=
  persisted.projectId = project.remoteProjectId && authoritative.projectId = project.remoteProjectId &&
    isFencingToken persisted.fencingToken && isFencingToken authoritative.fencingToken &&
      !sameFenceIdentity persisted authoritative &&
        bigInt persisted.fencingToken < bigInt authoritative.fencingToken

def assertFence (fence : FenceRecord Digest) (journal : PublicationJournal Digest)
    (project : ProjectRecord Digest) : Except PublicationFailure Unit := do
  refuse (fence.publicationId ≠ journal.publicationId ∨ fence.targetBackend ≠ journal.targetBackend ∨
      fence.evidenceSha256 ≠ project.evidenceSha256 ∨ fence.projectId ≠ project.remoteProjectId)
    .unexpectedState "backend publication remote fence identity does not match"
  refuse (¬ isDigits fence.fencingToken) .unexpectedState
    "backend publication fencing token is invalid"

def PublicationJournal.setFence (journal : PublicationJournal Digest) (index : Nat)
    (fence : FenceRecord Digest) : PublicationJournal Digest :=
  { journal with projects := journal.projects.modify index fun project =>
      { project with fence := some fence } }

end Fences

def maxMaterialBytes : Nat := 8 * 1024 * 1024

def maxRecoveryFileBytes : Nat := 4 * 1024 * 1024

def isOwnerOnlyFileMode (mode : Nat) : Bool := mode ∈ [0o400, 0o500, 0o600, 0o700]

def isPublicationId (text : JsString) : Bool :=
  let isAlphanumeric := fun unit : UInt16 => (48 ≤ unit && unit ≤ 57) || (65 ≤ unit && unit ≤ 90) ||
    (97 ≤ unit && unit ≤ 122)
  text.head?.any isAlphanumeric && text.length ≤ 128 &&
    text.all fun unit => isAlphanumeric unit || unit ∈ js "._:-"

def materialPath (publicationId : JsString) : JsString := publicationId ++ js ".material"

structure PublicationProject (Digest : Type) where
  localProjectId : JsString
  remoteProjectId : JsString
  evidenceSha256 : Digest

structure PreparePublication (Digest : Type) where
  publicationId : JsString
  sourceBackend : StorageBackendName
  targetBackend : StorageBackendName
  material : RecoveryMaterial
  projects : List (PublicationProject Digest)

def isRecoveryFile (file : RecoveryFile) : Bool :=
  file.all fun file => !file.content.isEmpty && file.content.length ≤ maxRecoveryFileBytes &&
    isOwnerOnlyFileMode file.mode && file.nlink == 1

variable {Digest Remote : Type} [DecidableEq Digest]

def validateInput (platform : PublicationPlatform Digest) (input : PreparePublication Digest) :
    Except PublicationFailure (PreparePublication Digest) := do
  refuse (¬ isPublicationId input.publicationId ∨ input.sourceBackend = input.targetBackend) .invalidInput
    "backend publication input is invalid"
  refuse (¬ isRecoveryFile input.material.source.config) .invalidInput
    "source config recovery file is invalid"
  refuse (¬ isRecoveryFile input.material.source.projectMap) .invalidInput
    "source project map recovery file is invalid"
  refuse (¬ isRecoveryFile input.material.target.config) .invalidInput
    "target config recovery file is invalid"
  refuse (¬ isRecoveryFile input.material.target.projectMap) .invalidInput
    "target project map recovery file is invalid"
  refuse (input.projects.any (fun project => project.localProjectId.isEmpty ||
      256 < project.localProjectId.length || project.remoteProjectId.isEmpty ||
        256 < project.remoteProjectId.length) ∨
      ¬ (input.projects.map (·.localProjectId)).Nodup ∨
        ¬ (input.projects.map (·.remoteProjectId)).Nodup) .invalidInput
    "backend publication project coverage is invalid"
  pure { input with projects := input.projects.mergeSort fun left right =>
    platform.localeLe left.localProjectId right.localProjectId }

/-- The shape of a witness that a driver reports. -/
def isWitnessShape (witness : FileWitness Digest) : Bool :=
  witness.all fun witness => 0 < witness.content.byteLength && isOwnerOnlyFileMode witness.content.mode

def assertStateShape (state : LocalState (FileWitness Digest)) : Except PublicationFailure Unit := do
  refuse (¬ isWitnessShape state.config) .malformedJournal
    "observed.config present witness is malformed"
  refuse (¬ isWitnessShape state.projectMap) .malformedJournal
    "observed.projectMap present witness is malformed"

def assertLogicalWitness (actual expected : FileWitness Digest) (field : String) :
    Except PublicationFailure Unit :=
  refuse (¬ logicalWitnessMatches actual expected) .unexpectedState (field ++ " witness does not match")

def assertContentWitness (actual expected : FileWitness Digest) (field : String) :
    Except PublicationFailure Unit :=
  refuse (¬ contentWitnessMatches actual expected) .unexpectedState
    (field ++ " content witness does not match")

def assertContentState (actual expected : LocalState (FileWitness Digest)) (field : String) :
    Except PublicationFailure Unit := do
  assertContentWitness actual.config expected.config (field ++ ".config")
  assertContentWitness actual.projectMap expected.projectMap (field ++ ".projectMap")

def recoveryReference (platform : PublicationPlatform Digest) (publicationId : JsString)
    (material : RecoveryMaterial) : RecoveryReference Digest :=
  let content := platform.materialJson publicationId material
  ⟨materialPath publicationId, platform.sha256 content, content.length⟩

/-- The recovery material of a journal; a journal without a reference takes what it finds. -/
def authenticateMaterial (platform : PublicationPlatform Digest) (home : PublicationHome Digest Remote)
    (journal : PublicationJournal Digest) :
    Except PublicationFailure (RecoveryReference Digest × RecoveryMaterial) := do
  refuse (journal.recoveryReference.any fun reference =>
      reference.relativePath ≠ materialPath journal.publicationId) .malformedJournal
    "backend publication recovery material path is not deterministic"
  let material ← (home.materials journal.publicationId).elim (.error .missing) .ok
  refuse (journal.recoveryReference.any fun reference =>
      reference ≠ recoveryReference platform journal.publicationId material) .checksumMismatch
    "backend publication recovery material checksum does not match"
  assertContentState (material.source.map (recoveryFileWitness platform)) journal.sourceState
    "material source"
  assertContentState (material.target.map (recoveryFileWitness platform)) journal.targetState
    "material target"
  pure (recoveryReference platform journal.publicationId material, material)

/-- An aborted publication has removed its material. -/
def terminalMaterial (platform : PublicationPlatform Digest) (home : PublicationHome Digest Remote)
    (journal : PublicationJournal Digest) : Except PublicationFailure (Option RecoveryMaterial) :=
  match authenticateMaterial platform home journal with
  | .ok (_, material) => .ok (some material)
  | .error failure => if journal.phase = .aborted ∧ failure = .missing then .ok none else .error failure

/-- Whether consumers accept a journal as evidence that its publication has ended. -/
def authenticateTerminalPublicationEvidence (platform : PublicationPlatform Digest)
    (home : PublicationHome Digest Remote) (journal : PublicationJournal Digest) :
    Except PublicationFailure (Option RecoveryMaterial) := do
  refuse (¬ journal.phase.isTerminal) .unresolvedPublication
    "backend publication is unresolved; recover it before consuming local state"
  refuse journal.recoveryReference.isNone .malformedJournal
    "terminal backend publication has no recovery reference"
  refuse (journal.projects.any fun project => activeFence project.fence) .malformedJournal
    "terminal backend publication retains an active remote fence"
  let material ← terminalMaterial platform home journal
  refuse (journal.phase = .completed ∧
      (journal.publishedConfigSha256 ≠ some journal.intendedConfigSha256 ∨
        journal.publishedProjectMapSha256 ≠ some journal.intendedProjectMapSha256)) .malformedJournal
    "completed backend publication lacks intended-state witnesses"
  pure material

def prospectiveJournal (platform : PublicationPlatform Digest) (input : PreparePublication Digest)
    (sourceState targetState : LocalState (FileWitness Digest)) : PublicationJournal Digest :=
  let emptySha256 := platform.sha256 [123, 125]
  { publicationId := input.publicationId
    sourceBackend := input.sourceBackend
    targetBackend := input.targetBackend
    phase := .preparing
    expectedConfigSha256 := sourceState.config.elim emptySha256 (·.content.rawSha256)
    expectedProjectMapSha256 := sourceState.projectMap.elim emptySha256 (·.content.semanticSha256)
    intendedConfigSha256 := targetState.config.elim emptySha256 (·.content.rawSha256)
    intendedProjectMapSha256 := targetState.projectMap.elim emptySha256 (·.content.semanticSha256)
    publishedConfigSha256 := none
    publishedProjectMapSha256 := none
    recoveryReference := none
    sourceState
    targetState
    projects := input.projects.map fun project =>
      ⟨project.localProjectId, project.remoteProjectId, project.evidenceSha256, none⟩ }

/-- A coordinator call over a home. -/
abbrev Coordinator (Digest Remote : Type) := Interruptible (PublicationHome Digest Remote) PublicationFailure

open Interruptible

/-- A journal is written over the one that was read before it. -/
def writeJournal (expected : Option (StoredJournal Digest)) (journal : StoredJournal Digest)
    (record : PublicationHome Digest Remote → PublicationHome Digest Remote) :
    Coordinator Digest Remote Unit :=
  effect fun home =>
    if home.journal = expected then (.ok (), { record home with journal := some journal })
    else if expected.isNone then
      (fail .unresolvedPublication "backend publication journal already exists", home)
    else (fail .unexpectedState "backend publication journal changed before update", home)

def transition (journal : PublicationJournal Digest) (phase : PublicationPhase)
    (updates : PublicationJournal Digest → PublicationJournal Digest) :
    Coordinator Digest Remote (PublicationJournal Digest) := do
  let next := { updates journal with phase }
  writeJournal (some (.publication journal)) (.publication next) id
  pure next

/-- A journal moves from the phase where a stage starts to the one where it works. -/
def enterPhase (start : Option PublicationPhase) (phase : PublicationPhase)
    (journal : PublicationJournal Digest) : Coordinator Digest Remote (PublicationJournal Digest) :=
  if start = some journal.phase then transition journal phase id else pure journal

def readJournal : Coordinator Digest Remote (PublicationJournal Digest) := do
  let home ← look
  lift (match home.journal with
    | none => fail .publicationEvidenceMissing "backend publication journal is missing"
    | some (.maintenance _) => fail .unresolvedPublication
        "backend publication is held for migration maintenance; use the maintenance recovery API"
    | some (.publication journal) => .ok journal)

/-- A terminal journal is kept in the history once. -/
def archiveTerminalJournal (journal : StoredJournal Digest) : Coordinator Digest Remote Unit :=
  change fun home => { home with
    history := if journal ∈ home.history then home.history else home.history ++ [journal] }

def callRemote {Input Answer : Type} (hook : RemoteHook Remote Input Answer) (input : Input) :
    Coordinator Digest Remote Answer :=
  effect fun home =>
    let (answer, remote) := hook input home.remote
    (answer.elim (.error .remote) .ok, { home with remote })

/-- A remote call that releases a guard. -/
def callRelease {Input Answer : Type} (hook : RemoteHook Remote Input Answer) (input : Input) :
    Coordinator Digest Remote Answer :=
  effect fun home =>
    let (answer, remote) := hook input home.remote
    (answer.elim (.error .remote) .ok, { home with remote, released := true })

/-- How one file is published: its phases, its messages and what the journal records. -/
structure PublishStage (Digest : Type) where
  file : LocalFile
  start : PublicationPhase
  publishing : PublicationPhase
  published : PublicationPhase
  access : String
  sourceField : String
  publishedField : String
  record : PublicationJournal Digest → PublicationJournal Digest

def mapPublication : PublishStage Digest where
  file := .projectMap
  start := .guarded
  publishing := .mapPublishing
  published := .mapPublished
  access := "publish-project-map"
  sourceField := "source project map"
  publishedField := "published project map"
  record journal := { journal with
    publishedProjectMapSha256 := some journal.intendedProjectMapSha256 }

def configPublication : PublishStage Digest where
  file := .config
  start := .mapPublished
  publishing := .configPublishing
  published := .configPublished
  access := "publish-config"
  sourceField := "source config"
  publishedField := "published config"
  record journal := { journal with publishedConfigSha256 := some journal.intendedConfigSha256 }

/-- How one file is restored; the map is always restored in the phase that restores it. -/
structure RestoreStage where
  file : LocalFile
  start : Option PublicationPhase
  restoring : PublicationPhase
  restored : PublicationPhase
  access : String
  beforeField : String
  restoredField : String

def configRestoration : RestoreStage where
  file := .config
  start := some .aborting
  restoring := .configRestoring
  restored := .mapRestoring
  access := "restore-config"
  beforeField := "config before restore"
  restoredField := "restored config"

def mapRestoration : RestoreStage where
  file := .projectMap
  start := none
  restoring := .mapRestoring
  restored := .abortReleasing
  access := "restore-project-map"
  beforeField := "project map before restore"
  restoredField := "restored project map"

section Calls

variable (platform : PublicationPlatform Digest) (driver : PublicationDriver Digest Remote)

def materialContext (journal : PublicationJournal Digest) :
    Coordinator Digest Remote (RecoveryReference Digest × RecoveryMaterial) := do
  let home ← look
  lift (authenticateMaterial platform home journal)

def observe : Coordinator Digest Remote (LocalState (FileWitness Digest)) := do
  let home ← look
  let observed := home.files.map (recoveryFileWitness platform)
  lift (assertStateShape observed)
  pure observed

/-- A file is written at once, wherever the driver puts it. -/
def PublicationHome.write (home : PublicationHome Digest Remote) (file : LocalFile)
    (content : RecoveryFile) (mutation : FileMutation Digest) : PublicationHome Digest Remote :=
  { home with
    files := home.files.set content file
    mutations := mutation :: home.mutations }

def mutate (access : MutationAccess) (file : LocalFile) (journal : PublicationJournal Digest)
    (content : RecoveryFile) (expected : FileWitness Digest) (field : String) :
    Coordinator Digest Remote Unit := do
  let actual ← effect fun home =>
    let written := content.map fun content => { content with identity := driver.newIdentity home.files }
    (.ok (recoveryFileWitness platform written), home.write file written
      ⟨file, access, recoveryFileWitness platform (home.files.get file), journal, home.released⟩)
  lift (assertContentWitness actual expected field)

/-- One of the files is published once. -/
def publishFile (stage : PublishStage Digest) (journal : PublicationJournal Digest) :
    Coordinator Digest Remote (PublicationJournal Digest) := do
  let target := journal.targetState.get stage.file
  let finish := fun (current : PublicationJournal Digest)
      (observed : LocalState (FileWitness Digest)) => transition current stage.published fun current =>
    stage.record { current with
      targetState := journal.targetState.set (observed.get stage.file) stage.file }
  let (_, material) ← materialContext platform journal
  let observed ← observe platform
  if logicalWitnessMatches (observed.get stage.file) target ∨
      journal.phase = stage.publishing ∧ mutationWitnessMatches (observed.get stage.file) target then
    finish journal observed
  else do
    lift (assertLogicalWitness (observed.get stage.file) (journal.sourceState.get stage.file)
      stage.sourceField)
    let current ← enterPhase (some stage.start) stage.publishing journal
    mutate platform driver .publish stage.file current (material.target.get stage.file) target stage.access
    let after ← observe platform
    lift (assertContentWitness (after.get stage.file) target stage.publishedField)
    finish current after

def publishMap (journal : PublicationJournal Digest) :
    Coordinator Digest Remote (PublicationJournal Digest) :=
  publishFile platform driver mapPublication journal

def publishConfig (journal : PublicationJournal Digest) :
    Coordinator Digest Remote (PublicationJournal Digest) :=
  publishFile platform driver configPublication journal

/-- One of the files is restored unless it already is. -/
def restoreFile (stage : RestoreStage) (journal : PublicationJournal Digest) :
    Coordinator Digest Remote (PublicationJournal Digest) := do
  let source := journal.sourceState.get stage.file
  let target := journal.targetState.get stage.file
  let (_, material) ← materialContext platform journal
  let observed ← observe platform
  if journal.phase = stage.restoring ∧ mutationWitnessMatches (observed.get stage.file) source then
    transition journal stage.restored fun journal => { journal with
      sourceState := journal.sourceState.set (observed.get stage.file) stage.file }
  else if logicalWitnessMatches (observed.get stage.file) source then
    transition journal stage.restored id
  else do
    lift (if mutationWitnessMatches (observed.get stage.file) target then .ok ()
      else assertLogicalWitness (observed.get stage.file) target stage.beforeField)
    let current ← enterPhase stage.start stage.restoring journal
    mutate platform driver .restore stage.file current (material.source.get stage.file) source stage.access
    let after ← observe platform
    lift (assertContentWitness (after.get stage.file) source stage.restoredField)
    transition current stage.restored id

def restoreConfig (journal : PublicationJournal Digest) :
    Coordinator Digest Remote (PublicationJournal Digest) :=
  restoreFile platform driver configRestoration journal

def restoreMap (journal : PublicationJournal Digest) :
    Coordinator Digest Remote (PublicationJournal Digest) :=
  restoreFile platform driver mapRestoration journal

end Calls

end Lcm.Publication
