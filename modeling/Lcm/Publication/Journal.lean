import Lcm.Text.Uuid

namespace Lcm.Publication
open Text

inductive PublicationPhase where
  | preparing
  | prepared
  | acquiring
  | guarded
  | mapPublishing
  | mapPublished
  | configPublishing
  | configPublished
  | releasing
  | released
  | aborting
  | configRestoring
  | mapRestoring
  | abortReleasing
  | aborted
  | completed
  deriving DecidableEq

def PublicationPhase.isTerminal (phase : PublicationPhase) : Bool :=
  phase ∈ [.completed, .aborted]

/-- The phases of an abort that has not ended yet. -/
def PublicationPhase.isAborting (phase : PublicationPhase) : Bool :=
  phase ∈ [.aborting, .configRestoring, .mapRestoring, .abortReleasing]

/-- The forward phases that record a remote guard fence for every project. -/
def guardRecordedForwardPhases : List PublicationPhase :=
  [.guarded, .mapPublishing, .mapPublished, .configPublishing, .configPublished, .releasing, .released]

structure FileIdentity where
  dev : Nat
  ino : Nat
  parentDev : Nat
  parentIno : Nat
  deriving DecidableEq

/-- A private file with its content, its metadata and its place. -/
structure PrivateFile where
  content : List UInt8
  mode : Nat
  uid : Nat
  gid : Nat
  nlink : Nat
  identity : FileIdentity
  deriving DecidableEq

/-- A file that may be absent, on disk or in recovery material. -/
abbrev RecoveryFile := Option PrivateFile

/-- The fields of a witness that do not tell where the file lies. -/
structure ContentWitness (Digest : Type) where
  rawSha256 : Digest
  semanticSha256 : Digest
  byteLength : Nat
  mode : Nat
  uid : Nat
  gid : Nat
  nlink : Nat
  deriving DecidableEq

structure PresentWitness (Digest : Type) where
  content : ContentWitness Digest
  identity : FileIdentity
  deriving DecidableEq

/-- The witness of a file; an absent file has none. -/
abbrev FileWitness (Digest : Type) := Option (PresentWitness Digest)

inductive LocalFile where
  | config
  | projectMap
  deriving DecidableEq

/-- A value for each of the two files that a publication changes. -/
@[ext] structure LocalState (Value : Type) where
  config : Value
  projectMap : Value
  deriving DecidableEq

namespace LocalState

variable {Value Other : Type}

def get (state : LocalState Value) : LocalFile → Value
  | .config => state.config
  | .projectMap => state.projectMap

def set (state : LocalState Value) (value : Value) : LocalFile → LocalState Value
  | .config => { state with config := value }
  | .projectMap => { state with projectMap := value }

def map (change : Value → Other) (state : LocalState Value) : LocalState Other :=
  ⟨change state.config, change state.projectMap⟩

@[simp] theorem get_config (state : LocalState Value) : state.get .config = state.config := rfl

@[simp] theorem get_projectMap (state : LocalState Value) : state.get .projectMap = state.projectMap :=
  rfl

@[simp] theorem get_map (change : Value → Other) (state : LocalState Value) (file : LocalFile) :
    (state.map change).get file = change (state.get file) := by
  cases file <;> rfl

@[simp] theorem get_set (state : LocalState Value) (value : Value) (file other : LocalFile) :
    (state.set value file).get other = if other = file then value else state.get other := by
  cases file <;> cases other <;> rfl

theorem set_get (state : LocalState Value) (file : LocalFile) {value : Value}
    (same : state.get file = value) : state.set value file = state := by
  subst same
  cases file <;> rfl

@[simp] theorem map_set (change : Value → Other) (state : LocalState Value) (value : Value)
    (file : LocalFile) : (state.set value file).map change = (state.map change).set (change value) file := by
  cases file <;> rfl

end LocalState

structure RecoveryMaterial where
  source : LocalState RecoveryFile
  target : LocalState RecoveryFile
  deriving DecidableEq

inductive StorageBackendName where
  | sqlite
  | postgresql
  deriving DecidableEq

inductive MaintenancePhase where
  | maintenanceEntering
  | maintenanceHeld
  | selectionPrepared
  | selectionCompleted
  | maintenanceAborted
  deriving DecidableEq

def isTerminalMaintenancePhase (phase : MaintenancePhase) : Bool :=
  phase ∈ [.selectionCompleted, .maintenanceAborted]

structure MaintenanceRosterEntry (Digest : Type) where
  machineId : JsString
  queueCutoff : Option JsString
  evidenceSha256 : Digest
  deriving DecidableEq

/-- What maintenance is entered for; the text of a cutover set is kept as it is. -/
structure MaintenanceScope (Digest : Type) where
  publicationId : JsString
  generationId : JsString
  sourceBackend : StorageBackendName
  sourceSelectionSha256 : Digest
  queueEvidenceSha256 : Digest
  roster : List (MaintenanceRosterEntry Digest)
  cutoverSet : Option JsString
  deriving DecidableEq

structure MaintenanceJournal (Digest : Type) where
  scope : MaintenanceScope Digest
  phase : MaintenancePhase
  deriving DecidableEq

/-- The digests that a publication computes, and the text that it seals. -/
structure PublicationPlatform (Digest : Type) where
  sha256 : List UInt8 → Digest
  /-- The digest of the canonical text of a JSON file; the raw digest of any other file. -/
  semanticSha256 : List UInt8 → Digest
  materialJson : JsString → RecoveryMaterial → List UInt8
  /-- Whether the first text comes before the second or with it in the order of the locale. -/
  localeLe : JsString → JsString → Bool
  /-- Whether the cutover set of a scope is one, and the scope is the one of its manifest. -/
  isCutoverSetEntry : MaintenanceScope Digest → Bool

section Witnesses

variable {Digest : Type}

def PrivateFile.witness (platform : PublicationPlatform Digest) (file : PrivateFile) :
    PresentWitness Digest where
  content := {
    rawSha256 := platform.sha256 file.content
    semanticSha256 := platform.semanticSha256 file.content
    byteLength := file.content.length
    mode := file.mode
    uid := file.uid
    gid := file.gid
    nlink := file.nlink }
  identity := file.identity

def recoveryFileWitness (platform : PublicationPlatform Digest) (file : RecoveryFile) :
    FileWitness Digest :=
  file.map (PrivateFile.witness platform)

variable [DecidableEq Digest]

def contentWitnessMatches (actual expected : FileWitness Digest) : Bool :=
  actual.map (·.content) = expected.map (·.content)

def logicalWitnessMatches (actual expected : FileWitness Digest) : Bool :=
  contentWitnessMatches actual expected && actual.map (·.identity) = expected.map (·.identity)

/-- A present file with the expected content in another place. -/
def mutationWitnessMatches (actual expected : FileWitness Digest) : Bool :=
  actual.isSome && expected.isSome && contentWitnessMatches actual expected &&
    !logicalWitnessMatches actual expected

theorem contentWitnessMatches_iff {actual expected : FileWitness Digest} :
    contentWitnessMatches actual expected = true ↔
      actual.map (·.content) = expected.map (·.content) := decide_eq_true_iff

/-- Witnesses match logically when they are the same. -/
theorem logicalWitnessMatches_iff {actual expected : FileWitness Digest} :
    logicalWitnessMatches actual expected = true ↔ actual = expected := by
  rw [logicalWitnessMatches, Bool.and_eq_true, contentWitnessMatches_iff, decide_eq_true_iff]
  constructor
  · rintro ⟨content, identity⟩
    cases actual with
    | none => exact (Option.map_eq_none_iff.mp content.symm).symm
    | some actual =>
        cases expected with
        | none => cases content
        | some expected =>
            cases actual
            cases expected
            cases content
            cases identity
            rfl
  · rintro rfl
    exact ⟨rfl, rfl⟩

/-- A witness with the expected content is the expected one or that of the file elsewhere. -/
theorem mutation_or_logical {actual expected : FileWitness Digest}
    (content : contentWitnessMatches actual expected = true) :
    mutationWitnessMatches actual expected = true ∨ actual = expected := by
  by_cases same : actual = expected
  · exact .inr same
  · have moved : logicalWitnessMatches actual expected = false := by
      rw [← Bool.not_eq_true, logicalWitnessMatches_iff]
      exact same
    refine .inl ?_
    cases actual with
    | none =>
        have absent := contentWitnessMatches_iff.mp content
        exact (same (Option.map_eq_none_iff.mp absent.symm).symm).elim
    | some actual =>
        cases expected with
        | none => cases contentWitnessMatches_iff.mp content
        | some expected => simp [mutationWitnessMatches, content, moved]

theorem contentWitnessMatches_refl (witness : FileWitness Digest) :
    contentWitnessMatches witness witness = true := contentWitnessMatches_iff.mpr rfl

theorem content_of_mutation {actual expected : FileWitness Digest}
    (moved : mutationWitnessMatches actual expected = true) :
    contentWitnessMatches actual expected = true := by
  rw [mutationWitnessMatches, Bool.and_eq_true, Bool.and_eq_true] at moved
  exact moved.1.2

/-- A file that was written anew has the content of what was written. -/
theorem content_of_moved (platform : PublicationPlatform Digest) (file : RecoveryFile)
    (identity : FileIdentity) : contentWitnessMatches
      (recoveryFileWitness platform (file.map fun file => { file with identity }))
        (recoveryFileWitness platform file) = true := by
  rw [contentWitnessMatches_iff]
  cases file <;> rfl

end Witnesses

structure RecoveryReference (Digest : Type) where
  relativePath : JsString
  sealSha256 : Digest
  byteLength : Nat
  deriving DecidableEq

structure FenceRecord (Digest : Type) where
  projectId : JsString
  machineId : JsString
  publicationId : JsString
  targetBackend : StorageBackendName
  evidenceSha256 : Digest
  fencingToken : JsString
  acquiredAt : JsString
  renewedAt : JsString
  expiresAt : JsString
  releasedAt : Option JsString
  databaseExpired : Bool
  deriving DecidableEq

structure ProjectRecord (Digest : Type) where
  localProjectId : JsString
  remoteProjectId : JsString
  evidenceSha256 : Digest
  fence : Option (FenceRecord Digest)
  deriving DecidableEq

structure PublicationJournal (Digest : Type) where
  publicationId : JsString
  sourceBackend : StorageBackendName
  targetBackend : StorageBackendName
  phase : PublicationPhase
  expectedConfigSha256 : Digest
  expectedProjectMapSha256 : Digest
  intendedConfigSha256 : Digest
  intendedProjectMapSha256 : Digest
  publishedConfigSha256 : Option Digest
  publishedProjectMapSha256 : Option Digest
  recoveryReference : Option (RecoveryReference Digest)
  sourceState : LocalState (FileWitness Digest)
  targetState : LocalState (FileWitness Digest)
  projects : List (ProjectRecord Digest)
  deriving DecidableEq

/-- The journal of a home belongs to a publication or to maintenance. -/
inductive StoredJournal (Digest : Type) where
  | publication (journal : PublicationJournal Digest)
  | maintenance (journal : MaintenanceJournal Digest)
  deriving DecidableEq

def StoredJournal.isTerminal {Digest : Type} : StoredJournal Digest → Bool
  | .publication journal => journal.phase.isTerminal
  | .maintenance journal => isTerminalMaintenancePhase journal.phase

end Lcm.Publication
