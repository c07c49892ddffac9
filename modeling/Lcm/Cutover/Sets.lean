import Lcm.Library.SortedBy
import Lcm.Publication.Coordinator
import Lcm.Text.PlainText
import Mathlib.Data.List.Lex

namespace Lcm.Cutover
open Text Publication

def maxJournalBytes : Nat := 1 * 1024 * 1024

def isHash (text : JsString) : Bool := text.length == 64 && text.all isHexDigit

def isCanonicalUuid (text : JsString) : Bool :=
  isUuid text && hasVersion [49, 50, 51, 52, 53, 54, 55, 56] text

def isPaddedSequence (text : JsString) : Bool := text.length == 19 && text.all Json.isDigit

abbrev BackendMaintenanceRosterEntry := MaintenanceRosterEntry JsString

structure BackendCutoverSetMember where
  physicalProjectId : JsString
  generationId : JsString
  sourceSelectionSha256 : JsString
  deriving DecidableEq

structure BackendCutoverSetManifest where
  setId : JsString
  machineId : JsString
  members : List BackendCutoverSetMember
  deriving DecidableEq

structure BackendCutoverSetBinding where
  generationId : JsString
  queueEvidenceSha256 : JsString
  roster : List BackendMaintenanceRosterEntry
  deriving DecidableEq

structure BackendCutoverSetSelectionMember where
  physicalProjectId : JsString
  generationId : JsString
  remoteProjectId : JsString
  copyBindingSha256 : JsString
  epochId : JsString
  attemptId : JsString
  epochManifestRevision : Nat
  epochManifestChecksumSha256 : JsString
  witnessChecksumSha256 : JsString
  deriving DecidableEq

/-- The tuple of an activation, from SQLite to PostgreSQL. -/
structure BackendCutoverSetSelection where
  checkpointSha256 : JsString
  setId : JsString
  manifestSha256 : JsString
  publicationId : JsString
  identityDigest : JsString
  members : List BackendCutoverSetSelectionMember
  checksumSha256 : JsString
  deriving DecidableEq

inductive RollbackMode where
  | preWrite
  | postWrite
  deriving DecidableEq

structure BackendCutoverSetRollbackSelectionMember where
  physicalProjectId : JsString
  generationId : JsString
  remoteProjectId : JsString
  mode : RollbackMode
  epochId : JsString
  attemptId : JsString
  witnessChecksumSha256 : JsString
  installEvidenceSha256 : JsString
  deriving DecidableEq

/-- The tuple of a rollback, from PostgreSQL to SQLite. -/
structure BackendCutoverSetRollbackSelection where
  setId : JsString
  manifestSha256 : JsString
  publicationId : JsString
  originalSetId : JsString
  originalSelectionSha256 : JsString
  checkpointSha256 : JsString
  identityDigest : JsString
  members : List BackendCutoverSetRollbackSelectionMember
  checksumSha256 : JsString
  deriving DecidableEq

inductive BackendCutoverSetAnySelection where
  | activation (selection : BackendCutoverSetSelection)
  | rollback (selection : BackendCutoverSetRollbackSelection)
  deriving DecidableEq

structure BackendCutoverSet where
  manifest : BackendCutoverSetManifest
  bindings : List BackendCutoverSetBinding
  selection : Option BackendCutoverSetAnySelection
  deriving DecidableEq

structure BackendMaintenanceJournal where
  publicationId : JsString
  sourceBackend : StorageBackendName
  targetBackend : Option StorageBackendName
  phase : MaintenancePhase
  createdAt : JsString
  updatedAt : JsString
  generationId : JsString
  sourceSelectionSha256 : JsString
  queueEvidenceSha256 : JsString
  roster : List BackendMaintenanceRosterEntry
  selectedGenerationId : Option JsString
  terminalEvidenceSha256 : Option JsString
  abortEvidenceSha256 : Option JsString
  cutoverSet : Option BackendCutoverSet
  checksumSha256 : JsString
  deriving DecidableEq

namespace BackendCutoverSetAnySelection

def setId : BackendCutoverSetAnySelection → JsString
  | .activation selection => selection.setId
  | .rollback selection => selection.setId

def sourceBackend : BackendCutoverSetAnySelection → StorageBackendName
  | .activation _ => .sqlite
  | .rollback _ => .postgresql

def targetBackend : BackendCutoverSetAnySelection → StorageBackendName
  | .activation _ => .postgresql
  | .rollback _ => .sqlite

def checksumSha256 : BackendCutoverSetAnySelection → JsString
  | .activation selection => selection.checksumSha256
  | .rollback selection => selection.checksumSha256

end BackendCutoverSetAnySelection

section Canonical

mutual

/-- A value with its members in the order of their names. -/
def canonicalValue : Json Nat → Json Nat
  | .array elements => .array (canonicalElements elements)
  | .object members => .object (sortedBy (fun member => member.1.map UInt16.toNat)
      (canonicalMembers members))
  | value => value

def canonicalElements : List (Json Nat) → List (Json Nat)
  | [] => []
  | element :: rest => canonicalValue element :: canonicalElements rest

def canonicalMembers : List (JsString × Json Nat) → List (JsString × Json Nat)
  | [] => []
  | (name, value) :: rest => (name, canonicalValue value) :: canonicalMembers rest

end

def canonicalJson (value : Json Nat) : JsString := Json.print naturalFormat (canonicalValue value)

end Canonical

section Values

def writeNullable (text : Option JsString) : Json Nat := (text.map Json.string).getD .null

def backendName : StorageBackendName → JsString
  | .sqlite => js "sqlite"
  | .postgresql => js "postgresql"

def phaseName : MaintenancePhase → JsString
  | .maintenanceEntering => js "maintenance-entering"
  | .maintenanceHeld => js "maintenance-held"
  | .selectionPrepared => js "selection-prepared"
  | .selectionCompleted => js "selection-completed"
  | .maintenanceAborted => js "maintenance-aborted"

def modeName : RollbackMode → JsString
  | .preWrite => js "pre-write"
  | .postWrite => js "post-write"

def rosterEntryJson (entry : BackendMaintenanceRosterEntry) : Json Nat :=
  .object [(js "machineId", .string entry.machineId), (js "queueCutoff", writeNullable entry.queueCutoff),
    (js "evidenceSha256", .string entry.evidenceSha256)]

def BackendCutoverSetMember.toJson (member : BackendCutoverSetMember) : Json Nat :=
  .object [(js "physicalProjectId", .string member.physicalProjectId),
    (js "generationId", .string member.generationId),
    (js "sourceSelectionSha256", .string member.sourceSelectionSha256)]

def BackendCutoverSetManifest.toJson (manifest : BackendCutoverSetManifest) : Json Nat :=
  .object [(js "version", .number 1), (js "setId", .string manifest.setId),
    (js "machineId", .string manifest.machineId),
    (js "members", .array (manifest.members.map BackendCutoverSetMember.toJson))]

def BackendCutoverSetBinding.toJson (binding : BackendCutoverSetBinding) : Json Nat :=
  .object [(js "generationId", .string binding.generationId),
    (js "queueEvidenceSha256", .string binding.queueEvidenceSha256),
    (js "roster", .array (binding.roster.map rosterEntryJson))]

def BackendCutoverSetSelectionMember.toJson (member : BackendCutoverSetSelectionMember) : Json Nat :=
  .object [(js "physicalProjectId", .string member.physicalProjectId),
    (js "generationId", .string member.generationId),
    (js "remoteProjectId", .string member.remoteProjectId),
    (js "copyBindingSha256", .string member.copyBindingSha256), (js "epochId", .string member.epochId),
    (js "attemptId", .string member.attemptId),
    (js "epochManifestRevision", .number member.epochManifestRevision),
    (js "epochManifestChecksumSha256", .string member.epochManifestChecksumSha256),
    (js "witnessChecksumSha256", .string member.witnessChecksumSha256)]

/-- The members of a selection but for its checksum. -/
def BackendCutoverSetSelection.body (selection : BackendCutoverSetSelection) : List (JsString × Json Nat) :=
  [(js "version", .number 1), (js "kind", .string (js "cutover-set-selection")),
    (js "checkpointSha256", .string selection.checkpointSha256), (js "setId", .string selection.setId),
    (js "manifestSha256", .string selection.manifestSha256),
    (js "publicationId", .string selection.publicationId),
    (js "identityDigest", .string selection.identityDigest),
    (js "sourceBackend", .string (js "sqlite")), (js "targetBackend", .string (js "postgresql")),
    (js "members", .array (selection.members.map BackendCutoverSetSelectionMember.toJson))]

def BackendCutoverSetRollbackSelectionMember.toJson (member : BackendCutoverSetRollbackSelectionMember) :
    Json Nat :=
  .object [(js "physicalProjectId", .string member.physicalProjectId),
    (js "generationId", .string member.generationId),
    (js "remoteProjectId", .string member.remoteProjectId), (js "mode", .string (modeName member.mode)),
    (js "epochId", .string member.epochId), (js "attemptId", .string member.attemptId),
    (js "witnessChecksumSha256", .string member.witnessChecksumSha256),
    (js "installEvidenceSha256", .string member.installEvidenceSha256)]

def BackendCutoverSetRollbackSelection.body (selection : BackendCutoverSetRollbackSelection) :
    List (JsString × Json Nat) :=
  [(js "version", .number 1), (js "kind", .string (js "cutover-set-rollback-selection")),
    (js "setId", .string selection.setId), (js "manifestSha256", .string selection.manifestSha256),
    (js "publicationId", .string selection.publicationId),
    (js "originalSetId", .string selection.originalSetId),
    (js "originalSelectionSha256", .string selection.originalSelectionSha256),
    (js "checkpointSha256", .string selection.checkpointSha256),
    (js "identityDigest", .string selection.identityDigest),
    (js "sourceBackend", .string (js "postgresql")), (js "targetBackend", .string (js "sqlite")),
    (js "members", .array (selection.members.map BackendCutoverSetRollbackSelectionMember.toJson))]

def BackendCutoverSetAnySelection.toJson : BackendCutoverSetAnySelection → Json Nat
  | .activation selection =>
      .object (selection.body ++ [(js "checksumSha256", .string selection.checksumSha256)])
  | .rollback selection =>
      .object (selection.body ++ [(js "checksumSha256", .string selection.checksumSha256)])

def BackendCutoverSet.toJson (cutoverSet : BackendCutoverSet) : Json Nat :=
  .object ([(js "manifest", cutoverSet.manifest.toJson),
      (js "bindings", .array (cutoverSet.bindings.map BackendCutoverSetBinding.toJson))] ++
    cutoverSet.selection.toList.map fun selection => (js "selection", selection.toJson))

/-- The members of a journal but for its checksum. -/
def BackendMaintenanceJournal.payload (journal : BackendMaintenanceJournal) : List (JsString × Json Nat) :=
  [(js "version", .number 3), (js "publicationId", .string journal.publicationId),
    (js "sourceBackend", .string (backendName journal.sourceBackend)),
    (js "targetBackend", writeNullable (journal.targetBackend.map backendName)),
    (js "phase", .string (phaseName journal.phase)), (js "createdAt", .string journal.createdAt),
    (js "updatedAt", .string journal.updatedAt), (js "generationId", .string journal.generationId),
    (js "sourceSelectionSha256", .string journal.sourceSelectionSha256),
    (js "queueEvidenceSha256", .string journal.queueEvidenceSha256),
    (js "roster", .array (journal.roster.map rosterEntryJson)),
    (js "selectedGenerationId", writeNullable journal.selectedGenerationId),
    (js "terminalEvidenceSha256", writeNullable journal.terminalEvidenceSha256),
    (js "abortEvidenceSha256", writeNullable journal.abortEvidenceSha256)] ++
  journal.cutoverSet.toList.map fun cutoverSet => (js "cutoverSet", cutoverSet.toJson)

def BackendMaintenanceJournal.toJson (journal : BackendMaintenanceJournal) : Json Nat :=
  .object (journal.payload ++ [(js "checksumSha256", .string journal.checksumSha256)])

/-- The bytes of the file of a journal. -/
def journalBytes (journal : BackendMaintenanceJournal) : Nat :=
  byteLength (canonicalJson journal.toJson ++ [10])

end Values

section Capacity

def hex : JsString := List.replicate 64 102

def longestIsoTimestamp : JsString := js "+275760-09-13T00:00:00.000Z"

def longestCanonicalUuid : JsString := js "ffffffff-ffff-7fff-bfff-ffffffffffff"

def maxSafeInteger : Nat := 2 ^ 53 - 1

def backendCutoverSetSelectionWorstCase (manifest : BackendCutoverSetManifest) :
    BackendCutoverSetSelection where
  checkpointSha256 := hex
  setId := manifest.setId
  manifestSha256 := hex
  publicationId := manifest.setId
  identityDigest := hex
  members := manifest.members.map fun member =>
    { physicalProjectId := member.physicalProjectId
      generationId := member.generationId
      remoteProjectId := longestCanonicalUuid
      copyBindingSha256 := hex
      epochId := hex
      attemptId := hex
      epochManifestRevision := maxSafeInteger
      epochManifestChecksumSha256 := hex
      witnessChecksumSha256 := hex }
  checksumSha256 := hex

def backendCutoverSetRollbackSelectionWorstCase (manifest : BackendCutoverSetManifest)
    (originalSetId : JsString) : BackendCutoverSetRollbackSelection where
  setId := manifest.setId
  manifestSha256 := hex
  publicationId := manifest.setId
  originalSetId := originalSetId
  originalSelectionSha256 := hex
  checkpointSha256 := hex
  identityDigest := hex
  members := manifest.members.map fun member =>
    { physicalProjectId := member.physicalProjectId
      generationId := member.generationId
      remoteProjectId := longestCanonicalUuid
      mode := .postWrite
      epochId := hex
      attemptId := hex
      witnessChecksumSha256 := hex
      installEvidenceSha256 := hex }
  checksumSha256 := hex

/-- The bindings of a set with every member bound. -/
def boundWorstCase (cutoverSet : BackendCutoverSet) : List BackendCutoverSetBinding :=
  cutoverSet.bindings.map fun binding =>
    { generationId := binding.generationId
      queueEvidenceSha256 := hex
      roster := [{ machineId := cutoverSet.manifest.machineId, queueCutoff := some (js "9223372036854775807"),
                   evidenceSha256 := hex }] }

def abortedWorstCase (cutoverSet : BackendCutoverSet) : BackendMaintenanceJournal where
  publicationId := cutoverSet.manifest.setId
  sourceBackend := .postgresql
  targetBackend := none
  phase := .maintenanceAborted
  createdAt := longestIsoTimestamp
  updatedAt := longestIsoTimestamp
  generationId := cutoverSet.manifest.setId
  sourceSelectionSha256 := hex
  queueEvidenceSha256 := hex
  roster := [{ machineId := cutoverSet.manifest.machineId, queueCutoff := none, evidenceSha256 := hex }]
  selectedGenerationId := none
  terminalEvidenceSha256 := none
  abortEvidenceSha256 := some hex
  cutoverSet := some { cutoverSet with bindings := boundWorstCase cutoverSet, selection := none }
  checksumSha256 := hex

/-- A completed selection with a tuple. -/
def selectedWorstCase (cutoverSet : BackendCutoverSet) (selection : BackendCutoverSetAnySelection) :
    BackendMaintenanceJournal :=
  { abortedWorstCase cutoverSet with
    sourceBackend := selection.sourceBackend
    targetBackend := some selection.targetBackend
    phase := .selectionCompleted
    selectedGenerationId := some cutoverSet.manifest.setId
    terminalEvidenceSha256 := some hex
    abortEvidenceSha256 := none
    cutoverSet := some { cutoverSet with
      bindings := boundWorstCase cutoverSet
      selection := some selection } }

/-- The bytes of the largest journal that a set can reach. -/
def backendCutoverSetJournalCapacity (cutoverSet : BackendCutoverSet) : Nat :=
  max (journalBytes (abortedWorstCase cutoverSet))
    (journalBytes (selectedWorstCase cutoverSet
      (.activation (backendCutoverSetSelectionWorstCase cutoverSet.manifest))))

def backendCutoverSetRollbackJournalCapacity (cutoverSet : BackendCutoverSet) (originalSetId : JsString) :
    Nat :=
  max (journalBytes (abortedWorstCase cutoverSet))
    (journalBytes (selectedWorstCase cutoverSet
      (.rollback (backendCutoverSetRollbackSelectionWorstCase cutoverSet.manifest originalSetId))))

end Capacity

end Lcm.Cutover
