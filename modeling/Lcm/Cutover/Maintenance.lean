import Lcm.Cutover.Sets
import Lcm.Library.StepSystem

namespace Lcm.Cutover
open Text Publication Interruptible

/-- What maintenance uses of its surroundings. -/
structure MaintenancePlatform where
  sha256 : JsString → JsString
  /-- Whether the first text comes before the second or with it in the order of the locale. -/
  localeLe : JsString → JsString → Bool
  /-- Whether a text is the text of a date. -/
  isDate : JsString → Bool
  isHash_sha256 : ∀ text, isHash (sha256 text) = true
  isDate_timestamp : ∀ timestamp : IsoTimestamp, isDate timestamp.1 = true

/-- A check of each element of a list in turn, with its index. -/
def checkEach {Item : Type} (check : Nat → Item → Except PublicationFailure Unit) (items : List Item) :
    Except PublicationFailure Unit :=
  items.zipIdx.forM fun indexed => check indexed.2 indexed.1

section Digests

variable (platform : MaintenancePlatform)

def backendPublicationCanonicalSha256 (value : Json Nat) : JsString := platform.sha256 (canonicalJson value)

def maintenanceChecksum (journal : BackendMaintenanceJournal) : JsString :=
  backendPublicationCanonicalSha256 platform (.object journal.payload)

def withMaintenanceChecksum (journal : BackendMaintenanceJournal) : BackendMaintenanceJournal :=
  { journal with checksumSha256 := maintenanceChecksum platform journal }

def backendMaintenanceQueueEvidenceSentinel (generationId sourceSelectionSha256 : JsString) : JsString :=
  backendPublicationCanonicalSha256 platform (.object [(js "version", .number 1),
    (js "kind", .string (js "queue-evidence-unbound")), (js "generationId", .string generationId),
    (js "sourceSelectionSha256", .string sourceSelectionSha256)])

def backendCutoverSetManifestSha256 (manifest : BackendCutoverSetManifest) : JsString :=
  backendPublicationCanonicalSha256 platform manifest.toJson

def backendCutoverSetQueueEvidenceSha256 (bindings : List BackendCutoverSetBinding) : JsString :=
  backendPublicationCanonicalSha256 platform (.object [(js "version", .number 1),
    (js "kind", .string (js "cutover-set-queue-evidence")),
    (js "bindings", .array (bindings.map fun binding =>
      .object [(js "generationId", .string binding.generationId),
        (js "queueEvidenceSha256", .string binding.queueEvidenceSha256)]))])

def backendCutoverSetSelectionSha256 (selection : BackendCutoverSetSelection) : JsString :=
  backendPublicationCanonicalSha256 platform (.object selection.body)

def backendCutoverSetRollbackSelectionSha256 (selection : BackendCutoverSetRollbackSelection) : JsString :=
  backendPublicationCanonicalSha256 platform
    (.object ((js "domain", .string (js "cutover-set-rollback-selection")) :: selection.body))

def backendCutoverSetEntryRoster (manifest : BackendCutoverSetManifest) : List BackendMaintenanceRosterEntry :=
  [{ machineId := manifest.machineId
     queueCutoff := none
     evidenceSha256 := backendMaintenanceQueueEvidenceSentinel platform manifest.setId
       (backendCutoverSetManifestSha256 platform manifest) }]

end Digests

section Parsing

variable (platform : MaintenancePlatform)

def isRosterEntry (entry : BackendMaintenanceRosterEntry) : Bool :=
  isCanonicalUuid entry.machineId && isHash entry.evidenceSha256 &&
    entry.queueCutoff.all fun cutoff => isPaddedSequence cutoff &&
      cutoff.map UInt16.toNat ≤ (js "9223372036854775807").map UInt16.toNat

def parseMaintenanceRoster (roster : List BackendMaintenanceRosterEntry) :
    Except PublicationFailure (List BackendMaintenanceRosterEntry) := do
  refuse (roster = []) .malformedJournal "backend maintenance roster is empty or malformed"
  checkEach (fun index entry => refuse (¬ isRosterEntry entry) .malformedJournal
    s!"backend maintenance roster[{index}] is malformed") roster
  refuse (roster.insertionSort (fun left right => platform.localeLe left.machineId right.machineId) ≠ roster ∨
      ¬ (roster.map (·.machineId)).Nodup) .malformedJournal
    "backend maintenance roster is not uniquely sorted"
  pure roster

def isCutoverSetMember (member : BackendCutoverSetMember) : Bool :=
  isHash member.physicalProjectId && isPublicationId member.generationId &&
    isHash member.sourceSelectionSha256

def parseBackendCutoverSetManifest (manifest : BackendCutoverSetManifest) :
    Except PublicationFailure BackendCutoverSetManifest := do
  refuse (¬ isPublicationId manifest.setId ∨ ¬ isCanonicalUuid manifest.machineId ∨
      manifest.members.length < 2) .malformedJournal "backend cutover-set manifest is malformed"
  checkEach (fun index member => refuse (¬ isCutoverSetMember member) .malformedJournal
    s!"backend cutover-set member[{index}] is malformed") manifest.members
  refuse (¬ (manifest.members.map fun member => member.physicalProjectId.map UInt16.toNat).IsChain (· < ·))
    .malformedJournal "backend cutover-set members are not uniquely sorted by project"
  refuse (¬ (manifest.members.map (·.generationId)).Nodup ∨
      manifest.setId ∈ manifest.members.map (·.generationId)) .malformedJournal
    "backend cutover-set generation ids are not unique"
  pure manifest

def parseCutoverSetBinding (manifest : BackendCutoverSetManifest) (index : Nat)
    (aligned : BackendCutoverSetBinding × BackendCutoverSetMember) : Except PublicationFailure Unit := do
  refuse (aligned.1.generationId ≠ aligned.2.generationId ∨ ¬ isHash aligned.1.queueEvidenceSha256)
    .malformedJournal s!"backend cutover-set binding[{index}] is malformed"
  let roster ← parseMaintenanceRoster platform aligned.1.roster
  refuse (roster.map (fun entry => (entry.machineId, entry.evidenceSha256)) ≠
      [(manifest.machineId, aligned.1.queueEvidenceSha256)]) .malformedJournal
    s!"backend cutover-set binding[{index}] roster is inconsistent"

def parseCutoverSetBindings (bindings : List BackendCutoverSetBinding)
    (manifest : BackendCutoverSetManifest) : Except PublicationFailure (List BackendCutoverSetBinding) := do
  refuse (bindings.length ≠ manifest.members.length) .malformedJournal
    "backend cutover-set bindings do not align with the manifest"
  checkEach (parseCutoverSetBinding platform manifest) (bindings.zip manifest.members)
  pure bindings

def isSelectionMember (member : BackendCutoverSetSelectionMember) (expected : BackendCutoverSetMember) :
    Bool :=
  member.physicalProjectId = expected.physicalProjectId && member.generationId = expected.generationId &&
    isCanonicalUuid member.remoteProjectId && isHash member.copyBindingSha256 && isHash member.epochId &&
      isHash member.attemptId && isHash member.epochManifestChecksumSha256 &&
        isHash member.witnessChecksumSha256 && member.epochManifestRevision ≤ maxSafeInteger

def parseBackendCutoverSetSelection (selection : BackendCutoverSetSelection)
    (manifest : BackendCutoverSetManifest) : Except PublicationFailure BackendCutoverSetSelection := do
  refuse (¬ isHash selection.checkpointSha256 ∨ ¬ isHash selection.checksumSha256 ∨
      ¬ isHash selection.identityDigest ∨ selection.setId ≠ manifest.setId ∨
      selection.manifestSha256 ≠ backendCutoverSetManifestSha256 platform manifest ∨
      selection.publicationId ≠ manifest.setId ∨ selection.members.length ≠ manifest.members.length)
    .malformedJournal "backend cutover-set selection is malformed"
  checkEach (fun index aligned => refuse (¬ isSelectionMember aligned.1 aligned.2) .malformedJournal
    s!"backend cutover-set selection member[{index}] is malformed") (selection.members.zip manifest.members)
  refuse (¬ (selection.members.map (·.remoteProjectId)).Nodup) .malformedJournal
    "backend cutover-set selection remote projects are not unique"
  refuse (backendCutoverSetSelectionSha256 platform selection ≠ selection.checksumSha256) .malformedJournal
    "backend cutover-set selection checksum does not match"
  pure selection

def isRollbackSelectionMember (member : BackendCutoverSetRollbackSelectionMember)
    (expected : BackendCutoverSetMember) : Bool :=
  member.physicalProjectId = expected.physicalProjectId && member.generationId = expected.generationId &&
    isCanonicalUuid member.remoteProjectId && isHash member.epochId && isHash member.attemptId &&
      isHash member.witnessChecksumSha256 && isHash member.installEvidenceSha256

def parseBackendCutoverSetRollbackSelection (selection : BackendCutoverSetRollbackSelection)
    (manifest : BackendCutoverSetManifest) :
    Except PublicationFailure BackendCutoverSetRollbackSelection := do
  refuse (¬ isHash selection.checkpointSha256 ∨ ¬ isHash selection.checksumSha256 ∨
      ¬ isHash selection.identityDigest ∨ ¬ isHash selection.originalSelectionSha256 ∨
      ¬ isPublicationId selection.originalSetId ∨ selection.originalSetId = manifest.setId ∨
      selection.setId ≠ manifest.setId ∨
      selection.manifestSha256 ≠ backendCutoverSetManifestSha256 platform manifest ∨
      selection.publicationId ≠ manifest.setId ∨ selection.members.length ≠ manifest.members.length)
    .malformedJournal "backend cutover-set rollback selection is malformed"
  checkEach (fun index aligned => refuse (¬ isRollbackSelectionMember aligned.1 aligned.2) .malformedJournal
    s!"backend cutover-set rollback selection member[{index}] is malformed")
    (selection.members.zip manifest.members)
  refuse (¬ (selection.members.map (·.remoteProjectId)).Nodup) .malformedJournal
    "backend cutover-set rollback selection remote projects are not unique"
  refuse (backendCutoverSetRollbackSelectionSha256 platform selection ≠ selection.checksumSha256)
    .malformedJournal "backend cutover-set rollback selection checksum does not match"
  pure selection

def parseBackendCutoverSetAnySelection (manifest : BackendCutoverSetManifest) :
    BackendCutoverSetAnySelection → Except PublicationFailure BackendCutoverSetAnySelection
  | .activation selection => .activation <$> parseBackendCutoverSetSelection platform selection manifest
  | .rollback selection => .rollback <$> parseBackendCutoverSetRollbackSelection platform selection manifest

def parseBackendCutoverSet (cutoverSet : BackendCutoverSet) :
    Except PublicationFailure BackendCutoverSet := do
  let manifest ← parseBackendCutoverSetManifest cutoverSet.manifest
  let bindings ← parseCutoverSetBindings platform cutoverSet.bindings manifest
  let selection ← cutoverSet.selection.mapM (parseBackendCutoverSetAnySelection platform manifest)
  pure ⟨manifest, bindings, selection⟩

def isSelectionPhase (phase : MaintenancePhase) : Bool := phase ∈ [.selectionPrepared, .selectionCompleted]

/-- The top-level fields of a journal restate its set. -/
def assertCutoverSetJournal (journal : BackendMaintenanceJournal) (cutoverSet : BackendCutoverSet) :
    Except PublicationFailure Unit :=
  let manifest := cutoverSet.manifest
  refuse (journal.generationId ≠ manifest.setId ∨ journal.publicationId ≠ manifest.setId ∨
      journal.sourceSelectionSha256 ≠ backendCutoverSetManifestSha256 platform manifest ∨
      journal.queueEvidenceSha256 ≠ backendCutoverSetQueueEvidenceSha256 platform cutoverSet.bindings ∨
      journal.roster ≠ backendCutoverSetEntryRoster platform manifest ∨
      isSelectionPhase journal.phase ≠ cutoverSet.selection.isSome ∨
      ∃ selection ∈ cutoverSet.selection, journal.sourceBackend ≠ selection.sourceBackend ∨
        journal.targetBackend ≠ some selection.targetBackend ∨
        journal.selectedGenerationId ≠ some manifest.setId ∨
        journal.terminalEvidenceSha256 ≠ some selection.checksumSha256) .malformedJournal
    "backend cutover-set journal is inconsistent with its set"

def hasMaintenanceFields (journal : BackendMaintenanceJournal) : Bool :=
  isPublicationId journal.publicationId && platform.isDate journal.createdAt &&
    platform.isDate journal.updatedAt && isPublicationId journal.generationId &&
      isHash journal.sourceSelectionSha256 && isHash journal.queueEvidenceSha256 &&
        journal.selectedGenerationId.all isPublicationId && journal.terminalEvidenceSha256.all isHash &&
          journal.abortEvidenceSha256.all isHash

def parseJournalSet (journal : BackendMaintenanceJournal) : Except PublicationFailure Unit :=
  match journal.cutoverSet with
  | none => .ok ()
  | some cutoverSet => parseBackendCutoverSet platform cutoverSet >>= assertCutoverSetJournal platform journal

def parseMaintenanceJournal (journal : BackendMaintenanceJournal) :
    Except PublicationFailure BackendMaintenanceJournal := do
  refuse (¬ isHash journal.checksumSha256 ∨ maintenanceChecksum platform journal ≠ journal.checksumSha256)
    .checksumMismatch "backend maintenance journal checksum does not match"
  refuse (¬ hasMaintenanceFields platform journal) .malformedJournal
    "backend maintenance journal fields are malformed"
  let _ ← parseMaintenanceRoster platform journal.roster
  parseJournalSet platform journal
  refuse (journal.phase ∈ [.maintenanceEntering, .maintenanceHeld] ∧ (journal.targetBackend ≠ none ∨
      journal.selectedGenerationId ≠ none ∨ journal.terminalEvidenceSha256 ≠ none ∨
      journal.abortEvidenceSha256 ≠ none)) .malformedJournal
    "held backend maintenance contains terminal state"
  refuse (isSelectionPhase journal.phase ∧ (journal.targetBackend = none ∨
      journal.selectedGenerationId ≠ some journal.generationId ∨ journal.terminalEvidenceSha256 = none ∨
      journal.abortEvidenceSha256 ≠ none)) .malformedJournal "backend maintenance selection is incomplete"
  refuse (journal.phase = .maintenanceAborted ∧ (journal.targetBackend ≠ none ∨
      journal.selectedGenerationId ≠ none ∨ journal.terminalEvidenceSha256 ≠ none ∨
      journal.abortEvidenceSha256 = none)) .malformedJournal "backend maintenance abort is incomplete"
  pure journal

/-- The journal of a home, which a read gives back. -/
def readMaintenanceJournal (file : Option BackendMaintenanceJournal) :
    Except PublicationFailure (Option BackendMaintenanceJournal) :=
  match file with
  | none => .ok none
  | some journal => do
      refuse (maxJournalBytes < journalBytes journal) .unsafeStorage
        "backend maintenance journal cannot be read: file exceeds the configured size limit"
      some <$> parseMaintenanceJournal platform journal

end Parsing

structure EnterBackendMaintenanceInput where
  publicationId : JsString
  generationId : JsString
  sourceSelectionSha256 : JsString
  queueEvidenceSha256 : JsString
  roster : List BackendMaintenanceRosterEntry
  cutoverSet : Option BackendCutoverSet
  /-- An invalid date is `some none`. -/
  now : Option (Option IsoTimestamp)
  expectedChecksumSha256 : Option JsString
  sourceBackend : Option StorageBackendName

structure RebindBackendMaintenanceInput where
  expectedChecksumSha256 : JsString
  generationId : JsString
  sourceSelectionSha256 : JsString
  queueEvidenceSha256 : JsString
  roster : List BackendMaintenanceRosterEntry

structure PrepareBackendMaintenanceSelectionInput where
  expectedChecksumSha256 : JsString
  generationId : JsString
  targetBackend : StorageBackendName
  terminalEvidenceSha256 : JsString
  cutoverSetSelection : Option BackendCutoverSetAnySelection

structure CompleteBackendMaintenanceSelectionInput where
  expectedChecksumSha256 : JsString
  generationId : JsString
  terminalEvidenceSha256 : JsString

structure AbortBackendMaintenanceInput where
  expectedChecksumSha256 : JsString
  sourceSelectionSha256 : JsString
  abortEvidenceSha256 : JsString

section Calls

variable (platform : MaintenancePlatform)

def cutoverSetTooLarge : PublicationFailure :=
  .journal .invalidInput "cutover-set-too-large: the set journal would exceed the readable journal size"

def assertCutoverSetEntryInput (input : EnterBackendMaintenanceInput) (cutoverSet : BackendCutoverSet) :
    Except PublicationFailure Unit := do
  let manifest := cutoverSet.manifest
  refuse (input.publicationId ≠ manifest.setId ∨ input.generationId ≠ manifest.setId ∨
      input.sourceSelectionSha256 ≠ backendCutoverSetManifestSha256 platform manifest ∨
      input.queueEvidenceSha256 ≠ backendCutoverSetQueueEvidenceSha256 platform cutoverSet.bindings ∨
      input.roster ≠ backendCutoverSetEntryRoster platform manifest) .invalidInput
    "backend cutover-set maintenance input does not match its manifest"
  refuse (∃ aligned ∈ cutoverSet.bindings.zip manifest.members,
      (∃ entry ∈ aligned.1.roster.head?, entry.queueCutoff ≠ none) ∨
      aligned.1.queueEvidenceSha256 ≠ backendMaintenanceQueueEvidenceSentinel platform
        aligned.1.generationId aligned.2.sourceSelectionSha256) .invalidInput
    "backend cutover-set entry bindings are not the unbound sentinel"
  if maxJournalBytes < backendCutoverSetJournalCapacity cutoverSet then .error cutoverSetTooLarge else .ok ()

/-- A call of maintenance over the journal of its home. -/
abbrev Maintenance := Interruptible (Option BackendMaintenanceJournal) PublicationFailure

def assertCutoverSetJournalBytes (journal : BackendMaintenanceJournal) : Except PublicationFailure Unit :=
  if journal.cutoverSet.isSome ∧ maxJournalBytes < journalBytes journal then .error cutoverSetTooLarge
  else .ok ()

/-- A journal is written in the place of the one that it was made from. -/
def admitWrite (file : Option BackendMaintenanceJournal) (journal : BackendMaintenanceJournal)
    (expected : Option JsString) (replaceTerminal : Bool) : Except PublicationFailure Unit := do
  assertCutoverSetJournalBytes journal
  let current ← readMaintenanceJournal platform file
  refuse (expected = none ∧ current ≠ none) .unresolvedPublication
    "backend publication journal already exists"
  refuse (expected ≠ none ∧ (current.map (·.checksumSha256) ≠ expected ∨
      (replaceTerminal ∧ ∃ journal ∈ current, ¬ isTerminalMaintenancePhase journal.phase)))
    .unexpectedState "backend maintenance journal changed before update"

def writeMaintenanceJournal (journal : BackendMaintenanceJournal) (expected : Option JsString)
    (replaceTerminal : Bool) : Maintenance BackendMaintenanceJournal :=
  effect fun file =>
    match admitWrite platform file journal expected replaceTerminal with
    | .ok _ => (.ok journal, some journal)
    | .error failure => (.error failure, file)

/-- An entry that is recorded is held. -/
def holdMaintenance (entering : BackendMaintenanceJournal) (now : IsoTimestamp) :
    Maintenance BackendMaintenanceJournal :=
  writeMaintenanceJournal platform (withMaintenanceChecksum platform
    { entering with phase := .maintenanceHeld, updatedAt := now.1 }) (some entering.checksumSha256) false

def validateEntry (input : EnterBackendMaintenanceInput) :
    Except PublicationFailure (Option BackendCutoverSet) := do
  refuse (¬ isPublicationId input.publicationId ∨ ¬ isPublicationId input.generationId ∨
      ¬ isHash input.sourceSelectionSha256 ∨ ¬ isHash input.queueEvidenceSha256 ∨ input.now = some none)
    .invalidInput "backend maintenance input is malformed"
  let _ ← parseMaintenanceRoster platform input.roster
  let cutoverSet ← input.cutoverSet.mapM (parseBackendCutoverSet platform)
  (cutoverSet.map (assertCutoverSetEntryInput platform input)).getD (.ok ())
  pure cutoverSet

def enteringJournal (input : EnterBackendMaintenanceInput) (cutoverSet : Option BackendCutoverSet)
    (now : IsoTimestamp) : BackendMaintenanceJournal :=
  let entered := ((input.now.getD none).getD now).1
  withMaintenanceChecksum platform
    { publicationId := input.publicationId
      sourceBackend := input.sourceBackend.getD .sqlite
      targetBackend := none
      phase := .maintenanceEntering
      createdAt := entered
      updatedAt := entered
      generationId := input.generationId
      sourceSelectionSha256 := input.sourceSelectionSha256
      queueEvidenceSha256 := input.queueEvidenceSha256
      roster := input.roster
      selectedGenerationId := none
      terminalEvidenceSha256 := none
      abortEvidenceSha256 := none
      cutoverSet := cutoverSet
      checksumSha256 := [] }

/-- The entry of a request is the one that was interrupted. -/
def sameEntry (input : EnterBackendMaintenanceInput) (cutoverSet : Option BackendCutoverSet)
    (maintenance : BackendMaintenanceJournal) : Prop :=
  maintenance.publicationId = input.publicationId ∧ maintenance.generationId = input.generationId ∧
    maintenance.sourceBackend = input.sourceBackend.getD .sqlite ∧
    maintenance.sourceSelectionSha256 = input.sourceSelectionSha256 ∧
    maintenance.queueEvidenceSha256 = input.queueEvidenceSha256 ∧ maintenance.roster = input.roster ∧
    maintenance.cutoverSet = cutoverSet ∧
    (∀ now ∈ input.now, now.map (·.1) = some maintenance.createdAt) ∧
    ∀ expected ∈ input.expectedChecksumSha256, expected = maintenance.checksumSha256

instance (input : EnterBackendMaintenanceInput) (cutoverSet : Option BackendCutoverSet)
    (maintenance : BackendMaintenanceJournal) : Decidable (sameEntry input cutoverSet maintenance) := by
  unfold sameEntry
  infer_instance

def enterMaintenance (input : EnterBackendMaintenanceInput) (now later : IsoTimestamp) :
    Maintenance BackendMaintenanceJournal := do
  let file ← look
  let maintenance ← lift (readMaintenanceJournal platform file)
  let cutoverSet ← lift (validateEntry platform input)
  match maintenance.filter fun journal => journal.phase = .maintenanceEntering with
  | some entering => do
      lift (refuse (¬ sameEntry input cutoverSet entering) .unexpectedState
        "backend maintenance recovery request does not match entering state")
      holdMaintenance platform entering later
  | none => do
      lift (refuse (input.expectedChecksumSha256 ≠ none) .unexpectedState
        "backend maintenance entering checkpoint is no longer current")
      lift (refuse (∃ existing ∈ maintenance, ¬ isTerminalMaintenancePhase existing.phase)
        .unresolvedPublication "backend publication journal already exists")
      let entering ← writeMaintenanceJournal platform (enteringJournal platform input cutoverSet now)
        (maintenance.map (·.checksumSha256)) maintenance.isSome
      holdMaintenance platform entering later

def requireMaintenanceJournal : Maintenance BackendMaintenanceJournal := do
  let file ← look
  let journal ← lift (readMaintenanceJournal platform file)
  lift (match journal with
    | none => fail .publicationEvidenceMissing "backend maintenance journal is missing"
    | some journal => .ok journal)

/-- The view of a hold that belongs to one generation. -/
structure GenerationBinding where
  sourceSelectionSha256 : JsString
  queueEvidenceSha256 : JsString
  roster : List BackendMaintenanceRosterEntry
  checksumSha256 : JsString

def cutoverMemberBindingChecksum (journal : BackendMaintenanceJournal) (cutoverSet : BackendCutoverSet)
    (member : BackendCutoverSetMember) (binding : BackendCutoverSetBinding) : JsString :=
  backendPublicationCanonicalSha256 platform (.object [(js "version", .number 1),
    (js "kind", .string (js "cutover-set-member-binding")),
    (js "publicationId", .string journal.publicationId), (js "setId", .string cutoverSet.manifest.setId),
    (js "manifestSha256", .string (backendCutoverSetManifestSha256 platform cutoverSet.manifest)),
    (js "phase", .string (phaseName journal.phase)), (js "createdAt", .string journal.createdAt),
    (js "sourceBackend", .string (backendName journal.sourceBackend)), (js "member", member.toJson),
    (js "binding", binding.toJson)])

def resolveBackendMaintenanceGenerationBinding (journal : BackendMaintenanceJournal)
    (generationId : JsString) : Option GenerationBinding :=
  match journal.cutoverSet with
  | none =>
      if journal.generationId = generationId then
        some ⟨journal.sourceSelectionSha256, journal.queueEvidenceSha256, journal.roster,
          journal.checksumSha256⟩
      else none
  | some cutoverSet =>
      ((cutoverSet.manifest.members.zip cutoverSet.bindings).find? fun aligned =>
        aligned.1.generationId = generationId).map fun aligned =>
          ⟨aligned.1.sourceSelectionSha256, aligned.2.queueEvidenceSha256, aligned.2.roster,
            cutoverMemberBindingChecksum platform journal cutoverSet aligned.1 aligned.2⟩

/-- One member's binding is rewritten, with the aggregate of the set. -/
def reboundCutoverSetJournal (journal : BackendMaintenanceJournal) (cutoverSet : BackendCutoverSet)
    (input : RebindBackendMaintenanceInput) (now : IsoTimestamp) :
    Except PublicationFailure BackendMaintenanceJournal := do
  let rebound ← parseBackendCutoverSet platform
    { manifest := cutoverSet.manifest
      bindings := cutoverSet.bindings.map fun binding =>
        if binding.generationId = input.generationId then
          ⟨input.generationId, input.queueEvidenceSha256, input.roster⟩
        else binding
      selection := none }
  pure (withMaintenanceChecksum platform
    { journal with
      cutoverSet := some rebound
      queueEvidenceSha256 := backendCutoverSetQueueEvidenceSha256 platform rebound.bindings
      updatedAt := now.1 })

def reboundJournal (journal : BackendMaintenanceJournal) (input : RebindBackendMaintenanceInput)
    (now : IsoTimestamp) : Except PublicationFailure BackendMaintenanceJournal :=
  match journal.cutoverSet with
  | none => .ok (withMaintenanceChecksum platform
      { journal with
        queueEvidenceSha256 := input.queueEvidenceSha256
        roster := input.roster
        updatedAt := now.1 })
  | some cutoverSet => reboundCutoverSetJournal platform journal cutoverSet input now

/-- Whether a capture belongs to the view of its generation. -/
def bindsView (journal : BackendMaintenanceJournal) (input : RebindBackendMaintenanceInput)
    (view : GenerationBinding) : Prop :=
  journal.phase = .maintenanceHeld ∧ view.checksumSha256 = input.expectedChecksumSha256 ∧
    view.sourceSelectionSha256 = input.sourceSelectionSha256 ∧ isHash input.queueEvidenceSha256 ∧
    view.roster.map (·.machineId) = input.roster.map (·.machineId)

instance (journal : BackendMaintenanceJournal) (input : RebindBackendMaintenanceInput)
    (view : GenerationBinding) : Decidable (bindsView journal input view) := by
  unfold bindsView
  infer_instance

def rebindBackendMaintenanceCutoff (input : RebindBackendMaintenanceInput) (now : IsoTimestamp) :
    Maintenance BackendMaintenanceJournal := do
  let journal ← requireMaintenanceJournal platform
  let _ ← lift (parseMaintenanceRoster platform input.roster)
  match (resolveBackendMaintenanceGenerationBinding platform journal input.generationId).filter
      fun view => bindsView journal input view with
  | none => fault (.journal .unexpectedState "backend maintenance capture does not match held state")
  | some view =>
      if view.queueEvidenceSha256 = input.queueEvidenceSha256 ∧ view.roster = input.roster then pure journal
      else do
        let bound ← lift (reboundJournal platform journal input now)
        writeMaintenanceJournal platform bound (some journal.checksumSha256) false

def failureMessage : PublicationFailure → String
  | .journal _ message => message
  | .missing | .collision | .remote => ""

/-- The tuple of a selection against the set of a journal. -/
def prepareSelection (journal : BackendMaintenanceJournal) (input : PrepareBackendMaintenanceSelectionInput) :
    Except PublicationFailure (Option BackendCutoverSet) :=
  match journal.cutoverSet, input.cutoverSetSelection with
  | some cutoverSet, some tuple =>
      match parseBackendCutoverSetAnySelection platform cutoverSet.manifest tuple with
      | .error failure => fail .invalidInput
          ("backend cutover-set selection tuple is malformed: " ++ failureMessage failure)
      | .ok selection => do
          refuse (input.generationId ≠ selection.setId ∨ input.targetBackend ≠ selection.targetBackend ∨
              input.terminalEvidenceSha256 ≠ selection.checksumSha256 ∨
              journal.sourceBackend ≠ selection.sourceBackend) .invalidInput
            "backend cutover-set selection input contradicts its tuple"
          pure (some { cutoverSet with selection := some selection })
  | cutoverSet, _ => pure cutoverSet

def prepareMaintenanceSelection (input : PrepareBackendMaintenanceSelectionInput) (now : IsoTimestamp) :
    Maintenance BackendMaintenanceJournal := do
  let journal ← requireMaintenanceJournal platform
  lift (refuse (journal.cutoverSet ≠ none ∧ input.cutoverSetSelection = none) .unexpectedState
    "backend cutover-set selection is not supported yet without its complete selection tuple")
  lift (refuse (journal.cutoverSet = none ∧ input.cutoverSetSelection ≠ none) .invalidInput
    "backend cutover-set selection tuple was supplied for a single-generation journal")
  lift (refuse (¬ isHash input.expectedChecksumSha256 ∨ ¬ isHash input.terminalEvidenceSha256 ∨
    ¬ isPublicationId input.generationId) .invalidInput "backend maintenance selection input is malformed")
  let cutoverSet ← lift (prepareSelection platform journal input)
  lift (refuse (journal.phase ≠ .maintenanceHeld ∨ journal.checksumSha256 ≠ input.expectedChecksumSha256 ∨
      journal.generationId ≠ input.generationId) .unexpectedState
    "backend maintenance selection does not match held state")
  writeMaintenanceJournal platform (withMaintenanceChecksum platform
    { journal with
      phase := .selectionPrepared
      targetBackend := some input.targetBackend
      selectedGenerationId := some input.generationId
      terminalEvidenceSha256 := some input.terminalEvidenceSha256
      updatedAt := now.1
      cutoverSet := cutoverSet }) (some journal.checksumSha256) false

def completeMaintenanceSelection (input : CompleteBackendMaintenanceSelectionInput) (now : IsoTimestamp) :
    Maintenance BackendMaintenanceJournal := do
  let journal ← requireMaintenanceJournal platform
  lift (refuse (¬ isHash input.expectedChecksumSha256 ∨ ¬ isHash input.terminalEvidenceSha256 ∨
    ¬ isPublicationId input.generationId) .invalidInput "backend maintenance completion input is malformed")
  lift (refuse (journal.phase ≠ .selectionPrepared ∨
      journal.checksumSha256 ≠ input.expectedChecksumSha256 ∨ journal.generationId ≠ input.generationId ∨
      journal.selectedGenerationId ≠ some input.generationId ∨
      journal.terminalEvidenceSha256 ≠ some input.terminalEvidenceSha256) .unexpectedState
    "backend maintenance completion does not match prepared selection")
  writeMaintenanceJournal platform (withMaintenanceChecksum platform
    { journal with phase := .selectionCompleted, updatedAt := now.1 }) (some journal.checksumSha256) false

def abortMaintenance (input : AbortBackendMaintenanceInput) (now : IsoTimestamp) :
    Maintenance BackendMaintenanceJournal := do
  let journal ← requireMaintenanceJournal platform
  lift (refuse (¬ isHash input.expectedChecksumSha256 ∨ ¬ isHash input.sourceSelectionSha256 ∨
    ¬ isHash input.abortEvidenceSha256) .invalidInput "backend maintenance abort input is malformed")
  lift (refuse ((journal.phase ≠ .maintenanceHeld ∧ journal.phase ≠ .maintenanceEntering) ∨
      journal.checksumSha256 ≠ input.expectedChecksumSha256 ∨
      journal.sourceSelectionSha256 ≠ input.sourceSelectionSha256) .unexpectedState
    "backend maintenance abort does not match held state")
  writeMaintenanceJournal platform (withMaintenanceChecksum platform
    { journal with
      phase := .maintenanceAborted
      abortEvidenceSha256 := some input.abortEvidenceSha256
      updatedAt := now.1 }) (some journal.checksumSha256) false

end Calls

inductive MaintenanceRequest where
  | enter (input : EnterBackendMaintenanceInput) (now later : IsoTimestamp)
  | rebind (input : RebindBackendMaintenanceInput) (now : IsoTimestamp)
  | prepare (input : PrepareBackendMaintenanceSelectionInput) (now : IsoTimestamp)
  | complete (input : CompleteBackendMaintenanceSelectionInput) (now : IsoTimestamp)
  | abort (input : AbortBackendMaintenanceInput) (now : IsoTimestamp)

def MaintenanceRequest.run (platform : MaintenancePlatform) :
    MaintenanceRequest → Maintenance BackendMaintenanceJournal
  | .enter input now later => enterMaintenance platform input now later
  | .rebind input now => rebindBackendMaintenanceCutoff platform input now
  | .prepare input now => prepareMaintenanceSelection platform input now
  | .complete input now => completeMaintenanceSelection platform input now
  | .abort input now => abortMaintenance platform input now

/-- The runs of a home without a journal, whose calls may be interrupted. -/
def maintenanceSystem (platform : MaintenancePlatform) :
    StepSystem (Option BackendMaintenanceJournal) (MaintenanceRequest × Option Nat) where
  start file := file = none
  step before request after := after = (request.1.run platform before request.2).2.1

end Lcm.Cutover
