import Lcm.Library.StepSystem
import Lcm.Publication.Coordinator

namespace Lcm.Publication
open Text Interruptible

variable {Digest Remote : Type} [DecidableEq Digest]

/-- The hooks of a driver that acquire a guard. -/
structure AcquireHooks (Digest Remote : Type) where
  acquire : RemoteHook Remote (RemoteContext Digest) (FenceRecord Digest)
  read : RemoteHook Remote (RemoteContext Digest × RemoteOperation) (Option (FenceRecord Digest))

/-- The hooks of a driver that release a guard. -/
structure ReleaseHooks (Digest Remote : Type) where
  acquire : Option (RemoteHook Remote (RemoteContext Digest) (FenceRecord Digest))
  read : RemoteHook Remote (RemoteContext Digest × RemoteOperation) (Option (FenceRecord Digest))
  release : RemoteHook Remote (RemoteContext Digest × FenceRecord Digest) Unit
  reconcile : Option (RemoteHook Remote (RemoteContext Digest) (Option (FenceRecord Digest)))

def PublicationDriver.acquireHooks (driver : PublicationDriver Digest Remote) :
    Option (AcquireHooks Digest Remote) := do
  let acquire ← driver.acquireRemoteGuard
  let read ← driver.readRemoteGuard
  some ⟨acquire, read⟩

def PublicationDriver.releaseHooks (driver : PublicationDriver Digest Remote) :
    Option (ReleaseHooks Digest Remote) := do
  let release ← driver.releaseRemoteGuard
  let read ← driver.readRemoteGuard
  some ⟨driver.acquireRemoteGuard, read, release, driver.readRemoteGuardForReleaseReconciliation⟩

section Acquire

variable (hooks : AcquireHooks Digest Remote)

/-- The fence of a project, acquired unless it is active already. -/
def acquiredFence (context : RemoteContext Digest) :
    Coordinator Digest Remote (Option (FenceRecord Digest)) := do
  let fence ← callRemote hooks.read (context, .acquire)
  if activeFence fence then pure fence
  else do
    let _ ← callRemote hooks.acquire context
    callRemote hooks.read (context, .acquire)

def acquireProject (journal : PublicationJournal Digest) (index : Nat) :
    Coordinator Digest Remote (PublicationJournal Digest) :=
  match journal.projects[index]? with
  | none => pure journal
  | some project => do
      let found ← acquiredFence hooks ⟨journal, project⟩
      match found.filter fun fence => activeFence (some fence) with
      | none => lift (fail .unexpectedState "remote guard is not active after acquisition")
      | some fence => do
          lift (assertFence fence journal project)
          transition journal .acquiring fun journal => journal.setFence index fence

end Acquire

def acquireAll (driver : PublicationDriver Digest Remote) (journal : PublicationJournal Digest) :
    Coordinator Digest Remote (PublicationJournal Digest) :=
  match driver.acquireHooks with
  | none => do
      lift (refuse (journal.projects ≠ []) .unexpectedState
        "remote guard acquisition requires a complete remote guard provider")
      transition journal .guarded id
  | some hooks => do
      let current ← (List.range journal.projects.length).foldlM (acquireProject hooks) journal
      transition current .guarded id

section Release

variable (hooks : ReleaseHooks Digest Remote) (phase : PublicationPhase)

def readReleaseEvidence (context : RemoteContext Digest) :
    Coordinator Digest Remote (Option (FenceRecord Digest)) :=
  match hooks.reconcile with
  | some reconcile => callRemote reconcile context
  | none => callRemote hooks.read (context, .release)

/-- Whether the evidence shows that a later publication took the fence after its release. -/
def isSuperseded (persisted authoritative : FenceRecord Digest) (project : ProjectRecord Digest) : Bool :=
  hooks.reconcile.isSome && supersededByReleasedSuccessor persisted authoritative project

def recordSupersededRelease (journal : PublicationJournal Digest) (index : Nat)
    (persisted successor : FenceRecord Digest) :
    Coordinator Digest Remote (PublicationJournal Digest) :=
  if persisted.releasedAt.isSome then pure journal
  else transition journal phase fun journal => journal.setFence index
    { persisted with releasedAt := some successor.acquiredAt }

def assertReleaseFence (persisted authoritative : FenceRecord Digest)
    (journal : PublicationJournal Digest) (project : ProjectRecord Digest) :
    Except PublicationFailure Unit := do
  assertFence authoritative journal project
  refuse (¬ sameFenceIdentity persisted authoritative) .unexpectedState
    "remote release fence identity changed"
  refuse (bigInt authoritative.fencingToken < bigInt persisted.fencingToken) .unexpectedState
    "remote release fencing token regressed"

/-- An active successor of the fence is recorded before it is released. -/
def adoptSuccessor (journal : PublicationJournal Digest) (index : Nat)
    (persisted authoritative : FenceRecord Digest) :
    Coordinator Digest Remote (PublicationJournal Digest × FenceRecord Digest) :=
  if bigInt persisted.fencingToken < bigInt authoritative.fencingToken then do
    lift (refuse (authoritative.releasedAt.isSome ∨ authoritative.databaseExpired) .unexpectedState
      "remote release fence successor is not active")
    let next ← transition journal phase fun journal => journal.setFence index authoritative
    pure (next, authoritative)
  else pure (journal, persisted)

/-- An expired fence is acquired again before it is released. -/
def reacquire (journal : PublicationJournal Digest) (index : Nat) (project : ProjectRecord Digest)
    (persisted authoritative : FenceRecord Digest) :
    Coordinator Digest Remote (PublicationJournal Digest × FenceRecord Digest × FenceRecord Digest) :=
  if authoritative.databaseExpired then
    match hooks.acquire with
    | none => lift (fail .unexpectedState "expired remote release fence cannot be reacquired")
    | some acquire => do
        let _ ← callRemote acquire ⟨journal, project⟩
        let found ← readReleaseEvidence hooks ⟨journal, project⟩
        match found.filter fun fence => fence.releasedAt.isNone && !fence.databaseExpired with
        | none => lift (fail .unexpectedState "remote release successor is not active")
        | some successor => do
            lift (assertFence successor journal project)
            lift (refuse (¬ sameFenceIdentity persisted successor ∨
                bigInt successor.fencingToken ≤ bigInt persisted.fencingToken) .unexpectedState
              "remote release reacquisition did not advance the fence")
            let next ← transition journal phase fun journal => journal.setFence index successor
            pure (next, successor, successor)
  else pure (journal, persisted, authoritative)

def confirmRelease (journal : PublicationJournal Digest) (index : Nat)
    (persisted authoritative : FenceRecord Digest) :
    Coordinator Digest Remote (PublicationJournal Digest) := do
  lift (refuse (¬ sameFenceIdentity persisted authoritative ∨
      bigInt authoritative.fencingToken < bigInt persisted.fencingToken) .unexpectedState
    "remote release fence generation changed")
  transition journal phase fun journal => journal.setFence index authoritative

/-- The release of a fence is read back before it is recorded. -/
def releaseFence (journal : PublicationJournal Digest) (index : Nat) (project : ProjectRecord Digest)
    (persisted authoritative : FenceRecord Digest) :
    Coordinator Digest Remote (PublicationJournal Digest) := do
  let (journal, persisted, authoritative) ← reacquire hooks phase journal index project persisted authoritative
  let project := { project with fence := some persisted }
  let _ ← callRelease hooks.release (⟨journal, project⟩, authoritative)
  let found ← readReleaseEvidence hooks ⟨journal, project⟩
  match found with
  | none => lift (fail .unexpectedState "remote release lacks authoritative readback")
  | some evidence =>
      if isSuperseded hooks persisted evidence project then
        recordSupersededRelease phase journal index persisted evidence
      else do
        lift (refuse evidence.releasedAt.isNone .unexpectedState
          "remote release lacks authoritative readback")
        lift (assertFence evidence journal project)
        confirmRelease phase journal index persisted evidence

def releaseEvidence (journal : PublicationJournal Digest) (index : Nat) (project : ProjectRecord Digest)
    (persisted authoritative : FenceRecord Digest) :
    Coordinator Digest Remote (PublicationJournal Digest) :=
  if isSuperseded hooks persisted authoritative project then
    recordSupersededRelease phase journal index persisted authoritative
  else do
    lift (assertReleaseFence persisted authoritative journal project)
    let (journal, persisted) ← adoptSuccessor phase journal index persisted authoritative
    if authoritative.releasedAt.isNone then
      releaseFence hooks phase journal index { project with fence := some persisted } persisted authoritative
    else confirmRelease phase journal index persisted authoritative

def releaseProject (journal : PublicationJournal Digest) (index : Nat) :
    Coordinator Digest Remote (PublicationJournal Digest) :=
  match journal.projects[index]? with
  | none => pure journal
  | some project =>
      match project.fence with
      | none => pure journal
      | some persisted => do
          let found ← readReleaseEvidence hooks ⟨journal, project⟩
          match found with
          | none => lift (fail .unexpectedState "remote release evidence is missing")
          | some authoritative => releaseEvidence hooks phase journal index project persisted authoritative

end Release

/-- Every recorded fence is released; an abort stays in its phase and a publication is released. -/
def releaseAll (driver : PublicationDriver Digest Remote) (aborting : Bool)
    (journal : PublicationJournal Digest) : Coordinator Digest Remote (PublicationJournal Digest) := do
  let hooks := driver.releaseHooks
  lift (refuse (hooks.isNone ∧ journal.projects.any fun project => project.fence.isSome) .unexpectedState
    "remote guard release requires a complete remote guard provider")
  let current ← if aborting then transition journal .abortReleasing id else pure journal
  match hooks with
  | none => if aborting then pure current else transition current .released id
  | some hooks => do
      let last ← (List.range current.projects.length).foldlM
        (releaseProject hooks (if aborting then .abortReleasing else .releasing)) current
      transition last (if aborting then .abortReleasing else .released) id

section Calls

variable (platform : PublicationPlatform Digest) (driver : PublicationDriver Digest Remote)

def removeMaterial (publicationId : JsString) (home : PublicationHome Digest Remote) :
    PublicationHome Digest Remote :=
  { home with materials := Function.update home.materials publicationId none }

/-- The material is removed, unless a crash came between its removal and the terminal journal. -/
def cleanupMaterial (journal : PublicationJournal Digest) : Coordinator Digest Remote Unit := do
  let home ← look
  match authenticateMaterial platform home journal with
  | .error failure =>
      if journal.phase = .abortReleasing ∧ failure = .missing then pure () else fault failure
  | .ok _ =>
      match driver.cleanupAbortedMaterial with
      | some cleanup => effect fun home =>
          let ((answer, remote), removed) := cleanup journal home.remote
          let cleaned := { home with remote }
          (answer.elim (.error .remote) .ok,
            if removed then removeMaterial journal.publicationId cleaned else cleaned)
      | none => change (removeMaterial journal.publicationId)

def sealMaterial (publicationId : JsString) (material : RecoveryMaterial) :
    Coordinator Digest Remote (RecoveryReference Digest) := do
  let reference := recoveryReference platform publicationId material
  lift (refuse (maxMaterialBytes < reference.byteLength) .invalidInput
    "backend publication recovery material is too large")
  effect fun home =>
    if (home.materials publicationId).isSome then (.error .collision, home)
    else (.ok reference, { home with
      materials := Function.update home.materials publicationId (some material) })

/-- A terminal journal makes way for the next one. -/
def archiveExisting (existing : Option (StoredJournal Digest)) : Coordinator Digest Remote Unit := do
  lift (refuse (existing.any fun journal => !journal.isTerminal) .unresolvedPublication
    "backend publication journal already exists")
  match existing with
  | none => pure ()
  | some journal => archiveTerminalJournal journal

def prepare (input : PreparePublication Digest) :
    Coordinator Digest Remote (PublicationJournal Digest) := do
  let validated ← lift (validateInput platform input)
  lift (refuse (validated.projects.isEmpty = false ∧ ¬ driver.hasCompleteGuardProvider) .invalidInput
    "backend publication with projects requires a complete remote guard provider")
  let home ← look
  archiveExisting home.journal
  let observed ← observe platform
  let preparing := prospectiveJournal platform validated observed
    (validated.material.target.map (recoveryFileWitness platform))
  writeJournal home.journal (.publication preparing) fun home =>
    { home with edited := false, released := false }
  let reference ← sealMaterial platform validated.publicationId validated.material
  let sealed ← look
  let _ ← lift (authenticateMaterial platform sealed { preparing with recoveryReference := some reference })
  transition preparing .prepared fun journal => { journal with recoveryReference := some reference }

/-- A recovered journal takes the reference of the material that it finds. -/
def recoverMaterial (journal : PublicationJournal Digest) :
    Coordinator Digest Remote (PublicationJournal Digest) := do
  let (reference, _) ← materialContext platform journal
  transition journal .prepared fun journal => { journal with recoveryReference := some reference }

def inPhase (phases : List PublicationPhase)
    (advance : PublicationJournal Digest → Coordinator Digest Remote (PublicationJournal Digest))
    (journal : PublicationJournal Digest) : Coordinator Digest Remote (PublicationJournal Digest) :=
  if journal.phase ∈ phases then advance journal else pure journal

def finishAbort (journal : PublicationJournal Digest) :
    Coordinator Digest Remote (PublicationJournal Digest) := do
  cleanupMaterial platform driver journal
  transition journal .aborted id

def startAbort (journal : PublicationJournal Digest) :
    Coordinator Digest Remote (PublicationJournal Digest) :=
  if journal.phase ∈ [.aborting, .configRestoring, .mapRestoring] then pure journal
  else transition journal .aborting id

/-- The abort of a journal with its material, from the phase that it is in. -/
def restoreAll (journal : PublicationJournal Digest) :
    Coordinator Digest Remote (PublicationJournal Digest) := do
  let journal ← startAbort journal
  let journal ← inPhase [.aborting, .configRestoring] (restoreConfig platform driver) journal
  let journal ← restoreMap platform driver journal
  let journal ← releaseAll driver true journal
  finishAbort platform driver journal

/-- A journal without a reference is aborted at once when its material is missing. -/
def abortUnsealed (journal : PublicationJournal Digest) :
    Coordinator Digest Remote (PublicationJournal Digest) := do
  let home ← look
  match authenticateMaterial platform home journal with
  | .ok (reference, _) => do
      let prepared ← transition journal .prepared fun journal => { journal with
        recoveryReference := some reference }
      restoreAll platform driver prepared
  | .error failure => if failure = .missing then transition journal .aborted id else fault failure

def abortJournal (journal : PublicationJournal Digest) :
    Coordinator Digest Remote (PublicationJournal Digest) :=
  if journal.phase.isTerminal then pure journal
  else if journal.phase = .abortReleasing then do
    let journal ← releaseAll driver true journal
    finishAbort platform driver journal
  else if journal.phase = .preparing ∧ journal.recoveryReference = none then
    abortUnsealed platform driver journal
  else restoreAll platform driver journal

def abort : Coordinator Digest Remote (PublicationJournal Digest) := do
  let journal ← readJournal
  abortJournal platform driver journal

def finalize (journal : PublicationJournal Digest) :
    Coordinator Digest Remote (PublicationJournal Digest) := do
  let _ ← materialContext platform journal
  match driver.retainCompletedMaterial with
  | some retain => do
      callRemote retain journal
      transition journal .completed id
  | none => transition journal .completed id

/-- A publication goes on from the phase that it is in. -/
def advanceJournal (journal : PublicationJournal Digest) :
    Coordinator Digest Remote (PublicationJournal Digest) := do
  let journal ← inPhase [.preparing] (recoverMaterial platform) journal
  let journal ← inPhase [.prepared] (transition · .acquiring id) journal
  let journal ← inPhase [.acquiring] (acquireAll driver) journal
  lift (refuse (journal.phase ∈ guardRecordedForwardPhases ∧
      journal.projects.any fun project => project.fence.isNone) .unexpectedState
    "backend publication journal lacks a recorded remote guard fence")
  let journal ← inPhase [.guarded, .mapPublishing] (publishMap platform driver) journal
  let journal ← inPhase [.mapPublished, .configPublishing] (publishConfig platform driver) journal
  let journal ← inPhase [.configPublished] (transition · .releasing id) journal
  let journal ← inPhase [.releasing] (releaseAll driver false) journal
  finalize platform driver journal

def resumeJournal (journal : PublicationJournal Digest) :
    Coordinator Digest Remote (PublicationJournal Digest) :=
  if journal.phase.isTerminal then pure journal
  else if journal.phase.isAborting then abortJournal platform driver journal
  else advanceJournal platform driver journal

def resume : Coordinator Digest Remote (PublicationJournal Digest) := do
  let journal ← readJournal
  resumeJournal platform driver journal

inductive RecoveryDisposition where
  | resume
  | abort
  deriving DecidableEq

def recoverPending (disposition : RecoveryDisposition) :
    Coordinator Digest Remote (Option (PublicationJournal Digest)) := do
  let home ← look
  if home.journal.isNone then pure none
  else match disposition with
    | .resume => some <$> resume platform driver
    | .abort => some <$> abort platform driver

def isMaintenanceRoster (roster : List (MaintenanceRosterEntry Digest)) : Bool :=
  !roster.isEmpty && (roster.map (·.machineId)).Nodup &&
    (roster.all fun entry => isUuid entry.machineId &&
      hasVersion [49, 50, 51, 52, 53, 54, 55, 56] entry.machineId &&
        entry.queueCutoff.all fun cutoff => isDigits cutoff && cutoff.length == 19 &&
          bigInt cutoff ≤ 9223372036854775807) &&
      roster.mergeSort (fun left right => platform.localeLe left.machineId right.machineId) = roster

def holdMaintenance (entering : MaintenanceJournal Digest) :
    Coordinator Digest Remote (MaintenanceJournal Digest) := do
  let held := { entering with phase := .maintenanceHeld }
  writeJournal (some (.maintenance entering)) (.maintenance held) id
  pure held

/-- Maintenance is entered over a terminal journal; an entry that was interrupted is taken up by the same
request. -/
def enterMaintenance (scope : MaintenanceScope Digest) (expected : Option (MaintenanceJournal Digest)) :
    Coordinator Digest Remote (MaintenanceJournal Digest) := do
  let home ← look
  lift (refuse (¬ isPublicationId scope.publicationId ∨ ¬ isPublicationId scope.generationId)
    .invalidInput "backend maintenance input is malformed")
  lift (refuse (¬ isMaintenanceRoster platform scope.roster) .malformedJournal
    "backend maintenance roster is malformed")
  lift (refuse (scope.cutoverSet.isSome ∧ ¬ platform.isCutoverSetEntry scope) .invalidInput
    "backend cutover-set maintenance input does not match its manifest")
  match home.journal with
  | some (.maintenance ⟨held, .maintenanceEntering⟩) => do
      lift (refuse (held ≠ scope ∨ expected.any (· ≠ ⟨held, .maintenanceEntering⟩)) .unexpectedState
        "backend maintenance recovery request does not match entering state")
      holdMaintenance ⟨held, .maintenanceEntering⟩
  | existing => do
      lift (refuse expected.isSome .unexpectedState
        "backend maintenance entering checkpoint is no longer current")
      archiveExisting existing
      writeJournal existing (.maintenance ⟨scope, .maintenanceEntering⟩) id
      holdMaintenance ⟨scope, .maintenanceEntering⟩

end Calls

inductive PublicationRequest (Digest : Type) where
  | prepare (input : PreparePublication Digest)
  | resume
  | abort
  | recoverPending (disposition : RecoveryDisposition)

def PublicationRequest.run (platform : PublicationPlatform Digest)
    (driver : PublicationDriver Digest Remote) : PublicationRequest Digest →
      Coordinator Digest Remote (Option (PublicationJournal Digest))
  | .prepare input => some <$> Publication.prepare platform driver input
  | .resume => some <$> Publication.resume platform driver
  | .abort => some <$> Publication.abort platform driver
  | .recoverPending disposition => Publication.recoverPending platform driver disposition

/-- What happens to a home: a call, which may crash before one of its effects, or a change of its two
files by somebody else. -/
inductive HomeAction (Digest Remote : Type) where
  | call (driver : PublicationDriver Digest Remote) (request : PublicationRequest Digest)
      (budget : Option Nat)
  | edit (files : LocalState RecoveryFile)

def HomeAction.apply (platform : PublicationPlatform Digest) (home : PublicationHome Digest Remote) :
    HomeAction Digest Remote → PublicationHome Digest Remote
  | .call driver request budget => (request.run platform driver home budget).2.1
  | .edit files => { home with files, edited := true }

/-- The runs of a home that starts without a pending publication. -/
def publicationSystem (platform : PublicationPlatform Digest) :
    StepSystem (PublicationHome Digest Remote) (HomeAction Digest Remote) where
  start home := home.mutations = [] ∧ home.edited = false ∧
    ∀ journal, home.journal = some journal → ∃ maintenance,
      journal = .maintenance maintenance ∧ isTerminalMaintenancePhase maintenance.phase = true
  step home action after := after = action.apply platform home

end Lcm.Publication
