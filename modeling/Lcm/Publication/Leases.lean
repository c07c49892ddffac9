import Lcm.Publication.Calls

namespace Lcm.Publication
open Text

variable {Digest : Type} [DecidableEq Digest]

/-- Who holds a lease, and for what. -/
structure LeaseIdentity (Digest : Type) where
  machineId : JsString
  publicationId : JsString
  targetBackend : StorageBackendName
  evidenceSha256 : Digest
  deriving DecidableEq

/-- The publication row of a project, which is kept under the project. -/
structure LeaseRow (Digest : Type) where
  identity : LeaseIdentity Digest
  fencingToken : Nat
  acquiredAt : JsString
  renewedAt : JsString
  expiresAt : JsString
  releasedAt : Option JsString
  expired : Bool
  deriving DecidableEq

/-- What happens to the leases apart from the calls of one coordinator. -/
inductive LeaseEvent (Digest : Type) where
  | tick (now expiry : JsString)
  | expire (projectId : JsString)
  | acquire (projectId : JsString) (identity : LeaseIdentity Digest) (expected : Option Nat)
  | renew (projectId : JsString) (identity : LeaseIdentity Digest) (fencingToken : Nat)
  | release (projectId : JsString) (identity : LeaseIdentity Digest) (fencingToken : Nat)

/-- Whether a statement reaches the server, and its answer comes back. -/
inductive StatementFate where
  | answered
  | refused
  | unanswered

/-- The server of the leases. What happens before each statement of the coordinator, and the fate of the
statement, is scheduled. For proofs it records the rows that the coordinator changed. -/
structure LeaseServer (Digest : Type) where
  rows : JsString → Option (LeaseRow Digest)
  lastToken : Nat
  now : JsString
  expiry : JsString
  schedule : List (List (LeaseEvent Digest) × StatementFate)
  changed : List (LeaseIdentity Digest × LeaseRow Digest)

namespace LeaseServer

def setRow (server : LeaseServer Digest) (projectId : JsString) (row : LeaseRow Digest) :
    LeaseServer Digest :=
  { server with rows := Function.update server.rows projectId (some row) }

/-- A row gets a new holder and a greater token. -/
def bindRow (server : LeaseServer Digest) (projectId : JsString) (identity : LeaseIdentity Digest) :
    Option (LeaseRow Digest) × LeaseServer Digest :=
  let row : LeaseRow Digest :=
    ⟨identity, server.lastToken + 1, server.now, server.now, server.expiry, none, false⟩
  (some row, { server.setRow projectId row with lastToken := server.lastToken + 1 })

/-- Only a released row, or one of its own generation that has expired, is bound anew. -/
def acquire (projectId : JsString) (identity : LeaseIdentity Digest) (expected : Option Nat)
    (server : LeaseServer Digest) : Option (LeaseRow Digest) × LeaseServer Digest :=
  match server.rows projectId with
  | none => if expected.isSome then (none, server) else server.bindRow projectId identity
  | some row =>
      if row.releasedAt.isSome then
        if expected.isSome then (none, server) else server.bindRow projectId identity
      else if row.identity ≠ identity then (none, server)
      else if expected.any (· ≠ row.fencingToken) then (none, server)
      else if !row.expired then (some row, server)
      else if expected.isNone then (none, server)
      else server.bindRow projectId identity

/-- The holder of an active row changes it. -/
def mutateExact (projectId : JsString) (identity : LeaseIdentity Digest) (fencingToken : Nat)
    (change : LeaseRow Digest → LeaseRow Digest) (server : LeaseServer Digest) :
    Option (LeaseRow Digest) × LeaseServer Digest :=
  match server.rows projectId with
  | none => (none, server)
  | some row =>
      if row.identity = identity ∧ row.fencingToken = fencingToken ∧ row.releasedAt = none ∧
          row.expired = false then (some (change row), server.setRow projectId (change row))
      else (none, server)

def renew (projectId : JsString) (identity : LeaseIdentity Digest) (fencingToken : Nat)
    (server : LeaseServer Digest) : Option (LeaseRow Digest) × LeaseServer Digest :=
  server.mutateExact projectId identity fencingToken fun row =>
    { row with renewedAt := server.now, expiresAt := server.expiry }

/-- A release that finds its own row released already succeeds too. -/
def release (projectId : JsString) (identity : LeaseIdentity Digest) (fencingToken : Nat)
    (server : LeaseServer Digest) : Option (LeaseRow Digest) × LeaseServer Digest :=
  match server.mutateExact projectId identity fencingToken fun row =>
      { row with releasedAt := some server.now } with
  | (some row, later) => (some row, later)
  | (none, later) => ((later.rows projectId).filter fun row => row.identity = identity &&
      row.fencingToken = fencingToken && row.releasedAt.isSome, later)

def apply (server : LeaseServer Digest) : LeaseEvent Digest → LeaseServer Digest
  | .tick now expiry => { server with now, expiry }
  | .expire projectId => { server with
      rows := Function.update server.rows projectId ((server.rows projectId).map fun row =>
        { row with expired := true }) }
  | .acquire projectId identity expected => (server.acquire projectId identity expected).2
  | .renew projectId identity fencingToken => (server.renew projectId identity fencingToken).2
  | .release projectId identity fencingToken => (server.release projectId identity fencingToken).2

/-- A change by the coordinator is recorded with the row that was there before. -/
def note (projectId : JsString) (identity : LeaseIdentity Digest) (before later : LeaseServer Digest) :
    LeaseServer Digest :=
  { later with changed := ((before.rows projectId).filter fun row =>
      later.rows projectId ≠ some row).toList.map (identity, ·) ++ later.changed }

end LeaseServer

/-- A call of the coordinator that makes statements; it fails when one of them does. -/
abbrev GuardCall (Digest : Type) := OptionT (StateM (LeaseServer Digest))

/-- Before a statement the others go on; then it may be lost on its way there or back. -/
def statement {Value : Type} (act : LeaseServer Digest → Option Value × LeaseServer Digest) :
    GuardCall Digest Value := OptionT.mk fun server =>
  match server.schedule with
  | [] => act server
  | (events, fate) :: schedule =>
      let server := events.foldl LeaseServer.apply { server with schedule }
      match fate with
      | .answered => act server
      | .refused => (none, server)
      | .unanswered => (none, (act server).2)

section Provider

variable (machineId : JsString)

def toFenceRecord (projectId : JsString) (row : LeaseRow Digest) : FenceRecord Digest :=
  ⟨projectId, row.identity.machineId, row.identity.publicationId, row.identity.targetBackend,
    row.identity.evidenceSha256, decimal row.fencingToken, row.acquiredAt, row.renewedAt, row.expiresAt,
    row.releasedAt, row.expired⟩

/-- The identity under which the coordinator acts for a project. -/
def identityOf (context : RemoteContext Digest) : LeaseIdentity Digest :=
  ⟨machineId, context.journal.publicationId, context.journal.targetBackend, context.project.evidenceSha256⟩

def readRow (context : RemoteContext Digest) : GuardCall Digest (Option (LeaseRow Digest)) :=
  statement fun server => (some (server.rows context.project.remoteProjectId), server)

/-- Whether a row names another target backend or other evidence. -/
def isFenceMismatch (context : RemoteContext Digest) (row : LeaseRow Digest) : Bool :=
  row.identity.targetBackend ≠ context.journal.targetBackend ||
    row.identity.evidenceSha256 ≠ context.project.evidenceSha256

/-- An active row of this publication that another machine holds is refused. -/
def isForeignMachine (context : RemoteContext Digest) (row : LeaseRow Digest) : Bool :=
  row.identity.machineId ≠ machineId && row.releasedAt.isNone && !row.expired &&
    row.identity.publicationId = context.journal.publicationId && !isFenceMismatch context row

def refuseForeignMachine (context : RemoteContext Digest) (row : Option (LeaseRow Digest)) :
    GuardCall Digest (Option (LeaseRow Digest)) :=
  if row.any (isForeignMachine machineId context) then failure else pure row

def readForAcquire (context : RemoteContext Digest) : GuardCall Digest (Option (LeaseRow Digest)) := do
  let row ← readRow context
  pure (row.filter fun row => !isFenceMismatch context row)

def readForRelease (context : RemoteContext Digest) : GuardCall Digest (Option (LeaseRow Digest)) := do
  let row ← readRow context
  if row.any (isFenceMismatch context) then failure else pure row

def fenceOf (context : RemoteContext Digest) (row : Option (LeaseRow Digest)) :
    Option (FenceRecord Digest) :=
  row.map (toFenceRecord context.project.remoteProjectId)

def readRemoteGuard (input : RemoteContext Digest × RemoteOperation) :
    GuardCall Digest (Option (FenceRecord Digest)) := do
  let row ← match input.2 with
    | .acquire => readForAcquire input.1
    | .release => readForRelease input.1
  let row ← refuseForeignMachine machineId input.1 row
  pure (fenceOf input.1 row)

/-- An expired row of this publication is taken over with its own token. -/
def takeoverToken (context : RemoteContext Digest) (row : Option (LeaseRow Digest)) : Option Nat :=
  (row.filter fun row => row.releasedAt.isNone && row.expired &&
    row.identity = identityOf machineId context).map (·.fencingToken)

def acquireRemoteGuard (context : RemoteContext Digest) : GuardCall Digest (FenceRecord Digest) := do
  let row ← readForAcquire context
  let row ← refuseForeignMachine machineId context row
  let projectId := context.project.remoteProjectId
  let bound ← statement fun server =>
    let (bound, later) := server.acquire projectId (identityOf machineId context)
      (takeoverToken machineId context row)
    (bound, LeaseServer.note projectId (identityOf machineId context) server later)
  pure (toFenceRecord projectId bound)

def releaseRemoteGuard (input : RemoteContext Digest × FenceRecord Digest) : GuardCall Digest Unit := do
  let projectId := input.1.project.remoteProjectId
  let _ ← statement fun server =>
    let (released, later) := server.release projectId (identityOf machineId input.1)
      (bigInt input.2.fencingToken)
    (released, LeaseServer.note projectId (identityOf machineId input.1) server later)

def readRemoteGuardForReleaseReconciliation (context : RemoteContext Digest) :
    GuardCall Digest (Option (FenceRecord Digest)) := do
  let row ← readRow context
  pure (fenceOf context row)

/-- The driver over the leases of a machine, which may read rows of every generation or not. -/
def leaseDriver (newIdentity : LocalState RecoveryFile → FileIdentity) (reconciling : Bool) :
    PublicationDriver Digest (LeaseServer Digest) where
  newIdentity := newIdentity
  acquireRemoteGuard := some fun context => (acquireRemoteGuard machineId context).run
  readRemoteGuard := some fun input => (readRemoteGuard machineId input).run
  releaseRemoteGuard := some fun input => (releaseRemoteGuard machineId input).run
  readRemoteGuardForReleaseReconciliation :=
    if reconciling then some fun context => (readRemoteGuardForReleaseReconciliation context).run else none
  retainCompletedMaterial := none
  cleanupAbortedMaterial := none

end Provider

end Lcm.Publication
