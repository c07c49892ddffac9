import Lcm.PassiveEvents.Repository

namespace Lcm.PassiveEvents.PassiveEventRepository
open Text Store PostgreSql

variable {Number : Type} (repository : PassiveEventRepository Number)

/-- The request that the drain lease of the repository's machine answers. -/
def drainLease (fence : PassiveEventFence) : LeaseMutationInput where
  resourceType := drainResourceType
  resourceKey := repository.machineId
  processId := fence.processId
  operation := drainOperation
  fencingToken := fence.fencingToken

/-- The fence is checked in the transaction that it protects. -/
def assertFence (operation : String) (fence : PassiveEventFence) (now : Instant)
    (leases : LeaseTable) : Except PassiveEventError Unit := do
  let coordinator ← repository.transactionExecutor operation
  match coordinator.assertLeaseFence (repository.drainLease fence) now leases with
  | .ok _ => pure ()
  | .error error => .error (.coordination error)

/-- The row of a claim while its owner still holds it. -/
def claimedRow (claim : PassiveEventClaim Number) (inbox : PassiveEventInbox Number) :
    Option (PassiveEventRow Number) :=
  (inbox.get? claim.inboxId.toNat).filter fun row => row.projectId = repository.projectId &&
    row.machineId = claim.machineId && row.eventId = claim.eventId &&
      match row.status with
      | .claimed _ owner => owner = claim.claimedBy
      | _ => false

def assertClaim (claim : PassiveEventClaim Number) (inbox : PassiveEventInbox Number) :
    Except PassiveEventError (PassiveEventClaim Number) := do
  let expected ← repository.normalizedClaim claim
  match repository.claimedRow expected inbox with
  | none => .error (.data "claimed_row" (some expected.eventId))
  | some row =>
      let record ← repository.passiveEventFromRow expected.inboxId.toNat row repository.projectId
      let actual ← claimFromRecord record
      repository.assertSameClaim expected actual
      pure actual

/-- The statement that ends a claim changes the row that the claim names. -/
def transitionRow (claim : PassiveEventClaim Number) (change : PassiveEventInbox.Change Number)
    (inbox : PassiveEventInbox Number) :
    Except PassiveEventError (PassiveEventRecord Number × PassiveEventInbox Number) := do
  match repository.claimedRow claim inbox with
  | none => .error (.data "claimed_transition" (some claim.eventId))
  | some row =>
      let record ← repository.passiveEventFromRow claim.inboxId.toNat (change.apply row)
        repository.projectId
      pure (record, inbox.update claim.inboxId.toNat change)

/-- An end of a claim: the claim, the drain lease, and the time of the fence check. -/
structure ClaimMutation (Number : Type) extends PassiveEventFence where
  claim : PassiveEventClaim Number
  fencedAt : Instant

/-- The database takes the whole transition or none of it. -/
def claimTransition (operation : String) (mutation : ClaimMutation Number)
    (change : PassiveEventInbox.Change Number) (leases : LeaseTable)
    (inbox : PassiveEventInbox Number) :
    Except PassiveEventError (PassiveEventRecord Number × PassiveEventInbox Number) := do
  repository.assertFence operation mutation.toPassiveEventFence mutation.fencedAt leases
  let claim ← repository.assertClaim mutation.claim inbox
  repository.transitionRow claim change inbox

def appliedChange (now : Instant) : PassiveEventInbox.Change Number where
  status row := .applied (max now row.receivedAt)
  attemptCount row := row.attemptCount
  nextAttemptAt row := row.nextAttemptAt

def retryChange (delayMs : Nat) (now : Instant) : PassiveEventInbox.Change Number where
  status _ := .retry
  attemptCount row := row.attemptCount
  nextAttemptAt row := max row.receivedAt (now + delayMs * 1000)

def quarantineChange (reason : JsString) (now : Instant) : PassiveEventInbox.Change Number where
  status row := .quarantined (max now row.receivedAt) reason
  attemptCount row := row.attemptCount
  nextAttemptAt row := row.nextAttemptAt

def replayChange (now : Instant) : PassiveEventInbox.Change Number where
  status _ := .pending
  attemptCount row := row.attemptCount
  nextAttemptAt row := max row.receivedAt now

/-- The application of the event runs between the check of the claim and the applied transition. -/
def completeApplied {Result : Type} (mutation : ClaimMutation Number)
    (apply : PassiveEventClaim Number → Except PassiveEventError Result) (now : Instant)
    (leases : LeaseTable) (inbox : PassiveEventInbox Number) :
    Except PassiveEventError
      ((PassiveEventRecord Number × Result) × PassiveEventInbox Number) := do
  repository.assertFence "completeApplied" mutation.toPassiveEventFence mutation.fencedAt leases
  let claim ← repository.assertClaim mutation.claim inbox
  let result ← apply claim
  let (event, after) ← repository.transitionRow claim (appliedChange now) inbox
  pure ((event, result), after)

def scheduleRetry (mutation : ClaimMutation Number) (delayMs : Int) (now : Instant)
    (leases : LeaseTable) (inbox : PassiveEventInbox Number) :
    Except PassiveEventError (PassiveEventRecord Number × PassiveEventInbox Number) :=
  if 0 ≤ delayMs ∧ delayMs ≤ maxSafeInteger then
    repository.claimTransition "scheduleRetry" mutation (retryChange delayMs.toNat now) leases inbox
  else
    .error (.argument "passive-event retry delay must be a non-negative safe integer")

def quarantine (mutation : ClaimMutation Number) (reason : JsString) (now : Instant)
    (leases : LeaseTable) (inbox : PassiveEventInbox Number) :
    Except PassiveEventError (PassiveEventRecord Number × PassiveEventInbox Number) := do
  let reason ← nonblank "quarantine_reason" (some mutation.claim.eventId) reason
  repository.claimTransition "quarantine" mutation (quarantineChange reason now) leases inbox

def replayQuarantined (key : PassiveEventKey) (now : Instant) (inbox : PassiveEventInbox Number) :
    Except PassiveEventError (Option (PassiveEventRecord Number) × PassiveEventInbox Number) := do
  let machineId ← eventUuidV7 "machine_id" (some key.eventId) key.machineId
  let eventId ← eventUuid "event_id" none key.eventId
  let _ ← repository.transactionExecutor "replayQuarantined"
  match (locate inbox machineId eventId).filter fun entry =>
      entry.2.projectId = repository.projectId && match entry.2.status with
        | .quarantined _ _ => true
        | _ => false with
  | none => pure (none, inbox)
  | some (inboxId, row) =>
      let record ← repository.passiveEventFromRow inboxId ((replayChange now).apply row)
        repository.projectId
      pure (some record, inbox.update inboxId (replayChange now))

/-- A deletion by identifier, machine and event of a row that a test accepts. -/
def deleteExact (inboxId : InboxId) (machineId eventId : JsString)
    (accepts : PassiveEventRow Number → Bool) (inbox : PassiveEventInbox Number) :
    PassiveEventInbox Number :=
  inbox.retain fun (stored, row) => !(stored = inboxId && row.machineId = machineId &&
    row.eventId = eventId && accepts row)

def isApplied (row : PassiveEventRow Number) : Bool :=
  match row.status with
  | .applied _ => true
  | _ => false

def pruneApplied (keys : List PassiveEventPruneKey) (inbox : PassiveEventInbox Number) :
    Except PassiveEventError (Nat × PassiveEventInbox Number) := do
  batchSize keys.length
  let _ ← repository.transactionExecutor "pruneApplied"
  keys.foldlM (fun (deleted, inbox) key => do
    let eventId ← eventUuid "event_id" none key.eventId
    let machineId ← eventUuidV7 "machine_id" (some eventId) key.machineId
    let inboxId ← exactInboxBigInt "inbox_id" (some eventId) 1 key.inboxId
    let after := deleteExact inboxId machineId eventId
      (fun row => row.projectId = repository.projectId && isApplied row) inbox
    pure (deleted + (inbox.rows.entries.length - after.rows.entries.length), after)) (0, inbox)

/-- A claim counts as dead when it is older than the staleness limit. -/
def claimStale (staleClaimMs : Int) (now : Instant) (row : PassiveEventRow Number) : Bool :=
  match row.status with
  | .claimed claimedAt _ => claimedAt ≤ now - staleClaimMs * 1000
  | _ => false

/-- The outcome for one requested row, and the inbox without a copy that is safe to drop. -/
def releaseRow (staleClaimMs : Int) (now : Instant) (expected : PassiveEventInput Number)
    (inboxId : Option Nat) (inbox : PassiveEventInbox Number) :
    Except PassiveEventError (ReleaseOutcome × PassiveEventInbox Number) := do
  match locate inbox repository.machineId expected.eventId with
  | none => pure (.absent, inbox)
  | some (stored, row) =>
      let rowProjectId ← eventUuidV7 "project_id" (some expected.eventId) row.projectId
      if rowProjectId = repository.projectId then pure (.bound, inbox)
      else
        let record ← repository.passiveEventFromRow stored row rowProjectId
        if (inboxId.any fun inboxId => record.inboxId ≠ inboxId) ||
            !repository.sameEvent expected record then
          pure (.mismatch, inbox)
        else
          let deleted := deleteExact record.inboxId repository.machineId expected.eventId
            (fun row => row.projectId = rowProjectId) inbox
          match record.status with
          | .quarantined _ reason => pure (.quarantined record.inboxId reason, inbox)
          | .claimed _ _ =>
              if claimStale staleClaimMs now row then pure (.released, deleted)
              else pure (.busy, inbox)
          | .applied _ => pure (.applied record.inboxId, deleted)
          | .pending | .retry => pure (.released, deleted)

def normalizedReleaseKey (key : PassiveEventReleaseKey Number) :
    Except PassiveEventError (PassiveEventInput Number × Option Nat) := do
  let expected ← repository.normalizedInput key.toPassiveEventInput
  match key.inboxId with
  | none => pure (expected, none)
  | some inboxId =>
      let inboxId ← exactInboxBigInt "inbox_id" (some expected.eventId) 1 inboxId
      pure (expected, some inboxId)

/-- The answers for the requested rows, one for each event and in their order. -/
def releaseRows (staleClaimMs : Int) (now : Instant) :
    List (PassiveEventInput Number × Option Nat) → PassiveEventInbox Number →
      Except PassiveEventError (List (JsString × ReleaseOutcome) × PassiveEventInbox Number)
  | [], inbox => pure ([], inbox)
  | (expected, inboxId) :: rest, inbox => do
      let (outcome, after) ← repository.releaseRow staleClaimMs now expected inboxId inbox
      let (outcomes, last) ← releaseRows staleClaimMs now rest after
      pure ((expected.eventId, outcome) :: outcomes, last)

def releaseFromOtherProjects (keys : List (PassiveEventReleaseKey Number)) (staleClaimMs : Int)
    (now : Instant) (inbox : PassiveEventInbox Number) :
    Except PassiveEventError (List (JsString × ReleaseOutcome) × PassiveEventInbox Number) := do
  batchSize keys.length
  if ¬ (0 < staleClaimMs ∧ staleClaimMs ≤ maxSafeInteger) then
    .error (.argument "passive-event stale claim milliseconds must be a positive safe integer")
  let requested ← keys.mapM repository.normalizedReleaseKey
  if ¬ (requested.map (·.1.eventId)).Nodup then .error (.data "duplicate_batch_event_id" none)
  let _ ← repository.transactionExecutor "releaseFromOtherProjects"
  repository.releaseRows staleClaimMs now requested inbox

end Lcm.PassiveEvents.PassiveEventRepository
