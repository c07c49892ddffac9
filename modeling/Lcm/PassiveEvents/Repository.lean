import Lcm.Library.Except
import Lcm.PassiveEvents.Inbox

namespace Lcm.PassiveEvents
open Text Store PostgreSql

def maxBatchSize : Nat := 500

def maxPostgreSqlInteger : Nat := 2147483647

def maxPostgreSqlBigInt : Nat := 9223372036854775807

def drainResourceType : JsString := js "passive-events"

def drainOperation : JsString := js "replicate"

/-- The errors of the passive-event repository. -/
inductive PassiveEventError where
  | data (field : String) (eventId : Option JsString)
  | argument (message : String)
  | transactionScope (operation : String)
  | coordination (error : CoordinationError)
  | database (message : String)
  | application
  deriving DecidableEq

/-- A record is a stored row with its times as dates. -/
structure PassiveEventRecord (Number : Type) where
  inboxId : InboxId
  projectId : JsString
  machineId : JsString
  eventId : JsString
  eventVersion : Nat
  machineSequence : Nat
  eventType : JsString
  payload : JsonObject Number
  status : PassiveEventStatus Timestamp
  attemptCount : Nat
  receivedAt : Timestamp
  nextAttemptAt : Timestamp

/-- A claim is the snapshot of a row that its claimer holds. -/
structure PassiveEventClaim (Number : Type) where
  inboxId : Int
  projectId : JsString
  machineId : JsString
  eventId : JsString
  eventVersion : Int
  machineSequence : Int
  eventType : JsString
  payload : JsonObject Number
  attemptCount : Int
  receivedAt : Timestamp
  nextAttemptAt : Timestamp
  claimedAt : Timestamp
  claimedBy : JsString

structure PassiveEventKey where
  machineId : JsString
  eventId : JsString
  deriving DecidableEq

structure PassiveEventPruneKey extends PassiveEventKey where
  inboxId : Int
  deriving DecidableEq

/-- The lease with which a drain of the queue is fenced. -/
structure PassiveEventFence where
  processId : JsString
  fencingToken : Int
  deriving DecidableEq

/-- A row to recover; a row that never recorded its upload has no identifier. -/
structure PassiveEventReleaseKey (Number : Type) extends PassiveEventInput Number where
  inboxId : Option Int

inductive ReleaseOutcome where
  | absent
  | released
  | applied (inboxId : InboxId)
  | quarantined (inboxId : InboxId) (quarantineReason : JsString)
  | busy
  | bound
  | mismatch
  deriving DecidableEq

section Fields

variable (field : String) (eventId : Option JsString)

def eventUuid (value : JsString) : Except PassiveEventError JsString :=
  let normalized := lowerAscii value
  if isUuid normalized && hasVersion [52, 53, 55] normalized then .ok normalized
  else .error (.data field eventId)

def eventUuidV7 (value : JsString) : Except PassiveEventError JsString := do
  let normalized ← eventUuid field eventId value
  if hasVersion [55] normalized then pure normalized else .error (.data field eventId)

def nonblank (value : JsString) : Except PassiveEventError JsString :=
  if isNonblank value && isPostgreSqlText value then .ok value else .error (.data field eventId)

def exactInboxBigInt (minimum : Nat) (value : Int) : Except PassiveEventError Nat :=
  if (minimum : Int) ≤ value ∧ value ≤ maxPostgreSqlBigInt then .ok value.toNat
  else .error (.data field eventId)

def postgresqlInteger (minimum : Nat) (value : Int) : Except PassiveEventError Nat :=
  if (minimum : Int) ≤ value ∧ value ≤ maxPostgreSqlInteger then .ok value.toNat
  else .error (.data field eventId)

end Fields

def batchSize (length : Nat) : Except PassiveEventError Unit :=
  if 0 < length ∧ length ≤ maxBatchSize then .ok ()
  else .error (.argument "passive-event batch must contain 1-500 events")

/-- The repository of one machine in one project. -/
structure PassiveEventRepository (Number : Type) where
  coordinator : WorkCoordinator
  platform : PayloadPlatform Number

namespace PassiveEventRepository

variable {Number : Type} (repository : PassiveEventRepository Number)

def projectId : JsString := repository.coordinator.projectId

def machineId : JsString := repository.coordinator.machineId

def timestamp (field : String) (eventId : Option JsString) (value : Instant) :
    Except PassiveEventError Timestamp :=
  match repository.coordinator.executor.toDate value with
  | some date => .ok date
  | none => .error (.data field eventId)

def jsonObject (eventId : Option JsString) (value : JsonObject Number) :
    Except PassiveEventError (JsonObject Number) :=
  if arePostgreSqlMembers repository.platform value then .ok value
  else .error (.data "payload" eventId)

/-- The status of a row with its own times as dates. -/
def statusFromRow (eventId : Option JsString) :
    PassiveEventStatus Instant → Except PassiveEventError (PassiveEventStatus Timestamp)
  | .pending => .ok .pending
  | .retry => .ok .retry
  | .claimed claimedAt claimedBy => do
      let claimedAt ← repository.timestamp "claimed_at" eventId claimedAt
      let claimedBy ← nonblank "claimed_by" eventId claimedBy
      pure (.claimed claimedAt claimedBy)
  | .applied appliedAt => do
      let appliedAt ← repository.timestamp "applied_at" eventId appliedAt
      pure (.applied appliedAt)
  | .quarantined quarantinedAt reason => do
      let quarantinedAt ← repository.timestamp "quarantined_at" eventId quarantinedAt
      let reason ← nonblank "quarantine_reason" eventId reason
      pure (.quarantined quarantinedAt reason)

def passiveEventFromRow (inboxId : InboxId) (row : PassiveEventRow Number)
    (expectedRowProjectId : JsString) : Except PassiveEventError (PassiveEventRecord Number) := do
  let eventId ← eventUuid "event_id" none row.eventId
  let rowProjectId ← eventUuidV7 "project_id" (some eventId) row.projectId
  if rowProjectId ≠ expectedRowProjectId then .error (.data "project_id" (some eventId))
  let machineId ← eventUuidV7 "machine_id" (some eventId) row.machineId
  let status ← repository.statusFromRow (some eventId) row.status
  let inboxId ← exactInboxBigInt "inbox_id" (some eventId) 1 inboxId
  let eventVersion ← postgresqlInteger "event_version" (some eventId) 1 row.eventVersion
  let machineSequence ← exactInboxBigInt "machine_sequence" (some eventId) 0 row.machineSequence
  let eventType ← nonblank "event_type" (some eventId) row.eventType
  let payload ← repository.jsonObject (some eventId) row.payload
  let attemptCount ← postgresqlInteger "attempt_count" (some eventId) 0 row.attemptCount
  let receivedAt ← repository.timestamp "received_at" (some eventId) row.receivedAt
  let nextAttemptAt ← repository.timestamp "next_attempt_at" (some eventId) row.nextAttemptAt
  pure ⟨inboxId, rowProjectId, machineId, eventId, eventVersion, machineSequence, eventType, payload,
    status, attemptCount, receivedAt, nextAttemptAt⟩

/-- A checked input keeps its texts in lower case where they are identifiers. -/
def normalizedInput (input : PassiveEventInput Number) :
    Except PassiveEventError (PassiveEventInput Number) := do
  let eventId ← eventUuid "event_id" none input.eventId
  let machineId ← eventUuidV7 "machine_id" (some eventId) input.machineId
  if machineId ≠ repository.machineId then .error (.data "machine_id" (some eventId))
  let eventVersion ← postgresqlInteger "event_version" (some eventId) 1 input.eventVersion
  let machineSequence ← exactInboxBigInt "machine_sequence" (some eventId) 0 input.machineSequence
  let eventType ← nonblank "event_type" (some eventId) input.eventType
  let payload ← repository.jsonObject (some eventId) input.payload
  pure ⟨machineId, eventId, eventVersion, machineSequence, eventType, payload⟩

def normalizedClaim (claim : PassiveEventClaim Number) :
    Except PassiveEventError (PassiveEventClaim Number) := do
  let eventId ← eventUuid "event_id" none claim.eventId
  let projectId ← eventUuidV7 "project_id" (some eventId) claim.projectId
  if projectId ≠ repository.projectId then .error (.data "project_id" (some eventId))
  let inboxId ← exactInboxBigInt "inbox_id" (some eventId) 1 claim.inboxId
  let machineId ← eventUuidV7 "machine_id" (some eventId) claim.machineId
  let eventVersion ← postgresqlInteger "event_version" (some eventId) 1 claim.eventVersion
  let machineSequence ← exactInboxBigInt "machine_sequence" (some eventId) 0 claim.machineSequence
  let eventType ← nonblank "event_type" (some eventId) claim.eventType
  let payload ← repository.jsonObject (some eventId) claim.payload
  let attemptCount ← postgresqlInteger "attempt_count" (some eventId) 0 claim.attemptCount
  let claimedBy ← nonblank "claimed_by" (some eventId) claim.claimedBy
  pure ⟨inboxId, projectId, machineId, eventId, eventVersion, machineSequence, eventType, payload,
    attemptCount, claim.receivedAt, claim.nextAttemptAt, claim.claimedAt, claimedBy⟩

def sameEvent (expected : PassiveEventInput Number) (actual : PassiveEventRecord Number) : Bool :=
  actual.machineId == expected.machineId && actual.eventId == expected.eventId &&
    (actual.eventVersion : Int) == expected.eventVersion &&
      (actual.machineSequence : Int) == expected.machineSequence &&
        actual.eventType == expected.eventType &&
          samePassiveEventPayload repository.platform actual.payload expected.payload

def assertSameEvent (expected : PassiveEventInput Number) (actual : PassiveEventRecord Number) :
    Except PassiveEventError Unit :=
  if repository.sameEvent expected actual then .ok ()
  else .error (.data "idempotency_collision" (some expected.eventId))

def claimFromRecord (record : PassiveEventRecord Number) :
    Except PassiveEventError (PassiveEventClaim Number) :=
  match record.status with
  | .claimed claimedAt claimedBy =>
      .ok ⟨record.inboxId, record.projectId, record.machineId, record.eventId, record.eventVersion,
        record.machineSequence, record.eventType, record.payload, record.attemptCount,
        record.receivedAt, record.nextAttemptAt, claimedAt, claimedBy⟩
  | _ => .error (.data "claimed_row" (some record.eventId))

/-- Two claims are the same when every column is, and the payloads have one canonical text. -/
def sameClaim (expected actual : PassiveEventClaim Number) : Bool :=
  expected.inboxId == actual.inboxId && expected.projectId == actual.projectId &&
    expected.machineId == actual.machineId && expected.eventId == actual.eventId &&
      expected.eventVersion == actual.eventVersion &&
        expected.machineSequence == actual.machineSequence &&
          expected.eventType == actual.eventType &&
            canonicalJson repository.platform (.object expected.payload) ==
              canonicalJson repository.platform (.object actual.payload) &&
              expected.attemptCount == actual.attemptCount &&
                expected.receivedAt == actual.receivedAt &&
                  expected.nextAttemptAt == actual.nextAttemptAt &&
                    expected.claimedAt == actual.claimedAt && expected.claimedBy == actual.claimedBy

def assertSameClaim (expected actual : PassiveEventClaim Number) : Except PassiveEventError Unit :=
  if repository.sameClaim expected actual then .ok ()
  else .error (.data "claimed_snapshot" (some expected.eventId))

/-- The executor inside a transaction of the repository. -/
def transactionExecutor (operation : String) : Except PassiveEventError WorkCoordinator :=
  match repository.coordinator.executor.scope with
  | .pool => .ok { repository.coordinator with
      executor := { repository.coordinator.executor with scope := .active (js "read committed") } }
  | .active _ => .ok repository.coordinator
  | .inactive => .error (.transactionScope operation)

/-- The one row of a machine's event, whatever its project. -/
def locate (inbox : PassiveEventInbox Number) (machineId eventId : JsString) :
    Option (InboxId × PassiveEventRow Number) :=
  inbox.rows.entries.find? fun entry => entry.2.machineId = machineId ∧ entry.2.eventId = eventId

/-- The rows of the repository's project for some keys, in the order of the keys. -/
def readEvents (keys : List PassiveEventKey) (inbox : PassiveEventInbox Number) :
    Except PassiveEventError (List (PassiveEventRecord Number)) := do
  batchSize keys.length
  let normalized ← keys.mapM fun key => do
    let eventId ← eventUuid "event_id" none key.eventId
    let machineId ← eventUuidV7 "machine_id" (some eventId) key.machineId
    pure (⟨machineId, eventId⟩ : PassiveEventKey)
  let rows := normalized.filterMap fun key =>
    (locate inbox key.machineId key.eventId).filter fun entry =>
      entry.2.projectId = repository.projectId
  rows.mapM fun (inboxId, row) => repository.passiveEventFromRow inboxId row repository.projectId

def readEvent (key : PassiveEventKey) (inbox : PassiveEventInbox Number) :
    Except PassiveEventError (Option (PassiveEventRecord Number)) := do
  let records ← repository.readEvents [key] inbox
  pure records.head?

/-- The row that an insertion writes at one time. -/
def insertedRow (input : PassiveEventInput Number) (now : Instant) : PassiveEventRow Number where
  projectId := repository.projectId
  machineId := lowerAscii input.machineId
  eventId := lowerAscii input.eventId
  eventVersion := input.eventVersion.toNat
  machineSequence := input.machineSequence.toNat
  eventType := input.eventType
  payload := repository.platform.jsonb input.payload
  status := .pending
  attemptCount := 0
  receivedAt := now
  nextAttemptAt := now
  machineCanonical := lowerAscii_idempotent _
  eventCanonical := lowerAscii_idempotent _

/-- Identifiers that other transactions drew leave gaps before those of a batch. -/
def insertRows (gap : Nat → Nat) (now : Nat → Instant) (inputs : List (PassiveEventInput Number))
    (inbox : PassiveEventInbox Number) : PassiveEventInbox Number :=
  inputs.zipIdx.foldl (fun inbox (input, index) =>
    inbox.insertOrIgnore (gap index) (repository.insertedRow input (now index))) inbox

def insertEvents (inputs : List (PassiveEventInput Number)) (gap : Nat → Nat) (now : Nat → Instant)
    (inbox : PassiveEventInbox Number) :
    Except PassiveEventError (List (PassiveEventRecord Number) × PassiveEventInbox Number) := do
  batchSize inputs.length
  let normalized ← inputs.mapM repository.normalizedInput
  if ¬ (normalized.map (·.eventId)).Nodup then .error (.data "duplicate_batch_event_id" none)
  let _ ← repository.transactionExecutor "insertEvents"
  let after := repository.insertRows gap now normalized inbox
  let records ← repository.readEvents
    (normalized.map fun input => ⟨input.machineId, input.eventId⟩) after
  if records.length ≠ normalized.length then
    let missing := normalized.find? fun input => input.eventId ∉ records.map (·.eventId)
    .error (.data "idempotency_readback" (missing.map (·.eventId)))
  let found ← normalized.mapM fun input =>
    match records.find? fun record => record.eventId = input.eventId with
    | none => .error (.data "idempotency_readback" (some input.eventId))
    | some record => do
        repository.assertSameEvent input record
        pure record
  pure (found, after)

/-- A UUID orders by its bytes. -/
def uuidValue (text : JsString) : Nat :=
  text.foldl (fun value unit => (Json.hexValue unit).elim value (value * 16 + ·)) 0

/-- The time since which a row waits to be claimed. -/
def readySince (row : PassiveEventRow Number) : Instant :=
  match row.status with
  | .claimed claimedAt _ => claimedAt
  | _ => row.nextAttemptAt

/-- A row is ready when its time has come, or when the claim on it is stale. -/
def isReady (staleClaim : PositiveSafeInteger) (now : Instant) (row : PassiveEventRow Number) : Bool :=
  match row.status with
  | .pending | .retry => row.nextAttemptAt ≤ now
  | .claimed claimedAt _ => claimedAt ≤ now - staleClaim.interval
  | .applied _ | .quarantined _ _ => false

/-- An earlier row of the same machine in the project holds a row back until it is terminal. -/
def isHead (inbox : PassiveEventInbox Number) (row : PassiveEventRow Number) : Bool :=
  inbox.rows.rows.all fun earlier => !(earlier.projectId = row.projectId &&
    earlier.machineId = row.machineId && earlier.machineSequence < row.machineSequence &&
      !earlier.status.isTerminal)

def claimCandidates (limit staleClaim : PositiveSafeInteger) (now : Instant)
    (inbox : PassiveEventInbox Number) : List InboxId :=
  let ready := inbox.rows.entries.filter fun entry => entry.2.projectId = repository.projectId &&
    isReady staleClaim now entry.2 && isHead inbox entry.2
  let ordered := sortedBy (fun (inboxId, row) => toLex (readySince row, toLex (row.receivedAt,
    toLex (uuidValue row.machineId, toLex (row.machineSequence, inboxId))))) ready
  (ordered.take limit.value).map Prod.fst

/-- The change that a claim makes of a row at the time of its own update. -/
def claimChange (claimOwner : JsString) (now : Instant) : PassiveEventInbox.Change Number where
  status row := .claimed (max now row.receivedAt) claimOwner
  attemptCount row := row.attemptCount + 1
  nextAttemptAt row := row.nextAttemptAt

def passiveEventClaimFromRow (inboxId : InboxId) (row : PassiveEventRow Number)
    (claimedAt : Instant) (claimedBy : JsString) :
    Except CoordinationError (PassiveEventClaim Number) := do
  let operation := "claimPassiveEvents"
  let machineId ← uuidV7 operation "machine_id" row.machineId
  if row.eventVersion = 0 then .error (.data operation "event_version")
  let inboxId ← exactBigInt operation "inbox_id" 1 inboxId
  let projectId ← uuidV7 operation "project_id" row.projectId
  let eventId ← uuid operation "event_id" row.eventId
  let machineSequence ← exactBigInt operation "machine_sequence" 0 row.machineSequence
  let eventType ← nonblankText operation "event_type" row.eventType
  let receivedAt ← repository.coordinator.timestamp operation "received_at" row.receivedAt
  let nextAttemptAt ← repository.coordinator.timestamp operation "next_attempt_at" row.nextAttemptAt
  let claimedAt ← repository.coordinator.timestamp operation "claimed_at" claimedAt
  let claimedBy ← nonblankText operation "claimed_by" claimedBy
  pure ⟨inboxId, projectId, machineId, eventId, row.eventVersion, machineSequence, eventType,
    row.payload, row.attemptCount, receivedAt, nextAttemptAt, claimedAt, claimedBy⟩

/-- The claim of a row that a claim statement returns. -/
def claimFromRow (inbox : PassiveEventInbox Number) (inboxId : InboxId) :
    Except CoordinationError (PassiveEventClaim Number) :=
  match inbox.get? inboxId with
  | some row =>
      match row.status with
      | .claimed claimedAt claimedBy =>
          repository.passiveEventClaimFromRow inboxId row claimedAt claimedBy
      | _ => .error (.data "claimPassiveEvents" "claimed_at")
  | none => .error (.data "claimPassiveEvents" "inbox_id")

/-- The claimed rows in the order of their receipt. -/
def returnedOrder (inbox : PassiveEventInbox Number) (inboxIds : List InboxId) : List InboxId :=
  sortedBy (fun inboxId => match inbox.get? inboxId with
    | some row => toLex (row.receivedAt, toLex (uuidValue row.machineId,
        toLex (row.machineSequence, inboxId)))
    | none => toLex (0, toLex (0, toLex (0, inboxId)))) inboxIds

/-- The attempt counter of a row is a column of thirty-two bits. -/
def canCount (inbox : PassiveEventInbox Number) (inboxId : InboxId) : Bool :=
  (inbox.get? inboxId).all fun row => row.attemptCount < maxPostgreSqlInteger

def claimPassiveEvents (claimOwner : JsString) (limit staleClaimMs : Int) (now : Instant)
    (claimTime : InboxId → Instant) (inbox : PassiveEventInbox Number) :
    Except CoordinationError (List (PassiveEventClaim Number) × PassiveEventInbox Number) := do
  let operation := "claimPassiveEvents"
  let claimOwner ← nonblankText operation "claim_owner" claimOwner
  let limit ← positiveSafeInteger operation "limit" limit
  let staleClaim ← positiveSafeInteger operation "stale_claim_ms" staleClaimMs
  repository.coordinator.atomicScope operation
  let candidates := repository.claimCandidates limit staleClaim now inbox
  if ¬ candidates.all (canCount inbox) then .error (.database operation)
  let after := candidates.foldl (fun inbox inboxId =>
    inbox.update inboxId (claimChange claimOwner (claimTime inboxId))) inbox
  let claims ← (returnedOrder after candidates).mapM (repository.claimFromRow after)
  pure (claims, after)

end PassiveEventRepository

end Lcm.PassiveEvents
