import Lcm.Library.SortedBy
import Lcm.PassiveEvents.Repository

namespace Lcm.Hooks
open Text Store PassiveEvents

abbrev EventId := Nat

/-- A stored time in seconds. -/
abbrev SqliteTime := Int

def eventsDeliveryBatchLimit : Nat := 500

/-- The delivery state of a local event with the columns that belong to it alone. -/
inductive DeliveryState where
  | pending
  | claimed (claimedAt : SqliteTime) (owner : JsString)
  | retry
  | replicated
  | acknowledged (acknowledgedAt : SqliteTime)
  | quarantined (reason : JsString)
  deriving DecidableEq

/-- The rows that a delivery may still claim. -/
def DeliveryState.isActive : DeliveryState → Bool
  | .pending | .retry | .claimed _ _ => true
  | .replicated | .acknowledged _ | .quarantined _ => false

/-- The columns of an event that its upload carries. -/
structure EventEnvelope (Number : Type) where
  eventUuid : JsString
  eventVersion : Nat
  machineId : Option JsString
  machineSequence : Nat
  type : JsString
  sessionId : JsString
  seq : Nat
  category : JsString
  data : JsString
  priority : Number
  sourceHook : JsString
  prevEventId : Option Nat
  createdAt : JsString

structure DeliveryColumns where
  state : DeliveryState
  generation : Nat
  attempts : Nat
  nextAttemptAt : SqliteTime
  lastError : Option JsString
  remoteInboxId : Option InboxId
  remotePrunedAt : Option SqliteTime
  updatedAt : SqliteTime
  deriving DecidableEq

structure EventRow (Number : Type) where
  envelope : EventEnvelope Number
  delivery : DeliveryColumns
  processedAt : Option SqliteTime

/-- Two rows share a unique column. -/
def EventRow.conflicts {Number : Type} (first second : EventRow Number) : Prop :=
  first.envelope.eventUuid = second.envelope.eventUuid ∨
    first.envelope.machineSequence = second.envelope.machineSequence

instance {Number : Type} (first second : EventRow Number) : Decidable (first.conflicts second) :=
  inferInstanceAs (Decidable (_ ∨ _))

/-- The local events; identifiers ascend and are never used again. -/
structure EventsTable (Number : Type) where
  rows : KeyedTable EventId (EventRow Number)
  sequence : Nat
  within : ∀ eventId row, rows.get? eventId = some row → eventId ≤ sequence
  unique : ∀ first second firstRow secondRow, rows.get? first = some firstRow →
    rows.get? second = some secondRow → firstRow.conflicts secondRow → first = second

namespace EventsTable

variable {Number : Type}

def empty : EventsTable Number :=
  ⟨.empty, 0, fun _ _ found => (nomatch found), fun _ _ _ _ found => (nomatch found)⟩

def get? (table : EventsTable Number) (eventId : EventId) : Option (EventRow Number) :=
  table.rows.get? eventId

theorem mem_rows {table : EventsTable Number} {row : EventRow Number} :
    row ∈ table.rows.rows ↔ ∃ eventId, table.get? eventId = some row := by
  simp [KeyedTable.rows, get?, KeyedTable.get?_eq_some]

/-- An insertion fails when a unique column is in use. -/
def insert? (table : EventsTable Number) (row : EventRow Number) : Option (EventsTable Number) :=
  if free : ∀ stored ∈ table.rows.rows, ¬ stored.conflicts row then
    some {
      rows := table.rows.put (table.sequence + 1) row
      sequence := table.sequence + 1
      within := by
        intro eventId stored found
        rw [KeyedTable.get?_put] at found
        split at found
        · next same => exact same.le
        · exact (table.within eventId stored found).trans (Nat.le_add_right _ 1)
      unique := by
        intro first second firstRow secondRow firstFound secondFound conflict
        rw [KeyedTable.get?_put] at firstFound secondFound
        split at firstFound
        · next firstNew =>
            split at secondFound
            · next secondNew => exact firstNew.trans secondNew.symm
            · cases firstFound
              exact absurd (conflict.imp Eq.symm Eq.symm)
                (free secondRow (mem_rows.mpr ⟨second, secondFound⟩))
        · split at secondFound
          · cases secondFound
            exact absurd conflict (free firstRow (mem_rows.mpr ⟨first, firstFound⟩))
          · exact table.unique first second firstRow secondRow firstFound secondFound conflict }
  else none

/-- A change of every row that keeps the unique columns. -/
def modify (table : EventsTable Number) (change : EventId → EventRow Number → EventRow Number)
    (keeps : ∀ eventId row, (change eventId row).envelope.eventUuid = row.envelope.eventUuid ∧
      (change eventId row).envelope.machineSequence = row.envelope.machineSequence) :
    EventsTable Number where
  rows := table.rows.mapRows change
  sequence := table.sequence
  within := by
    intro eventId row found
    rw [KeyedTable.get?_mapRows] at found
    obtain ⟨old, stored, _⟩ := Option.map_eq_some_iff.mp found
    exact table.within eventId old stored
  unique := by
    intro first second firstRow secondRow firstFound secondFound conflict
    rw [KeyedTable.get?_mapRows] at firstFound secondFound
    obtain ⟨firstOld, firstStored, rfl⟩ := Option.map_eq_some_iff.mp firstFound
    obtain ⟨secondOld, secondStored, rfl⟩ := Option.map_eq_some_iff.mp secondFound
    apply table.unique first second firstOld secondOld firstStored secondStored
    rw [EventRow.conflicts, (keeps first firstOld).1, (keeps first firstOld).2,
      (keeps second secondOld).1, (keeps second secondOld).2] at conflict
    exact conflict

theorem get?_modify (table : EventsTable Number)
    (change : EventId → EventRow Number → EventRow Number) (keeps) (eventId : EventId) :
    (table.modify change keeps).get? eventId = (table.get? eventId).map (change eventId) :=
  KeyedTable.get?_mapRows ..

/-- An update of the delivery columns of the rows that meet a condition. -/
def deliver (table : EventsTable Number) (condition : EventId → EventRow Number → Bool)
    (change : DeliveryColumns → DeliveryColumns) : EventsTable Number :=
  table.modify (fun eventId row =>
    if condition eventId row then { row with delivery := change row.delivery } else row) (by
      intro eventId row
      split <;> exact ⟨rfl, rfl⟩)

theorem get?_deliver (table : EventsTable Number) (condition : EventId → EventRow Number → Bool)
    (change : DeliveryColumns → DeliveryColumns) (eventId : EventId) :
    (table.deliver condition change).get? eventId = (table.get? eventId).map fun row =>
      if condition eventId row then { row with delivery := change row.delivery } else row :=
  table.get?_modify _ _ eventId

/-- The number of rows that an update changes. -/
def changes (table : EventsTable Number) (condition : EventId → EventRow Number → Bool) : Nat :=
  table.rows.entries.countP fun (eventId, row) => condition eventId row

def retain (table : EventsTable Number) (keep : EventRow Number → Bool) : EventsTable Number where
  rows := table.rows.retain fun entry => keep entry.2
  sequence := table.sequence
  within eventId row found := table.within eventId row (KeyedTable.get?_retain.mp found).1
  unique first second firstRow secondRow firstFound secondFound :=
    table.unique first second firstRow secondRow (KeyedTable.get?_retain.mp firstFound).1
      (KeyedTable.get?_retain.mp secondFound).1

theorem get?_retain {table : EventsTable Number} {keep : EventRow Number → Bool}
    {eventId : EventId} {row : EventRow Number} :
    (table.retain keep).get? eventId = some row ↔ table.get? eventId = some row ∧ keep row = true :=
  KeyedTable.get?_retain

theorem get?_insert? {table after : EventsTable Number} {row : EventRow Number}
    (inserted : table.insert? row = some after) (eventId : EventId) :
    after.get? eventId =
      if eventId = table.sequence + 1 then some row else table.get? eventId := by
  rw [insert?] at inserted
  split at inserted
  · cases inserted
    exact KeyedTable.get?_put ..
  · cases inserted

theorem sequence_insert? {table after : EventsTable Number} {row : EventRow Number}
    (inserted : table.insert? row = some after) : after.sequence = table.sequence + 1 := by
  rw [insert?] at inserted
  split at inserted
  · cases inserted
    rfl
  · cases inserted

end EventsTable

/-- The errors of the local outbox. -/
inductive EventsDbError where
  | invalidEventUuid
  | blank (field : String)
  | batchLimit (field : String)
  | milliseconds (field : String)
  | remoteInboxIdRange
  | machineSequenceRange
  | differentMachine (eventUuid : JsString)
  | constraint
  deriving DecidableEq

def localEventUuid (value : JsString) : Except EventsDbError JsString :=
  let normalized := lowerAscii value
  if isUuid normalized && hasVersion [52, 53, 55] normalized then .ok normalized
  else .error .invalidEventUuid

def localNonblank (field : String) (value : JsString) : Except EventsDbError JsString :=
  if (trim value).isEmpty then .error (.blank field) else .ok (trim value)

def positiveBatchLimit (field : String) (value : Int) : Except EventsDbError Nat :=
  if 0 < value ∧ value ≤ eventsDeliveryBatchLimit then .ok value.toNat else .error (.batchLimit field)

def nonnegativeMilliseconds (field : String) (value : Int) : Except EventsDbError Nat :=
  if 0 ≤ value ∧ value ≤ maxSafeInteger then .ok value.toNat else .error (.milliseconds field)

/-- Inbox identifiers are positive and fit the column of the remote table. -/
def formatRemoteInboxId (value : Int) : Except EventsDbError InboxId :=
  if 1 ≤ value ∧ value ≤ maxPostgreSqlBigInt then .ok value.toNat else .error .remoteInboxIdRange

/-- The event of a hook; an integer column has no negative zero. -/
structure LocalHookEvent (Number : Type) where
  type : JsString
  category : JsString
  data : JsString
  priority : Number

structure LocalHookDeliveryClaimInput where
  machineId : JsString
  claimOwner : JsString
  limit : Int
  staleClaimMs : Int
  deriving DecidableEq

/-- One reading of the clock, with its milliseconds. -/
structure LocalClock where
  now : SqliteTime
  milliseconds : Int

/-- What the outbox uses of its runtime: the numbers, and the sanitizer of diagnostics. -/
structure OutboxPlatform (Number : Type) where
  numbers : JsNumbers Number
  sanitizeHookErrorDiagnostic : JsString → JsString

namespace EventsTable

variable {Number : Type} (platform : OutboxPlatform Number)

/-- The next number of a session. -/
def nextSeq (table : EventsTable Number) (sessionId : JsString) : Nat :=
  (table.rows.rows.filter fun row => row.envelope.sessionId = sessionId).foldl
    (fun seq row => max seq row.envelope.seq) 0 + 1

def insertEvent (eventUuid : JsString) (registeredMachineId : Option JsString)
    (machineSequence : Nat) (createdAt : JsString) (clock : LocalClock) (sessionId : JsString)
    (event : LocalHookEvent Number) (sourceHook : JsString) (table : EventsTable Number) :
    Except EventsDbError (EventId × EventsTable Number) :=
  if machineSequence ≤ maxPostgreSqlBigInt then
    let priority := if platform.numbers.isNegativeZero event.priority then
      platform.numbers.ofNat 0 else event.priority
    let row : EventRow Number := {
      envelope := ⟨eventUuid, 1, registeredMachineId, machineSequence, event.type, sessionId,
        table.nextSeq sessionId, event.category, event.data, priority, sourceHook, none, createdAt⟩
      delivery := ⟨.pending, 0, 0, clock.now, none, none, none, clock.now⟩
      processedAt := none }
    match table.insert? row with
    | some after => .ok (table.sequence + 1, after)
    | none => .error .constraint
  else .error .machineSequenceRange

def markProcessed (eventIds : List EventId) (clock : LocalClock) (table : EventsTable Number) :
    EventsTable Number :=
  table.modify (fun eventId row => if eventId ∈ eventIds then
    { row with processedAt := some (row.processedAt.getD clock.now) } else row) (by
      intro eventId row
      split <;> exact ⟨rfl, rfl⟩)

theorem get?_markProcessed (eventIds : List EventId) (clock : LocalClock)
    (table : EventsTable Number) (eventId : EventId) :
    (table.markProcessed eventIds clock).get? eventId = (table.get? eventId).map fun row =>
      if eventId ∈ eventIds then { row with processedAt := some (row.processedAt.getD clock.now) }
      else row :=
  table.get?_modify _ _ eventId

/-- A row that replication has drained: acknowledged and pruned on the remote side. -/
def isDrained (row : EventRow Number) : Bool :=
  match row.delivery.state with
  | .acknowledged _ => row.delivery.remotePrunedAt.isSome
  | _ => false

/-- A row that never entered the remote pipeline. -/
def isUntouched (row : EventRow Number) : Bool :=
  row.delivery.remoteInboxId.isNone && row.delivery.state == .pending && row.delivery.attempts == 0

def isPrunable (olderThanDays : Int) (awaitingReplication : Bool) (clock : LocalClock)
    (row : EventRow Number) : Bool :=
  0 ≤ olderThanDays &&
    (row.processedAt.any fun processedAt => processedAt < clock.now - olderThanDays * 86400) &&
    (isDrained row || !awaitingReplication && isUntouched row)

def pruneProcessed (olderThanDays : Int) (awaitingReplication : Bool) (clock : LocalClock)
    (table : EventsTable Number) : Nat × EventsTable Number :=
  let pruned := isPrunable olderThanDays awaitingReplication clock
  (table.rows.rows.countP pruned, table.retain fun row => !pruned row)

/-- The previous event of a row can be set until a delivery touches the row. -/
def withPrevEventId (eventId : EventId) (prevEventId : Nat) (clock : LocalClock)
    (stored : EventId) (row : EventRow Number) : EventRow Number :=
  if stored = eventId ∧ row.envelope.prevEventId ≠ some prevEventId ∧ isUntouched row then
    { row with
      envelope := { row.envelope with prevEventId := some prevEventId }
      delivery := { row.delivery with
        generation := row.delivery.generation + 1
        updatedAt := clock.now } }
  else row

def setPrevEventId (eventId : EventId) (prevEventId : Nat) (clock : LocalClock)
    (table : EventsTable Number) : EventsTable Number :=
  table.modify (withPrevEventId eventId prevEventId clock) (by
    intro stored row
    rw [withPrevEventId]
    split <;> exact ⟨rfl, rfl⟩)

theorem get?_setPrevEventId (eventId : EventId) (prevEventId : Nat) (clock : LocalClock)
    (table : EventsTable Number) (stored : EventId) :
    (table.setPrevEventId eventId prevEventId clock).get? stored =
      (table.get? stored).map (withPrevEventId eventId prevEventId clock stored) :=
  table.get?_modify _ _ stored

/-- The rows that a delivery may claim, in the order of the machine's sequence. -/
def activeRows (table : EventsTable Number) : List (EventId × EventRow Number) :=
  sortedBy (fun entry => toLex (entry.2.envelope.machineSequence, entry.1))
    (table.rows.entries.filter fun entry => entry.2.delivery.state.isActive)

/-- A row is eligible when its time has come, or when the claim on it is stale. -/
def isEligible (staleClaimMs : Nat) (clock : LocalClock) (row : EventRow Number) : Bool :=
  match row.delivery.state with
  | .pending | .retry => row.delivery.nextAttemptAt ≤ clock.now
  | .claimed claimedAt _ => claimedAt * 1000 ≤ clock.milliseconds - staleClaimMs
  | .replicated | .acknowledged _ | .quarantined _ => false

/-- A row is a candidate when it and every active row before it are eligible. -/
def claimableRows (staleClaimMs : Nat) (clock : LocalClock) (limit : Nat)
    (table : EventsTable Number) : List EventId :=
  let ordered := table.activeRows
  let candidates := ordered.zipIdx.filter fun (entry, index) =>
    isEligible staleClaimMs clock entry.2 &&
      (ordered.take (index + 1)).countP (fun earlier =>
        !isEligible staleClaimMs clock earlier.2) = 0
  (candidates.map fun (entry, _) => entry.1).take limit

/-- An unbound row takes the machine. -/
def withMachine (machineId : JsString) (clock : LocalClock) (row : EventRow Number) :
    EventRow Number :=
  if row.envelope.machineId.isNone then
    { row with
      envelope := { row.envelope with machineId := some machineId }
      delivery := { row.delivery with
        generation := row.delivery.generation + 1
        updatedAt := clock.now } }
  else row

/-- A claim binds unbound rows to the machine first. -/
def bindMachine (machineId : JsString) (clock : LocalClock) (table : EventsTable Number) :
    EventsTable Number :=
  table.modify (fun _ => withMachine machineId clock) (by
    intro _ row
    rw [withMachine]
    split <;> exact ⟨rfl, rfl⟩)

theorem get?_bindMachine (machineId : JsString) (clock : LocalClock) (table : EventsTable Number)
    (eventId : EventId) : (table.bindMachine machineId clock).get? eventId =
      (table.get? eventId).map (withMachine machineId clock) :=
  table.get?_modify _ _ eventId

/-- The first row that still has to be delivered for another machine. -/
def foreignRow (machineId : JsString) (table : EventsTable Number) : Option (EventRow Number) :=
  ((sortedBy (fun row : EventRow Number => row.envelope.machineSequence) (table.rows.rows.filter
    fun row => row.envelope.machineId.any (· ≠ machineId) && match row.delivery.state with
      | .acknowledged _ => false
      | _ => true))).head?

def claimColumns (claimOwner : JsString) (clock : LocalClock) (columns : DeliveryColumns) :
    DeliveryColumns :=
  { columns with
    state := .claimed clock.now claimOwner
    generation := columns.generation + 1
    attempts := columns.attempts + 1
    lastError := none
    updatedAt := clock.now }

def claimDeliveries (input : LocalHookDeliveryClaimInput) (clock : LocalClock)
    (table : EventsTable Number) :
    Except EventsDbError (List (EventId × EventRow Number) × EventsTable Number) := do
  let machineId ← localEventUuid input.machineId
  let claimOwner ← localNonblank "claim owner" input.claimOwner
  let limit ← positiveBatchLimit "delivery limit" input.limit
  let staleClaimMs ← nonnegativeMilliseconds "stale claim milliseconds" input.staleClaimMs
  match table.foreignRow machineId with
  | some row => .error (.differentMachine row.envelope.eventUuid)
  | none =>
      let bound := table.bindMachine machineId clock
      let candidates := bound.claimableRows staleClaimMs clock limit
      let after := bound.deliver (fun eventId _ => eventId ∈ candidates) (claimColumns claimOwner clock)
      let claimed := sortedBy (fun entry : EventId × EventRow Number =>
        toLex (entry.2.envelope.machineSequence, entry.1))
          (after.rows.entries.filter fun entry => entry.1 ∈ candidates)
      pure (claimed, after)

/-- A guarded update of one event by its identifier; it tells whether it changed a row. -/
def transition (eventUuid : JsString) (guard' : DeliveryColumns → Bool)
    (change : DeliveryColumns → DeliveryColumns) (table : EventsTable Number) :
    Bool × EventsTable Number :=
  let condition := fun (_ : EventId) (row : EventRow Number) =>
    row.envelope.eventUuid = eventUuid && guard' row.delivery
  (table.changes condition == 1, table.deliver condition change)

def claimedBy (owner : JsString) (columns : DeliveryColumns) : Bool :=
  match columns.state with
  | .claimed _ claimOwner => claimOwner == owner
  | _ => false

def markReplicated (eventId claimOwner : JsString) (remoteInboxId : Int) (clock : LocalClock)
    (table : EventsTable Number) : Except EventsDbError (Bool × EventsTable Number) := do
  let inboxId ← formatRemoteInboxId remoteInboxId
  let eventId ← localEventUuid eventId
  let claimOwner ← localNonblank "claim owner" claimOwner
  pure (table.transition eventId (claimedBy claimOwner) fun columns => { columns with
    state := .replicated
    generation := columns.generation + 1
    lastError := none
    remoteInboxId := some inboxId
    updatedAt := clock.now })

def requeueReplicated (eventId : JsString) (remoteInboxId : Int) (clock : LocalClock)
    (table : EventsTable Number) : Except EventsDbError (Bool × EventsTable Number) := do
  let inboxId ← formatRemoteInboxId remoteInboxId
  let eventId ← localEventUuid eventId
  pure (table.transition eventId (fun columns => columns.state == .replicated &&
      columns.remoteInboxId == some inboxId) fun columns => { columns with
    state := .pending
    generation := columns.generation + 1
    nextAttemptAt := clock.now
    lastError := none
    remoteInboxId := none
    updatedAt := clock.now })

/-- The time of the next attempt is none when the database cannot read its text. -/
def markDeliveryRetry (eventId claimOwner error : JsString) (nextAttemptAt : Option SqliteTime)
    (clock : LocalClock) (table : EventsTable Number) :
    Except EventsDbError (Bool × EventsTable Number) := do
  let eventId ← localEventUuid eventId
  let claimOwner ← localNonblank "claim owner" claimOwner
  match nextAttemptAt with
  | some nextAttemptAt =>
      pure (table.transition eventId (claimedBy claimOwner) fun columns => { columns with
        state := .retry
        generation := columns.generation + 1
        nextAttemptAt := nextAttemptAt
        lastError := some (platform.sanitizeHookErrorDiagnostic error)
        updatedAt := clock.now })
  | none =>
      if (table.transition eventId (claimedBy claimOwner) id).1 then .error .constraint
      else pure (false, table)

def markDeliveryQuarantined (eventId claimOwner reason : JsString) (clock : LocalClock)
    (table : EventsTable Number) : Except EventsDbError (Bool × EventsTable Number) := do
  let eventId ← localEventUuid eventId
  let claimOwner ← localNonblank "claim owner" claimOwner
  pure (table.transition eventId (fun columns => claimedBy claimOwner columns &&
      columns.remoteInboxId.isNone) fun columns => { columns with
    state := .quarantined (platform.sanitizeHookErrorDiagnostic reason)
    generation := columns.generation + 1
    lastError := none
    updatedAt := clock.now })

/-- The row has no inbox identifier or the given one. -/
def knownInbox (inboxId : InboxId) (columns : DeliveryColumns) : Bool :=
  columns.remoteInboxId.all (· == inboxId)

def markAcknowledged (eventId : JsString) (remoteInboxId : Int) (clock : LocalClock)
    (table : EventsTable Number) : Except EventsDbError (Bool × EventsTable Number) := do
  let inboxId ← formatRemoteInboxId remoteInboxId
  let eventId ← localEventUuid eventId
  pure (table.transition eventId (fun columns => knownInbox inboxId columns &&
      match columns.state with
      | .acknowledged _ => false
      | _ => true) fun columns => { columns with
    state := .acknowledged clock.now
    generation := columns.generation + 1
    lastError := none
    remoteInboxId := some inboxId
    updatedAt := clock.now })

def markQuarantined (eventId : JsString) (remoteInboxId : Int) (reason : JsString)
    (clock : LocalClock) (table : EventsTable Number) :
    Except EventsDbError (Bool × EventsTable Number) := do
  let inboxId ← formatRemoteInboxId remoteInboxId
  let sanitizedReason := platform.sanitizeHookErrorDiagnostic reason
  let eventId ← localEventUuid eventId
  pure (table.transition eventId (fun columns => knownInbox inboxId columns &&
      match columns.state with
      | .acknowledged _ => false
      | .quarantined stored => stored ≠ sanitizedReason
      | _ => true) fun columns => { columns with
    state := .quarantined sanitizedReason
    generation := columns.generation + 1
    lastError := none
    remoteInboxId := some inboxId
    updatedAt := clock.now })

/-- A replay goes back to the queue, or to the remote copy that the row knows of. -/
def replayQuarantined (eventId : JsString) (clock : LocalClock) (table : EventsTable Number) :
    Except EventsDbError (Bool × EventsTable Number) := do
  let eventId ← localEventUuid eventId
  pure (table.transition eventId (fun columns => match columns.state with
      | .quarantined _ => true
      | _ => false) fun columns => { columns with
    state := if columns.remoteInboxId.isNone then .pending else .replicated
    generation := columns.generation + 1
    nextAttemptAt := clock.now
    lastError := none
    updatedAt := clock.now })

def markRemotePruned (eventId : JsString) (clock : LocalClock) (table : EventsTable Number) :
    Except EventsDbError (Bool × EventsTable Number) := do
  let eventId ← localEventUuid eventId
  pure (table.transition eventId (fun columns => columns.remoteInboxId.isSome &&
      columns.remotePrunedAt.isNone && match columns.state with
      | .acknowledged _ => true
      | _ => false) fun columns => { columns with
    generation := columns.generation + 1
    remotePrunedAt := some clock.now
    updatedAt := clock.now })

end EventsTable

end Lcm.Hooks
