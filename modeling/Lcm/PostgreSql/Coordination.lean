import Lcm.Library.KeyedTable
import Lcm.Library.SortedBy
import Lcm.Store.Messages
import Lcm.Text.Uuid

namespace Lcm.PostgreSql
open Text Store

/-- A stored time in microseconds. -/
abbrev Instant := Int

/-- The errors of the work coordinator. -/
inductive CoordinationError where
  | data (operation field : String)
  | leaseFence (fencingToken : Nat) (operation : String)
  | transactionScope (operation : String)
  | database (operation : String)
  deriving DecidableEq

def coordinationText (operation field : String) (value : JsString) :
    Except CoordinationError JsString :=
  if isPostgreSqlText value then .ok value else .error (.data operation field)

def nonblankText (operation field : String) (value : JsString) :
    Except CoordinationError JsString := do
  let candidate ← coordinationText operation field value
  if isNonblank candidate then pure candidate else .error (.data operation field)

def uuid (operation field : String) (value : JsString) : Except CoordinationError JsString := do
  let candidate ← coordinationText operation field value
  if isUuid (lowerAscii candidate) then pure (lowerAscii candidate)
  else .error (.data operation field)

def uuidV7 (operation field : String) (value : JsString) : Except CoordinationError JsString := do
  let candidate ← uuid operation field value
  if hasVersion [55] candidate then pure candidate else .error (.data operation field)

/-- A positive integer that a JavaScript number holds without loss. -/
structure PositiveSafeInteger where
  value : Nat
  positive : 0 < value
  safe : value ≤ maxSafeInteger
  deriving DecidableEq

def positiveSafeInteger (operation field : String) (value : Int) :
    Except CoordinationError PositiveSafeInteger :=
  if bounds : 0 < value.toNat ∧ value.toNat ≤ maxSafeInteger then
    .ok ⟨value.toNat, bounds.1, bounds.2⟩
  else .error (.data operation field)

def exactBigInt (operation field : String) (minimum : Nat) (value : Int) :
    Except CoordinationError Nat :=
  if (minimum : Int) ≤ value then .ok value.toNat else .error (.data operation field)

/-- The executor of a coordinator: a pool that opens transactions, or an open transaction. -/
inductive TransactionScope where
  | pool
  | active (isolation : JsString)
  | inactive
  deriving DecidableEq

/-- The connection gives each stored time as a date and orders text by its collation. -/
structure CoordinationExecutor where
  scope : TransactionScope
  toDate : Instant → Option Timestamp
  collation : JsString → Nat

/-- A coordinator works for one machine in one project. -/
structure WorkCoordinator where
  executor : CoordinationExecutor
  projectId : JsString
  machineId : JsString
  projectValid : uuidV7 "construct" "project_id" projectId = .ok projectId
  machineValid : uuidV7 "construct" "machine_id" machineId = .ok machineId

structure CoordinationResource where
  resourceType : JsString
  resourceKey : JsString
  deriving DecidableEq

def backendPublicationResourceType : JsString := js "backend-publication"

def resource (operation : String) (value : CoordinationResource) :
    Except CoordinationError CoordinationResource := do
  let resourceType ← nonblankText operation "resource_type" value.resourceType
  if resourceType = backendPublicationResourceType then .error (.data operation "resource_type")
  let resourceKey ← nonblankText operation "resource_key" value.resourceKey
  pure ⟨resourceType, resourceKey⟩

/-- The primary key of a lease. -/
structure LeaseKey extends CoordinationResource where
  projectId : JsString
  deriving DecidableEq

/-- A row keeps the order of its times and a positive token, as the table's checks require. -/
structure LeaseRow where
  ownerMachineId : JsString
  ownerProcessId : JsString
  operation : JsString
  fencingToken : Nat
  acquiredAt : Instant
  renewedAt : Instant
  expiresAt : Instant
  releasedAt : Option Instant
  positive : 0 < fencingToken
  renewed : acquiredAt ≤ renewedAt
  expires : renewedAt < expiresAt
  released : ∀ time ∈ releasedAt, renewedAt ≤ time

/-- The leases and the last token that their sequence handed out. -/
structure LeaseTable where
  rows : KeyedTable LeaseKey LeaseRow
  lastToken : Nat
  within : ∀ key row, rows.get? key = some row → row.fencingToken ≤ lastToken

namespace LeaseTable

def empty : LeaseTable := ⟨.empty, 0, fun _ _ found => nomatch found⟩

def get? (table : LeaseTable) (key : LeaseKey) : Option LeaseRow := table.rows.get? key

/-- The sequence has handed out every token up to a given one. -/
def advance (table : LeaseTable) (token : Nat) : LeaseTable where
  rows := table.rows
  lastToken := max table.lastToken token
  within key row found := (table.within key row found).trans (le_max_left ..)

/-- A default token is later than all earlier ones; other tables and transactions leave gaps. -/
def nextToken (table : LeaseTable) (gap : Nat) : Nat := table.lastToken + gap + 1

/-- One row takes the place of the row under its key. -/
def write (table : LeaseTable) (key : LeaseKey) (row : LeaseRow) : LeaseTable where
  rows := table.rows.put key row
  lastToken := max table.lastToken row.fencingToken
  within other stored found := by
    rw [KeyedTable.get?_put] at found
    split at found
    · cases found
      exact le_max_right ..
    · exact (table.within other stored found).trans (le_max_left ..)

/-- An update changes and returns the row under a key when the row meets its condition. -/
def update (table : LeaseTable) (key : LeaseKey) (condition : LeaseRow → Bool)
    (change : LeaseRow → LeaseRow) : Option LeaseRow × LeaseTable :=
  match table.get? key with
  | none => (none, table)
  | some row =>
      if condition row then (some (change row), table.write key (change row)) else (none, table)

/-- An insertion that ignores a conflict still draws a token from the sequence. -/
def insertOrIgnore (table : LeaseTable) (key : LeaseKey) (row : LeaseRow) :
    Option Nat × LeaseTable :=
  if (table.get? key).isSome then (none, table.advance row.fencingToken)
  else (some row.fencingToken, table.write key row)

/-- A deletion removes the rows under some keys. -/
def delete (table : LeaseTable) (keys : List LeaseKey) : LeaseTable where
  rows := table.rows.retain fun entry => entry.1 ∉ keys
  lastToken := table.lastToken
  within key row found := table.within key row (KeyedTable.get?_retain.mp found).1

@[simp] theorem advance_get? (table : LeaseTable) (token : Nat) (key : LeaseKey) :
    (table.advance token).get? key = table.get? key := rfl

theorem write_get? (table : LeaseTable) (key other : LeaseKey) (row : LeaseRow) :
    (table.write key row).get? other = if other = key then some row else table.get? other :=
  KeyedTable.get?_put ..

theorem delete_get? {table : LeaseTable} {keys : List LeaseKey} {key : LeaseKey} {row : LeaseRow} :
    (table.delete keys).get? key = some row ↔ table.get? key = some row ∧ key ∉ keys := by
  simp [get?, delete, KeyedTable.get?_retain]

end LeaseTable

structure FencedLease extends CoordinationResource where
  projectId : JsString
  machineId : JsString
  processId : JsString
  operation : JsString
  fencingToken : Nat
  acquiredAt : Timestamp
  renewedAt : Timestamp
  expiresAt : Timestamp
  releasedAt : Option Timestamp
  deriving DecidableEq

structure LeaseFenceValidation extends CoordinationResource where
  projectId : JsString
  machineId : JsString
  processId : JsString
  operation : JsString
  fencingToken : Nat
  validatedAt : Timestamp
  deriving DecidableEq

structure AcquireLeaseInput extends CoordinationResource where
  processId : JsString
  operation : JsString
  ttlMs : Int
  deriving DecidableEq

structure LeaseMutationInput extends CoordinationResource where
  processId : JsString
  operation : JsString
  fencingToken : Int
  deriving DecidableEq

/-- The lease that a checked mutation names. -/
structure LeaseMutation extends CoordinationResource where
  processId : JsString
  operation : JsString
  fencingToken : Nat
  deriving DecidableEq

namespace WorkCoordinator

variable (coordinator : WorkCoordinator)

def key (value : CoordinationResource) : LeaseKey := ⟨value, coordinator.projectId⟩

def timestamp (operation field : String) (value : Instant) : Except CoordinationError Timestamp :=
  match coordinator.executor.toDate value with
  | some date => .ok date
  | none => .error (.data operation field)

def nullableTimestamp (operation field : String) (value : Option Instant) :
    Except CoordinationError (Option Timestamp) :=
  match value with
  | none => .ok none
  | some time => (coordinator.timestamp operation field time).map some

def leaseFromRow (operation : String) (key : LeaseKey) (row : LeaseRow) :
    Except CoordinationError FencedLease := do
  let machineId ← uuidV7 operation "owner_machine_id" row.ownerMachineId
  let projectId ← uuidV7 operation "project_id" key.projectId
  let resourceType ← nonblankText operation "resource_type" key.resourceType
  let resourceKey ← nonblankText operation "resource_key" key.resourceKey
  let processId ← nonblankText operation "owner_process_id" row.ownerProcessId
  let leaseOperation ← nonblankText operation "lease_operation" row.operation
  let fencingToken ← exactBigInt operation "fencing_token" 1 row.fencingToken
  let acquiredAt ← coordinator.timestamp operation "acquired_at" row.acquiredAt
  let renewedAt ← coordinator.timestamp operation "renewed_at" row.renewedAt
  let expiresAt ← coordinator.timestamp operation "expires_at" row.expiresAt
  let releasedAt ← coordinator.nullableTimestamp operation "released_at" row.releasedAt
  pure ⟨⟨resourceType, resourceKey⟩, projectId, machineId, processId, leaseOperation, fencingToken,
    acquiredAt, renewedAt, expiresAt, releasedAt⟩

/-- The lease of a returned row; no row gives no lease. -/
def leaseFromRow? (operation : String) (key : LeaseKey) (row : Option LeaseRow) :
    Except CoordinationError (Option FencedLease) :=
  match row with
  | none => .ok none
  | some row => (coordinator.leaseFromRow operation key row).map some

def acquireLeaseInput (operation : String) (input : AcquireLeaseInput) :
    Except CoordinationError (CoordinationResource × JsString × JsString × PositiveSafeInteger) := do
  let resource ← resource operation input.toCoordinationResource
  let processId ← nonblankText operation "owner_process_id" input.processId
  let leaseOperation ← nonblankText operation "lease_operation" input.operation
  let ttlMs ← positiveSafeInteger operation "ttl_ms" input.ttlMs
  pure (resource, processId, leaseOperation, ttlMs)

def leaseMutationInput (operation : String) (input : LeaseMutationInput) :
    Except CoordinationError LeaseMutation := do
  let resource ← resource operation input.toCoordinationResource
  let processId ← nonblankText operation "owner_process_id" input.processId
  let leaseOperation ← nonblankText operation "lease_operation" input.operation
  let fencingToken ← exactBigInt operation "fencing_token" 1 input.fencingToken
  pure ⟨resource, processId, leaseOperation, fencingToken⟩

def assertReadCommitted (operation : String) (isolation : JsString) :
    Except CoordinationError Unit := do
  let isolation ← coordinationText operation "transaction_isolation" isolation
  if lowerAscii (trim isolation) = js "read committed" then pure ()
  else .error (.data operation "transaction_isolation")

/-- An open transaction must run at the isolation level that the guarded updates need. -/
def transactionScope (operation : String) : Except CoordinationError Unit :=
  match coordinator.executor.scope with
  | .active isolation => assertReadCommitted operation isolation
  | .pool | .inactive => .error (.transactionScope operation)

/-- A call runs in a transaction of its own or in a savepoint of the open transaction. -/
def atomicScope (operation : String) : Except CoordinationError Unit :=
  match coordinator.executor.scope with
  | .pool => .ok ()
  | .active isolation => assertReadCommitted operation isolation
  | .inactive => .error (.transactionScope operation)

/-- An error restores the rows; the sequence does not take tokens back. -/
def atomic {Reply : Type} (operation : String) (table : LeaseTable)
    (callback : LeaseTable → Except CoordinationError Reply × LeaseTable) :
    Except CoordinationError Reply × LeaseTable :=
  match coordinator.atomicScope operation with
  | .error error => (.error error, table)
  | .ok () =>
      match callback table with
      | (.ok reply, after) => (.ok reply, after)
      | (.error error, after) => (.error error, table.advance after.lastToken)

end WorkCoordinator

/-- The times of an interval in milliseconds are stored in microseconds. -/
def PositiveSafeInteger.interval (duration : PositiveSafeInteger) : Instant := duration.value * 1000

theorem PositiveSafeInteger.interval_positive (duration : PositiveSafeInteger) :
    0 < duration.interval :=
  Int.mul_pos (Int.natCast_pos.mpr duration.positive) (by decide)

end Lcm.PostgreSql
