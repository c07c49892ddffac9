import Lcm.PostgreSql.Coordination

namespace Lcm.PostgreSql
open Text Store

/-- The lease that an owner takes at one time for a while. -/
def grantedRow (machineId processId operation : JsString) (ttl : PositiveSafeInteger)
    (token : Nat) (positive : 0 < token) (now : Instant) : LeaseRow where
  ownerMachineId := machineId
  ownerProcessId := processId
  operation := operation
  fencingToken := token
  acquiredAt := now
  renewedAt := now
  expiresAt := now + ttl.interval
  releasedAt := none
  positive := positive
  renewed := le_refl now
  expires := Int.lt_add_of_pos_right _ ttl.interval_positive
  released := fun _ outside => nomatch outside

namespace LeaseRow

/-- A renewal survives a clock that steps back behind the last renewal. -/
def renew (row : LeaseRow) (ttl : PositiveSafeInteger) (now : Instant) : LeaseRow where
  ownerMachineId := row.ownerMachineId
  ownerProcessId := row.ownerProcessId
  operation := row.operation
  fencingToken := row.fencingToken
  acquiredAt := row.acquiredAt
  renewedAt := max now row.renewedAt
  expiresAt := max now row.renewedAt + ttl.interval
  releasedAt := none
  positive := row.positive
  renewed := row.renewed.trans (le_max_right ..)
  expires := Int.lt_add_of_pos_right _ ttl.interval_positive
  released := fun _ outside => nomatch outside

def release (row : LeaseRow) (now : Instant) : LeaseRow where
  ownerMachineId := row.ownerMachineId
  ownerProcessId := row.ownerProcessId
  operation := row.operation
  fencingToken := row.fencingToken
  acquiredAt := row.acquiredAt
  renewedAt := row.renewedAt
  expiresAt := row.expiresAt
  releasedAt := some (max now row.renewedAt)
  positive := row.positive
  renewed := row.renewed
  expires := row.expires
  released := fun _ inside => Option.some.inj inside ▸ le_max_right ..

/-- The row of a released or expired lease is free to take. -/
def free (row : LeaseRow) (now : Instant) : Bool :=
  row.releasedAt.isSome || row.expiresAt ≤ now

/-- The row belongs to an owner with its token. -/
def ownedBy (row : LeaseRow) (machineId processId operation : JsString) (token : Nat) : Bool :=
  row.ownerMachineId == machineId && row.ownerProcessId == processId &&
    row.operation == operation && row.fencingToken == token

/-- The time from which the retention of a row counts. -/
def endedAt (row : LeaseRow) : Instant := row.releasedAt.getD row.expiresAt

end LeaseRow

namespace WorkCoordinator

variable (coordinator : WorkCoordinator)

def lockLeaseRow (table : LeaseTable) (key : LeaseKey) : Bool := (table.get? key).isSome

/-- A takeover draws its token only when the row under the key is free. -/
def takeOverLease (key : LeaseKey) (processId operation : JsString) (ttl : PositiveSafeInteger)
    (gap : Nat) (now : Instant) (table : LeaseTable) : Option LeaseRow × LeaseTable :=
  table.update key (fun row => row.free now) fun _ =>
    grantedRow coordinator.machineId processId operation ttl (table.nextToken gap)
      (Nat.succ_pos _) now

/-- A new row gets its times again from the statement after its insertion. -/
def insertLease (key : LeaseKey) (processId operation : JsString) (ttl : PositiveSafeInteger)
    (gap : Nat) (insertedAt now : Instant) (table : LeaseTable) :
    Except CoordinationError (Option LeaseRow) × LeaseTable :=
  match table.insertOrIgnore key (grantedRow coordinator.machineId processId operation ttl
      (table.nextToken gap) (Nat.succ_pos _) insertedAt) with
  | (none, after) => (.ok none, after)
  | (some token, after) =>
      match after.update key
        (fun row => row.ownedBy coordinator.machineId processId operation token)
        (fun row => grantedRow coordinator.machineId processId operation ttl row.fencingToken
          row.positive now) with
      | (none, after) => (.error (.data "acquireLease" "inserted_lease"), after)
      | (some row, after) => (.ok (some row), after)

def acquireLease (input : AcquireLeaseInput) (gap : Nat) (insertedAt now : Instant)
    (table : LeaseTable) : Except CoordinationError (Option FencedLease) × LeaseTable :=
  match acquireLeaseInput "acquireLease" input with
  | .error error => (.error error, table)
  | .ok (resource, processId, operation, ttl) =>
      coordinator.atomic "acquireLease" table fun table =>
        let key := coordinator.key resource
        if lockLeaseRow table key then
          let (row, after) := coordinator.takeOverLease key processId operation ttl gap now table
          (coordinator.leaseFromRow? "acquireLease" key row, after)
        else
          match coordinator.insertLease key processId operation ttl gap insertedAt now table with
          | (.error error, after) => (.error error, after)
          | (.ok row, after) => (coordinator.leaseFromRow? "acquireLease" key row, after)

/-- The lease under a key that a mutation owns and that nobody has released. -/
def holds (lease : LeaseMutation) (row : LeaseRow) : Bool :=
  row.ownedBy coordinator.machineId lease.processId lease.operation lease.fencingToken &&
    row.releasedAt.isNone

def renewLease (input : LeaseMutationInput) (ttlMs : Int) (now : Instant) (table : LeaseTable) :
    Except CoordinationError (Option FencedLease) × LeaseTable :=
  match do
    let lease ← leaseMutationInput "renewLease" input
    let ttl ← positiveSafeInteger "renewLease" "ttl_ms" ttlMs
    pure (lease, ttl) with
  | .error error => (.error error, table)
  | .ok (lease, ttl) =>
      coordinator.atomic "renewLease" table fun table =>
        let key := coordinator.key lease.toCoordinationResource
        if lockLeaseRow table key then
          let (row, after) := table.update key
            (fun row => coordinator.holds lease row && row.expiresAt > now)
            (fun row => row.renew ttl now)
          (coordinator.leaseFromRow? "renewLease" key row, after)
        else (.ok none, table)

def releaseLease (input : LeaseMutationInput) (now : Instant) (table : LeaseTable) :
    Except CoordinationError (Option FencedLease) × LeaseTable :=
  match leaseMutationInput "releaseLease" input with
  | .error error => (.error error, table)
  | .ok lease =>
      coordinator.atomic "releaseLease" table fun table =>
        let key := coordinator.key lease.toCoordinationResource
        let (row, after) := table.update key (coordinator.holds lease) (fun row => row.release now)
        (coordinator.leaseFromRow? "releaseLease" key row, after)

/-- The fence holds in the transaction that checks it; the check changes nothing. -/
def assertLeaseFence (input : LeaseMutationInput) (now : Instant) (table : LeaseTable) :
    Except CoordinationError LeaseFenceValidation := do
  let lease ← leaseMutationInput "assertLeaseFence" input
  coordinator.transactionScope "assertLeaseFence"
  let key := coordinator.key lease.toCoordinationResource
  if lockLeaseRow table key then pure ()
  else .error (.leaseFence lease.fencingToken "assertLeaseFence")
  match (table.get? key).filter fun row => coordinator.holds lease row && row.expiresAt > now with
  | none => .error (.leaseFence lease.fencingToken "assertLeaseFence")
  | some row =>
      let token ← exactBigInt "assertLeaseFence" "fencing_token" 1 row.fencingToken
      if token ≠ lease.fencingToken then
        .error (.leaseFence lease.fencingToken "assertLeaseFence")
      let validatedAt ← coordinator.timestamp "assertLeaseFence" "validated_at" now
      pure ⟨lease.toCoordinationResource, coordinator.projectId, coordinator.machineId,
        lease.processId, lease.operation, lease.fencingToken, validatedAt⟩

/-- The rows that the retention of a cleanup has passed, oldest first and within the limit. -/
def expiredLeases (retention : PositiveSafeInteger) (limit : PositiveSafeInteger) (now : Instant)
    (table : LeaseTable) : List LeaseKey :=
  let expired := table.rows.entries.filter fun (key, row) =>
    key.projectId = coordinator.projectId && key.resourceType ≠ backendPublicationResourceType &&
      row.endedAt ≤ now - retention.interval
  let ordered := sortedBy (fun (key, row) => toLex (row.endedAt,
    toLex (coordinator.executor.collation key.resourceType,
      coordinator.executor.collation key.resourceKey))) expired
  (ordered.take limit.value).map Prod.fst

def cleanupLeases (retentionMs limit : Int) (now : Instant) (table : LeaseTable) :
    Except CoordinationError Nat × LeaseTable :=
  match do
    let retention ← positiveSafeInteger "cleanupLeases" "retention_ms" retentionMs
    let limit ← positiveSafeInteger "cleanupLeases" "limit" limit
    pure (retention, limit) with
  | .error error => (.error error, table)
  | .ok (retention, limit) =>
      coordinator.atomic "cleanupLeases" table fun table =>
        let keys := coordinator.expiredLeases retention limit now table
        (exactBigInt "cleanupLeases" "count" 0 keys.length, table.delete keys)

end WorkCoordinator

end Lcm.PostgreSql
