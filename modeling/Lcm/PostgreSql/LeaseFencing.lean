import Lcm.Library.Except
import Lcm.Library.StepSystem
import Lcm.PostgreSql.Leases

namespace Lcm.PostgreSql
open Text Store

/-- A request of one coordinator; the gap counts the tokens that others drew before an acquisition. -/
inductive LeaseRequest where
  | acquire (input : AcquireLeaseInput) (gap : Nat) (insertedAt : Instant)
  | renew (input : LeaseMutationInput) (ttlMs : Int)
  | release (input : LeaseMutationInput)
  | assertFence (input : LeaseMutationInput)
  | cleanup (retentionMs limit : Int)

structure LeaseCall where
  coordinator : WorkCoordinator
  request : LeaseRequest
  now : Instant

inductive LeaseReply where
  | lease (lease : Option FencedLease)
  | fence (validation : LeaseFenceValidation)
  | cleanup (deleted : Nat)
  deriving DecidableEq

namespace LeaseCall

/-- A call takes place at one moment and leaves the table after it. -/
def perform (call : LeaseCall) (table : LeaseTable) :
    Except CoordinationError LeaseReply × LeaseTable :=
  match call.request with
  | .acquire input gap insertedAt =>
      let (lease, after) := call.coordinator.acquireLease input gap insertedAt call.now table
      (lease.map .lease, after)
  | .renew input ttlMs =>
      let (lease, after) := call.coordinator.renewLease input ttlMs call.now table
      (lease.map .lease, after)
  | .release input =>
      let (lease, after) := call.coordinator.releaseLease input call.now table
      (lease.map .lease, after)
  | .assertFence input => ((call.coordinator.assertLeaseFence input call.now table).map .fence, table)
  | .cleanup retentionMs limit =>
      let (deleted, after) := call.coordinator.cleanupLeases retentionMs limit call.now table
      (deleted.map .cleanup, after)

/-- The lease and the token that a renewal, a release or a fence check names. -/
def names (call : LeaseCall) : Option (LeaseKey × Int) :=
  match call.request with
  | .renew input _ | .release input | .assertFence input =>
      some (call.coordinator.key input.toCoordinationResource, input.fencingToken)
  | .acquire .. | .cleanup .. => none

/-- The token that an acquisition returns for its lease. -/
def grant (call : LeaseCall) (reply : Except CoordinationError LeaseReply) :
    Option (LeaseKey × Nat) :=
  match call.request, reply with
  | .acquire input _ _, .ok (.lease (some lease)) =>
      some (call.coordinator.key input.toCoordinationResource, lease.fencingToken)
  | _, _ => none

end LeaseCall

/-- A call succeeds when it returns a lease or a validated fence. -/
def LeaseReply.succeeds : Except CoordinationError LeaseReply → Bool
  | .ok (.lease (some _)) | .ok (.fence _) => true
  | _ => false

/-- The table with the tokens that all acquisitions so far have returned. -/
structure LeaseRun where
  table : LeaseTable
  granted : List (LeaseKey × Nat)

def LeaseRun.step (run : LeaseRun) (call : LeaseCall) : LeaseRun :=
  let (reply, after) := call.perform run.table
  ⟨after, run.granted ++ (call.grant reply).toList⟩

def leaseSystem : StepSystem LeaseRun LeaseCall where
  start run := run.granted = []
  step before call after := after = before.step call

namespace LeaseTable

/-- Every row of the later table is new, or keeps the token of the old row and stays released. -/
structure Advances (table after : LeaseTable) : Prop where
  tokens : table.lastToken ≤ after.lastToken
  rows : ∀ key row, after.get? key = some row → table.lastToken < row.fencingToken ∨
    ∃ old, table.get? key = some old ∧ old.fencingToken = row.fencingToken ∧
      (old.releasedAt.isSome → row.releasedAt.isSome)

/-- A token of the past that no row can still be held with. -/
def Superseded (table : LeaseTable) (key : LeaseKey) (token : Nat) : Prop :=
  token ≤ table.lastToken ∧
    ∀ row, table.get? key = some row → row.fencingToken = token → row.releasedAt.isSome

namespace Advances

variable {table after : LeaseTable}

theorem refl (table : LeaseTable) : Advances table table where
  tokens := le_rfl
  rows _ row found := .inr ⟨row, found, rfl, id⟩

theorem trans {last : LeaseTable} (first : Advances table after) (second : Advances after last) :
    Advances table last where
  tokens := first.tokens.trans second.tokens
  rows key row found := by
    rcases second.rows key row found with newer | ⟨old, oldFound, sameToken, released⟩
    · exact .inl (first.tokens.trans_lt newer)
    · rw [← sameToken]
      rcases first.rows key old oldFound with newer | ⟨oldest, oldestFound, same, kept⟩
      · exact .inl newer
      · exact .inr ⟨oldest, oldestFound, same, fun was => released (kept was)⟩

/-- Drawn tokens stay drawn when the rows are restored. -/
theorem restored (advances : Advances table after) : Advances table (table.advance after.lastToken) where
  tokens := le_max_left ..
  rows _ row found := .inr ⟨row, found, rfl, id⟩

theorem delete (table : LeaseTable) (keys : List LeaseKey) : Advances table (table.delete keys) where
  tokens := le_rfl
  rows _ row found := .inr ⟨row, (delete_get?.mp found).1, rfl, id⟩

theorem write_new {key : LeaseKey} {row : LeaseRow} (newer : table.lastToken < row.fencingToken) :
    Advances table (table.write key row) where
  tokens := le_max_left ..
  rows other found stored := by
    rw [write_get?] at stored
    split at stored
    · cases stored
      exact .inl newer
    · exact .inr ⟨found, stored, rfl, id⟩

theorem write_same {key : LeaseKey} {old row : LeaseRow} (stored : table.get? key = some old)
    (same : old.fencingToken = row.fencingToken)
    (released : old.releasedAt.isSome → row.releasedAt.isSome) :
    Advances table (table.write key row) where
  tokens := le_max_left ..
  rows other found after := by
    rw [write_get?] at after
    split at after
    · next atKey =>
        cases after
        exact .inr ⟨old, atKey ▸ stored, same, released⟩
    · exact .inr ⟨found, after, rfl, id⟩

/-- An update advances when the change of a matching row takes a new token or keeps the old one. -/
theorem update {key : LeaseKey} {condition : LeaseRow → Bool} {change : LeaseRow → LeaseRow}
    (changes : ∀ row, table.get? key = some row → condition row = true →
      table.lastToken < (change row).fencingToken ∨
        row.fencingToken = (change row).fencingToken ∧
          (row.releasedAt.isSome → (change row).releasedAt.isSome)) :
    Advances table (table.update key condition change).2 := by
  rw [LeaseTable.update]
  cases stored : table.get? key with
  | none => exact refl table
  | some row =>
      by_cases matched : condition row = true
      · simp only [matched, if_true]
        rcases changes row stored matched with newer | ⟨same, released⟩
        · exact write_new newer
        · exact write_same stored same released
      · simp only [matched]
        exact refl table

/-- A superseded token stays superseded. -/
theorem superseded (advances : Advances table after) {key : LeaseKey} {token : Nat}
    (superseded : table.Superseded key token) : after.Superseded key token := by
  constructor
  · exact superseded.1.trans advances.tokens
  · intro row found same
    rcases advances.rows key row found with newer | ⟨old, oldFound, sameToken, released⟩
    · have past := superseded.1
      omega
    · exact released (superseded.2 old oldFound (sameToken.trans same))

end Advances

/-- A matching update returns the row that it wrote. -/
theorem update_some {table after : LeaseTable} {key : LeaseKey} {condition : LeaseRow → Bool}
    {change : LeaseRow → LeaseRow} {row : LeaseRow}
    (updated : table.update key condition change = (some row, after)) :
    ∃ old, table.get? key = some old ∧ condition old = true ∧ row = change old ∧
      after = table.write key row := by
  rw [update] at updated
  cases stored : table.get? key with
  | none => simp [stored] at updated
  | some old =>
      simp only [stored] at updated
      split at updated
      · next matched =>
          obtain ⟨same, rfl⟩ := Prod.mk.inj updated
          cases same
          exact ⟨old, rfl, matched, rfl, rfl⟩
      · cases (Prod.mk.inj updated).1

end LeaseTable

namespace WorkCoordinator

variable {coordinator : WorkCoordinator} {table : LeaseTable}

/-- A transaction advances the table when its statements do. -/
theorem atomic_advances {Reply : Type} {operation : String}
    {callback : LeaseTable → Except CoordinationError Reply × LeaseTable}
    (advances : table.Advances (callback table).2) :
    table.Advances (coordinator.atomic operation table callback).2 := by
  rw [atomic]
  cases coordinator.atomicScope operation with
  | error error => exact .refl table
  | ok _ =>
      cases result : callback table with
      | mk reply after =>
          rw [result] at advances
          cases reply with
          | ok reply => exact advances
          | error error => exact advances.restored

/-- A reply of a transaction is the reply of its statements. -/
theorem atomic_ok {Reply : Type} {operation : String} {after : LeaseTable} {reply : Reply}
    {callback : LeaseTable → Except CoordinationError Reply × LeaseTable}
    (committed : coordinator.atomic operation table callback = (.ok reply, after)) :
    callback table = (.ok reply, after) := by
  rw [atomic] at committed
  cases scope : coordinator.atomicScope operation with
  | error error => simp [scope] at committed
  | ok _ =>
      simp only [scope] at committed
      cases result : callback table with
      | mk found last =>
          cases found with
          | ok found =>
              rw [result] at committed
              exact committed
          | error error => simp [result] at committed

theorem nextToken_later (table : LeaseTable) (gap : Nat) : table.lastToken < table.nextToken gap := by
  rw [LeaseTable.nextToken]
  omega

theorem leaseFromRow_token {operation : String} {key : LeaseKey} {row : LeaseRow}
    {lease : FencedLease} (read : coordinator.leaseFromRow operation key row = .ok lease) :
    lease.fencingToken = row.fencingToken := by
  simp only [leaseFromRow, Except.bind_eq_ok, Except.pure_eq_ok] at read
  obtain ⟨_, _, _, _, _, _, _, _, _, _, _, _, token, checked, _, _, _, _, _, _, _, _, rfl⟩ := read
  rw [exactBigInt] at checked
  split at checked
  · exact (Except.ok.inj checked).symm
  · cases checked

theorem leaseFromRow?_some {operation : String} {key : LeaseKey} {row : Option LeaseRow}
    {lease : FencedLease} (read : coordinator.leaseFromRow? operation key row = .ok (some lease)) :
    ∃ stored, row = some stored ∧ lease.fencingToken = stored.fencingToken := by
  cases row with
  | none => simp [leaseFromRow?] at read
  | some stored =>
      obtain ⟨found, parsed, same⟩ := Except.map_eq_ok.mp read
      cases same
      exact ⟨stored, rfl, leaseFromRow_token parsed⟩

theorem nonblankText_ok {operation field : String} {value checked : JsString}
    (read : nonblankText operation field value = .ok checked) : checked = value := by
  rw [nonblankText, Except.bind_eq_ok] at read
  obtain ⟨candidate, text, rest⟩ := read
  rw [coordinationText] at text
  split at text
  · cases text
    split at rest
    · exact (Except.pure_eq_ok.mp rest).symm
    · cases rest
  · cases text

/-- A checked resource is the resource that the caller named. -/
theorem resource_ok {operation : String} {value checked : CoordinationResource}
    (read : resource operation value = .ok checked) : checked = value := by
  rw [resource, Except.bind_eq_ok] at read
  obtain ⟨resourceType, typeRead, rest⟩ := read
  split at rest
  · cases rest
  · rw [Except.bind_eq_ok] at rest
    obtain ⟨resourceKey, keyRead, same⟩ := rest
    rw [← Except.pure_eq_ok.mp same, nonblankText_ok typeRead, nonblankText_ok keyRead]

theorem acquireLeaseInput_resource {operation : String} {input : AcquireLeaseInput}
    {found : CoordinationResource} {processId leaseOperation : JsString} {ttl : PositiveSafeInteger}
    (read : acquireLeaseInput operation input = .ok (found, processId, leaseOperation, ttl)) :
    found = input.toCoordinationResource := by
  simp only [acquireLeaseInput, Except.bind_eq_ok, Except.pure_eq_ok] at read
  obtain ⟨checked, resourceRead, _, _, _, _, _, _, same⟩ := read
  cases same
  exact resource_ok resourceRead

theorem leaseMutationInput_ok {operation : String} {input : LeaseMutationInput}
    {lease : LeaseMutation} (read : leaseMutationInput operation input = .ok lease) :
    lease.toCoordinationResource = input.toCoordinationResource ∧
      (lease.fencingToken : Int) = input.fencingToken := by
  simp only [leaseMutationInput, Except.bind_eq_ok, Except.pure_eq_ok] at read
  obtain ⟨checked, resourceRead, _, _, _, _, token, tokenRead, rfl⟩ := read
  constructor
  · exact resource_ok resourceRead
  · rw [exactBigInt] at tokenRead
    split at tokenRead
    · next bound =>
        cases tokenRead
        exact Int.toNat_of_nonneg (by omega)
    · cases tokenRead

theorem leaseMutationInput_owner {operation : String} {input : LeaseMutationInput}
    {lease : LeaseMutation} (read : leaseMutationInput operation input = .ok lease) :
    lease.processId = input.processId ∧ lease.operation = input.operation := by
  simp only [leaseMutationInput, Except.bind_eq_ok, Except.pure_eq_ok] at read
  obtain ⟨_, _, _, processRead, _, operationRead, _, _, rfl⟩ := read
  exact ⟨nonblankText_ok processRead, nonblankText_ok operationRead⟩

/-- A takeover writes a row with a new token or nothing. -/
theorem takeOverLease_advances {key : LeaseKey} {processId operation : JsString}
    {ttl : PositiveSafeInteger} {gap : Nat} {now : Instant} :
    table.Advances (coordinator.takeOverLease key processId operation ttl gap now table).2 := by
  apply LeaseTable.Advances.update
  intro row found free
  exact .inl (nextToken_later table gap)

theorem takeOverLease_some {key : LeaseKey} {processId operation : JsString}
    {ttl : PositiveSafeInteger} {gap : Nat} {now : Instant} {row : LeaseRow} {after : LeaseTable}
    (taken : coordinator.takeOverLease key processId operation ttl gap now table =
      (some row, after)) :
    after.get? key = some row ∧ table.lastToken < row.fencingToken := by
  obtain ⟨old, found, free, rfl, rfl⟩ := LeaseTable.update_some taken
  constructor
  · rw [LeaseTable.write_get?, if_pos rfl]
  · exact nextToken_later table gap

/-- An insertion writes a row with a new token when the key has none. -/
theorem insertLease_advances {key : LeaseKey} {processId operation : JsString}
    {ttl : PositiveSafeInteger} {gap : Nat} {insertedAt now : Instant}
    (absent : table.get? key = none) :
    table.Advances
      (coordinator.insertLease key processId operation ttl gap insertedAt now table).2 := by
  have inserted : ∀ row : LeaseRow, table.lastToken < row.fencingToken → row.releasedAt = none →
      ∀ (condition : LeaseRow → Bool) (change : LeaseRow → LeaseRow),
        (∀ row, (change row).fencingToken = row.fencingToken) →
          table.Advances ((table.write key row).update key condition change).2 := by
    intro row newer held condition change keeps
    apply (LeaseTable.Advances.write_new newer).trans (LeaseTable.Advances.update _)
    intro stored found matched
    rw [LeaseTable.write_get?, if_pos rfl] at found
    cases found
    exact .inr ⟨(keeps row).symm, by simp [held]⟩
  simp only [insertLease, LeaseTable.insertOrIgnore, absent, Option.isSome_none, Bool.false_eq_true,
    if_false]
  have advances := inserted (grantedRow coordinator.machineId processId operation ttl
    (table.nextToken gap) (Nat.succ_pos _) insertedAt) (nextToken_later table gap) rfl
    (fun row => row.ownedBy coordinator.machineId processId operation (table.nextToken gap))
    (fun row => grantedRow coordinator.machineId processId operation ttl row.fencingToken
      row.positive now) (fun _ => rfl)
  split
  · next result => exact (congrArg (fun updated => table.Advances updated.2) result).mp advances
  · next result => exact (congrArg (fun updated => table.Advances updated.2) result).mp advances

theorem insertLease_some {key : LeaseKey} {processId operation : JsString}
    {ttl : PositiveSafeInteger} {gap : Nat} {insertedAt now : Instant} {row : LeaseRow}
    {after : LeaseTable} (absent : table.get? key = none)
    (inserted : coordinator.insertLease key processId operation ttl gap insertedAt now table =
      (.ok (some row), after)) :
    after.get? key = some row ∧ table.lastToken < row.fencingToken := by
  simp only [insertLease, LeaseTable.insertOrIgnore, absent, Option.isSome_none, Bool.false_eq_true,
    if_false] at inserted
  split at inserted
  · cases (Prod.mk.inj inserted).1
  · next result =>
      obtain ⟨same, rfl⟩ := Prod.mk.inj inserted
      cases same
      obtain ⟨old, found, owned, rfl, rfl⟩ := LeaseTable.update_some result
      rw [LeaseTable.write_get?, if_pos rfl] at found
      cases found
      constructor
      · rw [LeaseTable.write_get?, if_pos rfl]
      · exact nextToken_later table gap

theorem acquireLease_advances (input : AcquireLeaseInput) (gap : Nat) (insertedAt now : Instant) :
    table.Advances (coordinator.acquireLease input gap insertedAt now table).2 := by
  rw [acquireLease]
  split
  · exact .refl table
  · next resource processId operation ttl checked =>
      apply atomic_advances
      dsimp only
      split
      · exact takeOverLease_advances
      · next unlocked =>
          have absent : table.get? (coordinator.key resource) = none := by
            simpa [lockLeaseRow] using unlocked
          have advances : table.Advances (coordinator.insertLease (coordinator.key resource) processId
              operation ttl gap insertedAt now table).2 := insertLease_advances absent
          split
          · next result => simpa only [result] using advances
          · next result => simpa only [result] using advances

/-- A granted lease is the row under its key, with a token later than all before. -/
theorem acquireLease_granted {input : AcquireLeaseInput} {gap : Nat} {insertedAt now : Instant}
    {lease : FencedLease} {after : LeaseTable}
    (acquired : coordinator.acquireLease input gap insertedAt now table = (.ok (some lease), after)) :
    ∃ row, after.get? (coordinator.key input.toCoordinationResource) = some row ∧
      row.fencingToken = lease.fencingToken ∧ table.lastToken < lease.fencingToken := by
  rw [acquireLease] at acquired
  split at acquired
  · cases (Prod.mk.inj acquired).1
  · next resource processId operation ttl checked =>
      rw [← acquireLeaseInput_resource checked]
      have committed := atomic_ok acquired
      dsimp only at committed
      split at committed
      · obtain ⟨read, rfl⟩ := Prod.mk.inj committed
        obtain ⟨row, taken, same⟩ := leaseFromRow?_some read
        obtain ⟨stored, newer⟩ := takeOverLease_some (Prod.ext taken rfl)
        exact ⟨row, stored, same.symm, same ▸ newer⟩
      · next unlocked =>
          have absent : table.get? (coordinator.key resource) = none := by
            simpa [lockLeaseRow] using unlocked
          split at committed
          · cases (Prod.mk.inj committed).1
          · next found last inserted =>
              obtain ⟨read, rfl⟩ := Prod.mk.inj committed
              obtain ⟨row, rfl, same⟩ := leaseFromRow?_some read
              obtain ⟨stored, newer⟩ := insertLease_some absent inserted
              exact ⟨row, stored, same.symm, same ▸ newer⟩

/-- A renewal needs the row with the caller's token and keeps it. -/
theorem renewLease_advances (input : LeaseMutationInput) (ttlMs : Int) (now : Instant) :
    table.Advances (coordinator.renewLease input ttlMs now table).2 := by
  rw [renewLease]
  split
  · exact .refl table
  · apply atomic_advances
    dsimp only
    split
    · apply LeaseTable.Advances.update
      intro row found held
      have open' : row.releasedAt = none := by
        simp only [holds, Bool.and_eq_true, Option.isNone_iff_eq_none] at held
        exact held.1.2
      exact .inr ⟨rfl, by simp [open']⟩
    · exact .refl table

theorem releaseLease_advances (input : LeaseMutationInput) (now : Instant) :
    table.Advances (coordinator.releaseLease input now table).2 := by
  rw [releaseLease]
  split
  · exact .refl table
  · apply atomic_advances
    apply LeaseTable.Advances.update
    intro row found held
    exact .inr ⟨rfl, fun _ => rfl⟩

theorem cleanupLeases_advances (retentionMs limit : Int) (now : Instant) :
    table.Advances (coordinator.cleanupLeases retentionMs limit now table).2 := by
  rw [cleanupLeases]
  split
  · exact .refl table
  · apply atomic_advances
    exact LeaseTable.Advances.delete table _

/-- A lease that holds is not superseded. -/
theorem holds_current {lease : LeaseMutation} {key : LeaseKey} {row : LeaseRow} {token : Nat}
    (stored : table.get? key = some row) (held : coordinator.holds lease row = true)
    (same : (lease.fencingToken : Int) = token) : ¬ table.Superseded key token := by
  intro superseded
  simp only [holds, LeaseRow.ownedBy, Bool.and_eq_true, beq_iff_eq, Option.isNone_iff_eq_none] at held
  have released := superseded.2 row stored (by omega)
  simp [held.2] at released

theorem renewLease_current {input : LeaseMutationInput} {ttlMs : Int} {now : Instant} {token : Nat}
    {lease : FencedLease} {after : LeaseTable} (same : input.fencingToken = token)
    (renewed : coordinator.renewLease input ttlMs now table = (.ok (some lease), after)) :
    ¬ table.Superseded (coordinator.key input.toCoordinationResource) token := by
  rw [renewLease] at renewed
  split at renewed
  · cases (Prod.mk.inj renewed).1
  · next named ttl checked =>
      obtain ⟨first, read, rest⟩ := Except.bind_eq_ok.mp checked
      obtain ⟨second, _, pair⟩ := Except.bind_eq_ok.mp rest
      cases Except.pure_eq_ok.mp pair
      obtain ⟨resource, token'⟩ := leaseMutationInput_ok read
      have committed := atomic_ok renewed
      dsimp only at committed
      split at committed
      · obtain ⟨reply, rfl⟩ := Prod.mk.inj committed
        obtain ⟨row, updated, _⟩ := leaseFromRow?_some reply
        obtain ⟨old, stored, held, _⟩ := LeaseTable.update_some (Prod.ext updated rfl)
        rw [← resource]
        exact holds_current stored (Bool.and_eq_true_iff.mp held).1 (token'.trans same)
      · cases (Prod.mk.inj committed).1

theorem releaseLease_current {input : LeaseMutationInput} {now : Instant} {token : Nat}
    {lease : FencedLease} {after : LeaseTable} (same : input.fencingToken = token)
    (released : coordinator.releaseLease input now table = (.ok (some lease), after)) :
    ¬ table.Superseded (coordinator.key input.toCoordinationResource) token := by
  rw [releaseLease] at released
  split at released
  · cases (Prod.mk.inj released).1
  · next named checked =>
      obtain ⟨resource, token'⟩ := leaseMutationInput_ok checked
      have committed := atomic_ok released
      dsimp only at committed
      obtain ⟨reply, rfl⟩ := Prod.mk.inj committed
      obtain ⟨row, updated, _⟩ := leaseFromRow?_some reply
      obtain ⟨old, stored, held, _⟩ := LeaseTable.update_some (Prod.ext updated rfl)
      rw [← resource]
      exact holds_current stored held (token'.trans same)

/-- A validated fence belongs to the holder of the row under its key. -/
theorem assertLeaseFence_held {input : LeaseMutationInput} {now : Instant}
    {validation : LeaseFenceValidation}
    (validated : coordinator.assertLeaseFence input now table = .ok validation) :
    ∃ lease row, leaseMutationInput "assertLeaseFence" input = .ok lease ∧
      table.get? (coordinator.key input.toCoordinationResource) = some row ∧
        coordinator.holds lease row = true ∧ row.expiresAt > now := by
  rw [assertLeaseFence, Except.bind_eq_ok] at validated
  obtain ⟨lease, checked, rest⟩ := validated
  rw [Except.bind_eq_ok] at rest
  obtain ⟨_, _, rest⟩ := rest
  rw [← (leaseMutationInput_ok checked).1]
  dsimp only at rest
  split at rest
  · split at rest
    · cases rest
    · next row found =>
        obtain ⟨stored, held⟩ := Option.filter_eq_some_iff.mp found
        simp only [Bool.and_eq_true, decide_eq_true_eq] at held
        exact ⟨lease, row, checked, stored, held⟩
  · cases rest

end WorkCoordinator

namespace LeaseCall

variable {call : LeaseCall} {table : LeaseTable}

/-- Every call advances the table. -/
theorem perform_advances (call : LeaseCall) (table : LeaseTable) :
    table.Advances (call.perform table).2 := by
  rw [perform]
  split
  · exact WorkCoordinator.acquireLease_advances ..
  · exact WorkCoordinator.renewLease_advances ..
  · exact WorkCoordinator.releaseLease_advances ..
  · exact .refl table
  · exact WorkCoordinator.cleanupLeases_advances ..

/-- A granted token is later than every token before it and stands in the row. -/
theorem grant_later {key : LeaseKey} {token : Nat}
    (granted : call.grant (call.perform table).1 = some (key, token)) :
    table.lastToken < token ∧
      ∃ row, (call.perform table).2.get? key = some row ∧ row.fencingToken = token := by
  obtain ⟨coordinator, request, now⟩ := call
  cases request with
  | acquire input gap insertedAt =>
      simp only [grant, perform] at granted ⊢
      cases acquired : coordinator.acquireLease input gap insertedAt now table with
      | mk reply after =>
          rw [acquired] at granted
          rcases reply with error | lease
          · simp [Except.map] at granted
          · rcases lease with _ | lease
            · simp [Except.map] at granted
            · simp only [Except.map, Option.some.injEq, Prod.mk.injEq] at granted
              obtain ⟨rfl, rfl⟩ := granted
              obtain ⟨row, stored, same, newer⟩ := WorkCoordinator.acquireLease_granted acquired
              exact ⟨newer, row, stored, same⟩
  | renew | release | assertFence | cleanup => simp [grant] at granted

/-- A superseded token is refused by renewal, release and fence check. -/
theorem superseded_fails {key : LeaseKey} {token : Nat} (names : call.names = some (key, (token : Int)))
    (superseded : table.Superseded key token) :
    LeaseReply.succeeds (call.perform table).1 = false := by
  obtain ⟨coordinator, request, now⟩ := call
  cases request with
  | renew input ttlMs =>
      obtain ⟨rfl, same⟩ := Prod.mk.inj (Option.some.inj names)
      cases renewed : coordinator.renewLease input ttlMs now table with
      | mk reply after =>
          simp only [perform, renewed]
          rcases reply with error | lease
          · rfl
          · rcases lease with _ | lease
            · rfl
            · exact absurd superseded (WorkCoordinator.renewLease_current same renewed)
  | release input =>
      obtain ⟨rfl, same⟩ := Prod.mk.inj (Option.some.inj names)
      cases released : coordinator.releaseLease input now table with
      | mk reply after =>
          simp only [perform, released]
          rcases reply with error | lease
          · rfl
          · rcases lease with _ | lease
            · rfl
            · exact absurd superseded (WorkCoordinator.releaseLease_current same released)
  | assertFence input =>
      obtain ⟨rfl, same⟩ := Prod.mk.inj (Option.some.inj names)
      cases validated : coordinator.assertLeaseFence input now table with
      | error error =>
          simp only [perform, validated]
          rfl
      | ok validation =>
          obtain ⟨lease, row, checked, stored, held, _⟩ :=
            WorkCoordinator.assertLeaseFence_held validated
          have token' := (WorkCoordinator.leaseMutationInput_ok checked).2
          exact absurd superseded (WorkCoordinator.holds_current stored held (token'.trans same))
  | acquire | cleanup => simp [LeaseCall.names] at names

/-- A call that validates a fence names the token in the row. -/
theorem passed_holder {key : LeaseKey} {token : Int} (names : call.names = some (key, token))
    (passes : ∃ validation, (call.perform table).1 = .ok (.fence validation)) :
    ∃ row, table.get? key = some row ∧ (row.fencingToken : Int) = token := by
  obtain ⟨validation, passed⟩ := passes
  obtain ⟨coordinator, request, now⟩ := call
  cases request with
  | assertFence input =>
      obtain ⟨rfl, rfl⟩ := Prod.mk.inj (Option.some.inj names)
      obtain ⟨found, validated, _⟩ := Except.map_eq_ok.mp passed
      obtain ⟨lease, row, checked, stored, held, _⟩ :=
        WorkCoordinator.assertLeaseFence_held validated
      simp only [WorkCoordinator.holds, LeaseRow.ownedBy, Bool.and_eq_true, beq_iff_eq] at held
      have sameToken := (WorkCoordinator.leaseMutationInput_ok checked).2
      exact ⟨row, stored, by omega⟩
  | renew input ttlMs =>
      obtain ⟨found, _, other⟩ := Except.map_eq_ok.mp passed
      cases other
  | release input =>
      obtain ⟨found, _, other⟩ := Except.map_eq_ok.mp passed
      cases other
  | acquire | cleanup => cases names

end LeaseCall

namespace LeaseRun

/-- Granted tokens ascend, lie in the past, and each one supersedes the tokens before it. -/
structure Fenced (run : LeaseRun) : Prop where
  ascending : (run.granted.map Prod.snd).Pairwise (· < ·)
  past : ∀ grant ∈ run.granted, grant.2 ≤ run.table.lastToken
  supersedes : ∀ grant ∈ run.granted, ∀ token < grant.2, run.table.Superseded grant.1 token

theorem step_fenced {run : LeaseRun} (fenced : run.Fenced) (call : LeaseCall) :
    (run.step call).Fenced := by
  have advances := call.perform_advances run.table
  have later : ∀ grant ∈ run.granted ++ (call.grant (call.perform run.table).1).toList,
      grant ∈ run.granted ∨ run.table.lastToken < grant.2 ∧
        ∃ row, (call.perform run.table).2.get? grant.1 = some row ∧ row.fencingToken = grant.2 := by
    intro grant inside
    rcases List.mem_append.mp inside with old | new
    · exact .inl old
    · exact .inr (LeaseCall.grant_later (Option.mem_toList.mp new))
  have bounded : ∀ key row, (call.perform run.table).2.get? key = some row →
      row.fencingToken ≤ (call.perform run.table).2.lastToken :=
    (call.perform run.table).2.within
  constructor
  · show ((run.granted ++ (call.grant (call.perform run.table).1).toList).map Prod.snd).Pairwise _
    rw [List.map_append, List.pairwise_append]
    constructor
    · exact fenced.ascending
    constructor
    · cases call.grant (call.perform run.table).1 <;> simp
    · intro first firstIn second secondIn
      obtain ⟨old, oldIn, rfl⟩ := List.mem_map.mp firstIn
      obtain ⟨new, newIn, rfl⟩ := List.mem_map.mp secondIn
      have newer := (LeaseCall.grant_later (Option.mem_toList.mp newIn)).1
      have past := fenced.past old oldIn
      omega
  · intro grant inside
    rcases later grant inside with old | ⟨_, row, stored, same⟩
    · exact (fenced.past grant old).trans advances.tokens
    · exact same ▸ bounded grant.1 row stored
  · intro grant inside token earlier
    rcases later grant inside with old | ⟨_, row, stored, same⟩
    · exact advances.superseded (fenced.supersedes grant old token earlier)
    · have past := bounded grant.1 row stored
      constructor
      · show token ≤ (call.perform run.table).2.lastToken
        omega
      · intro found foundAt tokenAt
        have sameRow : found = row := Option.some.inj (foundAt.symm.trans stored)
        subst sameRow
        omega

theorem reachable_fenced {run : LeaseRun} (reached : leaseSystem.Reachable run) : run.Fenced := by
  apply reached.invariant
  · intro first initial
    constructor
    · rw [initial]
      exact List.Pairwise.nil
    · rw [initial]
      exact fun _ outside => nomatch outside
    · rw [initial]
      exact fun _ outside => nomatch outside
  · intro before call after _ fenced moved
    rw [moved]
    exact step_fenced fenced call

theorem steps_advance (calls : List LeaseCall) (run : LeaseRun) :
    run.table.Advances (calls.foldl LeaseRun.step run).table := by
  induction calls generalizing run with
  | nil => exact .refl run.table
  | cons call calls ih => exact (call.perform_advances run.table).trans (ih (run.step call))

end LeaseRun

/-- The leases are fenced: granted tokens strictly increase over the whole run, one token at most
passes a fence check of a resource at any moment, and after a later grant, a release or a removal
no renewal, release or fence check with an earlier token succeeds in any continuation. -/
theorem lease_fencing (start : LeaseTable) (calls : List LeaseCall) :
    let run := calls.foldl LeaseRun.step ⟨start, []⟩
    (run.granted.map Prod.snd).Pairwise (· < ·) ∧
    (∀ first second : LeaseCall, ∀ key firstToken secondToken,
      first.names = some (key, firstToken) → second.names = some (key, secondToken) →
      (∃ validation, (first.perform run.table).1 = .ok (.fence validation)) →
      (∃ validation, (second.perform run.table).1 = .ok (.fence validation)) →
      firstToken = secondToken) ∧
    ∀ (key : LeaseKey) (token : Nat),
      (∃ later, (key, later) ∈ run.granted ∧ token < later) ∨
        token ≤ run.table.lastToken ∧
          (∀ row, run.table.get? key = some row → row.releasedAt.isSome) →
      ∀ (continuation : List LeaseCall) (call : LeaseCall), call.names = some (key, (token : Int)) →
        LeaseReply.succeeds
          (call.perform (continuation.foldl LeaseRun.step run).table).1 = false := by
  intro run
  have reached : leaseSystem.Reachable run :=
    StepSystem.Reachable.fold (fun _ _ => rfl) calls (.start rfl)
  have fenced := LeaseRun.reachable_fenced reached
  refine ⟨fenced.ascending, ?_, ?_⟩
  · intro first second key firstToken secondToken firstNames secondNames firstPasses secondPasses
    obtain ⟨row, stored, same⟩ := LeaseCall.passed_holder firstNames firstPasses
    obtain ⟨other, otherStored, otherSame⟩ := LeaseCall.passed_holder secondNames secondPasses
    have sameRow : row = other := Option.some.inj (stored.symm.trans otherStored)
    rw [← same, ← otherSame, sameRow]
  · intro key token past continuation call names
    have superseded : run.table.Superseded key token := by
      rcases past with ⟨later, granted, earlier⟩ | ⟨bound, released⟩
      · exact fenced.supersedes (key, later) granted token earlier
      · exact ⟨bound, fun row stored _ => released row stored⟩
    exact LeaseCall.superseded_fails names
      ((LeaseRun.steps_advance continuation run).superseded superseded)

/-- A coordinator of one machine for the runs below. -/
def sampleCoordinator (scope : TransactionScope) : WorkCoordinator where
  executor := ⟨scope, some, fun text => text.length⟩
  projectId := js "0190a000-0000-7000-8000-000000000001"
  machineId := js "0190a000-0000-7000-8000-000000000002"
  projectValid := by decide
  machineValid := by decide

/-- A second owner takes an expired lease, although its clock has stepped back before the end. -/
example :
    let drain : CoordinationResource := ⟨js "passive-events", js "machine"⟩
    let pool := sampleCoordinator .pool
    let open' := sampleCoordinator (.active (js "read committed"))
    let owner := fun token : Int => (⟨drain, js "first", js "replicate", token⟩ : LeaseMutationInput)
    let run := [⟨pool, .acquire ⟨drain, js "first", js "replicate", 10⟩ 4 0, 0⟩,
      ⟨open', .assertFence (owner 5), 9999⟩,
      ⟨pool, .acquire ⟨drain, js "second", js "replicate", 10⟩ 0 0, 10000⟩].foldl LeaseRun.step
        ⟨.empty, []⟩
    run.granted.map Prod.snd = [5, 6] ∧
      LeaseReply.succeeds (LeaseCall.perform ⟨open', .assertFence (owner 5), -500⟩ run.table).1 =
        false := by
  decide

end Lcm.PostgreSql
