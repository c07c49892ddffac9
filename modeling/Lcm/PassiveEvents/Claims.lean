import Lcm.PassiveEvents.Transitions
import Lcm.PostgreSql.LeaseFencing

namespace Lcm.PassiveEvents
open Text Store PostgreSql

variable {Number : Type}

/-- The end that a claimer gives to a claim. -/
inductive ClaimEnd (Number : Type) where
  | applied (apply : PassiveEventClaim Number → Except PassiveEventError Unit)
  | retry (delayMs : Int)
  | quarantined (reason : JsString)

/-- A committed end of a claim leaves the inbox after it. -/
def ClaimEnd.commit (kind : ClaimEnd Number) (repository : PassiveEventRepository Number)
    (mutation : PassiveEventRepository.ClaimMutation Number) (now : Instant) (leases : LeaseTable)
    (inbox : PassiveEventInbox Number) : Except PassiveEventError (PassiveEventInbox Number) :=
  match kind with
  | .applied apply =>
      (repository.completeApplied mutation apply now leases inbox).map Prod.snd
  | .retry delayMs => (repository.scheduleRetry mutation delayMs now leases inbox).map Prod.snd
  | .quarantined reason => (repository.quarantine mutation reason now leases inbox).map Prod.snd

/-- One call of one repository, or one call about its lease. -/
inductive ClaimAction (Number : Type) where
  | lease (call : LeaseCall)
  | insertEvents (repository : PassiveEventRepository Number)
      (inputs : List (PassiveEventInput Number)) (gap : Nat → Nat) (now : Nat → Instant)
  | claimEvents (repository : PassiveEventRepository Number) (claimOwner : JsString)
      (limit staleClaimMs : Int) (now : Instant) (claimTime : InboxId → Instant)
  | endClaim (repository : PassiveEventRepository Number)
      (mutation : PassiveEventRepository.ClaimMutation Number) (kind : ClaimEnd Number)
      (now : Instant)
  | replayQuarantined (repository : PassiveEventRepository Number) (key : PassiveEventKey)
      (now : Instant)
  | pruneApplied (repository : PassiveEventRepository Number) (keys : List PassiveEventPruneKey)
  | releaseFromOtherProjects (repository : PassiveEventRepository Number)
      (keys : List (PassiveEventReleaseKey Number)) (staleClaimMs : Int) (now : Instant)

/-- The two tables with the claims handed out and the claims ended so far, oldest first. -/
structure ClaimRun (Number : Type) where
  leases : LeaseTable
  inbox : PassiveEventInbox Number
  handed : List (PassiveEventClaim Number)
  ended : List (PassiveEventClaim Number)

namespace ClaimRun

/-- A failed call leaves the inbox as it was. -/
def withInbox (run : ClaimRun Number) {Reply : Type}
    (result : Except PassiveEventError (Reply × PassiveEventInbox Number)) : ClaimRun Number :=
  match result with
  | .ok (_, after) => { run with inbox := after }
  | .error _ => run

def step (run : ClaimRun Number) (action : ClaimAction Number) : ClaimRun Number :=
  match action with
  | .lease call => { run with leases := (call.perform run.leases).2 }
  | .insertEvents repository inputs gap now =>
      run.withInbox (repository.insertEvents inputs gap now run.inbox)
  | .claimEvents repository claimOwner limit staleClaimMs now claimTime =>
      match repository.claimPassiveEvents claimOwner limit staleClaimMs now claimTime run.inbox with
      | .ok (claims, after) => { run with inbox := after, handed := run.handed ++ claims }
      | .error _ => run
  | .endClaim repository mutation kind now =>
      match kind.commit repository mutation now run.leases run.inbox with
      | .ok after => { run with inbox := after, ended := run.ended ++ [mutation.claim] }
      | .error _ => run
  | .replayQuarantined repository key now =>
      run.withInbox (repository.replayQuarantined key now run.inbox)
  | .pruneApplied repository keys => run.withInbox (repository.pruneApplied keys run.inbox)
  | .releaseFromOtherProjects repository keys staleClaimMs now =>
      run.withInbox (repository.releaseFromOtherProjects keys staleClaimMs now run.inbox)

end ClaimRun

/-- Runs start before any claim: no row of the inbox is claimed. -/
def claimSystem (Number : Type) : StepSystem (ClaimRun Number) (ClaimAction Number) where
  start run := run.handed = [] ∧ run.ended = [] ∧
    ∀ inboxId row, run.inbox.get? inboxId = some row → ∀ time owner, row.status ≠ .claimed time owner
  step before action after := after = before.step action

/-- A claim is one attempt on one row. -/
def PassiveEventClaim.attempt (claim : PassiveEventClaim Number) : Int × Int :=
  (claim.inboxId, claim.attemptCount)

namespace PassiveEventInbox

/-- What a call other than a claim fetch does: no new row is claimed, and a row that is claimed
afterwards is untouched. The call may end the claim on one row. -/
structure Settles (inbox after : PassiveEventInbox Number) (ended : Option InboxId) : Prop where
  sequence : inbox.sequence ≤ after.sequence
  rows : ∀ inboxId row, after.get? inboxId = some row →
    (inbox.sequence < inboxId ∧ ∀ time owner, row.status ≠ .claimed time owner) ∨
      ∃ old, inbox.get? inboxId = some old ∧ old.attemptCount = row.attemptCount ∧
        ∀ time owner, row.status = .claimed time owner → row = old ∧ ended ≠ some inboxId

namespace Settles

variable {inbox after : PassiveEventInbox Number}

theorem refl (inbox : PassiveEventInbox Number) : Settles inbox inbox none where
  sequence := le_rfl
  rows _ row found := .inr ⟨row, found, rfl, fun _ _ _ => ⟨rfl, nofun⟩⟩

theorem trans {last : PassiveEventInbox Number} (first : Settles inbox after none)
    (second : Settles after last none) : Settles inbox last none where
  sequence := first.sequence.trans second.sequence
  rows inboxId row found := by
    rcases second.rows inboxId row found with ⟨newer, unclaimed⟩ | ⟨old, oldFound, count, same⟩
    · exact .inl ⟨first.sequence.trans_lt newer, unclaimed⟩
    · rcases first.rows inboxId old oldFound with ⟨newer, unclaimed⟩ | ⟨oldest, found', count', same'⟩
      · left
        constructor
        · exact newer
        · intro time owner status
          have unchanged := (same time owner status).1
          exact unclaimed time owner (unchanged ▸ status)
      · right
        refine ⟨oldest, found', count'.trans count, fun time owner status => ?_⟩
        have unchanged := (same time owner status).1
        rw [unchanged] at status ⊢
        exact ⟨(same' time owner status).1, nofun⟩

theorem insertOrIgnore (inbox : PassiveEventInbox Number) (gap : Nat) {row : PassiveEventRow Number}
    (unclaimed : ∀ time owner, row.status ≠ .claimed time owner) :
    Settles inbox (inbox.insertOrIgnore gap row) none where
  sequence := inbox.sequence_insertOrIgnore gap row
  rows inboxId stored found := by
    rcases get?_insertOrIgnore found with old | ⟨newer, rfl⟩
    · exact .inr ⟨stored, old, rfl, fun _ _ _ => ⟨rfl, nofun⟩⟩
    · exact .inl ⟨newer, unclaimed⟩

theorem retain (inbox : PassiveEventInbox Number)
    (keep : InboxId × PassiveEventRow Number → Bool) : Settles inbox (inbox.retain keep) none where
  sequence := le_rfl
  rows _ row found := .inr ⟨row, (get?_retain.mp found).1, rfl, fun _ _ _ => ⟨rfl, nofun⟩⟩

/-- An update to another status than claimed may be the end of a claim on its row. -/
theorem update (inbox : PassiveEventInbox Number) (inboxId : InboxId) {change : Change Number}
    {ended : Option InboxId} (only : ∀ other, ended = some other → other = inboxId)
    (unclaimed : ∀ row time owner, change.status row ≠ .claimed time owner)
    (counts : ∀ row, change.attemptCount row = row.attemptCount) :
    Settles inbox (inbox.update inboxId change) ended where
  sequence := (inbox.sequence_update inboxId change).ge
  rows other row found := by
    rw [get?_update] at found
    split at found
    · obtain ⟨old, stored, rfl⟩ := Option.map_eq_some_iff.mp found
      exact .inr ⟨old, stored, (counts old).symm,
        fun time owner status => absurd status (unclaimed old time owner)⟩
    · next different =>
        exact .inr ⟨row, found, rfl, fun _ _ _ => ⟨rfl, fun same => different (only other same)⟩⟩

end Settles

end PassiveEventInbox

namespace PassiveEventRepository

open PassiveEventInbox

variable {repository : PassiveEventRepository Number} {inbox after : PassiveEventInbox Number}

theorem insertRows_settles (repository : PassiveEventRepository Number) (gap : Nat → Nat)
    (now : Nat → Instant) (inputs : List (PassiveEventInput Number))
    (inbox : PassiveEventInbox Number) :
    Settles inbox (repository.insertRows gap now inputs inbox) none := by
  rw [insertRows]
  generalize inputs.zipIdx = indexed
  induction indexed generalizing inbox with
  | nil => exact .refl inbox
  | cons input rest ih =>
      apply Settles.trans _ (ih _)
      apply Settles.insertOrIgnore
      intro time owner status
      cases status

theorem insertEvents_settles {inputs : List (PassiveEventInput Number)} {gap : Nat → Nat}
    {now : Nat → Instant} {records : List (PassiveEventRecord Number)}
    (inserted : repository.insertEvents inputs gap now inbox = .ok (records, after)) :
    Settles inbox after none := by
  simp only [insertEvents, Except.bind_eq_ok] at inserted
  obtain ⟨_, _, normalized, _, rest⟩ := inserted
  split at rest
  · cases rest
  · simp only [Except.bind_eq_ok] at rest
    obtain ⟨_, _, read, _, rest⟩ := rest
    split at rest
    · cases rest
    · simp only [Except.bind_eq_ok, Except.pure_eq_ok] at rest
      obtain ⟨_, _, same⟩ := rest
      cases same
      exact insertRows_settles repository gap now normalized inbox

theorem replayQuarantined_settles {key : PassiveEventKey} {now : Instant}
    {record : Option (PassiveEventRecord Number)}
    (replayed : repository.replayQuarantined key now inbox = .ok (record, after)) :
    Settles inbox after none := by
  simp only [replayQuarantined, Except.bind_eq_ok] at replayed
  obtain ⟨_, _, _, _, _, _, rest⟩ := replayed
  split at rest
  · cases rest
    exact .refl inbox
  · simp only [Except.bind_eq_ok, Except.pure_eq_ok] at rest
    obtain ⟨_, _, same⟩ := rest
    cases same
    apply Settles.update
    · nofun
    · intro row time owner status
      cases status
    · exact fun _ => rfl

theorem pruneApplied_settles {keys : List PassiveEventPruneKey} {deleted : Nat}
    (pruned : repository.pruneApplied keys inbox = .ok (deleted, after)) :
    Settles inbox after none := by
  rw [pruneApplied, Except.bind_eq_ok] at pruned
  obtain ⟨_, -, rest⟩ := pruned
  rw [Except.bind_eq_ok] at rest
  obtain ⟨_, -, rest⟩ := rest
  generalize 0 = count at rest
  induction keys generalizing count inbox with
  | nil =>
      cases rest
      exact .refl _
  | cons key keys ih =>
      rw [List.foldlM_cons, Except.bind_eq_ok] at rest
      obtain ⟨⟨total, middle⟩, first, rest⟩ := rest
      simp only [Except.bind_eq_ok, Except.pure_eq_ok, Prod.mk.injEq] at first
      obtain ⟨_, _, _, _, _, _, _, rfl⟩ := first
      exact Settles.trans (Settles.retain inbox _) (ih _ rest)

theorem releaseRow_settles {staleClaimMs : Int} {now : Instant}
    {expected : PassiveEventInput Number} {inboxId : Option Nat} {outcome : ReleaseOutcome}
    (released : repository.releaseRow staleClaimMs now expected inboxId inbox = .ok (outcome, after)) :
    Settles inbox after none := by
  rw [releaseRow] at released
  split at released
  · cases released
    exact .refl inbox
  · simp only [Except.bind_eq_ok] at released
    obtain ⟨_, _, rest⟩ := released
    split at rest
    · cases rest
      exact .refl inbox
    · simp only [Except.bind_eq_ok] at rest
      obtain ⟨record, _, rest⟩ := rest
      split at rest
      · cases rest
        exact .refl inbox
      · split at rest
        · cases rest
          exact .refl inbox
        · split at rest
          · cases rest
            exact .retain inbox _
          · cases rest
            exact .refl inbox
        · cases rest
          exact .retain inbox _
        · cases rest
          exact .retain inbox _
        · cases rest
          exact .retain inbox _

theorem releaseRows_settles {staleClaimMs : Int} {now : Instant}
    {requested : List (PassiveEventInput Number × Option Nat)}
    {outcomes : List (JsString × ReleaseOutcome)}
    (released : repository.releaseRows staleClaimMs now requested inbox = .ok (outcomes, after)) :
    Settles inbox after none := by
  induction requested generalizing inbox outcomes with
  | nil =>
      cases released
      exact .refl _
  | cons first rest ih =>
      rw [releaseRows] at released
      simp only [Except.bind_eq_ok, Except.pure_eq_ok] at released
      obtain ⟨⟨_, middle⟩, firstDone, ⟨_, last⟩, restDone, same⟩ := released
      cases same
      exact Settles.trans (releaseRow_settles firstDone) (ih restDone)

theorem releaseFromOtherProjects_settles {keys : List (PassiveEventReleaseKey Number)}
    {staleClaimMs : Int} {now : Instant} {outcomes : List (JsString × ReleaseOutcome)}
    (released : repository.releaseFromOtherProjects keys staleClaimMs now inbox =
      .ok (outcomes, after)) : Settles inbox after none := by
  simp only [releaseFromOtherProjects, Except.bind_eq_ok] at released
  obtain ⟨_, _, rest⟩ := released
  split at rest
  · cases rest
  · simp only [Except.bind_eq_ok] at rest
    obtain ⟨requested, _, rest⟩ := rest
    split at rest
    · cases rest
    · simp only [Except.bind_eq_ok] at rest
      obtain ⟨_, _, rest⟩ := rest
      exact releaseRows_settles rest

theorem exactInboxBigInt_ok {field : String} {eventId : Option JsString} {minimum value : Nat}
    {input : Int} (read : exactInboxBigInt field eventId minimum input = .ok value) :
    (value : Int) = input := by
  rw [exactInboxBigInt] at read
  split at read
  · next bounds =>
      cases read
      exact Int.toNat_of_nonneg (by omega)
  · cases read

theorem postgresqlInteger_ok {field : String} {eventId : Option JsString} {minimum value : Nat}
    {input : Int} (read : postgresqlInteger field eventId minimum input = .ok value) :
    (value : Int) = input := by
  rw [postgresqlInteger] at read
  split at read
  · next bounds =>
      cases read
      exact Int.toNat_of_nonneg (by omega)
  · cases read

theorem nonblank_ok {field : String} {eventId : Option JsString} {input value : JsString}
    (read : nonblank field eventId input = .ok value) : value = input := by
  rw [nonblank] at read
  split at read
  · cases read
    rfl
  · cases read

/-- A checked claim names the same attempt and owner. -/
theorem normalizedClaim_ok {claim normal : PassiveEventClaim Number}
    (read : repository.normalizedClaim claim = .ok normal) :
    normal.attempt = claim.attempt ∧ normal.claimedBy = claim.claimedBy ∧
      (normal.inboxId.toNat : Int) = claim.inboxId := by
  simp only [normalizedClaim, Except.bind_eq_ok] at read
  obtain ⟨_, _, _, _, rest⟩ := read
  split at rest
  · cases rest
  · simp only [Except.bind_eq_ok, Except.pure_eq_ok] at rest
    obtain ⟨_, idRead, _, _, _, _, _, _, _, _, _, _, _, countRead, _, ownerRead, rfl⟩ := rest
    have sameId := exactInboxBigInt_ok idRead
    have natural : 0 ≤ claim.inboxId := by omega
    rw [PassiveEventClaim.attempt, PassiveEventClaim.attempt, sameId, postgresqlInteger_ok countRead]
    exact ⟨rfl, nonblank_ok ownerRead, Int.toNat_of_nonneg natural⟩

/-- A record keeps the counters of its row. -/
theorem passiveEventFromRow_ok {inboxId : InboxId} {row : PassiveEventRow Number}
    {projectId : JsString} {record : PassiveEventRecord Number}
    (read : repository.passiveEventFromRow inboxId row projectId = .ok record) :
    record.inboxId = inboxId ∧ record.attemptCount = row.attemptCount := by
  simp only [passiveEventFromRow, Except.bind_eq_ok] at read
  obtain ⟨_, _, _, _, rest⟩ := read
  split at rest
  · cases rest
  · simp only [Except.bind_eq_ok, Except.pure_eq_ok] at rest
    obtain ⟨_, _, _, _, _, idRead, _, _, _, _, _, _, _, _, _, countRead, _, _, _, _, rfl⟩ := rest
    exact ⟨Int.ofNat.inj (exactInboxBigInt_ok idRead), Int.ofNat.inj (postgresqlInteger_ok countRead)⟩

/-- A claim that is asserted is the attempt that the row counts, held by its owner. -/
theorem assertClaim_ok {claim actual : PassiveEventClaim Number}
    (asserted : repository.assertClaim claim inbox = .ok actual) :
    ∃ row time, inbox.get? claim.inboxId.toNat = some row ∧
      row.status = .claimed time claim.claimedBy ∧
        claim.attempt = (((claim.inboxId.toNat : Nat) : Int), (row.attemptCount : Int)) ∧
          actual.inboxId = claim.inboxId := by
  simp only [assertClaim, Except.bind_eq_ok] at asserted
  obtain ⟨expected, normal, rest⟩ := asserted
  obtain ⟨sameAttempt, sameOwner, sameId⟩ := normalizedClaim_ok normal
  have expectedId : expected.inboxId = claim.inboxId := congrArg Prod.fst sameAttempt
  split at rest
  · cases rest
  · next row held =>
      simp only [Except.bind_eq_ok, Except.pure_eq_ok] at rest
      obtain ⟨record, recordRead, found, foundRead, _, same, rfl⟩ := rest
      obtain ⟨recordId, recordCount⟩ := passiveEventFromRow_ok recordRead
      obtain ⟨stored, accepted⟩ := Option.filter_eq_some_iff.mp held
      have status : ∃ time, row.status = .claimed time expected.claimedBy := by
        simp only [Bool.and_eq_true] at accepted
        have matched := accepted.2
        split at matched
        · next time owner status => exact ⟨time, (of_decide_eq_true matched) ▸ status⟩
        · cases matched
      obtain ⟨time, status⟩ := status
      rw [claimFromRecord] at foundRead
      split at foundRead
      · cases foundRead
        rw [assertSameClaim] at same
        split at same
        · next equal =>
            simp only [sameClaim, Bool.and_eq_true, beq_iff_eq] at equal
            have counts : expected.attemptCount = record.attemptCount := equal.1.1.1.1.2
            rw [expectedId] at stored
            rw [sameOwner] at status
            refine ⟨row, time, stored, status, ?_, ?_⟩
            · rw [← sameAttempt, PassiveEventClaim.attempt, counts, recordCount, expectedId,
                ← sameId, expectedId, Int.toNat_natCast]
            · show (record.inboxId : Int) = claim.inboxId
              rw [recordId, ← sameId]
        · cases same
      · cases foundRead

theorem transitionRow_ok {claim : PassiveEventClaim Number} {change : Change Number}
    {record : PassiveEventRecord Number}
    (moved : repository.transitionRow claim change inbox = .ok (record, after)) :
    after = inbox.update claim.inboxId.toNat change := by
  rw [transitionRow] at moved
  split at moved
  · cases moved
  · simp only [Except.bind_eq_ok, Except.pure_eq_ok] at moved
    obtain ⟨_, _, same⟩ := moved
    cases same
    rfl

/-- The row of the drain lease that a fence stands for. -/
def HoldsDrainLease (repository : PassiveEventRepository Number) (fence : PassiveEventFence)
    (leases : LeaseTable) : Prop :=
  ∃ row, leases.get? ⟨⟨drainResourceType, repository.machineId⟩, repository.projectId⟩ = some row ∧
    (row.fencingToken : Int) = fence.fencingToken ∧ row.ownerMachineId = repository.machineId ∧
      row.ownerProcessId = fence.processId ∧ row.operation = drainOperation ∧ row.releasedAt = none

theorem assertFence_held {operation : String} {fence : PassiveEventFence} {now : Instant}
    {leases : LeaseTable} (passed : repository.assertFence operation fence now leases = .ok ()) :
    repository.HoldsDrainLease fence leases := by
  rw [assertFence, Except.bind_eq_ok] at passed
  obtain ⟨coordinator, executor, rest⟩ := passed
  have same : coordinator.projectId = repository.projectId ∧
      coordinator.machineId = repository.machineId := by
    rw [transactionExecutor] at executor
    split at executor
    · cases executor
      exact ⟨rfl, rfl⟩
    · cases executor
      exact ⟨rfl, rfl⟩
    · cases executor
  split at rest
  · next validation validated =>
      obtain ⟨lease, row, checked, stored, held, _⟩ :=
        WorkCoordinator.assertLeaseFence_held validated
      have token := (WorkCoordinator.leaseMutationInput_ok checked).2
      obtain ⟨process, leaseOperation⟩ := WorkCoordinator.leaseMutationInput_owner checked
      simp only [WorkCoordinator.holds, LeaseRow.ownedBy, Bool.and_eq_true, beq_iff_eq,
        Option.isNone_iff_eq_none] at held
      obtain ⟨⟨⟨⟨machine, owner⟩, leased⟩, tokens⟩, released⟩ := held
      rw [WorkCoordinator.key, same.1] at stored
      refine ⟨row, stored, ?_, machine.trans same.2, owner.trans process, leased.trans leaseOperation,
        released⟩
      rw [tokens]
      exact token
  · cases rest

/-- A committed end of a claim: the row counts the claim's attempt and is still held by its owner,
the drain lease carries the caller's token, and only that row changes. -/
theorem commit_ok {kind : ClaimEnd Number} {mutation : ClaimMutation Number} {now : Instant}
    {leases : LeaseTable} (committed : kind.commit repository mutation now leases inbox = .ok after) :
    repository.HoldsDrainLease mutation.toPassiveEventFence leases ∧
      (∃ row time, inbox.get? mutation.claim.inboxId.toNat = some row ∧
        row.status = .claimed time mutation.claim.claimedBy ∧ mutation.claim.attempt =
          (((mutation.claim.inboxId.toNat : Nat) : Int), (row.attemptCount : Int))) ∧
        Settles inbox after (some mutation.claim.inboxId.toNat) := by
  have transition : ∀ (operation : String) (change : Change Number)
      (record : PassiveEventRecord Number) (last : PassiveEventInbox Number),
      repository.claimTransition operation mutation change leases inbox = .ok (record, last) →
        (∀ row time owner, change.status row ≠ .claimed time owner) →
          (∀ row, change.attemptCount row = row.attemptCount) →
            repository.HoldsDrainLease mutation.toPassiveEventFence leases ∧
              (∃ row time, inbox.get? mutation.claim.inboxId.toNat = some row ∧
                row.status = .claimed time mutation.claim.claimedBy ∧ mutation.claim.attempt =
                  (((mutation.claim.inboxId.toNat : Nat) : Int), (row.attemptCount : Int))) ∧
                Settles inbox last (some mutation.claim.inboxId.toNat) := by
    intro operation change record last done unclaimed counts
    simp only [claimTransition, Except.bind_eq_ok] at done
    obtain ⟨_, fenced, claim, asserted, moved⟩ := done
    obtain ⟨row, time, stored, status, attempt, sameId⟩ := assertClaim_ok asserted
    rw [transitionRow_ok moved, sameId]
    refine ⟨assertFence_held fenced, ⟨row, time, stored, status, attempt⟩, ?_⟩
    apply Settles.update _ _ _ unclaimed counts
    exact fun _ same => (Option.some.inj same).symm
  cases kind with
  | applied apply =>
      obtain ⟨⟨⟨event, result⟩, last⟩, completed, rfl⟩ := Except.map_eq_ok.mp committed
      simp only [completeApplied, Except.bind_eq_ok, Except.pure_eq_ok] at completed
      obtain ⟨_, fenced, claim, asserted, _, _, ⟨found, reached⟩, moved, same⟩ := completed
      cases same
      apply transition "completeApplied" (appliedChange now) found reached
      · simp only [claimTransition, Except.bind_eq_ok]
        exact ⟨(), fenced, claim, asserted, moved⟩
      · nofun
      · exact fun _ => rfl
  | retry delayMs =>
      obtain ⟨⟨record, last⟩, scheduled, rfl⟩ := Except.map_eq_ok.mp committed
      rw [scheduleRetry] at scheduled
      split at scheduled
      · apply transition _ _ record last scheduled
        · nofun
        · exact fun _ => rfl
      · cases scheduled
  | quarantined reason =>
      obtain ⟨⟨record, last⟩, quarantined, rfl⟩ := Except.map_eq_ok.mp committed
      simp only [quarantine, Except.bind_eq_ok] at quarantined
      obtain ⟨_, _, moved⟩ := quarantined
      apply transition _ _ record last moved
      · nofun
      · exact fun _ => rfl

end PassiveEventRepository

end Lcm.PassiveEvents
