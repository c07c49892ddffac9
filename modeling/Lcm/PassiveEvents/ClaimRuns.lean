import Lcm.PassiveEvents.ClaimFencing

namespace Lcm.PassiveEvents
open Text Store PostgreSql PassiveEventInbox PassiveEventRepository

variable {Number : Type}

namespace ClaimRun

/-- The latest claim that was handed out for a row. -/
def latest (run : ClaimRun Number) (inboxId : Int) : Option (PassiveEventClaim Number) :=
  (run.handed.filter fun claim => claim.inboxId = inboxId).getLast?

/-- Every claim is a past attempt of its row, a claimed row stands for the latest one, and no
ended attempt can be the one that a row is claimed with. -/
structure Traced (run : ClaimRun Number) : Prop where
  past : ∀ claim ∈ run.handed, claim.inboxId ≤ run.inbox.sequence
  counted : ∀ claim ∈ run.handed, ∀ (inboxId : InboxId) row, run.inbox.get? inboxId = some row →
    claim.inboxId = (inboxId : Int) → claim.attemptCount ≤ row.attemptCount
  distinct : (run.handed.map PassiveEventClaim.attempt).Nodup
  held : ∀ (inboxId : InboxId) row time owner, run.inbox.get? inboxId = some row →
    row.status = .claimed time owner → ∃ claim, run.latest inboxId = some claim ∧
      claim.attempt = ((inboxId : Int), (row.attemptCount : Int)) ∧ claim.claimedBy = owner
  handedOut : ∀ claim ∈ run.ended, claim.attempt ∈ run.handed.map PassiveEventClaim.attempt
  endedOnce : (run.ended.map PassiveEventClaim.attempt).Nodup
  endedPast : ∀ claim ∈ run.ended, ∀ (inboxId : InboxId) row time owner,
    run.inbox.get? inboxId = some row → row.status = .claimed time owner →
      claim.attempt ≠ ((inboxId : Int), (row.attemptCount : Int))

theorem latest_mem {run : ClaimRun Number} {inboxId : Int} {claim : PassiveEventClaim Number}
    (found : run.latest inboxId = some claim) : claim ∈ run.handed ∧ claim.inboxId = inboxId := by
  obtain ⟨inside, same⟩ := List.mem_filter.mp (List.mem_of_getLast? found)
  exact ⟨inside, of_decide_eq_true same⟩

/-- A call that hands out no claim keeps the trace; it may end the claim that a row stands for. -/
theorem Traced.settle {run : ClaimRun Number} (traced : run.Traced)
    {after : PassiveEventInbox Number} {ended : Option InboxId} (leases : LeaseTable)
    (settles : Settles run.inbox after ended) (claims : List (PassiveEventClaim Number))
    (fresh : ∀ claim ∈ claims, ∃ inboxId row time owner, ended = some inboxId ∧
      run.inbox.get? inboxId = some row ∧ row.status = .claimed time owner ∧
        claim.attempt = ((inboxId : Int), (row.attemptCount : Int)))
    (single : claims.length ≤ 1) :
    ({ leases := leases, inbox := after, handed := run.handed, ended := run.ended ++ claims } :
      ClaimRun Number).Traced := by
  have claimedBefore : ∀ (inboxId : InboxId) row time owner, after.get? inboxId = some row →
      row.status = .claimed time owner →
        run.inbox.get? inboxId = some row ∧ ended ≠ some inboxId := by
    intro inboxId row time owner found status
    rcases settles.rows inboxId row found with ⟨_, unclaimed⟩ | ⟨old, stored, _, same⟩
    · exact absurd status (unclaimed time owner)
    · obtain ⟨unchanged, other⟩ := same time owner status
      exact ⟨unchanged ▸ stored, other⟩
  constructor
  · intro claim inside
    exact (traced.past claim inside).trans (by exact_mod_cast settles.sequence)
  · intro claim inside inboxId row found same
    rcases settles.rows inboxId row found with ⟨newer, _⟩ | ⟨old, stored, count, _⟩
    · have bound := traced.past claim inside
      rw [same] at bound
      have old : inboxId ≤ run.inbox.sequence := by exact_mod_cast bound
      exact absurd newer (not_lt.mpr old)
    · rw [← count]
      exact traced.counted claim inside inboxId old stored same
  · exact traced.distinct
  · intro inboxId row time owner found status
    exact traced.held inboxId row time owner (claimedBefore inboxId row time owner found status).1 status
  · intro claim inside
    rcases List.mem_append.mp inside with old | new
    · exact traced.handedOut claim old
    · obtain ⟨inboxId, row, time, owner, _, found, status, attempt⟩ := fresh claim new
      obtain ⟨latest, latestFound, same, _⟩ := traced.held inboxId row time owner found status
      exact List.mem_map.mpr ⟨latest, (latest_mem latestFound).1, same.trans attempt.symm⟩
  · show ((run.ended ++ claims).map PassiveEventClaim.attempt).Nodup
    rw [List.map_append, List.nodup_append]
    refine ⟨traced.endedOnce, ?_, ?_⟩
    · rcases claims with _ | ⟨claim, _ | ⟨other, rest⟩⟩
      · exact List.nodup_nil
      · exact List.nodup_singleton _
      · simp at single
    · intro first firstIn second secondIn same
      obtain ⟨old, oldIn, rfl⟩ := List.mem_map.mp firstIn
      obtain ⟨new, newIn, rfl⟩ := List.mem_map.mp secondIn
      obtain ⟨inboxId, row, time, owner, _, found, status, attempt⟩ := fresh new newIn
      exact traced.endedPast old oldIn inboxId row time owner found status (same.trans attempt)
  · intro claim inside inboxId row time owner found status
    obtain ⟨before, other⟩ := claimedBefore inboxId row time owner found status
    rcases List.mem_append.mp inside with old | new
    · exact traced.endedPast claim old inboxId row time owner before status
    · obtain ⟨endedId, _, _, _, endedAt, _, _, attempt⟩ := fresh claim new
      intro same
      have sameId : (endedId : Int) = inboxId := congrArg Prod.fst (attempt.symm.trans same)
      exact other (endedAt.trans (congrArg some (by exact_mod_cast sameId)))

/-- A fetch adds one new attempt for each of its rows. -/
theorem Traced.fetch {run : ClaimRun Number} (traced : run.Traced)
    {repository : PassiveEventRepository Number} {after : PassiveEventInbox Number}
    {claims : List (PassiveEventClaim Number)} {candidates : List InboxId}
    (fetches : repository.Fetches run.inbox after claims candidates) :
    ({ run with inbox := after, handed := run.handed ++ claims } : ClaimRun Number).Traced := by
  have fromRow : ∀ claim ∈ claims, ∃ inboxId ∈ candidates, ∃ row old,
      after.get? inboxId = some row ∧ run.inbox.get? inboxId = some old ∧
        row.attemptCount = old.attemptCount + 1 ∧
          claim.attempt = ((inboxId : Int), (row.attemptCount : Int)) := by
    intro claim inside
    obtain ⟨inboxId, candidate, read⟩ := fetches.claim_row inside
    obtain ⟨row, time, found, _, attempt, _⟩ := claimFromRow_ok read
    obtain ⟨old, stored, count, _⟩ := fetches.counts candidate found
    exact ⟨inboxId, candidate, row, old, found, stored, count, attempt⟩
  -- The attempts of one fetch name distinct rows, so they are distinct.
  have attempts : claims.map PassiveEventClaim.inboxId =
      candidates.map (Nat.cast : InboxId → Int) := by
    have ids : List.Forall₂ (fun (inboxId : InboxId) claim => (inboxId : Int) =
        PassiveEventClaim.inboxId claim) candidates claims := by
      apply fetches.handed.imp
      intro inboxId claim read
      obtain ⟨_, _, _, _, attempt, _⟩ := claimFromRow_ok read
      exact (congrArg Prod.fst attempt).symm
    have mapped := List.forall₂_map_left_iff.mpr (List.forall₂_map_right_iff.mpr ids)
    rw [List.forall₂_eq_eq_eq] at mapped
    exact mapped.symm
  have idsDistinct : (claims.map PassiveEventClaim.inboxId).Nodup := by
    rw [attempts]
    exact fetches.distinct.map fun _ _ same => Int.ofNat.inj same
  have newer : ∀ old ∈ run.handed, ∀ new ∈ claims, old.inboxId = new.inboxId →
      old.attemptCount < new.attemptCount := by
    intro old oldIn new newIn same
    obtain ⟨inboxId, _, row, before, _, stored, count, attempt⟩ := fromRow new newIn
    have bound := traced.counted old oldIn inboxId before stored
      (same.trans (congrArg Prod.fst attempt))
    have counted : new.attemptCount = row.attemptCount := congrArg Prod.snd attempt
    omega
  constructor
  · intro claim inside
    rw [fetches.sequence]
    rcases List.mem_append.mp inside with old | new
    · exact traced.past claim old
    · obtain ⟨inboxId, _, _, before, _, stored, _, attempt⟩ := fromRow claim new
      have sameId : claim.inboxId = inboxId := congrArg Prod.fst attempt
      have bound := run.inbox.within inboxId before stored
      rw [sameId]
      exact_mod_cast bound
  · intro claim inside inboxId row found same
    rcases List.mem_append.mp inside with old | new
    · by_cases candidate : inboxId ∈ candidates
      · obtain ⟨before, stored, count, _⟩ := fetches.counts candidate found
        have bound := traced.counted claim old inboxId before stored same
        omega
      · rw [fetches.unchanged candidate] at found
        exact traced.counted claim old inboxId row found same
    · obtain ⟨claimedId, _, claimed, _, claimedFound, _, _, attempt⟩ := fromRow claim new
      have sameId : claimedId = inboxId := by
        have ids : (claimedId : Int) = inboxId := (congrArg Prod.fst attempt).symm.trans same
        exact_mod_cast ids
      subst sameId
      have sameRow : claimed = row := Option.some.inj (claimedFound.symm.trans found)
      rw [← sameRow]
      exact (congrArg Prod.snd attempt).le
  · show ((run.handed ++ claims).map PassiveEventClaim.attempt).Nodup
    rw [List.map_append, List.nodup_append]
    refine ⟨traced.distinct, ?_, ?_⟩
    · rw [List.Nodup, List.pairwise_map] at idsDistinct ⊢
      exact idsDistinct.imp fun different same => different (congrArg Prod.fst same)
    · intro first firstIn second secondIn same
      obtain ⟨old, oldIn, rfl⟩ := List.mem_map.mp firstIn
      obtain ⟨new, newIn, rfl⟩ := List.mem_map.mp secondIn
      have less := newer old oldIn new newIn (congrArg Prod.fst same)
      have equal : old.attemptCount = new.attemptCount := congrArg Prod.snd same
      omega
  · intro inboxId row time owner found status
    show ∃ claim, ((run.handed ++ claims).filter fun claim => claim.inboxId = (inboxId : Int)).getLast? =
      some claim ∧ _
    rw [List.filter_append]
    by_cases candidate : inboxId ∈ candidates
    · obtain ⟨index, bound, rfl⟩ := List.getElem_of_mem candidate
      have length := fetches.handed.length_eq
      have claimBound : index < claims.length := by omega
      obtain ⟨claimed, claimedTime, claimedFound, claimedStatus, attempt, _⟩ :=
        claimFromRow_ok (fetches.read_at bound claimBound)
      have sameRow : claimed = row := Option.some.inj (claimedFound.symm.trans found)
      subst sameRow
      have only : claims.filter (fun claim => claim.inboxId = ((candidates[index] : Nat) : Int)) =
          [claims[index]] := by
        have sameId : claims[index].inboxId = ((candidates[index] : Nat) : Int) :=
          congrArg Prod.fst attempt
        rw [← sameId]
        exact filter_distinct_keys idsDistinct (List.getElem_mem claimBound)
      refine ⟨claims[index], by rw [only, List.getLast?_append]; rfl, attempt, ?_⟩
      rw [claimedStatus] at status
      exact (PassiveEventStatus.claimed.inj status).2
    · rw [fetches.unchanged candidate] at found
      obtain ⟨claim, latest, attempt, same⟩ := traced.held inboxId row time owner found status
      have none : claims.filter (fun claim => claim.inboxId = (inboxId : Int)) = [] := by
        rw [List.filter_eq_nil_iff]
        intro other inside sameId
        obtain ⟨otherId, otherIn, _, _, _, _, _, otherAttempt⟩ := fromRow other inside
        have ids : (otherId : Int) = inboxId :=
          (congrArg Prod.fst otherAttempt).symm.trans (of_decide_eq_true sameId)
        have equal : otherId = inboxId := by exact_mod_cast ids
        exact candidate (equal ▸ otherIn)
      refine ⟨claim, ?_, attempt, same⟩
      rw [none, List.append_nil]
      exact latest
  · intro claim inside
    rw [List.map_append]
    exact List.mem_append_left _ (traced.handedOut claim inside)
  · exact traced.endedOnce
  · intro claim inside inboxId row time owner found status
    by_cases candidate : inboxId ∈ candidates
    · obtain ⟨old, stored, count, _⟩ := fetches.counts candidate found
      obtain ⟨handed, handedIn, sameAttempt⟩ := List.mem_map.mp (traced.handedOut claim inside)
      intro same
      have attempt := sameAttempt.trans same
      have bound := traced.counted handed handedIn inboxId old stored (congrArg Prod.fst attempt)
      have counted : handed.attemptCount = row.attemptCount := congrArg Prod.snd attempt
      omega
    · rw [fetches.unchanged candidate] at found
      exact traced.endedPast claim inside inboxId row time owner found status

/-- Every call keeps the trace. -/
theorem Traced.step {run : ClaimRun Number} (traced : run.Traced) (action : ClaimAction Number) :
    (run.step action).Traced := by
  have settle : ∀ after : PassiveEventInbox Number, Settles run.inbox after none →
      ({ run with inbox := after } : ClaimRun Number).Traced := by
    intro after settles
    have kept := traced.settle run.leases settles [] (fun _ outside => nomatch outside)
      (Nat.zero_le 1)
    rw [List.append_nil] at kept
    exact kept
  have withInbox : ∀ {Reply : Type}
      (result : Except PassiveEventError (Reply × PassiveEventInbox Number)),
      (∀ reply after, result = .ok (reply, after) → Settles run.inbox after none) →
        (run.withInbox result).Traced := by
    intro Reply result settles
    rcases result with error | ⟨reply, after⟩
    · exact traced
    · exact settle after (settles reply after rfl)
  cases action with
  | lease call =>
      have kept := traced.settle (call.perform run.leases).2 (Settles.refl run.inbox) []
        (fun _ outside => nomatch outside) (Nat.zero_le 1)
      rw [List.append_nil] at kept
      exact kept
  | insertEvents repository inputs gap now =>
      exact withInbox _ fun _ _ inserted => insertEvents_settles inserted
  | claimEvents repository claimOwner limit staleClaimMs now claimTime =>
      simp only [ClaimRun.step]
      split
      · next claims after fetched =>
          obtain ⟨candidates, fetches⟩ := claimPassiveEvents_fetches fetched
          exact traced.fetch fetches
      · exact traced
  | endClaim repository mutation kind now =>
      simp only [ClaimRun.step]
      split
      · next after committed =>
          obtain ⟨_, ⟨row, time, found, status, attempt⟩, settles⟩ := commit_ok committed
          apply traced.settle run.leases settles [mutation.claim]
          · intro claim inside
            rw [List.mem_singleton.mp inside]
            exact ⟨_, row, time, _, rfl, found, status, attempt⟩
          · exact le_rfl
      · exact traced
  | replayQuarantined repository key now =>
      exact withInbox _ fun _ _ replayed => replayQuarantined_settles replayed
  | pruneApplied repository keys =>
      exact withInbox _ fun _ _ pruned => pruneApplied_settles pruned
  | releaseFromOtherProjects repository keys staleClaimMs now =>
      exact withInbox _ fun _ _ released => releaseFromOtherProjects_settles released

theorem reachable_traced {run : ClaimRun Number} (reached : (claimSystem Number).Reachable run) :
    run.Traced := by
  apply reached.invariant
  · rintro first ⟨handed, ended, unclaimed⟩
    constructor
    · simp [handed]
    · simp [handed]
    · simp [handed]
    · intro inboxId row time owner found status
      exact absurd status (unclaimed inboxId row found time owner)
    · simp [ended]
    · simp [ended]
    · simp [ended]
  · intro before action after _ traced moved
    rw [moved]
    exact traced.step action

end ClaimRun

/-- Superseded claims have no effect. In every run an end of a claim commits only for the latest
claim of its row, only when no end of that attempt has committed, and only while the drain lease
carries the caller's token; no attempt is handed out or ended twice; and a fetch hands out at most
one row of each machine, with every earlier row of the machine in the project settled. -/
theorem superseded_claims_ineffective {run : ClaimRun Number}
    (reached : (claimSystem Number).Reachable run) :
    (run.handed.map PassiveEventClaim.attempt).Nodup ∧
    (run.ended.map PassiveEventClaim.attempt).Nodup ∧
    (∀ (repository : PassiveEventRepository Number) mutation (kind : ClaimEnd Number) now after,
      kind.commit repository mutation now run.leases run.inbox = .ok after →
        (∃ claim, run.latest mutation.claim.inboxId = some claim ∧
          claim.attempt = mutation.claim.attempt ∧ claim.claimedBy = mutation.claim.claimedBy) ∧
        mutation.claim.attempt ∉ run.ended.map PassiveEventClaim.attempt ∧
        repository.HoldsDrainLease mutation.toPassiveEventFence run.leases) ∧
    ∀ (repository : PassiveEventRepository Number) claimOwner limit staleClaimMs now claimTime claims
        after, repository.claimPassiveEvents claimOwner limit staleClaimMs now claimTime run.inbox =
          .ok (claims, after) →
      (claims.map (·.machineId)).Nodup ∧
      ∀ claim ∈ claims, ∀ inboxId row, after.get? inboxId = some row →
        row.projectId = claim.projectId → row.machineId = claim.machineId →
          (row.machineSequence : Int) < claim.machineSequence → row.status.isTerminal = true := by
  have traced := ClaimRun.reachable_traced reached
  refine ⟨traced.distinct, traced.endedOnce, ?_, ?_⟩
  · intro repository mutation kind now after committed
    obtain ⟨fenced, ⟨row, time, found, status, attempt⟩, _⟩ := commit_ok committed
    obtain ⟨claim, latest, sameAttempt, sameOwner⟩ := traced.held _ row time _ found status
    refine ⟨⟨claim, ?_, sameAttempt.trans attempt.symm, sameOwner⟩, ?_, fenced⟩
    · rw [show mutation.claim.inboxId = ((mutation.claim.inboxId.toNat : Nat) : Int) from
        congrArg Prod.fst attempt]
      exact latest
    · intro inside
      obtain ⟨ended, endedIn, same⟩ := List.mem_map.mp inside
      exact traced.endedPast ended endedIn _ row time _ found status (same.trans attempt)
  · intro repository claimOwner limit staleClaimMs now claimTime claims after fetched
    obtain ⟨candidates, fetches⟩ := claimPassiveEvents_fetches fetched
    constructor
    · exact fetches.machines_distinct
    · intro claim inside inboxId row found project machine earlier
      exact fetches.earlier_terminal inside found project machine earlier

/-- The platform of the sample runs compares keys by their units and stores an object as it is. -/
def samplePlatform : PayloadPlatform Nat where
  numbers := naturalNumbers
  localeCompare left right :=
    if left = right then .eq
    else if left.map UInt16.toNat < right.map UInt16.toNat then .lt else .gt
  jsonb members := members

def sampleRepository : PassiveEventRepository Nat := ⟨sampleCoordinator .pool, samplePlatform⟩

def sampleEvent (eventId : JsString) (place : Int) : PassiveEventInput Nat where
  machineId := js "0190a000-0000-7000-8000-000000000002"
  eventId := eventId
  eventVersion := 1
  machineSequence := place
  eventType := js "decision"
  payload := [(js "priority", .number 3)]

/-- The claim of the first event by an owner at one attempt and time. -/
def sampleClaim (attempt : Int) (time : Timestamp) (owner : JsString) : PassiveEventClaim Nat where
  inboxId := 1
  projectId := js "0190a000-0000-7000-8000-000000000001"
  machineId := js "0190a000-0000-7000-8000-000000000002"
  eventId := js "0190a000-0000-7000-8000-00000000000a"
  eventVersion := 1
  machineSequence := 7
  eventType := js "decision"
  payload := [(js "priority", .number 3)]
  attemptCount := attempt
  receivedAt := 0
  nextAttemptAt := 0
  claimedAt := time
  claimedBy := owner

/-- Two claimers take the first of two events in turn; both end it under a live lease. -/
def sampleClaims : List (ClaimAction Nat) :=
  let drain : AcquireLeaseInput := ⟨⟨drainResourceType, js "0190a000-0000-7000-8000-000000000002"⟩,
    js "worker", drainOperation, 60000⟩
  let finish := fun (claim : PassiveEventClaim Nat) => ClaimAction.endClaim sampleRepository
    ⟨⟨js "worker", 1⟩, claim, 3000⟩ (.applied fun _ => .ok ()) 3000
  [.lease ⟨sampleCoordinator .pool, .acquire drain 0 0, 0⟩,
    .insertEvents sampleRepository [sampleEvent (js "0190a000-0000-7000-8000-00000000000a") 7,
      sampleEvent (js "0190a000-0000-7000-8000-00000000000b") 8] (fun _ => 0) (fun _ => 0),
    .claimEvents sampleRepository (js "first") 10 1 0 (fun _ => 0),
    .claimEvents sampleRepository (js "second") 10 1 2000 (fun _ => 2000),
    finish (sampleClaim 1 0 (js "first")), finish (sampleClaim 2 2000 (js "second")),
    finish (sampleClaim 2 2000 (js "second"))]

/-- The stale claim and the repeated end are refused. -/
theorem superseded_claims_sample :
    let run := sampleClaims.foldl ClaimRun.step ⟨.empty, .empty, [], []⟩
    run.handed.map PassiveEventClaim.attempt = [(1, 1), (1, 2)] ∧
      run.ended.map PassiveEventClaim.attempt = [(1, 2)] ∧
        (run.ended.map PassiveEventClaim.attempt).Nodup := by
  refine ⟨by decide +kernel, by decide +kernel, ?_⟩
  have reached : (claimSystem Nat).Reachable (sampleClaims.foldl ClaimRun.step ⟨.empty, .empty, [], []⟩) :=
    StepSystem.Reachable.fold (fun _ _ => rfl) sampleClaims
      (.start ⟨rfl, rfl, fun _ _ found => nomatch found⟩)
  exact (superseded_claims_ineffective reached).2.1

end Lcm.PassiveEvents
