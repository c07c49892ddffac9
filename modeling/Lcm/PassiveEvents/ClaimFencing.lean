import Lcm.PassiveEvents.Claims

namespace Lcm.PassiveEvents
open Text Store PostgreSql

variable {Number : Type}

namespace PassiveEventRepository

open PassiveEventInbox

variable {repository : PassiveEventRepository Number} {inbox after : PassiveEventInbox Number}

theorem uuidV7_ok {operation field : String} {value checked : JsString}
    (read : uuidV7 operation field value = .ok checked) : checked = lowerAscii value := by
  simp only [uuidV7, Except.bind_eq_ok] at read
  obtain ⟨candidate, lowered, rest⟩ := read
  simp only [uuid, Except.bind_eq_ok] at lowered
  obtain ⟨text, textRead, lowered⟩ := lowered
  have sameText : text = value := by
    rw [coordinationText] at textRead
    split at textRead
    · exact (Except.ok.inj textRead).symm
    · cases textRead
  have sameCandidate : candidate = lowerAscii text := by
    split at lowered
    · exact (Except.ok.inj lowered).symm
    · cases lowered
  rw [← sameText, ← sameCandidate]
  split at rest
  · exact (Except.ok.inj rest).symm
  · cases rest

/-- The identifier of a project is in lower case. -/
theorem projectId_lower (repository : PassiveEventRepository Number) :
    lowerAscii repository.projectId = repository.projectId :=
  (uuidV7_ok repository.coordinator.projectValid).symm

/-- A handed claim is the claimed row under its identifier. -/
theorem claimFromRow_ok {inboxId : InboxId} {claim : PassiveEventClaim Number}
    (read : repository.claimFromRow inbox inboxId = .ok claim) :
    ∃ row time, inbox.get? inboxId = some row ∧ row.status = .claimed time claim.claimedBy ∧
      claim.attempt = ((inboxId : Int), (row.attemptCount : Int)) ∧
        claim.projectId = lowerAscii row.projectId ∧ claim.machineId = row.machineId ∧
          claim.machineSequence = row.machineSequence := by
  rw [claimFromRow] at read
  split at read
  · next row found =>
      split at read
      · next time owner status =>
          simp only [passiveEventClaimFromRow, Except.bind_eq_ok] at read
          obtain ⟨machineId, machineRead, rest⟩ := read
          split at rest
          · cases rest
          · simp only [Except.bind_eq_ok, Except.pure_eq_ok] at rest
            obtain ⟨_, idRead, _, projectRead, _, _, _, placeRead, _, _, _, _, _, _, _, _, _, ownerRead,
              rfl⟩ := rest
            have exact' : ∀ {field : String} {minimum value : Nat} {input : Int},
                exactBigInt "claimPassiveEvents" field minimum input = .ok value →
                  (value : Int) = input := by
              intro field minimum value input bigint
              rw [exactBigInt] at bigint
              split at bigint
              · next bound =>
                  cases bigint
                  exact Int.toNat_of_nonneg (by omega)
              · cases bigint
            refine ⟨row, time, found, ?_, ?_, uuidV7_ok projectRead, ?_, exact' placeRead⟩
            · rw [status, WorkCoordinator.nonblankText_ok ownerRead]
            · rw [PassiveEventClaim.attempt, exact' idRead]
            · rw [uuidV7_ok machineRead, row.machineCanonical]
      · cases read
  · cases read

/-- A claim fetch gives each candidate row to the claimer. -/
theorem get?_claimed (candidates : List InboxId) (distinct : candidates.Nodup)
    (change : InboxId → Change Number) (inbox : PassiveEventInbox Number) (inboxId : InboxId) :
    (candidates.foldl (fun inbox inboxId => inbox.update inboxId (change inboxId)) inbox).get?
      inboxId = if inboxId ∈ candidates then (inbox.get? inboxId).map (change inboxId).apply
        else inbox.get? inboxId := by
  induction candidates generalizing inbox with
  | nil => simp
  | cons first rest ih =>
      obtain ⟨fresh, others⟩ := List.nodup_cons.mp distinct
      rw [List.foldl_cons, ih others, get?_update]
      by_cases same : inboxId = first
      · subst same
        simp [fresh]
      · simp [same]

theorem sequence_claimed (candidates : List InboxId) (change : InboxId → Change Number)
    (inbox : PassiveEventInbox Number) :
    (candidates.foldl (fun inbox inboxId => inbox.update inboxId (change inboxId)) inbox).sequence =
      inbox.sequence := by
  induction candidates generalizing inbox with
  | nil => rfl
  | cons first rest ih => rw [List.foldl_cons, ih, sequence_update]

/-- The candidates of a fetch are distinct heads of the project that are not terminal. -/
theorem claimCandidates_spec {limit staleClaim : PositiveSafeInteger} {now : Instant} :
    (repository.claimCandidates limit staleClaim now inbox).Nodup ∧
      ∀ inboxId ∈ repository.claimCandidates limit staleClaim now inbox, ∃ row,
        inbox.get? inboxId = some row ∧ row.projectId = repository.projectId ∧
          row.status.isTerminal = false ∧ isHead inbox row = true := by
  have subperm : (repository.claimCandidates limit staleClaim now inbox).Subperm
      ((inbox.rows.entries.filter fun entry => entry.2.projectId = repository.projectId &&
        isReady staleClaim now entry.2 && isHead inbox entry.2).map Prod.fst) :=
    ((List.take_sublist _ _).map Prod.fst).subperm.trans ((SortedBy.perm _).map Prod.fst).subperm
  constructor
  · obtain ⟨part, same, inside⟩ := subperm
    apply same.nodup_iff.mp
    exact (inbox.rows.distinct.sublist (List.filter_sublist.map _)).sublist inside
  · intro inboxId inside
    obtain ⟨⟨stored, row⟩, member, rfl⟩ := List.mem_map.mp (subperm.subset inside)
    obtain ⟨entry, accepted⟩ := List.mem_filter.mp member
    simp only [Bool.and_eq_true, decide_eq_true_eq] at accepted
    refine ⟨row, KeyedTable.get?_eq_some.mpr entry, accepted.1.1, ?_, accepted.2⟩
    have ready := accepted.1.2
    rw [isReady] at ready
    cases status : row.status with
    | pending | claimed | retry => rfl
    | applied | quarantined => simp [status] at ready

/-- What a claim fetch does: it hands out one claim for each candidate row. -/
structure Fetches (repository : PassiveEventRepository Number)
    (inbox after : PassiveEventInbox Number) (claims : List (PassiveEventClaim Number))
    (candidates : List InboxId) : Prop where
  distinct : candidates.Nodup
  heads : ∀ inboxId ∈ candidates, ∃ row, inbox.get? inboxId = some row ∧
    row.projectId = repository.projectId ∧ row.status.isTerminal = false ∧ isHead inbox row = true
  rows : ∀ inboxId, ∃ change : Change Number, (∀ row, change.attemptCount row = row.attemptCount + 1) ∧
    after.get? inboxId = if inboxId ∈ candidates then (inbox.get? inboxId).map change.apply
      else inbox.get? inboxId
  sequence : after.sequence = inbox.sequence
  handed : List.Forall₂ (fun inboxId claim => repository.claimFromRow after inboxId = .ok claim)
    candidates claims

theorem claimPassiveEvents_fetches {claimOwner : JsString} {limit staleClaimMs : Int} {now : Instant}
    {claimTime : InboxId → Instant} {claims : List (PassiveEventClaim Number)}
    (fetched : repository.claimPassiveEvents claimOwner limit staleClaimMs now claimTime inbox =
      .ok (claims, after)) : ∃ candidates, repository.Fetches inbox after claims candidates := by
  simp only [claimPassiveEvents, Except.bind_eq_ok] at fetched
  obtain ⟨owner, _, limit', _, staleClaim, _, _, _, rest⟩ := fetched
  split at rest
  · cases rest
  · simp only [Except.bind_eq_ok, Except.pure_eq_ok] at rest
    obtain ⟨returned, computed, same⟩ := rest
    cases same
    obtain ⟨distinct, heads⟩ := @claimCandidates_spec Number repository inbox limit' staleClaim now
    generalize repository.claimCandidates limit' staleClaim now inbox = candidates at *
    have order : (returnedOrder (candidates.foldl (fun inbox inboxId =>
        inbox.update inboxId (claimChange owner (claimTime inboxId))) inbox) candidates).Perm
          candidates := SortedBy.perm _
    refine ⟨_, order.nodup_iff.mpr distinct, ?_, ?_, sequence_claimed .., Except.mapM_eq_ok.mp computed⟩
    · intro inboxId inside
      exact heads inboxId (order.mem_iff.mp inside)
    · intro inboxId
      refine ⟨claimChange owner (claimTime inboxId), fun _ => rfl, ?_⟩
      rw [get?_claimed candidates distinct]
      simp only [order.mem_iff]

namespace Fetches

variable {claims : List (PassiveEventClaim Number)} {candidates : List InboxId}

/-- The claim at one position is the claim of the candidate at that position. -/
theorem read_at (fetches : repository.Fetches inbox after claims candidates) {index : Nat}
    (candidateBound : index < candidates.length) (claimBound : index < claims.length) :
    repository.claimFromRow after candidates[index] = .ok claims[index] :=
  (List.forall₂_iff_get.mp fetches.handed).2 index candidateBound claimBound

theorem claim_row (fetches : repository.Fetches inbox after claims candidates)
    {claim : PassiveEventClaim Number} (inside : claim ∈ claims) :
    ∃ inboxId ∈ candidates, repository.claimFromRow after inboxId = .ok claim := by
  obtain ⟨index, bound, rfl⟩ := List.getElem_of_mem inside
  have length := fetches.handed.length_eq
  exact ⟨candidates[index], List.getElem_mem _, fetches.read_at (by omega) bound⟩

/-- The row of a candidate counts one attempt more than before. -/
theorem counts (fetches : repository.Fetches inbox after claims candidates) {inboxId : InboxId}
    (inside : inboxId ∈ candidates) {row : PassiveEventRow Number}
    (found : after.get? inboxId = some row) :
    ∃ old, inbox.get? inboxId = some old ∧ row.attemptCount = old.attemptCount + 1 ∧
      row.projectId = old.projectId ∧ row.machineId = old.machineId ∧
        row.machineSequence = old.machineSequence := by
  obtain ⟨change, counts, rows⟩ := fetches.rows inboxId
  rw [rows, if_pos inside] at found
  obtain ⟨old, stored, rfl⟩ := Option.map_eq_some_iff.mp found
  exact ⟨old, stored, counts old, rfl, rfl, rfl⟩

theorem unchanged (fetches : repository.Fetches inbox after claims candidates) {inboxId : InboxId}
    (outside : inboxId ∉ candidates) : after.get? inboxId = inbox.get? inboxId := by
  obtain ⟨_, _, rows⟩ := fetches.rows inboxId
  rw [rows, if_neg outside]

/-- When a claim is handed out, every earlier row of its machine in the project is terminal. -/
theorem earlier_terminal (fetches : repository.Fetches inbox after claims candidates)
    {claim : PassiveEventClaim Number} (inside : claim ∈ claims) {inboxId : InboxId}
    {row : PassiveEventRow Number} (found : after.get? inboxId = some row)
    (project : row.projectId = claim.projectId) (machine : row.machineId = claim.machineId)
    (earlier : (row.machineSequence : Int) < claim.machineSequence) :
    row.status.isTerminal = true := by
  obtain ⟨claimedId, candidate, read⟩ := fetches.claim_row inside
  obtain ⟨claimed, _, claimedFound, _, _, claimProject, claimMachine, claimPlace⟩ :=
    claimFromRow_ok read
  obtain ⟨head, headFound, headProject, _, isHead⟩ := fetches.heads claimedId candidate
  obtain ⟨old, oldFound, _, oldProject, oldMachine, oldPlace⟩ :=
    fetches.counts candidate claimedFound
  have sameHead : old = head := Option.some.inj (oldFound.symm.trans headFound)
  subst sameHead
  have blocks : ∀ other, other ∈ inbox.rows.rows → other.projectId = row.projectId →
      other.machineId = row.machineId → other.machineSequence = row.machineSequence →
        other.status.isTerminal = true := by
    intro other member sameProject sameMachine samePlace
    have clear := List.all_eq_true.mp isHead other member
    rw [claimPlace, oldPlace] at earlier
    have projects : other.projectId = old.projectId := by
      rw [sameProject, project, claimProject, oldProject, headProject, projectId_lower]
    have machines : other.machineId = old.machineId := by
      rw [sameMachine, machine, claimMachine, oldMachine]
    have places : other.machineSequence < old.machineSequence := by omega
    simpa [projects, machines, places] using clear
  by_cases candidate' : inboxId ∈ candidates
  · obtain ⟨before, beforeFound, _, sameProject, sameMachine, samePlace⟩ :=
      fetches.counts candidate' found
    obtain ⟨other, otherFound, _, open', _⟩ := fetches.heads inboxId candidate'
    have same : before = other := Option.some.inj (beforeFound.symm.trans otherFound)
    subst same
    have terminal := blocks before (mem_rows.mpr ⟨inboxId, beforeFound⟩) sameProject.symm
      sameMachine.symm samePlace.symm
    rw [open'] at terminal
    cases terminal
  · rw [fetches.unchanged candidate'] at found
    exact blocks row (mem_rows.mpr ⟨inboxId, found⟩) rfl rfl rfl

/-- One fetch returns at most one row of each machine. -/
theorem machines_distinct (fetches : repository.Fetches inbox after claims candidates) :
    (claims.map (·.machineId)).Nodup := by
  rw [List.Nodup, List.pairwise_map, List.pairwise_iff_getElem]
  intro first second firstBound secondBound before same
  have length := fetches.handed.length_eq
  have firstRead := fetches.read_at (show first < candidates.length by omega) firstBound
  have secondRead := fetches.read_at (show second < candidates.length by omega) secondBound
  obtain ⟨firstRow, firstTime, firstFound, firstStatus, _, firstProject, firstMachine, firstPlace⟩ :=
    claimFromRow_ok firstRead
  obtain ⟨secondRow, secondTime, secondFound, secondStatus, _, secondProject, secondMachine,
    secondPlace⟩ := claimFromRow_ok secondRead
  have firstIn : candidates[first] ∈ candidates := List.getElem_mem _
  have secondIn : candidates[second] ∈ candidates := List.getElem_mem _
  have project : ∀ {inboxId : InboxId} {row : PassiveEventRow Number}, inboxId ∈ candidates →
      after.get? inboxId = some row → row.projectId = repository.projectId := by
    intro inboxId row inside found
    obtain ⟨old, oldFound, _, oldProject, _⟩ := fetches.counts inside found
    obtain ⟨head, headFound, headProject, _⟩ := fetches.heads inboxId inside
    have same : old = head := Option.some.inj (oldFound.symm.trans headFound)
    rw [oldProject, same, headProject]
  have machines : firstRow.machineId = secondRow.machineId := by
    rw [← firstMachine, ← secondMachine]
    exact same
  have projects : firstRow.projectId = secondRow.projectId := by
    rw [project firstIn firstFound, project secondIn secondFound]
  have claimProject : ∀ {index : Nat} (bound : index < claims.length) {row : PassiveEventRow Number},
      claims[index].projectId = lowerAscii row.projectId → row.projectId = repository.projectId →
        claims[index].projectId = repository.projectId := by
    intro index bound row lower stored
    rw [lower, stored, projectId_lower]
  rcases Nat.lt_trichotomy firstRow.machineSequence secondRow.machineSequence with less | equal | more
  · have terminal := fetches.earlier_terminal (List.getElem_mem secondBound) firstFound
      (by rw [claimProject secondBound secondProject (project secondIn secondFound),
        project firstIn firstFound])
      (by rw [secondMachine, machines]) (by rw [secondPlace]; omega)
    rw [firstStatus] at terminal
    cases terminal
  · have sameId := after.unique _ _ firstRow secondRow firstFound secondFound
      ⟨machines, .inr equal⟩
    have distinct := List.pairwise_iff_getElem.mp fetches.distinct first second (by omega) (by omega)
      before
    exact distinct sameId
  · have terminal := fetches.earlier_terminal (List.getElem_mem firstBound) secondFound
      (by rw [claimProject firstBound firstProject (project firstIn firstFound),
        project secondIn secondFound])
      (by rw [firstMachine, machines]) (by rw [firstPlace]; omega)
    rw [secondStatus] at terminal
    cases terminal

end Fetches

end PassiveEventRepository

end Lcm.PassiveEvents
