import Lcm.Hooks.EventsDb
import Lcm.Library.Prefixes
import Lcm.Library.StepSystem

namespace Lcm.Hooks
open Text Store PassiveEvents

variable {Number : Type}

/-- One operation on the local outbox. -/
inductive OutboxAction (Number : Type) where
  | insertEvent (eventUuid : JsString) (registeredMachineId : Option JsString)
      (machineSequence : Nat) (createdAt sessionId : JsString) (event : LocalHookEvent Number)
      (sourceHook : JsString)
  | markProcessed (eventIds : List EventId)
  | setPrevEventId (eventId : EventId) (prevEventId : Nat)
  | claimDeliveries (input : LocalHookDeliveryClaimInput)
  | markReplicated (eventId claimOwner : JsString) (remoteInboxId : Int)
  | markDeliveryRetry (eventId claimOwner error : JsString) (nextAttemptAt : Option SqliteTime)
  | markDeliveryQuarantined (eventId claimOwner reason : JsString)
  | markAcknowledged (eventId : JsString) (remoteInboxId : Int)
  | markQuarantined (eventId : JsString) (remoteInboxId : Int) (reason : JsString)
  | requeueReplicated (eventId : JsString) (remoteInboxId : Int)
  | replayQuarantined (eventId : JsString)
  | markRemotePruned (eventId : JsString)
  | pruneProcessed (olderThanDays : Int) (awaitingReplication : Bool)

/-- The outbox with every row that a claim has returned so far. -/
structure OutboxRun (Number : Type) where
  table : EventsTable Number
  returned : List (EventId × EventRow Number)

namespace OutboxRun

/-- A failed operation changes nothing. -/
def withTable (run : OutboxRun Number) {Reply : Type}
    (result : Except EventsDbError (Reply × EventsTable Number)) : OutboxRun Number :=
  match result with
  | .ok (_, after) => { run with table := after }
  | .error _ => run

def step (platform : OutboxPlatform Number) (run : OutboxRun Number)
    (action : OutboxAction Number × LocalClock) : OutboxRun Number :=
  let clock := action.2
  match action.1 with
  | .insertEvent eventUuid registeredMachineId machineSequence createdAt sessionId event sourceHook =>
      run.withTable (run.table.insertEvent platform eventUuid registeredMachineId machineSequence
        createdAt clock sessionId event sourceHook)
  | .markProcessed eventIds => { run with table := run.table.markProcessed eventIds clock }
  | .setPrevEventId eventId prevEventId =>
      { run with table := run.table.setPrevEventId eventId prevEventId clock }
  | .claimDeliveries input =>
      match run.table.claimDeliveries input clock with
      | .ok (claimed, after) => ⟨after, run.returned ++ claimed⟩
      | .error _ => run
  | .markReplicated eventId claimOwner remoteInboxId =>
      run.withTable (run.table.markReplicated eventId claimOwner remoteInboxId clock)
  | .markDeliveryRetry eventId claimOwner error nextAttemptAt =>
      run.withTable (run.table.markDeliveryRetry platform eventId claimOwner error nextAttemptAt clock)
  | .markDeliveryQuarantined eventId claimOwner reason =>
      run.withTable (run.table.markDeliveryQuarantined platform eventId claimOwner reason clock)
  | .markAcknowledged eventId remoteInboxId =>
      run.withTable (run.table.markAcknowledged eventId remoteInboxId clock)
  | .markQuarantined eventId remoteInboxId reason =>
      run.withTable (run.table.markQuarantined platform eventId remoteInboxId reason clock)
  | .requeueReplicated eventId remoteInboxId =>
      run.withTable (run.table.requeueReplicated eventId remoteInboxId clock)
  | .replayQuarantined eventId => run.withTable (run.table.replayQuarantined eventId clock)
  | .markRemotePruned eventId => run.withTable (run.table.markRemotePruned eventId clock)
  | .pruneProcessed olderThanDays awaitingReplication =>
      { run with table := (run.table.pruneProcessed olderThanDays awaitingReplication clock).2 }

end OutboxRun

/-- Runs start from an empty outbox. -/
def outboxSystem (platform : OutboxPlatform Number) :
    StepSystem (OutboxRun Number) (OutboxAction Number × LocalClock) where
  start run := run = ⟨.empty, []⟩
  step before action after := after = before.step platform action

/-- A row that a delivery may still claim has no remote copy that it knows of; a row that was
claimed once belongs to a machine; and no priority is a negative zero. -/
structure EventRow.Sound (platform : OutboxPlatform Number) (row : EventRow Number) : Prop where
  unknown : row.delivery.state.isActive = true → row.delivery.remoteInboxId = none
  bound : 0 < row.delivery.attempts → row.envelope.machineId.isSome = true
  plain : platform.numbers.isNegativeZero row.envelope.priority = false

namespace EventsTable

variable {platform : OutboxPlatform Number} {table after : EventsTable Number}

/-- What an operation leaves of a row: it stays sound, and its envelope is fixed once it has been
claimed. -/
structure Keeps (platform : OutboxPlatform Number) (old row : EventRow Number) : Prop where
  sound : old.Sound platform → row.Sound platform
  claimed : 0 < old.delivery.attempts → 0 < row.delivery.attempts
  fixed : 0 < old.delivery.attempts → old.envelope.machineId.isSome = true →
    row.envelope = old.envelope

theorem Keeps.refl (row : EventRow Number) : Keeps platform row row := ⟨id, id, fun _ _ => rfl⟩

/-- Every row of the later table is new and sound, or comes from a row that keeps its facts. -/
structure Evolves (platform : OutboxPlatform Number) (table after : EventsTable Number) : Prop where
  sequence : table.sequence ≤ after.sequence
  rows : ∀ eventId row, after.get? eventId = some row →
    (table.sequence < eventId ∧ row.Sound platform) ∨
      ∃ old, table.get? eventId = some old ∧ Keeps platform old row

namespace Evolves

theorem refl (table : EventsTable Number) : Evolves platform table table where
  sequence := le_rfl
  rows _ row found := .inr ⟨row, found, .refl row⟩

theorem modified {change : EventId → EventRow Number → EventRow Number}
    (sequence : after.sequence = table.sequence)
    (changed : ∀ eventId, after.get? eventId = (table.get? eventId).map (change eventId))
    (rows : ∀ eventId row, table.get? eventId = some row →
      Keeps platform row (change eventId row)) : Evolves platform table after where
  sequence := sequence.ge
  rows eventId row found := by
    rw [changed] at found
    obtain ⟨old, stored, rfl⟩ := Option.map_eq_some_iff.mp found
    exact .inr ⟨old, stored, rows eventId old stored⟩

theorem retain (keep : EventRow Number → Bool) : Evolves platform table (table.retain keep) where
  sequence := le_rfl
  rows _ row found := .inr ⟨row, (get?_retain.mp found).1, .refl row⟩

/-- A guarded update of delivery columns keeps the attempts, and gives no inbox identifier to a row
that stays active. -/
theorem transition {eventUuid : JsString} {guard' : DeliveryColumns → Bool}
    {change : DeliveryColumns → DeliveryColumns}
    (attempts : ∀ columns, (change columns).attempts = columns.attempts)
    (unknown : ∀ columns, guard' columns = true →
      (columns.state.isActive = true → columns.remoteInboxId = none) →
        (change columns).state.isActive = true → (change columns).remoteInboxId = none) :
    Evolves platform table (table.transition eventUuid guard' change).2 := by
  refine modified rfl (get?_deliver table _ _) ?_
  intro eventId row _
  split
  · next matched =>
      have guarded := (Bool.and_eq_true_iff.mp matched).2
      refine ⟨fun sound => ⟨unknown _ guarded sound.unknown, ?_, sound.plain⟩, ?_, fun _ _ => rfl⟩
      · intro claimed
        exact sound.bound (attempts row.delivery ▸ claimed)
      · intro claimed
        exact (attempts row.delivery).symm ▸ claimed
  · exact .refl row

end Evolves

theorem insertEvent_evolves {eventUuid : JsString} {registeredMachineId : Option JsString}
    {machineSequence : Nat} {createdAt sessionId sourceHook : JsString} {clock : LocalClock}
    {event : LocalHookEvent Number} {eventId : EventId}
    (inserted : table.insertEvent platform eventUuid registeredMachineId machineSequence createdAt
      clock sessionId event sourceHook = .ok (eventId, after)) : Evolves platform table after := by
  rw [insertEvent] at inserted
  split at inserted
  · dsimp only at inserted
    split at inserted
    · next last stored =>
        cases inserted
        constructor
        · rw [sequence_insert? stored]
          omega
        · intro otherId row found
          rw [get?_insert? stored] at found
          split at found
          · next new =>
              cases found
              left
              refine ⟨new ▸ Nat.lt_succ_self _, fun _ => rfl, fun claimed => absurd claimed (lt_irrefl 0), ?_⟩
              dsimp only
              split
              · exact platform.numbers.plain_ofNat 0
              · next plain => exact Bool.eq_false_of_not_eq_true plain
          · exact .inr ⟨row, found, .refl row⟩
    · cases inserted
  · cases inserted

theorem markProcessed_evolves (eventIds : List EventId) (clock : LocalClock) :
    Evolves platform table (table.markProcessed eventIds clock) := by
  refine Evolves.modified rfl (get?_markProcessed eventIds clock table) ?_
  intro eventId row _
  split
  · exact ⟨fun sound => ⟨sound.unknown, sound.bound, sound.plain⟩, id, fun _ _ => rfl⟩
  · exact .refl row

/-- The previous event is only set on rows that no claim has returned. -/
theorem setPrevEventId_evolves (eventId : EventId) (prevEventId : Nat) (clock : LocalClock) :
    Evolves platform table (table.setPrevEventId eventId prevEventId clock) := by
  refine Evolves.modified rfl (get?_setPrevEventId eventId prevEventId clock table) ?_
  intro stored row _
  rw [withPrevEventId]
  split
  · next matched =>
      have fresh : row.delivery.attempts = 0 := by
        have untouched := matched.2.2
        simp only [isUntouched, Bool.and_eq_true, beq_iff_eq] at untouched
        exact untouched.2
      refine ⟨fun sound => ⟨sound.unknown, sound.bound, sound.plain⟩, id, ?_⟩
      intro claimed
      omega
  · exact .refl row

theorem markReplicated_evolves {eventId claimOwner : JsString} {remoteInboxId : Int}
    {clock : LocalClock} {done : Bool}
    (marked : table.markReplicated eventId claimOwner remoteInboxId clock = .ok (done, after)) :
    Evolves platform table after := by
  simp only [markReplicated, Except.bind_eq_ok, Except.pure_eq_ok] at marked
  obtain ⟨_, _, _, _, _, _, same⟩ := marked
  obtain rfl := congrArg Prod.snd same
  apply Evolves.transition
  · exact fun _ => rfl
  · intro _ _ _ active
    cases active

theorem requeueReplicated_evolves {eventId : JsString} {remoteInboxId : Int} {clock : LocalClock}
    {done : Bool}
    (marked : table.requeueReplicated eventId remoteInboxId clock = .ok (done, after)) :
    Evolves platform table after := by
  simp only [requeueReplicated, Except.bind_eq_ok, Except.pure_eq_ok] at marked
  obtain ⟨_, _, _, _, same⟩ := marked
  obtain rfl := congrArg Prod.snd same
  apply Evolves.transition
  · exact fun _ => rfl
  · exact fun _ _ _ _ => rfl

/-- A claimed row keeps the identifier that it does not have. -/
theorem claimed_unknown {claimOwner : JsString} {columns : DeliveryColumns}
    (claimed : claimedBy claimOwner columns = true)
    (unknown : columns.state.isActive = true → columns.remoteInboxId = none) :
    columns.remoteInboxId = none := by
  apply unknown
  rw [claimedBy] at claimed
  split at claimed
  · next state => rw [state]; rfl
  · cases claimed

theorem markDeliveryRetry_evolves {eventId claimOwner error : JsString}
    {nextAttemptAt : Option SqliteTime} {clock : LocalClock} {done : Bool}
    (marked : table.markDeliveryRetry platform eventId claimOwner error nextAttemptAt clock =
      .ok (done, after)) : Evolves platform table after := by
  simp only [markDeliveryRetry, Except.bind_eq_ok] at marked
  obtain ⟨_, _, _, _, rest⟩ := marked
  split at rest
  · obtain rfl := congrArg Prod.snd (Except.pure_eq_ok.mp rest)
    apply Evolves.transition
    · exact fun _ => rfl
    · intro columns claimed unknown _
      have kept := claimed_unknown claimed unknown
      exact kept
  · split at rest
    · cases rest
    · cases rest
      exact .refl _

theorem markDeliveryQuarantined_evolves {eventId claimOwner reason : JsString} {clock : LocalClock}
    {done : Bool} (marked : table.markDeliveryQuarantined platform eventId claimOwner reason clock =
      .ok (done, after)) : Evolves platform table after := by
  simp only [markDeliveryQuarantined, Except.bind_eq_ok, Except.pure_eq_ok] at marked
  obtain ⟨_, _, _, _, same⟩ := marked
  obtain rfl := congrArg Prod.snd same
  apply Evolves.transition
  · exact fun _ => rfl
  · intro _ _ _ active
    cases active

theorem markAcknowledged_evolves {eventId : JsString} {remoteInboxId : Int} {clock : LocalClock}
    {done : Bool}
    (marked : table.markAcknowledged eventId remoteInboxId clock = .ok (done, after)) :
    Evolves platform table after := by
  simp only [markAcknowledged, Except.bind_eq_ok, Except.pure_eq_ok] at marked
  obtain ⟨_, _, _, _, same⟩ := marked
  obtain rfl := congrArg Prod.snd same
  apply Evolves.transition
  · exact fun _ => rfl
  · intro _ _ _ active
    cases active

theorem markQuarantined_evolves {eventId : JsString} {remoteInboxId : Int} {reason : JsString}
    {clock : LocalClock} {done : Bool}
    (marked : table.markQuarantined platform eventId remoteInboxId reason clock = .ok (done, after)) :
    Evolves platform table after := by
  simp only [markQuarantined, Except.bind_eq_ok, Except.pure_eq_ok] at marked
  obtain ⟨_, _, _, _, same⟩ := marked
  obtain rfl := congrArg Prod.snd same
  apply Evolves.transition
  · exact fun _ => rfl
  · intro _ _ _ active
    cases active

theorem replayQuarantined_evolves {eventId : JsString} {clock : LocalClock} {done : Bool}
    (marked : table.replayQuarantined eventId clock = .ok (done, after)) :
    Evolves platform table after := by
  simp only [replayQuarantined, Except.bind_eq_ok, Except.pure_eq_ok] at marked
  obtain ⟨_, _, same⟩ := marked
  obtain rfl := congrArg Prod.snd same
  apply Evolves.transition
  · exact fun _ => rfl
  · intro columns _ _ active
    by_cases known : columns.remoteInboxId.isNone = true
    · exact Option.isNone_iff_eq_none.mp known
    · simp [known, DeliveryState.isActive] at active

theorem markRemotePruned_evolves {eventId : JsString} {clock : LocalClock} {done : Bool}
    (marked : table.markRemotePruned eventId clock = .ok (done, after)) :
    Evolves platform table after := by
  simp only [markRemotePruned, Except.bind_eq_ok, Except.pure_eq_ok] at marked
  obtain ⟨_, _, same⟩ := marked
  obtain rfl := congrArg Prod.snd same
  apply Evolves.transition
  · exact fun _ => rfl
  · exact fun _ _ unknown active => unknown active

/-- The place of a row in the order of the machine's sequence. -/
def place (entry : EventId × EventRow Number) : ℕ ×ₗ EventId :=
  toLex (entry.2.envelope.machineSequence, entry.1)

/-- A change that keeps which rows are active keeps them in their order. -/
theorem activeRows_modify {change : EventId → EventRow Number → EventRow Number} {keeps}
    (active : ∀ eventId row, table.get? eventId = some row →
      (change eventId row).delivery.state.isActive = row.delivery.state.isActive) :
    (table.modify change keeps).activeRows.map Prod.fst = table.activeRows.map Prod.fst := by
  have entries : (table.modify change keeps).rows.entries = table.rows.entries.map
      fun entry => (entry.1, change entry.1 entry.2) := rfl
  have filtered : (table.modify change keeps).rows.entries.filter
      (fun entry => entry.2.delivery.state.isActive) =
        (table.rows.entries.filter fun entry => entry.2.delivery.state.isActive).map
          fun entry => (entry.1, change entry.1 entry.2) := by
    rw [entries, List.filter_map]
    congr 1
    apply List.filter_congr
    intro entry inside
    exact active entry.1 entry.2 (KeyedTable.get?_eq_some.mpr inside)
  have moved : ∀ entry ∈ table.rows.entries.filter (fun entry => entry.2.delivery.state.isActive),
      place (entry.1, change entry.1 entry.2) = place entry := by
    intro entry _
    rw [place, (keeps entry.1 entry.2).2]
    rfl
  have same : (table.modify change keeps).activeRows = table.activeRows.map
      fun entry => (entry.1, change entry.1 entry.2) := by
    rw [activeRows, filtered]
    exact (SortedBy.map moved).symm
  rw [same, List.map_map]
  rfl

/-- The candidates are a prefix of the active rows in the order of the machine's sequence. -/
theorem claimableRows_prefix (staleClaimMs : Nat) (clock : LocalClock) (limit : Nat)
    (table : EventsTable Number) :
    table.claimableRows staleClaimMs clock limit <+: table.activeRows.map Prod.fst := by
  have prefixes := filter_running_count
    (fun entry : EventId × EventRow Number => isEligible staleClaimMs clock entry.2) table.activeRows
  have firsts : (table.activeRows.zipIdx.filter fun numbered =>
      isEligible staleClaimMs clock numbered.1.2 && (table.activeRows.take (numbered.2 + 1)).countP
        (fun earlier => !isEligible staleClaimMs clock earlier.2) = 0).map (fun numbered => numbered.1.1) =
      (table.activeRows.takeWhile fun entry =>
        isEligible staleClaimMs clock entry.2).map Prod.fst := by
    rw [← prefixes, List.map_map]
    rfl
  have claimed : table.claimableRows staleClaimMs clock limit = ((table.activeRows.takeWhile fun entry =>
      isEligible staleClaimMs clock entry.2).map Prod.fst).take limit :=
    congrArg (List.take limit) firsts
  rw [claimed]
  exact (List.take_prefix _ _).trans ((List.takeWhile_prefix _).map Prod.fst)

/-- The rows of a prefix of the active rows, in their order. -/
theorem sortedBy_candidates {candidates : List EventId}
    (first : candidates <+: table.activeRows.map Prod.fst) :
    (sortedBy place (table.rows.entries.filter fun entry => entry.1 ∈ candidates)).map Prod.fst =
      candidates := by
  obtain ⟨count, rfl⟩ : ∃ count, candidates = (table.activeRows.take count).map Prod.fst :=
    ⟨candidates.length, by rw [List.map_take]; exact (List.prefix_iff_eq_take.mp first)⟩
  have stored : ∀ entry ∈ table.activeRows, entry ∈ table.rows.entries := fun entry inside =>
    (List.mem_filter.mp ((SortedBy.perm _).mem_iff.mp inside)).1
  have keyed : ∀ first ∈ table.rows.entries, ∀ second ∈ table.rows.entries,
      first.1 = second.1 → first = second := fun _ firstIn _ secondIn same =>
    List.inj_on_of_nodup_map table.rows.distinct firstIn secondIn same
  have entries : table.rows.entries.Nodup := table.rows.distinct.of_map
  have active : table.activeRows.Nodup := (SortedBy.perm _).nodup_iff.mpr (entries.filter _)
  have same : (table.activeRows.take count).Perm (table.rows.entries.filter fun entry =>
      entry.1 ∈ (table.activeRows.take count).map Prod.fst) := by
    apply (List.perm_ext_iff_of_nodup (active.sublist (List.take_sublist _ _)) (entries.filter _)).mpr
    intro entry
    simp only [List.mem_filter, List.mem_map, decide_eq_true_eq]
    constructor
    · intro inside
      exact ⟨stored entry (List.mem_of_mem_take inside), entry, inside, rfl⟩
    · rintro ⟨member, other, inside, same⟩
      rw [← keyed other (stored other (List.mem_of_mem_take inside)) entry member same]
      exact inside
  have ascending : (table.activeRows.take count).Pairwise fun first second =>
      place first ≤ place second := (SortedBy.sorted _).sublist (List.take_sublist count _)
  congr 1
  apply SortedBy.eq_of_perm _ ascending same
  intro firstEntry firstIn secondEntry secondIn same
  exact keyed firstEntry (List.mem_filter.mp firstIn).1 secondEntry (List.mem_filter.mp secondIn).1
    (congrArg (fun key => (ofLex key).2) same)

theorem activeRows_found {eventId : EventId}
    (inside : eventId ∈ table.activeRows.map Prod.fst) :
    ∃ row, table.get? eventId = some row ∧ row.delivery.state.isActive = true := by
  obtain ⟨entry, member, rfl⟩ := List.mem_map.mp inside
  obtain ⟨stored, active⟩ := List.mem_filter.mp ((SortedBy.perm _).mem_iff.mp member)
  exact ⟨entry.2, KeyedTable.get?_eq_some.mpr stored, active⟩

theorem activeRows_nodup (table : EventsTable Number) : (table.activeRows.map Prod.fst).Nodup :=
  ((SortedBy.perm _).map Prod.fst).nodup_iff.mpr
    (table.rows.distinct.sublist (List.filter_sublist.map _))

/-- What a claim does: it returns the first active rows as it leaves them. -/
structure Claims (table after : EventsTable Number) (machineId claimOwner : JsString)
    (clock : LocalClock) (claimed : List (EventId × EventRow Number)) : Prop where
  sequence : after.sequence = table.sequence
  rows : ∀ eventId, after.get? eventId = (table.get? eventId).map fun row =>
    if eventId ∈ claimed.map Prod.fst then
      { withMachine machineId clock row with
        delivery := claimColumns claimOwner clock (withMachine machineId clock row).delivery }
    else withMachine machineId clock row
  returned : ∀ entry ∈ claimed, after.get? entry.1 = some entry.2
  first : claimed.map Prod.fst <+: table.activeRows.map Prod.fst

theorem claimDeliveries_claims {input : LocalHookDeliveryClaimInput} {clock : LocalClock}
    {claimed : List (EventId × EventRow Number)}
    (claims : table.claimDeliveries input clock = .ok (claimed, after)) :
    ∃ machineId claimOwner, localNonblank "claim owner" input.claimOwner = .ok claimOwner ∧
      Claims table after machineId claimOwner clock claimed := by
  simp only [claimDeliveries, Except.bind_eq_ok] at claims
  obtain ⟨machineId, _, claimOwner, owns, limit, _, staleClaimMs, _, rest⟩ := claims
  split at rest
  · cases rest
  · obtain ⟨rfl, rfl⟩ := Prod.mk.inj (Except.pure_eq_ok.mp rest)
    have first : (table.bindMachine machineId clock).claimableRows staleClaimMs clock limit <+:
        (table.bindMachine machineId clock).activeRows.map Prod.fst := claimableRows_prefix ..
    generalize (table.bindMachine machineId clock).claimableRows staleClaimMs clock limit =
      candidates at first ⊢
    have bound : (table.bindMachine machineId clock).activeRows.map Prod.fst =
        table.activeRows.map Prod.fst := by
      apply activeRows_modify
      intro _ row _
      rw [withMachine]
      split <;> rfl
    have delivered : ((table.bindMachine machineId clock).deliver
        (fun eventId _ => eventId ∈ candidates)
          (claimColumns claimOwner clock)).activeRows.map Prod.fst =
            (table.bindMachine machineId clock).activeRows.map Prod.fst := by
      apply activeRows_modify
      intro eventId row stored
      split
      · next inside =>
          obtain ⟨active, found, same⟩ := activeRows_found (first.subset (of_decide_eq_true inside))
          rw [stored] at found
          cases found
          rw [same]
          rfl
      · rfl
    have ids := sortedBy_candidates (delivered.symm ▸ first)
    refine ⟨machineId, claimOwner, owns, rfl, ?_, ?_, ?_⟩
    · intro eventId
      show EventsTable.get? (deliver ..) eventId = _
      rw [get?_deliver, get?_bindMachine, Option.map_map]
      congr 1
      funext row
      simp only [Function.comp_apply, decide_eq_true_eq]
      congr 1
      exact congrArg (eventId ∈ ·) ids.symm
    · intro entry inside
      exact KeyedTable.get?_eq_some.mpr (List.mem_filter.mp ((SortedBy.perm _).mem_iff.mp inside)).1
    · show List.map Prod.fst (sortedBy place _) <+: _
      rw [ids, ← bound]
      exact first

/-- A claim leaves the rows it does not return as it found them, up to their machine. -/
theorem Claims.evolves {machineId claimOwner : JsString} {clock : LocalClock}
    {claimed : List (EventId × EventRow Number)}
    (claims : Claims table after machineId claimOwner clock claimed) :
    Evolves platform table after := by
  refine Evolves.modified claims.sequence claims.rows ?_
  intro eventId row found
  have bound : Keeps platform row (withMachine machineId clock row) ∧
      (withMachine machineId clock row).delivery.state = row.delivery.state ∧
        (withMachine machineId clock row).envelope.machineId.isSome = true := by
    rw [withMachine]
    split
    · next unbound =>
        refine ⟨⟨fun sound => ⟨sound.unknown, fun _ => rfl, sound.plain⟩, id, ?_⟩, rfl, rfl⟩
        intro _ known
        rw [Option.isNone_iff_eq_none.mp unbound] at known
        cases known
    · next known => exact ⟨.refl row, rfl, Option.isSome_iff_ne_none.mpr (by simpa using known)⟩
  obtain ⟨kept, state, known⟩ := bound
  split
  · next inside =>
      obtain ⟨stored, same, active⟩ := activeRows_found (claims.first.subset inside)
      rw [found] at same
      cases same
      refine ⟨fun sound => ⟨fun _ => ?_, fun _ => known, (kept.sound sound).plain⟩,
        fun _ => Nat.succ_pos _, kept.fixed⟩
      apply (kept.sound sound).unknown
      rw [state]
      exact active
  · exact kept

end EventsTable

open EventsTable

/-- What holds of every run of the outbox. -/
structure OutboxRun.Lasting (platform : OutboxPlatform Number) (run : OutboxRun Number) : Prop where
  sound : ∀ eventId row, run.table.get? eventId = some row → row.Sound platform
  past : ∀ entry ∈ run.returned, entry.1 ≤ run.table.sequence
  bound : ∀ entry ∈ run.returned, entry.2.envelope.machineId.isSome = true ∧
    platform.numbers.isNegativeZero entry.2.envelope.priority = false
  current : ∀ entry ∈ run.returned, ∀ row, run.table.get? entry.1 = some row →
    0 < row.delivery.attempts ∧ row.envelope = entry.2.envelope
  agree : ∀ first ∈ run.returned, ∀ second ∈ run.returned, first.1 = second.1 →
    first.2.envelope = second.2.envelope

namespace OutboxRun.Lasting

variable {platform : OutboxPlatform Number} {run : OutboxRun Number}

/-- A row of the later table with the identifier of a returned row comes from that row. -/
theorem kept {after : EventsTable Number} (lasting : run.Lasting platform)
    (evolves : Evolves platform run.table after) {entry : EventId × EventRow Number}
    (inside : entry ∈ run.returned) {row : EventRow Number} (found : after.get? entry.1 = some row) :
    0 < row.delivery.attempts ∧ row.envelope = entry.2.envelope := by
  rcases evolves.rows entry.1 row found with ⟨newer, _⟩ | ⟨old, stored, keeps⟩
  · exact absurd newer (not_lt.mpr (lasting.past entry inside))
  · obtain ⟨attempts, same⟩ := lasting.current entry inside old stored
    have bound := (lasting.sound _ _ stored).bound attempts
    exact ⟨keeps.claimed attempts, (keeps.fixed attempts bound).trans same⟩

theorem evolve {after : EventsTable Number} (lasting : run.Lasting platform)
    (evolves : Evolves platform run.table after) :
    ({ run with table := after } : OutboxRun Number).Lasting platform where
  sound eventId row found := by
    rcases evolves.rows eventId row found with ⟨_, sound⟩ | ⟨old, stored, keeps⟩
    · exact sound
    · exact keeps.sound (lasting.sound eventId old stored)
  past entry inside := (lasting.past entry inside).trans evolves.sequence
  bound := lasting.bound
  current _ inside _ found := lasting.kept evolves inside found
  agree := lasting.agree

/-- The rows that a claim returns are the current ones, with attempts on them. -/
theorem claim {after : EventsTable Number} {machineId claimOwner : JsString} {clock : LocalClock}
    {claimed : List (EventId × EventRow Number)} (lasting : run.Lasting platform)
    (claims : Claims run.table after machineId claimOwner clock claimed) :
    (⟨after, run.returned ++ claimed⟩ : OutboxRun Number).Lasting platform := by
  have evolved := lasting.evolve claims.evolves
  have attempted : ∀ entry ∈ claimed, 0 < entry.2.delivery.attempts := by
    intro entry inside
    have found := claims.returned entry inside
    rw [claims.rows] at found
    obtain ⟨old, _, same⟩ := Option.map_eq_some_iff.mp found
    rw [if_pos (List.mem_map_of_mem inside)] at same
    rw [← same]
    exact Nat.succ_pos _
  constructor
  · exact evolved.sound
  · intro entry inside
    rcases List.mem_append.mp inside with old | new
    · exact evolved.past entry old
    · exact after.within _ _ (claims.returned entry new)
  · intro entry inside
    rcases List.mem_append.mp inside with old | new
    · exact lasting.bound entry old
    · have sound := evolved.sound _ _ (claims.returned entry new)
      exact ⟨sound.bound (attempted entry new), sound.plain⟩
  · intro entry inside row found
    rcases List.mem_append.mp inside with old | new
    · exact evolved.current entry old row found
    · have same := claims.returned entry new
      dsimp only at found
      rw [found] at same
      cases same
      exact ⟨attempted entry new, rfl⟩
  · intro first firstIn second secondIn same
    rcases List.mem_append.mp firstIn with firstOld | firstNew <;>
      rcases List.mem_append.mp secondIn with secondOld | secondNew
    · exact lasting.agree first firstOld second secondOld same
    · have found := claims.returned second secondNew
      rw [← same] at found
      exact (evolved.current first firstOld _ found).2.symm
    · have found := claims.returned first firstNew
      rw [same] at found
      exact (evolved.current second secondOld _ found).2
    · have found := claims.returned first firstNew
      rw [same, claims.returned second secondNew] at found
      exact congrArg EventRow.envelope (Option.some.inj found.symm)

theorem step (lasting : run.Lasting platform) (action : OutboxAction Number × LocalClock) :
    (run.step platform action).Lasting platform := by
  have withTable : ∀ {Reply : Type} {result : Except EventsDbError (Reply × EventsTable Number)},
      (∀ reply after, result = .ok (reply, after) → Evolves platform run.table after) →
        (run.withTable result).Lasting platform := by
    intro Reply result evolves
    rcases result with error | ⟨reply, after⟩
    · exact lasting
    · exact lasting.evolve (evolves reply after rfl)
  obtain ⟨action, clock⟩ := action
  cases action with
  | insertEvent => exact withTable fun _ _ inserted => insertEvent_evolves inserted
  | markProcessed eventIds => exact lasting.evolve (markProcessed_evolves eventIds clock)
  | setPrevEventId eventId previous =>
      exact lasting.evolve (setPrevEventId_evolves eventId previous clock)
  | claimDeliveries input =>
      rw [OutboxRun.step]
      dsimp only
      split
      · next claimed after claims =>
          obtain ⟨_, _, _, claims⟩ := claimDeliveries_claims claims
          exact lasting.claim claims
      · exact lasting
  | markReplicated => exact withTable fun _ _ marked => markReplicated_evolves marked
  | markDeliveryRetry => exact withTable fun _ _ marked => markDeliveryRetry_evolves marked
  | markDeliveryQuarantined => exact withTable fun _ _ marked => markDeliveryQuarantined_evolves marked
  | markAcknowledged => exact withTable fun _ _ marked => markAcknowledged_evolves marked
  | markQuarantined => exact withTable fun _ _ marked => markQuarantined_evolves marked
  | requeueReplicated => exact withTable fun _ _ marked => requeueReplicated_evolves marked
  | replayQuarantined => exact withTable fun _ _ marked => replayQuarantined_evolves marked
  | markRemotePruned => exact withTable fun _ _ marked => markRemotePruned_evolves marked
  | pruneProcessed olderThanDays awaiting =>
      have retained : Evolves platform run.table
          (run.table.pruneProcessed olderThanDays awaiting clock).2 :=
        Evolves.retain fun row => !isPrunable olderThanDays awaiting clock row
      exact lasting.evolve retained

theorem reachable (reached : (outboxSystem platform).Reachable run) : run.Lasting platform := by
  induction reached with
  | start initial =>
      subst initial
      exact ⟨fun _ _ found => (nomatch found), fun _ outside => (nomatch outside),
        fun _ outside => (nomatch outside), fun _ outside => (nomatch outside),
        fun _ outside => (nomatch outside)⟩
  | next _ moved ih =>
      subst moved
      exact ih.step _

end OutboxRun.Lasting

end Lcm.Hooks
