import Lcm.Promotion.PromotionSteps

namespace Lcm.Promotion
open Text Hooks Migration

variable {Store Number : Type} {platform : PromotionPlatform Store Number}
  {projectId machineId : JsString} {epoch : MigrationReceiptEpoch}
  {world next : PromotionWorld Store Number}

section Knowledge

/-- What a batch knows of an event that it has read. -/
structure Known (world : PromotionWorld Store Number) (event : PromotionEvent Number) : Prop where
  within : event.eventId ≤ world.outbox.sequence
  inserted : event.row.envelope.eventUuid ∈ world.inserted
  rows : ∀ eventId stored, world.outbox.get? eventId = some stored →
    (eventId = event.eventId ∨ stored.envelope.eventUuid = event.row.envelope.eventUuid) →
      SameEvent (readEnvelope stored.envelope) event.row.envelope

/-- An event that may be marked as processed. -/
structure Done (projectId machineId : JsString) (epoch : MigrationReceiptEpoch) (eventId : EventId)
    (world : PromotionWorld Store Number) : Prop where
  within : eventId ≤ world.outbox.sequence
  receipted : ∀ stored, world.outbox.get? eventId = some stored →
    InEpoch machineId epoch (readEnvelope stored.envelope) →
      HasReceipt projectId machineId world.project stored.envelope.eventUuid

theorem Known.later {event : PromotionEvent Number} (known : Known world event)
    (grows : Grows projectId machineId world next) : Known next event := by
  refine ⟨known.within.trans grows.sequence, grows.inserted known.inserted, ?_⟩
  intro eventId stored found same
  rcases grows.rows eventId stored found with ⟨old, before, event'⟩ | ⟨new, fresh⟩
  · rw [← event'.eventUuid] at same
    exact event'.read.symm.trans (known.rows eventId old before same)
  · rcases same with rfl | uuid
    · exact absurd new (Nat.not_lt.mpr known.within)
    · exact absurd known.inserted (uuid ▸ fresh)

theorem Done.later {eventId : EventId} (done : Done projectId machineId epoch eventId world)
    (grows : Grows projectId machineId world next) : Done projectId machineId epoch eventId next := by
  refine ⟨done.within.trans grows.sequence, ?_⟩
  intro stored found inEpoch
  rcases grows.rows eventId stored found with ⟨old, before, same⟩ | ⟨new, _⟩
  · obtain ⟨row, inside, uuid⟩ := done.receipted old before (same.read.inEpoch.mpr inEpoch)
    exact ⟨row, grows.receipts inside, uuid.trans same.eventUuid⟩
  · exact absurd new (Nat.not_lt.mpr done.within)

/-- An event of another machine or before the epoch needs no receipt. -/
theorem Known.done_of_other {event : PromotionEvent Number} (known : Known world event)
    (other : ¬ InEpoch machineId epoch event.row.envelope) :
    Done projectId machineId epoch event.eventId world := by
  refine ⟨known.within, fun stored found inEpoch => ?_⟩
  exact absurd ((known.rows event.eventId stored found (.inl rfl)).inEpoch.mp inEpoch) other

theorem Known.done_of_receipt {event : PromotionEvent Number} (known : Known world event)
    (sound : PromotionSound platform projectId machineId epoch world)
    (receipted : HasReceipt projectId machineId world.project event.row.envelope.eventUuid) :
    Done projectId machineId epoch event.eventId world := by
  refine ⟨known.within, fun stored found _ => ?_⟩
  have uuid := (known.rows event.eventId stored found (.inl rfl)).eventUuid
  rw [readEnvelope_eventUuid (sound.events.canonical event.eventId stored found).1] at uuid
  rw [uuid]
  exact receipted

/-- An event that is read is known. -/
theorem known_of_read (sound : PromotionSound platform projectId machineId epoch world) {limit : Nat}
    {event : PromotionEvent Number}
    (read : (event.eventId, event.row) ∈ world.outbox.getUnprocessed platform.utf8 limit) :
    Known world event := by
  obtain ⟨stored, found, _, same⟩ := EventsTable.mem_getUnprocessed read
  obtain ⟨canonical, inserted⟩ := sound.events.canonical event.eventId stored found
  have uuid : event.row.envelope.eventUuid = stored.envelope.eventUuid := by
    rw [same]
    exact readEnvelope_eventUuid canonical
  refine ⟨world.outbox.within _ _ found, uuid ▸ inserted, ?_⟩
  intro eventId other here either
  have key : eventId = event.eventId := by
    rcases either with same | same
    · exact same
    · exact world.outbox.unique _ _ _ _ here found (.inl (same.trans uuid))
  rw [key, found] at here
  cases here
  rw [same]
  exact .refl _

end Knowledge

section Batches

variable {config : PromotionConfig Number} {clock : PromotionClock} {event : PromotionEvent Number}
  {reinforced : Bool}

/-- What a transaction meets when its commit does. -/
theorem meets_transaction {Value : Type} {envelope : EventEnvelope Number}
    {body : StateT (ProjectTables Store) (Except PromotionFailure) Value}
    {after : Value → PromotionWorld Store Number → Prop}
    (stable : ∀ value first second, after value first → Grows projectId machineId first second →
      after value second)
    (commits : ∀ later value project, Grows projectId machineId world later →
      PromotionSound platform projectId machineId epoch later →
        body later.project = .ok (value, project) →
          (Grows projectId machineId later { later with
              project, commits := later.commits ++ [⟨envelope, later.project, project⟩] } ∧
            PromotionSound platform projectId machineId epoch { later with
              project, commits := later.commits ++ [⟨envelope, later.project, project⟩] }) ∧
            after value { later with
              project, commits := later.commits ++ [⟨envelope, later.project, project⟩] }) :
    (promotionInterference platform projectId machineId epoch).Meets after (fun _ _ => True)
      (transaction envelope body) world := by
  apply Interference.meets_act
  · intro later moved holds
    split
    · exact ⟨.refl projectId machineId later, holds⟩
    · next value project ran => exact (commits later value project moved holds ran).1
  · intro later value moved holds given last further _
    split at given
    · cases given
    · next result project ran =>
        cases given
        rw [ran] at further
        exact stable _ _ _ (commits later _ project moved holds ran).2 further
  · exact fun _ _ _ _ => trivial

/-- The epoch that is read for an event. -/
structure EpochRead (machineId : JsString) (epoch : MigrationReceiptEpoch) (event : PromotionEvent Number)
    (found : Option MigrationReceiptEpoch) : Prop where
  own : event.row.envelope.machineId = some machineId → found = some epoch
  machine : found.isSome = true → event.row.envelope.machineId.isSome = true

theorem meets_eventEpoch : (promotionInterference platform projectId machineId epoch).Meets
    (fun found _ => EpochRead machineId epoch event found) (fun _ _ => True)
      (eventEpoch platform ⟨projectId, .sqlite⟩ event) world := by
  rw [eventEpoch]
  split
  · next none =>
      apply Interference.meets_pure
      intro later _ _
      refine ⟨fun own => ?_, fun present => absurd present Bool.false_ne_true⟩
      rw [none] at own
      cases own
  · next machine some' =>
      rw [if_pos rfl]
      apply Interference.meets_act
      · exact fun later _ holds => ⟨.refl projectId machineId later, holds⟩
      · intro later found _ holds given last _ _
        refine ⟨fun own => ?_, fun _ => by rw [some']; rfl⟩
        rw [some'] at own
        cases own
        have read : getMigrationReceiptEpoch platform.toReceiptPlatform projectId machineId
            later.project.receipts = .ok (some epoch) := by
          obtain ⟨project, canonical⟩ := holds.receipts.identity
          rw [getMigrationReceiptEpoch, Except.bind_eq_ok]
          refine ⟨_, nulFree_eq_ok.mpr ⟨project, rfl⟩, Except.bind_eq_ok.mpr
            ⟨_, canonicalUuid_ok canonical _, ?_⟩⟩
          rw [holds.receipts.adopted]
          show (parseEpochRow platform.toReceiptPlatform epoch).map some = _
          rw [holds.receipts.parsed]
          rfl
        rw [read] at given
        exact (Except.ok.inj given).symm
      · exact fun _ _ _ _ => trivial

theorem meets_promoteWithoutReceipt (known : Known world event)
    (other : ¬ InEpoch machineId epoch event.row.envelope) :
    (promotionInterference platform projectId machineId epoch).Meets
      (fun _ => Done projectId machineId epoch event.eventId) (fun _ _ => True)
        (promoteWithoutReceipt platform config ⟨projectId, .sqlite⟩ event reinforced) world := by
  rw [promoteWithoutReceipt]
  split
  · exact Interference.meets_pure fun later moved _ => (known.later moved).done_of_other other
  · have committed : (promotionInterference platform projectId machineId epoch).Meets
        (fun _ => Done projectId machineId epoch event.eventId) (fun _ _ => True)
          (transaction event.row.envelope
            (deduplicate platform config ⟨projectId, .sqlite⟩ event reinforced)) world := by
      apply meets_transaction
      · exact fun _ _ _ done grows => done.later grows
      · intro later value project moved holds ran
        have commits := holds.commit_unreceipted (onPromoted_ok ran) other
        exact ⟨commits, ((known.later moved).later commits.1).done_of_other other⟩
    exact committed.bind fun _ later done _ => Interference.meets_pure fun last moved _ => done.later moved

/-- The transaction of an event with an epoch. -/
theorem meets_receiptedEffect (known : Known world event) {found : MigrationReceiptEpoch}
    (read : EpochRead machineId epoch event (some found))
    (reached : found.firstMachineSequence ≤ event.row.envelope.machineSequence) :
    (promotionInterference platform projectId machineId epoch).Meets
      (fun _ => Done projectId machineId epoch event.eventId) (fun _ _ => True)
        (transaction event.row.envelope (receiptedEffect platform config ⟨projectId, .sqlite⟩ clock
          found.epochId (event.row.envelope.machineId.getD []) event reinforced)) world := by
  obtain ⟨machine, bound⟩ := Option.isSome_iff_exists.mp (read.machine rfl)
  rw [bound, Option.getD_some]
  have inEpoch : InEpoch machineId epoch event.row.envelope ↔ machine = machineId := by
    rw [InEpoch, bound]
    constructor
    · exact fun both => Option.some.inj both.1
    · intro own
      have same := Option.some.inj (read.own (own ▸ bound))
      exact ⟨congrArg some own, same ▸ reached⟩
  apply meets_transaction
  · exact fun _ _ _ done grows => done.later grows
  · intro later value project moved holds ran
    have here := known.later moved
    rcases receiptedEffect_ok ran with ⟨same, receipted⟩ | ⟨row, recorded, missing, epochs, events⟩
    · -- the receipt was there, and the transaction changes nothing
      have changes := holds.commit (List.Subset.refl _) holds.receipts fun era : InEpoch machineId epoch
        event.row.envelope => ⟨inEpoch.mp era ▸ receipted, fun _ => rfl⟩
      rw [same]
      refine ⟨changes, ?_⟩
      by_cases era : InEpoch machineId epoch event.row.envelope
      · exact (here.later changes.1).done_of_receipt changes.2 (inEpoch.mp era ▸ receipted)
      · exact (here.later changes.1).done_of_other era
    · -- the receipt is committed with the effect
      have receipts := holds.receipts.record recorded.sound epochs events fun own => by
        have era := inEpoch.mpr (recorded.machineId.symm.trans own)
        have same := Option.some.inj (read.own era.1)
        refine ⟨recorded.epochId.trans (congrArg _ same), recorded.eventUuid ▸ here.inserted, ?_⟩
        intro eventId stored found uuid
        have event' := here.rows eventId stored found (.inr (uuid.symm.trans recorded.eventUuid))
        refine ⟨recorded.machineSequence.trans event'.machineSequence.symm, ?_⟩
        rw [event'.receiptEnvelope, ← inEpoch.mp era]
        exact recorded.digest
      have kept : later.project.receipts.receiptsOf projectId machineId ⊆
          project.receipts.receiptsOf projectId machineId := by
        intro receipt inside
        obtain ⟨stored, own⟩ := mem_receiptsOf.mp inside
        exact mem_receiptsOf.mpr ⟨events ▸ List.mem_append_left _ stored, own⟩
      have receipted : InEpoch machineId epoch event.row.envelope →
          HasReceipt projectId machineId project event.row.envelope.eventUuid := by
        intro era
        have own := recorded.machineId.trans (inEpoch.mp era)
        exact ⟨row, mem_receiptsOf.mpr ⟨events ▸ List.mem_append_right _ (List.mem_singleton_self row),
          recorded.projectId, own⟩, recorded.eventUuid⟩
      have changes := holds.commit kept receipts fun era : InEpoch machineId epoch event.row.envelope =>
        ⟨receipted era, fun before => absurd (inEpoch.mp era ▸ before) missing⟩
      refine ⟨changes, ?_⟩
      by_cases era : InEpoch machineId epoch event.row.envelope
      · exact (here.later changes.1).done_of_receipt changes.2 (receipted era)
      · exact (here.later changes.1).done_of_other era

theorem meets_promoteByEpoch (known : Known world event) {found : Option MigrationReceiptEpoch}
    (read : EpochRead machineId epoch event found) :
    (promotionInterference platform projectId machineId epoch).Meets
      (fun _ => Done projectId machineId epoch event.eventId) (fun _ _ => True)
        (promoteByEpoch platform config ⟨projectId, .sqlite⟩ clock event reinforced found) world := by
  rw [promoteByEpoch]
  split
  · next unreached =>
      apply meets_promoteWithoutReceipt known
      intro era
      rw [read.own era.1, Option.filter_some, if_pos (decide_eq_true era.2)] at unreached
      cases unreached
  · next own kept =>
      obtain ⟨same, reached⟩ := Option.filter_eq_some_iff.mp kept
      rw [same] at read
      exact meets_receiptedEffect known read (of_decide_eq_true reached)

/-- A change of the outbox that revises it. -/
theorem meets_onOutbox {change : EventsTable Number → EventsTable Number}
    (revises : ∀ later, Grows projectId machineId world later →
      PromotionSound platform projectId machineId epoch later →
        Revises projectId machineId epoch later (change later.outbox)) :
    (promotionInterference platform projectId machineId epoch).Meets (fun _ _ => True) (fun _ _ => True)
      (onOutbox change) world := by
  apply Interference.meets_act
  · intro later moved holds
    have revised := revises later moved holds
    exact ⟨revised.grows, holds.revise revised⟩
  · exact fun _ _ _ _ _ _ _ _ => trivial
  · exact fun _ _ _ _ => trivial

theorem meets_setCorrelation : (promotionInterference platform projectId machineId epoch).Meets
    (fun _ _ => True) (fun _ _ => True) (setCorrelation clock event) world := by
  rw [setCorrelation]
  split
  · exact Interference.meets_pure fun _ _ _ => trivial
  · exact meets_onOutbox fun _ _ _ => revises_setPrevEventId ..

/-- All events that count as done are done. -/
def AllDone (projectId machineId : JsString) (epoch : MigrationReceiptEpoch) (progress : BatchProgress)
    (world : PromotionWorld Store Number) : Prop :=
  ∀ eventId ∈ progress.processedIds, Done projectId machineId epoch eventId world

theorem AllDone.later {progress : BatchProgress} (done : AllDone projectId machineId epoch progress world)
    (grows : Grows projectId machineId world next) : AllDone projectId machineId epoch progress next :=
  fun eventId inside => (done eventId inside).later grows

/-- What counts besides the done events does not matter. -/
theorem AllDone.counted {progress : BatchProgress} (done : AllDone projectId machineId epoch progress world)
    (correlated : Nat) : AllDone projectId machineId epoch { progress with correlated } world := done

theorem meets_handleFailure {progress : BatchProgress} {failure : PromotionFailure}
    (done : AllDone projectId machineId epoch progress world) :
    (promotionInterference platform projectId machineId epoch).Meets
      (AllDone projectId machineId epoch) (fun _ _ => True) (handleFailure config progress failure)
        world := by
  unfold handleFailure
  split
  · exact fun _ _ _ => trivial
  · exact Interference.meets_pure fun later moved _ => done.later moved

theorem meets_promoteReinforced (known : Known world event) {progress : BatchProgress}
    (done : AllDone projectId machineId epoch progress world) :
    (promotionInterference platform projectId machineId epoch).Meets
      (AllDone projectId machineId epoch) (fun _ _ => True)
        (promoteReinforced platform config ⟨projectId, .sqlite⟩ clock event reinforced progress)
          world := by
  rw [promoteReinforced]
  apply meets_setCorrelation.reached.bind
  intro _ first ⟨moved, _⟩ _
  apply meets_eventEpoch.reached.bind
  intro found second ⟨further, read⟩ _
  have reached := moved.trans projectId machineId further
  apply (meets_promoteByEpoch (known.later reached) read).reached.bind
  intro promoted last ⟨ended, settled⟩ _
  apply Interference.meets_pure
  intro later after _ eventId inside
  rcases List.mem_append.mp inside with old | new
  · exact ((done.later reached).later (ended.trans projectId machineId after)) eventId old
  · rw [List.mem_singleton.mp new]
    exact settled.later after

/-- An event is settled when it is done, and a failure settles nothing. -/
theorem meets_promoteEvent (known : Known world event) {progress : BatchProgress}
    {prepared : PreparedPromotionBatch Number} (done : AllDone projectId machineId epoch progress world) :
    (promotionInterference platform projectId machineId epoch).Meets
      (AllDone projectId machineId epoch) (fun _ _ => True)
        (promoteEvent platform config ⟨projectId, .sqlite⟩ clock prepared progress event) world := by
  rw [promoteEvent]
  split
  · exact meets_handleFailure done
  · next stats _ =>
      apply (meets_promoteReinforced known (done.counted _)).halted.attempt
      exact fun failure later ended _ => meets_handleFailure ((done.counted _).later ended.1)

/-- All events of a batch are known. -/
def AllKnown (prepared : PreparedPromotionBatch Number) (world : PromotionWorld Store Number) : Prop :=
  ∀ event ∈ prepared.events, Known world event

theorem AllKnown.later {prepared : PreparedPromotionBatch Number} (known : AllKnown prepared world)
    (grows : Grows projectId machineId world next) : AllKnown prepared next :=
  fun event inside => (known event inside).later grows

/-- A correlated event is one of those that were read. -/
theorem mem_correlateErrors {toLowerCase : JsString → JsString} {events : List (EventId × EventRow Number)}
    (inside : event ∈ correlateErrors toLowerCase events) : (event.eventId, event.row) ∈ events := by
  obtain ⟨⟨eventId, row⟩, found, same⟩ := List.mem_map.mp inside
  cases same
  exact found

/-- A question leaves a batch known. -/
theorem AllKnown.ask {Value : Type} {prepared : PreparedPromotionBatch Number}
    (known : AllKnown prepared world) (read : PromotionWorld Store Number → Value) :
    (promotionInterference platform projectId machineId epoch).Meets (fun _ => AllKnown prepared)
      (fun _ : PromotionFailure => AllKnown prepared) (Process.ask read) world :=
  Interference.meets_ask (fun _ moved _ _ further _ => (known.later moved).later further)
    fun _ _ moved _ => known.later moved

theorem meets_prepareReinforcement {prepared : PreparedPromotionBatch Number}
    (known : AllKnown prepared world) :
    (promotionInterference platform projectId machineId epoch).Meets AllKnown (fun _ _ => True)
      (prepareReinforcement platform config clock prepared event) world := by
  rw [prepareReinforcement]
  split
  · exact Interference.meets_pure fun later moved _ => known.later moved
  · apply Interference.Meets.attempt
    · apply (known.ask _).bind
      intro stats later here _
      exact Interference.meets_pure fun last moved _ => here.later moved
    · intro failure later here _
      exact Interference.meets_pure fun last moved _ => AllKnown.later here moved

theorem meets_preparePromotionBatch :
    (promotionInterference platform projectId machineId epoch).Meets AllKnown (fun _ _ => True)
      (preparePromotionBatch platform config clock) world := by
  have read : (promotionInterference platform projectId machineId epoch).Meets
      (fun events later => ∀ event : PromotionEvent Number,
        (event.eventId, event.row) ∈ events → Known later event) (fun _ : PromotionFailure => fun _ => True)
      (Process.ask fun world : PromotionWorld Store Number =>
        world.outbox.getUnprocessed platform.utf8 eventsUnprocessedBatchLimit) world := by
    apply Interference.meets_ask
    · exact fun later _ holds last moved _ event inside => (known_of_read holds inside).later moved
    · exact fun _ _ _ _ => trivial
  apply read.bind
  intro events later known _
  apply Interference.meets_foldlM
  · exact fun prepared first second known moved => AllKnown.later known moved
  · exact fun event inside => known event (mem_correlateErrors inside)
  · exact fun event _ prepared last _ known => meets_prepareReinforcement known

/-- A batch marks only events that are done. -/
theorem meets_promoteEventsBatch {prepared : PreparedPromotionBatch Number}
    (known : AllKnown prepared world) :
    (promotionInterference platform projectId machineId epoch).Meets (fun _ _ => True) (fun _ _ => True)
      (promoteEventsBatch platform config ⟨projectId, .sqlite⟩ clock prepared) world := by
  rw [promoteEventsBatch]
  apply Interference.Meets.bind
  · apply Interference.meets_foldlM (AllDone projectId machineId epoch)
    · exact fun progress first second done moved => AllDone.later done moved
    · exact fun eventId inside => absurd inside List.not_mem_nil
    · exact fun event inside progress later moved done =>
        meets_promoteEvent ((known event inside).later moved) done
  · intro progress later done _
    apply Interference.Meets.bind
    · exact meets_onOutbox fun last moved _ =>
        revises_markProcessed _ fun eventId inside => ((done.later moved) eventId inside).receipted
    · exact fun _ _ _ _ => Interference.meets_pure fun _ _ _ => trivial

theorem grows_reserve {nextSequence : Nat} :
    Grows projectId machineId world { world with nextSequence } :=
  ⟨fun _ row found => .inl ⟨row, found, .refl _⟩, le_refl _, List.Subset.refl _, List.Subset.refl _⟩

theorem meets_insertEvent (hook : HookInsert platform) :
    (promotionInterference platform projectId machineId epoch).Meets (fun _ _ => True) (fun _ _ => True)
      (insertEvent platform hook) world := by
  have allocated : (promotionInterference platform projectId machineId epoch).Meets (fun _ _ => True)
      (fun _ _ => True) (Process.act fun world : PromotionWorld Store Number =>
        allocateSequence world) world := by
    apply Interference.meets_act
    · intro later _ holds
      rw [allocateSequence]
      split
      · exact ⟨grows_reserve, holds.reserve _⟩
      · exact ⟨.refl projectId machineId later, holds⟩
    · exact fun _ _ _ _ _ _ _ _ => trivial
    · exact fun _ _ _ _ => trivial
  apply allocated.bind
  intro machineSequence later _ _
  apply Interference.meets_act
  · exact fun last _ holds => holds.insert hook machineSequence
  · exact fun _ _ _ _ _ _ _ _ => trivial
  · exact fun _ _ _ _ => trivial

theorem meets_runSelectedPromotionBatch :
    (promotionInterference platform projectId machineId epoch).Meets (fun _ _ => True) (fun _ _ => True)
      (runSelectedPromotionBatch platform config ⟨projectId, .sqlite⟩ clock) world := by
  rw [runSelectedPromotionBatch]
  apply meets_preparePromotionBatch.bind
  intro prepared later known _
  split
  · exact Interference.meets_pure fun _ _ _ => trivial
  · exact meets_promoteEventsBatch known

theorem meets_program (started : PromotionProgram platform) (world : PromotionWorld Store Number) :
    (promotionInterference platform projectId machineId epoch).Meets (fun _ _ => True) (fun _ _ => True)
      (program platform projectId started) world := by
  cases started with
  | hook hook => exact meets_insertEvent hook
  | promote config clock =>
      apply meets_runSelectedPromotionBatch.bind
      exact fun _ _ _ _ => Interference.meets_pure fun _ _ _ => trivial
  | prune olderThanDays awaitingReplication clock =>
      rw [program]
      apply meets_onOutbox
      exact fun later _ _ => revises_pruneProcessed olderThanDays awaitingReplication clock

end Batches

section Runs

/-- Before its first event, all of an epoch is sound. -/
theorem EpochStart.sound (started : EpochStart platform projectId machineId epoch world) :
    PromotionSound platform projectId machineId epoch world := by
  have early : ∀ eventId row, world.outbox.get? eventId = some row →
      ¬ InEpoch machineId epoch (readEnvelope row.envelope) := by
    intro eventId row found inEpoch
    exact absurd inEpoch.2 (Nat.not_le.mpr (started.unreached eventId row found))
  refine ⟨⟨started.adopted, started.parsed, started.clean, ?_, ?_⟩,
    ⟨started.canonical, ?_, ?_⟩, ⟨?_, ?_, ?_, ?_⟩⟩
  · rw [started.receipts]
    exact List.forall_mem_nil _
  · rw [started.receipts]
    exact List.forall_mem_nil _
  · exact fun eventId row found inEpoch => absurd inEpoch (early eventId row found)
  · exact fun eventId row found inEpoch => absurd inEpoch (early eventId row found)
  · rw [started.commits]
    exact List.forall_mem_nil _
  · rw [started.commits]
    exact .nil
  · rw [started.commits]
    exact .nil
  · rw [started.commits]
    exact fun commit last => nomatch last

theorem promotion_sound {shared : Shared (PromotionWorld Store Number) PromotionFailure Unit}
    (reached : (promotionSystem platform projectId machineId epoch).Reachable shared) :
    PromotionSound platform projectId machineId epoch shared.world := by
  have events : ∀ before event after, PromotionSound platform projectId machineId epoch before →
      outside before event = some after → Grows projectId machineId before after ∧
        PromotionSound platform projectId machineId epoch after := by
    intro before event after holds happened
    cases event
    cases happened
    exact ⟨grows_reserve, holds.reserve _⟩
  have programs : ∀ started world,
      (promotionInterference platform projectId machineId epoch).Meets (fun _ _ => True) (fun _ _ => True)
        (program platform projectId started) world := meets_program
  exact (Shared.reachable_meets (fun _ started => started.sound) events programs reached).1

end Runs

section Classification

/-- What a record of the queue says of its event. -/
structure TellsReceipt (projectId machineId : JsString) (tables : ProjectTables Store)
    (row : EventRow Number) (record : MigrationQueueRecord) : Prop where
  eventUuid : record.eventUuid = row.envelope.eventUuid
  machineSequence : record.machineSequence = row.envelope.machineSequence
  represented : record.disposition = .represented ↔
    HasReceipt projectId machineId tables row.envelope.eventUuid
  retained : record.disposition = .retained ↔
    ¬ HasReceipt projectId machineId tables row.envelope.eventUuid

/-- All rows are told, or one is refused that is not of the epoch. -/
def NeverAmbiguous (projectId machineId : JsString) (epoch : MigrationReceiptEpoch)
    (tables : ProjectTables Store) (rows : List (EventRow Number)) :
    MigrationQueueClassification → Prop
  | .ready records _ _ => List.Forall₂ (TellsReceipt projectId machineId tables) rows records
  | .refused _ eventUuid =>
      ∃ row ∈ rows, ¬ InEpoch machineId epoch row.envelope ∧ row.envelope.eventUuid = eventUuid

variable {evidence : MigrationReceiptEvidence} {queueCutoff : Option Nat}

/-- The receipts of the evidence are those of the project. -/
theorem receipt_of_evidence {eventUuid : JsString}
    (each : ∀ receipt, receipt ∈ evidence.receipts ↔ ∃ row ∈ world.project.receipts.receiptsOf
      projectId machineId, parseReceiptRow platform.toReceiptPlatform row = .ok receipt)
    (sound : ReceiptsSound platform projectId machineId epoch world) :
    (∃ receipt ∈ evidence.receipts, receipt.eventUuid = eventUuid) ↔
      HasReceipt projectId machineId world.project eventUuid := by
  constructor
  · intro ⟨receipt, inside, same⟩
    obtain ⟨row, stored, parsed⟩ := (each receipt).mp inside
    obtain ⟨_, effectWitness, columns⟩ := parseReceiptRow_eq_ok parsed
    rw [columns] at same
    exact ⟨row, stored, same⟩
  · intro ⟨row, stored, same⟩
    obtain ⟨receipt, parsed⟩ := (sound.sound row stored).1.parsed
    obtain ⟨_, effectWitness, columns⟩ := parseReceiptRow_eq_ok parsed
    refine ⟨receipt, (each receipt).mpr ⟨row, stored, parsed⟩, ?_⟩
    rw [columns]
    exact same

/-- No check refuses an event of the epoch. -/
theorem classifiable_of_inEpoch
    (each : ∀ receipt, receipt ∈ evidence.receipts ↔ ∃ row ∈ world.project.receipts.receiptsOf
      projectId machineId, parseReceiptRow platform.toReceiptPlatform row = .ok receipt)
    (own : evidence.epoch = epoch) (sound : PromotionSound platform projectId machineId epoch world)
    {eventId : EventId} {stored : EventRow Number} (found : world.outbox.get? eventId = some stored)
    (inEpoch : InEpoch machineId epoch (readEnvelope stored.envelope)) :
    ClassifiableRow platform.toReceiptPlatform machineId evidence (readRow stored) := by
  have uuid : (readRow stored).envelope.eventUuid = stored.envelope.eventUuid :=
    readEnvelope_eventUuid (sound.events.canonical eventId stored found).1
  obtain ⟨digest, digested⟩ := sound.events.digest eventId stored found inEpoch
  refine ⟨inEpoch.1, ⟨digest, digested, ?_⟩, ?_⟩
  · intro receipt inside event
    obtain ⟨row, kept, parsed⟩ := (each receipt).mp inside
    obtain ⟨_, effectWitness, columns⟩ := parseReceiptRow_eq_ok parsed
    rw [columns, uuid] at event
    obtain ⟨order, same⟩ := sound.receipts.matching row kept eventId stored found event
    rw [digested] at same
    rw [columns, own]
    exact ⟨order, (Except.ok.inj same).symm, (sound.receipts.sound row kept).2.1⟩
  · intro free
    refine ⟨own ▸ inEpoch.2, ?_⟩
    by_contra marked
    have receipted := sound.events.processed eventId stored found inEpoch
      (Option.isSome_iff_ne_none.mpr marked)
    rw [← uuid, ← receipt_of_evidence each sound.receipts] at receipted
    obtain ⟨receipt, inside, same⟩ := receipted
    exact free receipt inside same

/-- The unique columns of the receipt table allow one receipt of an event. -/
theorem one_receipt (tables : ReceiptTables) (eventUuid : JsString) :
    ((tables.receiptsOf projectId machineId).filter fun row => row.eventUuid = eventUuid).length ≤ 1 := by
  have free := (tables.distinctEvents.filter fun row =>
    row.projectId = projectId ∧ row.machineId = machineId).filter fun row => row.eventUuid = eventUuid
  have own : ∀ row ∈ (tables.receiptsOf projectId machineId).filter fun row => row.eventUuid = eventUuid,
      row.projectId = projectId ∧ row.machineId = machineId ∧ row.eventUuid = eventUuid := by
    intro row inside
    obtain ⟨stored, event⟩ := List.mem_filter.mp inside
    obtain ⟨_, here, machine⟩ := mem_receiptsOf.mp stored
    exact ⟨here, machine, of_decide_eq_true event⟩
  rw [← ReceiptTables.receiptsOf] at free
  revert free own
  cases (tables.receiptsOf projectId machineId).filter fun row => row.eventUuid = eventUuid with
  | nil => exact fun _ _ => Nat.zero_le 1
  | cons first rest =>
      intro free own
      cases rest with
      | nil => exact le_refl 1
      | cons second rest =>
          obtain ⟨project, machine, event⟩ := own first (List.mem_cons_self ..)
          obtain ⟨otherProject, otherMachine, otherEvent⟩ :=
            own second (List.mem_cons_of_mem _ (List.mem_cons_self ..))
          exact absurd ⟨project.trans otherProject.symm, machine.trans otherMachine.symm,
            .inl (event.trans otherEvent.symm)⟩ ((List.pairwise_cons.mp free).1 second (List.mem_cons_self ..))

/-- A classification is told by the receipts of the project. -/
theorem classifyMigrationQueue_sound (sound : PromotionSound platform projectId machineId epoch world)
    (within : ∀ cutoff ∈ queueCutoff, cutoff ≤ maxEventSequence) :
    ∃ classification, classifyMigrationQueue platform.toReceiptPlatform projectId machineId queueCutoff
        world.project.receipts world.outbox = .ok classification ∧
      NeverAmbiguous projectId machineId epoch world.project
        (migrationRows platform.utf8 queueCutoff world.outbox) classification := by
  obtain ⟨clean, canonical⟩ := sound.receipts.identity
  obtain ⟨evidence, read, own, each⟩ := readMigrationReceiptEvidence_ok clean canonical
    sound.receipts.clean sound.receipts.adopted sound.receipts.parsed
    fun row inside => ⟨(sound.receipts.sound row inside).1, (sound.receipts.sound row inside).2.1⟩
  have sequences : (migrationRows platform.utf8 queueCutoff world.outbox).Pairwise fun first second =>
      first.envelope.machineSequence ≠ second.envelope.machineSequence := by
    cases queueCutoff with
    | none => exact .nil
    | some cutoff => exact EventsTable.queueRows_sequences cutoff world.outbox
  have events : (migrationRows platform.utf8 queueCutoff world.outbox).Pairwise fun first second =>
      first.envelope.eventUuid ≠ second.envelope.eventUuid := by
    cases queueCutoff with
    | none => exact .nil
    | some cutoff => exact EventsTable.queueRows_events cutoff world.outbox fun eventId row found =>
        readEnvelope_eventUuid (sound.events.canonical eventId row found).1
  have checksums : ∀ receipt ∈ evidence.receipts, isPostgreSqlText receipt.checksumSha256 = true := by
    intro receipt inside
    obtain ⟨row, _, parsed⟩ := (each receipt).mp inside
    obtain ⟨hashed, effectWitness, columns⟩ := parseReceiptRow_eq_ok parsed
    rw [columns]
    exact isPostgreSqlText_hash ⟨_, hashed⟩
  have told : ∀ {row : EventRow Number} {record}, RecordOf evidence row record →
      TellsReceipt projectId machineId world.project row record := by
    intro row record recordOf
    have represented := recordOf.represented.trans (receipt_of_evidence each sound.receipts)
    refine ⟨recordOf.eventUuid, recordOf.machineSequence, represented, ?_⟩
    rw [← represented]
    cases record.disposition with
    | represented => exact ⟨nofun, fun other => absurd rfl other⟩
    | retained => exact ⟨fun _ => nofun, fun _ => rfl⟩
  rcases classifyMigrationQueue_ok clean canonical within read checksums sequences events with
    ⟨records, digest, classified, records'⟩ | ⟨reason, row, classified, inside, refused⟩
  · exact ⟨_, classified, records'.imp fun _ _ => told⟩
  · obtain ⟨eventId, stored, found, same⟩ := mem_migrationRows inside
    refine ⟨_, classified, row, inside, fun inEpoch => refused ?_, rfl⟩
    rw [same] at inEpoch ⊢
    exact classifiable_of_inEpoch each own sound found inEpoch

end Classification

section Claims

/-- In every run of hooks, batches and retention, an event of the epoch gets at most one receipt, its
memory effect is committed with its receipt and once, it is marked only with a receipt, and the queue
of a migration tells its receipt. -/
theorem receipted_promotion_once {shared : Shared (PromotionWorld Store Number) PromotionFailure Unit}
    (reached : (promotionSystem platform projectId machineId epoch).Reachable shared) :
    (∀ eventUuid, ((shared.world.project.receipts.receiptsOf projectId machineId).filter fun row =>
        row.eventUuid = eventUuid).length ≤ 1) ∧
      (∀ commit ∈ shared.world.commits, InEpoch machineId epoch commit.envelope →
        CommitSound projectId machineId commit) ∧
      shared.world.commits.Pairwise (AppliedOnce machineId epoch) ∧
      (shared.world.commits.IsChain fun first second => first.after = second.before) ∧
      (∀ commit ∈ shared.world.commits.getLast?, commit.after = shared.world.project) ∧
      (∀ eventId row, shared.world.outbox.get? eventId = some row →
        InEpoch machineId epoch (readEnvelope row.envelope) → row.processedAt.isSome = true →
          HasReceipt projectId machineId shared.world.project row.envelope.eventUuid) ∧
      ∀ queueCutoff, (∀ cutoff ∈ queueCutoff, cutoff ≤ maxEventSequence) →
        ∃ classification, classifyMigrationQueue platform.toReceiptPlatform projectId machineId queueCutoff
            shared.world.project.receipts shared.world.outbox = .ok classification ∧
          NeverAmbiguous projectId machineId epoch shared.world.project
            (migrationRows platform.utf8 queueCutoff shared.world.outbox) classification := by
  have sound := promotion_sound reached
  refine ⟨one_receipt _, fun commit inside inEpoch => (sound.commits.each commit inside inEpoch).1,
    sound.commits.once, sound.commits.chained, sound.commits.current, sound.events.processed, ?_⟩
  exact fun queueCutoff within => classifyMigrationQueue_sound sound within

end Claims

section Sample

/-- The digests of the texts of the sample run, by their lengths. -/
def promotionDigests : List (Nat × String) :=
  [(226, "d7b1ce130280b9969866735ca5f68093f655de8cb58ae7ee958d93074ae7a224"),
    (350, "ca37559893b7f47a2e0138be3a29e85734e27aef3078e28c00960a63f1d02b22"),
    (458, "51ad1f3e7be2c8bb7abab471d2b4ad6cdc12c974918d479a91f3ae78bbde854f"),
    (68, "74ca62e063f6685b7a1e3d851f5a9b5d3a3911fe7f142224217da62def092dfc"),
    (297, "54454234e3a8d290c0484ddaee228a592cd9ff4e723f2f25ecb22ab9dc348b5c")]

/-- Memories with their contents as identifiers. -/
def sampleRepositories : PromotedRepositories (List JsString) Nat where
  serializeDecision _ := .ok ()
  searchPromoted _ _ _ _ := .ok []
  findExactContent content _ store :=
    .ok ((store.find? (· = content)).map fun found => ⟨found, found, [], 0⟩)
  insert input store := .ok (input.content, store ++ [input.content])
  update _ _ _ store := .ok ((), store)
  archive _ store := .ok ((), store)

theorem sample_hash : isHash (List.replicate 64 97) = true := by decide

def samplePlatform : PromotionPlatform (List JsString) Nat where
  numbers := naturalNumbers
  sha256 text :=
    let digest := js ((promotionDigests.lookup text.length).getD "")
    if valid : isHash digest = true then ⟨digest, valid⟩
    else ⟨List.replicate 64 97, sample_hash⟩
  utf8 text := text.map UInt16.toNat
  isFiniteDate _ := true
  toLowerCase := id
  add first second := first + second
  scrub := id
  daysAgo _ _ := none
  repositories := sampleRepositories

def sampleMachine : JsString := js "0190a000-0000-7000-8000-000000000002"

def sampleEpoch : MigrationReceiptEpoch :=
  ⟨js "project", sampleMachine, js "0190a000-0000-4000-8000-00000000000e", 1,
    js "2026-01-01T00:00:00.000000Z",
    js "d7b1ce130280b9969866735ca5f68093f655de8cb58ae7ee958d93074ae7a224"⟩

def sampleHook : HookInsert samplePlatform :=
  ⟨js "0190a000-0000-4000-8000-00000000000a", by decide, some sampleMachine,
    js "2026-01-02 03:04:05", ⟨0, 0⟩, js "session",
    ⟨js "decision", js "decision", js "use the lock", 1⟩, by decide, js "PostToolUse"⟩

def sampleBatch : PromotionProgram samplePlatform :=
  .promote ⟨.sqlite, some ⟨some 1, none, none, none, none⟩, none, none, none, none⟩
    ⟨⟨1, 1000⟩, fun _ => ⟨1, 1000⟩, fun _ => 1000, ⟨1, 1000⟩⟩

/-- A batch crashes between its transaction and the mark, and the next one meets the receipt. -/
def sampleTurns : List (Turn PromotionEventOutside (PromotionProgram samplePlatform) PromotionFailure) :=
  [.start (.hook sampleHook), .performed 0, .performed 0, .start sampleBatch, .performed 1, .performed 1,
    .performed 1, .crash 1, .start sampleBatch, .performed 1, .performed 1, .performed 1, .performed 1]

theorem no_conflicts : ([] : List ReceiptRow).Pairwise fun first second => ¬ first.conflicts second := .nil

def sampleStart : Shared (PromotionWorld (List JsString) Nat) PromotionFailure Unit :=
  ⟨⟨1, .empty, ⟨[], ⟨[sampleEpoch], [], List.pairwise_singleton .., no_conflicts⟩⟩, [], []⟩, []⟩

def sampleRun : Option (Shared (PromotionWorld (List JsString) Nat) PromotionFailure Unit) :=
  sampleTurns.foldlM (Shared.turn outside (program samplePlatform (js "project"))) sampleStart

theorem sampleStart_starts :
    EpochStart samplePlatform (js "project") sampleMachine sampleEpoch sampleStart.world := by
  have parsed : parseEpochRow samplePlatform.toReceiptPlatform sampleEpoch = .ok sampleEpoch := by
    decide +kernel
  have adopted : sampleStart.world.project.receipts.epochOf (js "project") sampleMachine =
      some sampleEpoch := by decide
  have clean : sampleStart.world.project.receipts.containsNul = false := by decide +kernel
  have empty : ∀ eventId row, sampleStart.world.outbox.get? eventId ≠ some row := fun _ _ => nofun
  exact ⟨adopted, parsed, rfl, clean, fun eventId row found => absurd found (empty eventId row),
    fun eventId row found => absurd found (empty eventId row), rfl⟩

/-- Two commits for the event leave one memory and one receipt. -/
theorem receipted_promotion_once_sample : ∃ shared,
    (promotionSystem samplePlatform (js "project") sampleMachine sampleEpoch).Reachable shared ∧
      shared.world.project.promoted = [js "use the lock"] ∧ shared.world.commits.length = 2 ∧
      shared.world.commits.Pairwise (AppliedOnce sampleMachine sampleEpoch) ∧
      ∃ classification, classifyMigrationQueue samplePlatform.toReceiptPlatform (js "project") sampleMachine
          (some 1) shared.world.project.receipts shared.world.outbox = .ok classification ∧
        NeverAmbiguous (js "project") sampleMachine sampleEpoch shared.world.project
          (migrationRows samplePlatform.utf8 (some 1) shared.world.outbox) classification := by
  have ran : sampleRun.any (fun shared => shared.world.project.promoted = [js "use the lock"] ∧
      shared.world.commits.length = 2) = true := by decide +kernel
  obtain ⟨shared, found, ended⟩ := (Option.any_eq_true _ _).mp ran
  have reached : (promotionSystem samplePlatform (js "project") sampleMachine sampleEpoch).Reachable
      shared := .run (fun _ _ _ step => step) (.start ⟨sampleStart_starts, rfl⟩) found
  obtain ⟨promoted, commits⟩ := of_decide_eq_true ended
  obtain ⟨_, _, once, _, _, _, classified⟩ := receipted_promotion_once reached
  refine ⟨shared, reached, promoted, commits, once, classified (some 1) ?_⟩
  decide

end Sample

end Lcm.Promotion
