import Lcm.Promotion.PromotionSystem
import Mathlib.Data.List.Chain

namespace Lcm.Promotion
open Text Hooks Migration

variable {Store Number : Type} {platform : PromotionPlatform Store Number}
  {projectId machineId : JsString} {epoch : MigrationReceiptEpoch}
  {world : PromotionWorld Store Number}

section Transactions

variable {tables after : ProjectTables Store}

theorem onPromoted_ok {Value : Type} {change : StateT Store (Except PromotionFailure) Value}
    {value : Value} (ran : onPromoted change tables = .ok (value, after)) :
    after.receipts = tables.receipts := by
  obtain ⟨_, _, same⟩ := Except.map_eq_ok.mp ran
  cases same
  rfl

theorem readReceipts_ok {Value : Type} {query : ReceiptTables → Except String Value} {value : Value}
    (ran : readReceipts query tables = .ok (value, after)) :
    query tables.receipts = .ok value ∧ after = tables := by
  obtain ⟨found, queried, same⟩ := Except.map_eq_ok.mp ran
  cases same
  cases given : query tables.receipts with
  | error message =>
      rw [given] at queried
      cases queried
  | ok result =>
      rw [given] at queried
      cases queried
      exact ⟨rfl, rfl⟩

theorem onReceipts_ok {Value : Type} {change : ReceiptTables → Except String (Value × ReceiptTables)}
    {value : Value} (ran : onReceipts change tables = .ok (value, after)) :
    change tables.receipts = .ok (value, after.receipts) ∧ after.promoted = tables.promoted := by
  obtain ⟨⟨found, receipts⟩, changed, same⟩ := Except.map_eq_ok.mp ran
  cases same
  cases given : change tables.receipts with
  | error message =>
      rw [given] at changed
      cases changed
  | ok result =>
      rw [given] at changed
      cases changed
      exact ⟨rfl, rfl⟩

/-- The receipt of an event is found, and nothing changes, or it is recorded with the effect. -/
theorem receiptedEffect_ok {config : PromotionConfig Number} {project : ProjectIdentity}
    {clock : PromotionClock} {epochId : JsString} {event : PromotionEvent Number} {reinforced promoted : Bool}
    (ran : receiptedEffect platform config project clock epochId machineId event reinforced tables =
      .ok (promoted, after)) :
    (after = tables ∧ HasReceipt project.projectId machineId tables event.row.envelope.eventUuid) ∨
      ∃ row, Recorded platform.toReceiptPlatform project.projectId epochId
          (receiptEnvelope machineId event.row.envelope) row ∧
        ¬ HasReceipt project.projectId machineId tables event.row.envelope.eventUuid ∧
          after.receipts.epochs = tables.receipts.epochs ∧
            after.receipts.events = tables.receipts.events ++ [row] := by
  obtain ⟨prior, later, found, rest⟩ := StateT.bind_eq_ok.mp ran
  obtain ⟨found, unchanged⟩ := readReceipts_ok found
  rw [unchanged] at rest
  cases prior with
  | some receipt =>
      cases rest
      obtain ⟨row, inside, same⟩ := findMatchingMigrationReceipt_some found
      exact .inl ⟨rfl, row, inside, same⟩
  | none =>
      have free := findMatchingMigrationReceipt_none found
      have missing : ¬ HasReceipt project.projectId machineId tables event.row.envelope.eventUuid :=
        fun ⟨row, inside, same⟩ => (free row inside).1 same
      obtain ⟨promotedMemoryId, changed, effected, rest⟩ := StateT.bind_eq_ok.mp rest
      have kept : changed.receipts = tables.receipts := by
        rw [permittedEffect] at effected
        split at effected
        · cases effected
          rfl
        · exact onPromoted_ok effected
      have recorded : ∀ witness receipt,
          onReceipts (recordMigrationReceipt platform.toReceiptPlatform project.projectId epochId
            (receiptEnvelope machineId event.row.envelope) witness
              (committedAt (clock.committed event.eventId))) changed = .ok (receipt, after) →
          ∃ row, Recorded platform.toReceiptPlatform project.projectId epochId
            (receiptEnvelope machineId event.row.envelope) row ∧
              after.receipts.epochs = tables.receipts.epochs ∧
                after.receipts.events = tables.receipts.events ++ [row] := by
        intro witness receipt written
        obtain ⟨stored, _⟩ := onReceipts_ok written
        rw [kept] at stored
        exact recordMigrationReceipt_fresh free stored
      cases promotedMemoryId with
      | none =>
          obtain ⟨receipt, last, written, done⟩ := StateT.bind_eq_ok.mp rest
          cases done
          obtain ⟨row, facts, epochs, events⟩ := recorded _ receipt written
          exact .inr ⟨row, facts, missing, epochs, events⟩
      | some promotedMemoryId =>
          obtain ⟨receipt, last, written, done⟩ := StateT.bind_eq_ok.mp rest
          cases done
          obtain ⟨row, facts, epochs, events⟩ := recorded _ receipt written
          exact .inr ⟨row, facts, missing, epochs, events⟩

end Transactions

section Outbox

/-- A sequence is reserved. -/
theorem PromotionSound.reserve (sound : PromotionSound platform projectId machineId epoch world)
    (nextSequence : Nat) :
    PromotionSound platform projectId machineId epoch { world with nextSequence } :=
  ⟨⟨sound.receipts.adopted, sound.receipts.parsed, sound.receipts.clean, sound.receipts.sound,
    sound.receipts.matching⟩, ⟨sound.events.canonical, sound.events.digest, sound.events.processed⟩,
    ⟨sound.commits.each, sound.commits.once, sound.commits.chained, sound.commits.current⟩⟩

/-- The rows of a changed outbox come from those before it, and one that the change marks as processed
has its receipt. -/
def Revises (projectId machineId : JsString) (epoch : MigrationReceiptEpoch)
    (world : PromotionWorld Store Number) (outbox : EventsTable Number) : Prop :=
  outbox.sequence = world.outbox.sequence ∧ ∀ eventId row, outbox.get? eventId = some row →
    ∃ old, world.outbox.get? eventId = some old ∧ SameEvent old.envelope row.envelope ∧
      (row.processedAt.isSome = true → old.processedAt.isSome = true ∨
        (InEpoch machineId epoch (readEnvelope row.envelope) →
          HasReceipt projectId machineId world.project row.envelope.eventUuid))

theorem Revises.grows {outbox : EventsTable Number} (revises : Revises projectId machineId epoch world outbox) :
    Grows projectId machineId world { world with outbox } := by
  refine ⟨fun eventId row found => ?_, revises.1.ge, List.Subset.refl _, List.Subset.refl _⟩
  obtain ⟨old, stored, same, _⟩ := revises.2 eventId row found
  exact .inl ⟨old, stored, same⟩

theorem PromotionSound.revise (sound : PromotionSound platform projectId machineId epoch world)
    {outbox : EventsTable Number} (revises : Revises projectId machineId epoch world outbox) :
    PromotionSound platform projectId machineId epoch { world with outbox } := by
  refine ⟨⟨sound.receipts.adopted, sound.receipts.parsed, sound.receipts.clean, sound.receipts.sound, ?_⟩,
    ⟨?_, ?_, ?_⟩, ⟨sound.commits.each, sound.commits.once, sound.commits.chained, sound.commits.current⟩⟩
  · intro receipt inside eventId row found event
    obtain ⟨old, stored, same, _⟩ := revises.2 eventId row found
    have matched := sound.receipts.matching receipt inside eventId old stored
      (event.trans same.eventUuid.symm)
    rw [same.machineSequence, same.read.receiptEnvelope] at matched
    exact matched
  · intro eventId row found
    obtain ⟨old, stored, same, _⟩ := revises.2 eventId row found
    rw [← same.eventUuid]
    exact sound.events.canonical eventId old stored
  · intro eventId row found inEpoch
    obtain ⟨old, stored, same, _⟩ := revises.2 eventId row found
    rw [← same.read.receiptEnvelope]
    exact sound.events.digest eventId old stored (same.read.inEpoch.mpr inEpoch)
  · intro eventId row found inEpoch marked
    obtain ⟨old, stored, same, justified⟩ := revises.2 eventId row found
    rcases justified marked with before | receipted
    · rw [← same.eventUuid]
      exact sound.events.processed eventId old stored (same.read.inEpoch.mpr inEpoch) before
    · exact receipted inEpoch

theorem revises_setPrevEventId (eventId prevEventId : EventId) (clock : LocalClock) :
    Revises projectId machineId epoch world (world.outbox.setPrevEventId eventId prevEventId clock) := by
  refine ⟨rfl, fun stored row found => ?_⟩
  rw [EventsTable.get?_setPrevEventId] at found
  obtain ⟨old, before, same⟩ := Option.map_eq_some_iff.mp found
  refine ⟨old, before, ?_, ?_⟩
  · rw [← same, EventsTable.withPrevEventId]
    split <;> rfl
  · rw [← same, EventsTable.withPrevEventId]
    split <;> exact Or.inl

theorem revises_markProcessed {eventIds : List EventId} (clock : LocalClock)
    (receipted : ∀ eventId ∈ eventIds, ∀ row, world.outbox.get? eventId = some row →
      InEpoch machineId epoch (readEnvelope row.envelope) →
        HasReceipt projectId machineId world.project row.envelope.eventUuid) :
    Revises projectId machineId epoch world (world.outbox.markProcessed eventIds clock) := by
  refine ⟨rfl, fun stored row found => ?_⟩
  rw [EventsTable.get?_markProcessed] at found
  obtain ⟨old, before, same⟩ := Option.map_eq_some_iff.mp found
  rw [← same]
  split
  · next marked => exact ⟨old, before, .refl _, fun _ => .inr (receipted stored marked old before)⟩
  · exact ⟨old, before, .refl _, .inl⟩

theorem revises_pruneProcessed (olderThanDays : Int) (awaitingReplication : Bool) (clock : LocalClock) :
    Revises projectId machineId epoch world
      (world.outbox.pruneProcessed olderThanDays awaitingReplication clock).2 := by
  refine ⟨rfl, fun stored row found => ?_⟩
  exact ⟨row, (EventsTable.get?_retain.mp found).1, .refl _, .inl⟩

/-- The row that an insertion makes. -/
theorem insertEvent_ok {outbox : OutboxPlatform Number} {eventUuid createdAt sessionId sourceHook : JsString}
    {registeredMachineId : Option JsString} {machineSequence : Nat} {clock : LocalClock}
    {event : LocalHookEvent Number} {table after : EventsTable Number} {eventId : EventId}
    (inserted : table.insertEvent outbox eventUuid registeredMachineId machineSequence createdAt clock
      sessionId event sourceHook = .ok (eventId, after)) :
    machineSequence ≤ maxEventSequence ∧ ∃ row, table.insert? row = some after ∧ row.processedAt = none ∧
      row.envelope = ⟨eventUuid, 1, registeredMachineId, machineSequence, event.type, sessionId,
        table.nextSeq sessionId, event.category, event.data,
        if outbox.numbers.isNegativeZero event.priority then outbox.numbers.ofNat 0 else event.priority,
        sourceHook, none, createdAt⟩ := by
  rw [EventsTable.insertEvent] at inserted
  split at inserted
  · next within =>
      dsimp only at inserted
      split at inserted
      · next stored found =>
          cases inserted
          exact ⟨within, _, found, rfl, rfl⟩
      · cases inserted
  · cases inserted

/-- The number that a column keeps of a safe integer is a safe integer, and no negative zero. -/
theorem stored_priority {priority : Number} (safe : isSafeInteger platform.toReceiptPlatform priority = true) :
    let stored := if platform.numbers.isNegativeZero priority then platform.numbers.ofNat 0 else priority
    isSafeInteger platform.toReceiptPlatform stored = true ∧
      platform.numbers.isNegativeZero stored = false := by
  dsimp only
  split
  · refine ⟨?_, platform.numbers.plain_ofNat 0⟩
    rw [isSafeInteger, JsNumbers.toSafeInteger, platform.numbers.toInteger_ofNat 0 (by decide)]
    rfl
  · next plain => exact ⟨safe, Bool.not_eq_true _ ▸ plain⟩

/-- The epoch that a table has is the one of its project and machine. -/
theorem epochOf_eq_some {tables : ReceiptTables} (found : tables.epochOf projectId machineId = some epoch) :
    epoch.projectId = projectId ∧ epoch.machineId = machineId := by
  simpa using List.find?_some found

theorem parseEpochRow_eq_ok {row : MigrationReceiptEpoch}
    (parsed : parseEpochRow platform.toReceiptPlatform row = .ok epoch) :
    includesNul row.projectId = false ∧ isCanonicalUuid row.machineId = true := by
  simp only [parseEpochRow, Except.bind_eq_ok] at parsed
  obtain ⟨_, project, _, machine, _⟩ := parsed
  exact ⟨(nulFree_eq_ok.mp project).1, (canonicalUuid_eq_ok.mp machine).1.2⟩

theorem ReceiptsSound.identity (sound : ReceiptsSound platform projectId machineId epoch world) :
    includesNul projectId = false ∧ isCanonicalUuid machineId = true := by
  obtain ⟨project, machine⟩ := epochOf_eq_some sound.adopted
  obtain ⟨clean, canonical⟩ := parseEpochRow_eq_ok sound.parsed
  exact ⟨project ▸ clean, machine ▸ canonical⟩

/-- The envelope of a new event has a digest. -/
theorem inserted_digest (canonical : isCanonicalUuid machineId = true) {hook : HookInsert platform}
    {machineSequence : Nat} {row : EventRow Number} (within : machineSequence ≤ maxEventSequence)
    (counted : world.outbox.nextSeq hook.sessionId ≤ maxSafeNatural)
    (envelope : row.envelope = ⟨hook.eventUuid, 1, hook.registeredMachineId, machineSequence,
      hook.event.type, hook.sessionId, world.outbox.nextSeq hook.sessionId, hook.event.category,
      hook.event.data, if hook.outbox.numbers.isNegativeZero hook.event.priority then
        hook.outbox.numbers.ofNat 0 else hook.event.priority, hook.sourceHook, none, hook.createdAt⟩) :
    ∃ digest, migrationReceiptEnvelopeSha256 platform.toReceiptPlatform
      (receiptEnvelope machineId (readEnvelope row.envelope)) = .ok digest := by
  have texts : ∀ text : JsString, isPostgreSqlText (readText text) = true := isPostgreSqlText_readText
  have clean : ∀ text : JsString, includesNul (readText text) = false := by
    intro text
    have both := texts text
    rw [isPostgreSqlText, Bool.and_eq_true, Bool.not_eq_true'] at both
    exact both.1
  obtain ⟨safe, plain⟩ := stored_priority hook.safe
  rw [envelope]
  apply migrationReceiptEnvelopeSha256_ok
  · refine ⟨?_, canonical, within, ?_, ⟨Nat.one_pos, show 1 ≤ maxSafeNatural by decide⟩,
      counted, safe⟩
    · show isCanonicalUuid (readText hook.eventUuid) = true
      rw [readText_ascii (uuid_ascii hook.canonical)]
      exact hook.canonical
    · simp [receiptEnvelope, readEnvelope, clean]
  · simp [receiptEnvelope, readEnvelope, texts]
  · exact plain

/-- A new event has a new identifier, and its envelope a digest. -/
theorem PromotionSound.insert (sound : PromotionSound platform projectId machineId epoch world)
    (hook : HookInsert platform) (machineSequence : Nat) :
    Grows projectId machineId world (insertRow platform hook machineSequence world).2 ∧
      PromotionSound platform projectId machineId epoch (insertRow platform hook machineSequence world).2 := by
  rw [insertRow]
  split
  · exact ⟨.refl projectId machineId world, sound⟩
  · next free =>
      obtain ⟨fresh, counted⟩ := not_or.mp free
      split
      · exact ⟨.refl projectId machineId world, sound⟩
      · next eventId outbox inserted =>
          obtain ⟨within, added, stored, unprocessed, envelope⟩ := insertEvent_ok inserted
          have uuid : added.envelope.eventUuid = hook.eventUuid := by rw [envelope]
          have sequence := EventsTable.sequence_insert? stored
          have rows : ∀ eventId row, outbox.get? eventId = some row →
              (eventId = world.outbox.sequence + 1 ∧ row = added) ∨ world.outbox.get? eventId = some row := by
            intro eventId row here
            rw [EventsTable.get?_insert? stored] at here
            split at here
            · next new => exact .inl ⟨new, (Option.some.inj here).symm⟩
            · exact .inr here
          refine ⟨⟨?_, ?_, List.subset_cons_self .., List.Subset.refl _⟩, ⟨?_, ?_, ?_⟩⟩
          · intro eventId row here
            rcases rows eventId row here with ⟨rfl, rfl⟩ | old
            · exact .inr ⟨Nat.lt_succ_self _, uuid ▸ fresh⟩
            · exact .inl ⟨row, old, .refl _⟩
          · exact sequence ▸ Nat.le_succ _
          · refine ⟨sound.receipts.adopted, sound.receipts.parsed, sound.receipts.clean, ?_, ?_⟩
            · intro receipt inside
              obtain ⟨readable, era, known⟩ := sound.receipts.sound receipt inside
              exact ⟨readable, era, List.mem_cons_of_mem _ known⟩
            · intro receipt inside eventId row here event
              rcases rows eventId row here with ⟨rfl, rfl⟩ | old
              · have known := (sound.receipts.sound receipt inside).2.2
                rw [event, uuid] at known
                exact absurd known fresh
              · exact sound.receipts.matching receipt inside eventId row old event
          · refine ⟨?_, ?_, ?_⟩
            · intro eventId row here
              rcases rows eventId row here with ⟨rfl, rfl⟩ | old
              · exact ⟨uuid ▸ hook.canonical, uuid ▸ List.mem_cons_self ..⟩
              · obtain ⟨canonical, known⟩ := sound.events.canonical eventId row old
                exact ⟨canonical, List.mem_cons_of_mem _ known⟩
            · intro eventId row here inEpoch
              rcases rows eventId row here with ⟨rfl, rfl⟩ | old
              · exact inserted_digest sound.receipts.identity.2 within (Nat.not_lt.mp counted) envelope
              · exact sound.events.digest eventId row old inEpoch
            · intro eventId row here inEpoch marked
              rcases rows eventId row here with ⟨rfl, rfl⟩ | old
              · rw [unprocessed] at marked
                cases marked
              · exact sound.events.processed eventId row old inEpoch marked
          · exact ⟨sound.commits.each, sound.commits.once, sound.commits.chained, sound.commits.current⟩

end Outbox

section Commits

variable {envelope : EventEnvelope Number} {project : ProjectTables Store}

/-- A commit of tables that keep all receipts. -/
theorem PromotionSound.commit (sound : PromotionSound platform projectId machineId epoch world)
    (kept : world.project.receipts.receiptsOf projectId machineId ⊆
      project.receipts.receiptsOf projectId machineId)
    (receipts : ReceiptsSound platform projectId machineId epoch { world with project })
    (committed : InEpoch machineId epoch envelope →
      CommitSound projectId machineId (⟨envelope, world.project, project⟩ : ProjectCommit Store Number)) :
    Grows projectId machineId world { world with
        project, commits := world.commits ++ [⟨envelope, world.project, project⟩] } ∧
      PromotionSound platform projectId machineId epoch { world with
        project, commits := world.commits ++ [⟨envelope, world.project, project⟩] } := by
  have stays : ∀ eventUuid, HasReceipt projectId machineId world.project eventUuid →
      HasReceipt projectId machineId project eventUuid :=
    fun eventUuid ⟨row, inside, same⟩ => ⟨row, kept inside, same⟩
  refine ⟨⟨fun eventId row found => .inl ⟨row, found, .refl _⟩, le_refl _, List.Subset.refl _, kept⟩,
    ⟨⟨receipts.adopted, receipts.parsed, receipts.clean, receipts.sound, receipts.matching⟩,
      ⟨sound.events.canonical, sound.events.digest, fun eventId row found inEpoch marked =>
        stays _ (sound.events.processed eventId row found inEpoch marked)⟩, ⟨?_, ?_, ?_, ?_⟩⟩⟩
  · intro commit inside inEpoch
    rcases List.mem_append.mp inside with old | new
    · obtain ⟨commitSound, receipted⟩ := sound.commits.each commit old inEpoch
      exact ⟨commitSound, stays _ receipted⟩
    · rw [List.mem_singleton.mp new] at inEpoch ⊢
      exact ⟨committed inEpoch, (committed inEpoch).receipted⟩
  · refine List.pairwise_append.mpr ⟨sound.commits.once, List.pairwise_singleton .., ?_⟩
    intro first inside second last inEpoch same firstInEpoch
    rw [List.mem_singleton.mp last] at inEpoch same ⊢
    apply (committed inEpoch).unchanged
    have receipted := (sound.commits.each first inside firstInEpoch).2
    rw [same] at receipted
    exact receipted
  · refine List.isChain_append.mpr ⟨sound.commits.chained, List.isChain_singleton _, ?_⟩
    intro first last second head
    cases head
    exact sound.commits.current first last
  · intro commit last
    rw [List.getLast?_concat] at last
    cases last
    rfl

/-- A commit that leaves the receipts alone is for no event of the epoch. -/
theorem PromotionSound.commit_unreceipted (sound : PromotionSound platform projectId machineId epoch world)
    (same : project.receipts = world.project.receipts) (other : ¬ InEpoch machineId epoch envelope) :
    Grows projectId machineId world { world with
        project, commits := world.commits ++ [⟨envelope, world.project, project⟩] } ∧
      PromotionSound platform projectId machineId epoch { world with
        project, commits := world.commits ++ [⟨envelope, world.project, project⟩] } := by
  apply sound.commit
  · rw [same]
    exact List.Subset.refl _
  · obtain ⟨adopted, parsed, clean, readable, matching⟩ := sound.receipts
    rw [← same] at adopted clean readable matching
    exact ⟨adopted, parsed, clean, readable, matching⟩
  · exact fun inEpoch => absurd inEpoch other

/-- A recorded receipt is of another machine, or of an event that the outbox knows. -/
theorem ReceiptsSound.record (sound : ReceiptsSound platform projectId machineId epoch world)
    {row : ReceiptRow} (readable : row.Sound platform.toReceiptPlatform)
    (epochs : project.receipts.epochs = world.project.receipts.epochs)
    (events : project.receipts.events = world.project.receipts.events ++ [row])
    (own : row.machineId = machineId → row.epochId = epoch.epochId ∧ row.eventUuid ∈ world.inserted ∧
      ∀ eventId stored, world.outbox.get? eventId = some stored →
        row.eventUuid = stored.envelope.eventUuid →
          row.machineSequence = stored.envelope.machineSequence ∧
            migrationReceiptEnvelopeSha256 platform.toReceiptPlatform
              (receiptEnvelope machineId (readEnvelope stored.envelope)) = .ok row.envelopeSha256) :
    ReceiptsSound platform projectId machineId epoch { world with project } := by
  have members : ∀ receipt ∈ project.receipts.receiptsOf projectId machineId,
      receipt ∈ world.project.receipts.receiptsOf projectId machineId ∨
        (receipt = row ∧ row.machineId = machineId) := by
    intro receipt inside
    obtain ⟨stored, here, machine⟩ := mem_receiptsOf.mp inside
    rw [events] at stored
    rcases List.mem_append.mp stored with old | new
    · exact .inl (mem_receiptsOf.mpr ⟨old, here, machine⟩)
    · exact .inr ⟨List.mem_singleton.mp new, List.mem_singleton.mp new ▸ machine⟩
  refine ⟨?_, sound.parsed, ?_, ?_, ?_⟩
  · rw [← sound.adopted]
    simp only [ReceiptTables.epochOf, epochs]
  · have clean := sound.clean
    simp only [ReceiptTables.containsNul, epochs, events, List.any_append, Bool.or_eq_false_iff] at clean ⊢
    refine ⟨clean.1, clean.2, ?_⟩
    rw [List.any_cons, List.any_nil, Bool.or_false]
    exact readable.clean
  · intro receipt inside
    rcases members receipt inside with old | ⟨rfl, machine⟩
    · exact sound.sound receipt old
    · exact ⟨readable, (own machine).1, (own machine).2.1⟩
  · intro receipt inside
    rcases members receipt inside with old | ⟨rfl, machine⟩
    · exact sound.matching receipt old
    · exact (own machine).2.2

end Commits

end Lcm.Promotion
