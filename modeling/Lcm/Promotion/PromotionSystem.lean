import Lcm.Promotion.PromoteEvents

namespace Lcm.Promotion
open Text Hooks Migration

section Hooks

variable {Store Number : Type} (platform : PromotionPlatform Store Number)

/-- An insertion of a hook with the readings of its clock and of the machine's registration. The
extractors of events give small integers as priorities. -/
structure HookInsert where
  eventUuid : JsString
  canonical : isCanonicalUuid eventUuid = true
  registeredMachineId : Option JsString
  createdAt : JsString
  clock : LocalClock
  sessionId : JsString
  event : LocalHookEvent Number
  safe : isSafeInteger platform.toReceiptPlatform event.priority = true
  sourceHook : JsString

variable {platform} in
/-- What an insertion uses of the outbox; it sanitizes no diagnostic. -/
def HookInsert.outbox (_ : HookInsert platform) : OutboxPlatform Number := ⟨platform.numbers, id⟩

def allocateSequence (world : PromotionWorld Store Number) :
    Except PromotionFailure Nat × PromotionWorld Store Number :=
  if world.nextSequence ≤ PassiveEvents.maxPostgreSqlBigInt then
    (.ok world.nextSequence, { world with nextSequence := world.nextSequence + 1 })
  else (.error (.error "local hook machine sequence is exhausted"), world)

/-- The row of an event. No identifier is drawn twice, and a session never has more events than a
number can count. -/
def insertRow (hook : HookInsert platform) (machineSequence : Nat) (world : PromotionWorld Store Number) :
    Except PromotionFailure Unit × PromotionWorld Store Number :=
  if hook.eventUuid ∈ world.inserted ∨ maxSafeNatural < world.outbox.nextSeq hook.sessionId then
    (.error (.error "constraint"), world)
  else
    match world.outbox.insertEvent hook.outbox hook.eventUuid hook.registeredMachineId machineSequence
        hook.createdAt hook.clock hook.sessionId hook.event hook.sourceHook with
    | .error _ => (.error (.error "constraint"), world)
    | .ok (_, outbox) => (.ok (), { world with outbox, inserted := hook.eventUuid :: world.inserted })

/-- The sequence is reserved first, so a crash may leave a gap. -/
def insertEvent (hook : HookInsert platform) : PromotionProcess Store Number Unit := do
  let machineSequence ← Process.act allocateSequence
  Process.act (insertRow platform hook machineSequence)

end Hooks

section System

variable {Store Number : Type} (platform : PromotionPlatform Store Number)

/-- What may be started: the insertion of a hook, a batch, or retention. -/
inductive PromotionProgram where
  | hook (hook : HookInsert platform)
  | promote (config : PromotionConfig Number) (clock : PromotionClock)
  | prune (olderThanDays : Int) (awaitingReplication : Bool) (clock : LocalClock)

/-- The machine's hooks in other projects reserve sequences too. -/
inductive PromotionEventOutside where
  | reserved
  deriving DecidableEq

def outside (world : PromotionWorld Store Number) (event : PromotionEventOutside) :
    Option (PromotionWorld Store Number) :=
  match event with
  | .reserved => some { world with nextSequence := world.nextSequence + 1 }

def program (projectId : JsString) : PromotionProgram platform → PromotionProcess Store Number Unit
  | .hook hook => insertEvent platform hook
  | .promote config clock => do
      let _ ← runSelectedPromotionBatch platform config ⟨projectId, .sqlite⟩ clock
  | .prune olderThanDays awaitingReplication clock =>
      onOutbox fun outbox => (outbox.pruneProcessed olderThanDays awaitingReplication clock).2

/-- A project with an epoch that no event has reached yet. -/
structure EpochStart (projectId machineId : JsString) (epoch : MigrationReceiptEpoch)
    (world : PromotionWorld Store Number) : Prop where
  adopted : world.project.receipts.epochOf projectId machineId = some epoch
  parsed : parseEpochRow platform.toReceiptPlatform epoch = .ok epoch
  receipts : world.project.receipts.receiptsOf projectId machineId = []
  clean : world.project.receipts.containsNul = false
  unreached : ∀ eventId row, world.outbox.get? eventId = some row →
    row.envelope.machineSequence < epoch.firstMachineSequence
  canonical : ∀ eventId row, world.outbox.get? eventId = some row →
    isCanonicalUuid row.envelope.eventUuid = true ∧ row.envelope.eventUuid ∈ world.inserted
  commits : world.commits = []

def promotionSystem (projectId machineId : JsString) (epoch : MigrationReceiptEpoch) :
    StepSystem (Shared (PromotionWorld Store Number) PromotionFailure Unit)
      (Turn PromotionEventOutside (PromotionProgram platform) PromotionFailure) :=
  Shared.system (EpochStart platform projectId machineId epoch) outside (program platform projectId)

end System

section Epochs

variable {Store Number : Type}

/-- The event is one of the machine from the epoch's first sequence on. -/
def InEpoch (machineId : JsString) (epoch : MigrationReceiptEpoch) (envelope : EventEnvelope Number) : Prop :=
  envelope.machineId = some machineId ∧ epoch.firstMachineSequence ≤ envelope.machineSequence

/-- The event has a receipt. -/
def HasReceipt (projectId machineId : JsString) (tables : ProjectTables Store) (eventUuid : JsString) : Prop :=
  ∃ row ∈ tables.receipts.receiptsOf projectId machineId, row.eventUuid = eventUuid

/-- The envelopes differ at most in the previous event, which no receipt covers. -/
def SameEvent (first second : EventEnvelope Number) : Prop :=
  { first with prevEventId := none } = { second with prevEventId := none }

variable {machineId : JsString} {epoch : MigrationReceiptEpoch} {first second third : EventEnvelope Number}

theorem SameEvent.refl (envelope : EventEnvelope Number) : SameEvent envelope envelope := rfl

theorem SameEvent.symm (same : SameEvent first second) : SameEvent second first := Eq.symm same

theorem SameEvent.trans (same : SameEvent first second) (next : SameEvent second third) :
    SameEvent first third := Eq.trans same next

/-- What is read of an event without its previous event is the same. -/
theorem SameEvent.apply {Value : Type} (same : SameEvent first second)
    (read : EventEnvelope Number → Value) :
    read { first with prevEventId := none } = read { second with prevEventId := none } :=
  congrArg read same

theorem SameEvent.eventUuid (same : SameEvent first second) : first.eventUuid = second.eventUuid :=
  same.apply (·.eventUuid)

theorem SameEvent.machineSequence (same : SameEvent first second) :
    first.machineSequence = second.machineSequence := same.apply (·.machineSequence)

theorem SameEvent.inEpoch (same : SameEvent first second) :
    InEpoch machineId epoch first ↔ InEpoch machineId epoch second := by
  have machine : first.machineId = second.machineId := same.apply (·.machineId)
  rw [InEpoch, InEpoch, machine, same.machineSequence]

theorem SameEvent.receiptEnvelope (same : SameEvent first second) (machineId : JsString) :
    Migration.receiptEnvelope machineId first = Migration.receiptEnvelope machineId second :=
  same.apply (Migration.receiptEnvelope machineId)

/-- Reading an event keeps its sameness. -/
theorem SameEvent.read (same : SameEvent first second) :
    SameEvent (readEnvelope first) (readEnvelope second) := same.apply readEnvelope

theorem readEnvelope_eventUuid {envelope : EventEnvelope Number}
    (canonical : isCanonicalUuid envelope.eventUuid = true) :
    (readEnvelope envelope).eventUuid = envelope.eventUuid := readText_ascii (uuid_ascii canonical)

end Epochs

section Invariant

variable {Store Number : Type} (platform : PromotionPlatform Store Number)
  (projectId machineId : JsString) (epoch : MigrationReceiptEpoch)

/-- What a commit for an event of the epoch leaves. -/
structure CommitSound (commit : ProjectCommit Store Number) : Prop where
  receipted : HasReceipt projectId machineId commit.after commit.envelope.eventUuid
  unchanged : HasReceipt projectId machineId commit.before commit.envelope.eventUuid →
    commit.after.promoted = commit.before.promoted

/-- The later of two commits for one event of the epoch changes no memory. -/
def AppliedOnce (first second : ProjectCommit Store Number) : Prop :=
  InEpoch machineId epoch second.envelope → first.envelope.eventUuid = second.envelope.eventUuid →
    InEpoch machineId epoch first.envelope → second.after.promoted = second.before.promoted

/-- What the receipts of the epoch are. -/
structure ReceiptsSound (world : PromotionWorld Store Number) : Prop where
  adopted : world.project.receipts.epochOf projectId machineId = some epoch
  parsed : parseEpochRow platform.toReceiptPlatform epoch = .ok epoch
  clean : world.project.receipts.containsNul = false
  sound : ∀ receipt ∈ world.project.receipts.receiptsOf projectId machineId,
    receipt.Sound platform.toReceiptPlatform ∧ receipt.epochId = epoch.epochId ∧
      receipt.eventUuid ∈ world.inserted
  matching : ∀ receipt ∈ world.project.receipts.receiptsOf projectId machineId, ∀ eventId row,
    world.outbox.get? eventId = some row → receipt.eventUuid = row.envelope.eventUuid →
      receipt.machineSequence = row.envelope.machineSequence ∧
        migrationReceiptEnvelopeSha256 platform.toReceiptPlatform
          (receiptEnvelope machineId (readEnvelope row.envelope)) = .ok receipt.envelopeSha256

/-- What the events of the outbox are. -/
structure EventsSound (world : PromotionWorld Store Number) : Prop where
  canonical : ∀ eventId row, world.outbox.get? eventId = some row →
    isCanonicalUuid row.envelope.eventUuid = true ∧ row.envelope.eventUuid ∈ world.inserted
  digest : ∀ eventId row, world.outbox.get? eventId = some row →
    InEpoch machineId epoch (readEnvelope row.envelope) →
      ∃ digest, migrationReceiptEnvelopeSha256 platform.toReceiptPlatform
        (receiptEnvelope machineId (readEnvelope row.envelope)) = .ok digest
  processed : ∀ eventId row, world.outbox.get? eventId = some row →
    InEpoch machineId epoch (readEnvelope row.envelope) → row.processedAt.isSome = true →
      HasReceipt projectId machineId world.project row.envelope.eventUuid

/-- What the commits so far are. -/
structure CommitsSound (world : PromotionWorld Store Number) : Prop where
  each : ∀ commit ∈ world.commits, InEpoch machineId epoch commit.envelope →
    CommitSound projectId machineId commit ∧
      HasReceipt projectId machineId world.project commit.envelope.eventUuid
  once : world.commits.Pairwise (AppliedOnce machineId epoch)
  chained : world.commits.IsChain fun first second => first.after = second.before
  current : ∀ commit ∈ world.commits.getLast?, commit.after = world.project

structure PromotionSound (world : PromotionWorld Store Number) : Prop where
  receipts : ReceiptsSound platform projectId machineId epoch world
  events : EventsSound platform projectId machineId epoch world
  commits : CommitsSound projectId machineId epoch world

/-- What happens between two calls of a process: events stay the same but for new ones, and receipts
stay. -/
structure Grows (before after : PromotionWorld Store Number) : Prop where
  rows : ∀ eventId row, after.outbox.get? eventId = some row →
    (∃ old, before.outbox.get? eventId = some old ∧ SameEvent old.envelope row.envelope) ∨
      (before.outbox.sequence < eventId ∧ row.envelope.eventUuid ∉ before.inserted)
  sequence : before.outbox.sequence ≤ after.outbox.sequence
  inserted : before.inserted ⊆ after.inserted
  receipts : before.project.receipts.receiptsOf projectId machineId ⊆
    after.project.receipts.receiptsOf projectId machineId

theorem Grows.refl (world : PromotionWorld Store Number) : Grows projectId machineId world world :=
  ⟨fun _ row found => .inl ⟨row, found, .refl _⟩, le_refl _, List.Subset.refl _, List.Subset.refl _⟩

theorem Grows.trans {first second third : PromotionWorld Store Number}
    (one : Grows projectId machineId first second) (two : Grows projectId machineId second third) :
    Grows projectId machineId first third := by
  refine ⟨?_, one.sequence.trans two.sequence, List.Subset.trans one.inserted two.inserted,
    List.Subset.trans one.receipts two.receipts⟩
  intro eventId row found
  rcases two.rows eventId row found with ⟨old, stored, same⟩ | ⟨later, fresh⟩
  · rcases one.rows eventId old stored with ⟨older, storedFirst, sameFirst⟩ | ⟨later, fresh⟩
    · exact .inl ⟨older, storedFirst, sameFirst.trans same⟩
    · exact .inr ⟨later, same.eventUuid ▸ fresh⟩
  · exact .inr ⟨one.sequence.trans_lt later, fun known => fresh (one.inserted known)⟩

/-- The interference of hooks, batches and retention. -/
def promotionInterference : Interference (PromotionWorld Store Number) where
  holds := PromotionSound platform projectId machineId epoch
  may := Grows projectId machineId
  refl := Grows.refl projectId machineId
  trans := fun _ _ _ one two => one.trans projectId machineId two

end Invariant

end Lcm.Promotion
