import Lcm.Hooks.OutboxQueries
import Lcm.Migration.ReceiptRecords

namespace Lcm.Migration
open Text Hooks

inductive QueueDisposition where
  | represented
  | retained
  deriving DecidableEq

structure MigrationQueueRecord where
  eventUuid : JsString
  machineSequence : Nat
  envelopeSha256 : JsString
  disposition : QueueDisposition
  receiptChecksumSha256 : Option JsString
  deriving DecidableEq

inductive QueueRefusal where
  | legacyEffectAmbiguous
  | receiptEraProcessedWithoutReceipt
  | receiptConflict
  | machineIdentityAmbiguous
  | queueRowMalformed
  deriving DecidableEq

inductive MigrationQueueClassification where
  | ready (records : List MigrationQueueRecord) (queueSetSha256 : JsString)
      (receiptEvidence : MigrationReceiptEvidence)
  | refused (reason : QueueRefusal) (eventUuid : JsString)

/-- The records so far with the sequences and the events that they are of. -/
structure QueueProgress where
  records : List MigrationQueueRecord
  seenSequences : List Nat
  seenEvents : List JsString

section Classification

variable {Number : Type} (platform : ReceiptPlatform Number)

/-- The envelope of an event of a machine. -/
def receiptEnvelope (machineId : JsString) (envelope : EventEnvelope Number) :
    MigrationReceiptEnvelope Number :=
  ⟨envelope.eventUuid, envelope.eventVersion, machineId, envelope.machineSequence, envelope.sessionId,
    envelope.seq, envelope.type, envelope.category, envelope.data, envelope.priority,
    envelope.sourceHook, envelope.createdAt⟩

/-- What throws in a row makes the row malformed. -/
def orMalformed {Value : Type} (eventUuid : JsString) (result : Except String Value) :
    Except (QueueRefusal × JsString) Value :=
  result.mapError fun _ => (.queueRowMalformed, eventUuid)

def refuseRow (condition : Prop) [Decidable condition] (reason : QueueRefusal) (eventUuid : JsString) :
    Except (QueueRefusal × JsString) Unit :=
  if condition then .error (reason, eventUuid) else .ok ()

/-- How a row is told by the receipt of its event, or without one. -/
def queueRecord (evidence : MigrationReceiptEvidence) (row : EventRow Number) (envelopeDigest : JsString) :
    Except (QueueRefusal × JsString) MigrationQueueRecord :=
  let eventUuid := row.envelope.eventUuid
  let machineSequence := row.envelope.machineSequence
  match evidence.receipts.reverse.find? fun receipt => receipt.eventUuid = eventUuid with
  | some receipt => do
      refuseRow (receipt.machineSequence ≠ machineSequence ∨ receipt.envelopeSha256 ≠ envelopeDigest ∨
        receipt.epochId ≠ evidence.epoch.epochId) .receiptConflict eventUuid
      pure ⟨eventUuid, machineSequence, envelopeDigest, .represented, some receipt.checksumSha256⟩
  | none => do
      refuseRow (machineSequence < evidence.epoch.firstMachineSequence) .legacyEffectAmbiguous eventUuid
      refuseRow (row.processedAt.isSome) .receiptEraProcessedWithoutReceipt eventUuid
      pure ⟨eventUuid, machineSequence, envelopeDigest, .retained, none⟩

def classifyRow (machineId : JsString) (evidence : MigrationReceiptEvidence) (progress : QueueProgress)
    (row : EventRow Number) : Except (QueueRefusal × JsString) QueueProgress := do
  let eventUuid := row.envelope.eventUuid
  let _ ← orMalformed eventUuid (canonicalUuid eventUuid "event_uuid")
  refuseRow (row.envelope.machineId ≠ some machineId) .machineIdentityAmbiguous eventUuid
  let machineSequence ← orMalformed eventUuid
    (sequence row.envelope.machineSequence maxEventSequence "machine_sequence")
  refuseRow (machineSequence ∈ progress.seenSequences ∨ eventUuid ∈ progress.seenEvents)
    .queueRowMalformed eventUuid
  let envelopeDigest ← orMalformed eventUuid
    (migrationReceiptEnvelopeSha256 platform (receiptEnvelope machineId row.envelope))
  let record ← queueRecord evidence row envelopeDigest
  pure ⟨progress.records ++ [record], progress.seenSequences ++ [machineSequence],
    progress.seenEvents ++ [eventUuid]⟩

def MigrationQueueRecord.toJson (record : MigrationQueueRecord) : Json Number :=
  .object [textMember "eventUuid" record.eventUuid,
    sequenceMember "machineSequence" record.machineSequence,
    textMember "envelopeSha256" record.envelopeSha256,
    textMember "disposition" (match record.disposition with
      | .represented => js "represented"
      | .retained => js "retained"),
    (js "receiptChecksumSha256", writeNullable .string record.receiptChecksumSha256)]

def classifyMigrationQueue (projectId machineId : JsString) (queueCutoff : Option Nat)
    (tables : ReceiptTables) (events : EventsTable Number) :
    Except String MigrationQueueClassification := do
  let _ ← nulFree projectId "projectId"
  let _ ← canonicalUuid machineId "machineId"
  let _ ← queueCutoff.mapM fun cutoff => sequence cutoff maxEventSequence "queueCutoff"
  let receiptEvidence ← readMigrationReceiptEvidence platform projectId machineId tables
  let rawRows := queueCutoff.elim [] fun cutoff => events.queueRows platform.utf8 cutoff
  match rawRows.foldlM (classifyRow platform machineId receiptEvidence) ⟨[], [], []⟩ with
  | .error (reason, eventUuid) => pure (.refused reason eventUuid)
  | .ok progress =>
      let queueSetSha256 ← portableSha256 platform.toMigrationPlatform
        (.array (progress.records.map MigrationQueueRecord.toJson))
      pure (.ready progress.records queueSetSha256 receiptEvidence)

end Classification

section Facts

variable {Number : Type} {platform : ReceiptPlatform Number} {machineId : JsString}
  {evidence : MigrationReceiptEvidence} {row : EventRow Number}

theorem orMalformed_eq_ok {Value : Type} {eventUuid : JsString} {result : Except String Value}
    {value : Value} : orMalformed eventUuid result = .ok value ↔ result = .ok value := by
  cases result with
  | error message => simp [orMalformed, Except.mapError]
  | ok given => simp [orMalformed, Except.mapError]

theorem refuseRow_eq_ok {condition : Prop} [Decidable condition] {reason : QueueRefusal}
    {eventUuid : JsString} : refuseRow condition reason eventUuid = .ok () ↔ ¬ condition := by
  rw [refuseRow]
  split
  · next holds => simp [holds]
  · next fails => simp [fails]

/-- The record of a row. -/
structure RecordOf (evidence : MigrationReceiptEvidence) (row : EventRow Number)
    (record : MigrationQueueRecord) : Prop where
  eventUuid : record.eventUuid = row.envelope.eventUuid
  machineSequence : record.machineSequence = row.envelope.machineSequence
  represented : record.disposition = .represented ↔
    ∃ receipt ∈ evidence.receipts, receipt.eventUuid = row.envelope.eventUuid
  portable : isPostgreSqlText record.eventUuid = true ∧ isPostgreSqlText record.envelopeSha256 = true ∧
    ∀ checksum ∈ record.receiptChecksumSha256,
      ∃ receipt ∈ evidence.receipts, receipt.checksumSha256 = checksum

theorem queueRecord_ok {envelopeDigest : JsString} {record : MigrationQueueRecord}
    (uuid : isCanonicalUuid row.envelope.eventUuid = true) (hashed : isHash envelopeDigest = true)
    (made : queueRecord evidence row envelopeDigest = .ok record) : RecordOf evidence row record := by
  have texts : isPostgreSqlText row.envelope.eventUuid = true ∧ isPostgreSqlText envelopeDigest = true :=
    ⟨isPostgreSqlText_ascii (uuid_ascii uuid), isPostgreSqlText_hash ⟨_, hashed⟩⟩
  rw [queueRecord] at made
  split at made
  · next receipt found =>
      obtain ⟨_, _, same⟩ := Except.bind_eq_ok.mp made
      cases same
      have inside := List.mem_reverse.mp (List.mem_of_find?_eq_some found)
      have event : receipt.eventUuid = row.envelope.eventUuid := by simpa using List.find?_some found
      refine ⟨rfl, rfl, ⟨fun _ => ⟨receipt, inside, event⟩, fun _ => rfl⟩, texts.1, texts.2, ?_⟩
      intro checksum given
      cases given
      exact ⟨receipt, inside, rfl⟩
  · next missing =>
      obtain ⟨_, _, rest⟩ := Except.bind_eq_ok.mp made
      obtain ⟨_, _, same⟩ := Except.bind_eq_ok.mp rest
      cases same
      refine ⟨rfl, rfl, ⟨nofun, fun ⟨receipt, inside, event⟩ => ?_⟩, texts.1, texts.2, nofun⟩
      have other := List.find?_eq_none.mp missing receipt (List.mem_reverse.mpr inside)
      exact absurd (decide_eq_true event) other

theorem classifyRow_ok {progress after : QueueProgress}
    (classified : classifyRow platform machineId evidence progress row = .ok after) :
    ∃ record, RecordOf evidence row record ∧ after.records = progress.records ++ [record] ∧
      after.seenSequences = progress.seenSequences ++ [row.envelope.machineSequence] ∧
        after.seenEvents = progress.seenEvents ++ [row.envelope.eventUuid] := by
  simp only [classifyRow, Except.bind_eq_ok, orMalformed_eq_ok] at classified
  obtain ⟨_, uuid, _, _, machineSequence, order, _, _, digest, digested, record, made, same⟩ := classified
  cases same
  obtain ⟨_, rfl⟩ := sequence_eq_ok.mp order
  exact ⟨record, queueRecord_ok (canonicalUuid_eq_ok.mp uuid).1.2
    (migrationReceiptEnvelopeSha256_valid digested).2.1 made, rfl, rfl, rfl⟩

/-- A refusal names the event of its row. -/
theorem classifyRow_names (progress : QueueProgress) :
    Except.Avoids (fun refusal => refusal.2 ≠ row.envelope.eventUuid)
      (classifyRow platform machineId evidence progress row) := by
  have malformed : ∀ {Value : Type} (result : Except String Value),
      Except.Avoids (fun refusal : QueueRefusal × JsString => refusal.2 ≠ row.envelope.eventUuid)
        (orMalformed row.envelope.eventUuid result) := by
    intro Value result
    cases result with
    | error message => exact .error fun other => other rfl
    | ok value => exact .ok value
  have refused : ∀ (condition : Prop) [Decidable condition] (reason : QueueRefusal),
      Except.Avoids (fun refusal : QueueRefusal × JsString => refusal.2 ≠ row.envelope.eventUuid)
        (refuseRow condition reason row.envelope.eventUuid) := by
    intro condition _ reason
    rw [refuseRow]
    split
    · exact .error fun other => other rfl
    · exact .ok ()
  have recorded : ∀ digest, Except.Avoids (fun refusal => refusal.2 ≠ row.envelope.eventUuid)
      (queueRecord evidence row digest) := by
    intro digest
    rw [queueRecord]
    split
    · exact .bind (refused _ _) fun _ _ => .ok _
    · exact .bind (refused _ _) fun _ _ => .bind (refused _ _) fun _ _ => .ok _
  rw [classifyRow]
  exact .bind (malformed _) fun _ _ => .bind (refused _ _) fun _ _ => .bind (malformed _) fun _ _ =>
    .bind (refused _ _) fun _ _ => .bind (malformed _) fun _ _ => .bind (recorded _) fun _ _ => .ok _

/-- A row of the machine that no check refuses. -/
structure ClassifiableRow (platform : ReceiptPlatform Number) (machineId : JsString)
    (evidence : MigrationReceiptEvidence) (row : EventRow Number) : Prop where
  machine : row.envelope.machineId = some machineId
  digest : ∃ digest, migrationReceiptEnvelopeSha256 platform (receiptEnvelope machineId row.envelope) =
    .ok digest ∧ ∀ receipt ∈ evidence.receipts, receipt.eventUuid = row.envelope.eventUuid →
      receipt.machineSequence = row.envelope.machineSequence ∧ receipt.envelopeSha256 = digest ∧
        receipt.epochId = evidence.epoch.epochId
  unprocessed : (∀ receipt ∈ evidence.receipts, receipt.eventUuid ≠ row.envelope.eventUuid) →
    evidence.epoch.firstMachineSequence ≤ row.envelope.machineSequence ∧ row.processedAt = none

theorem ClassifiableRow.accepted (classifiable : ClassifiableRow platform machineId evidence row)
    {progress : QueueProgress} (freshSequence : row.envelope.machineSequence ∉ progress.seenSequences)
    (freshEvent : row.envelope.eventUuid ∉ progress.seenEvents) :
    ∃ after, classifyRow platform machineId evidence progress row = .ok after := by
  obtain ⟨digest, digested, matching⟩ := classifiable.digest
  have valid := (migrationReceiptEnvelopeSha256_valid digested).1
  obtain ⟨record, made⟩ : ∃ record, queueRecord evidence row digest = .ok record := by
    rw [queueRecord]
    split
    · next receipt found =>
        have inside := List.mem_reverse.mp (List.mem_of_find?_eq_some found)
        have same := matching receipt inside (by simpa using List.find?_some found)
        exact ⟨_, Except.bind_eq_ok.mpr ⟨(), refuseRow_eq_ok.mpr (by simp [same]), rfl⟩⟩
    · next missing =>
        have none : ∀ receipt ∈ evidence.receipts, receipt.eventUuid ≠ row.envelope.eventUuid := by
          intro receipt inside event
          exact List.find?_eq_none.mp missing receipt (List.mem_reverse.mpr inside) (decide_eq_true event)
        obtain ⟨era, unprocessed⟩ := classifiable.unprocessed none
        exact ⟨_, Except.bind_eq_ok.mpr ⟨(), refuseRow_eq_ok.mpr (Nat.not_lt.mpr era),
          Except.bind_eq_ok.mpr ⟨(), refuseRow_eq_ok.mpr (by simp [unprocessed]), rfl⟩⟩⟩
  refine ⟨⟨progress.records ++ [record], progress.seenSequences ++ [row.envelope.machineSequence],
    progress.seenEvents ++ [row.envelope.eventUuid]⟩, ?_⟩
  simp only [classifyRow, Except.bind_eq_ok, orMalformed_eq_ok]
  exact ⟨_, canonicalUuid_ok valid.eventUuid _, (), refuseRow_eq_ok.mpr (by simp [classifiable.machine]),
    _, sequence_eq_ok.mpr ⟨valid.machineSequence, rfl⟩, (),
    refuseRow_eq_ok.mpr (by simp [freshSequence, freshEvent]), digest, digested, record, made, rfl⟩

/-- Rows are refused for one that is not classifiable, or each of them has its record. -/
theorem foldlM_classifyRow {rows : List (EventRow Number)} {progress : QueueProgress}
    (sequences : rows.Pairwise fun first second =>
      first.envelope.machineSequence ≠ second.envelope.machineSequence)
    (events : rows.Pairwise fun first second => first.envelope.eventUuid ≠ second.envelope.eventUuid)
    (freshSequences : ∀ row ∈ rows, row.envelope.machineSequence ∉ progress.seenSequences)
    (freshEvents : ∀ row ∈ rows, row.envelope.eventUuid ∉ progress.seenEvents) :
    match rows.foldlM (classifyRow platform machineId evidence) progress with
    | .error refusal => ∃ row ∈ rows, ¬ ClassifiableRow platform machineId evidence row ∧
        refusal.2 = row.envelope.eventUuid
    | .ok after => ∃ records, List.Forall₂ (RecordOf evidence) rows records ∧
        after.records = progress.records ++ records := by
  induction rows generalizing progress with
  | nil => exact ⟨[], .nil, (List.append_nil _).symm⟩
  | cons row rows ih =>
      rw [List.foldlM_cons]
      rw [List.pairwise_cons] at sequences events
      cases classified : classifyRow platform machineId evidence progress row with
      | error refusal =>
          refine ⟨row, List.mem_cons_self .., fun classifiable => ?_, not_not.mp (classifyRow_names progress refusal classified)⟩
          obtain ⟨after, accepted⟩ := classifiable.accepted (freshSequences row (List.mem_cons_self ..))
            (freshEvents row (List.mem_cons_self ..))
          rw [classified] at accepted
          cases accepted
      | ok next =>
          obtain ⟨record, recordOf, records, seenSequences, seenEvents⟩ := classifyRow_ok classified
          have rest := @ih next sequences.2 events.2 (by
            intro other inside
            rw [seenSequences, List.mem_append, List.mem_singleton]
            exact not_or.mpr ⟨freshSequences other (List.mem_cons_of_mem _ inside),
              (sequences.1 other inside).symm⟩) (by
            intro other inside
            rw [seenEvents, List.mem_append, List.mem_singleton]
            exact not_or.mpr ⟨freshEvents other (List.mem_cons_of_mem _ inside),
              (events.1 other inside).symm⟩)
          show match rows.foldlM (classifyRow platform machineId evidence) next with
            | .error refusal => ∃ other ∈ row :: rows, ¬ ClassifiableRow platform machineId evidence other ∧
                refusal.2 = other.envelope.eventUuid
            | .ok after => ∃ records, List.Forall₂ (RecordOf evidence) (row :: rows) records ∧
                after.records = progress.records ++ records
          revert rest
          cases rows.foldlM (classifyRow platform machineId evidence) next with
          | error refusal =>
              intro ⟨other, inside, refused⟩
              exact ⟨other, List.mem_cons_of_mem _ inside, refused⟩
          | ok after =>
              intro ⟨others, each, same⟩
              refine ⟨record :: others, .cons recordOf each, ?_⟩
              rw [same, records, List.append_assoc]
              rfl

/-- The rows of the migration's queue up to its cutoff. -/
def migrationRows (utf8 : JsString → List Nat) (queueCutoff : Option Nat) (outbox : EventsTable Number) :
    List (EventRow Number) := queueCutoff.elim [] fun cutoff => outbox.queueRows utf8 cutoff

variable {queueCutoff : Option Nat}

theorem mem_migrationRows {utf8 : JsString → List Nat} {outbox : EventsTable Number}
    {row : EventRow Number} (inside : row ∈ migrationRows utf8 queueCutoff outbox) :
    ∃ eventId stored, outbox.get? eventId = some stored ∧ row = readRow stored := by
  cases queueCutoff with
  | none => cases inside
  | some cutoff =>
      obtain ⟨eventId, stored, found, _, same⟩ := EventsTable.mem_queueRows.mp inside
      exact ⟨eventId, stored, found, same⟩

/-- The records of a queue have a digest. -/
theorem portable_records {platform : ReceiptPlatform Number} {records : List MigrationQueueRecord}
    (portable : ∀ record ∈ records, isPostgreSqlText record.eventUuid = true ∧
      isPostgreSqlText record.envelopeSha256 = true ∧
        ∀ checksum ∈ record.receiptChecksumSha256, isPostgreSqlText checksum = true) :
    ∃ digest, portableSha256 platform.toMigrationPlatform
      (.array (records.map MigrationQueueRecord.toJson)) = .ok digest := by
  have each : ∀ record ∈ records,
      isPortable platform.toMigrationPlatform record.toJson = true := by
    intro record inside
    obtain ⟨uuid, hash, checksum⟩ := portable record inside
    have text : ∀ value : JsString, isPostgreSqlText value = true →
        isPortable platform.toMigrationPlatform (.string value) = true := by
      intro value written
      rw [isPortable, written]
    have names : ∀ name ∈ ["eventUuid", "machineSequence", "envelopeSha256", "disposition",
        "receiptChecksumSha256"], isPostgreSqlText (js name) = true := by decide
    have dispositions : ∀ name ∈ ["represented", "retained"], isPostgreSqlText (js name) = true := by
      decide
    simp only [List.forall_mem_cons] at names dispositions
    have receipt : isPortable platform.toMigrationPlatform
        (writeNullable .string record.receiptChecksumSha256) = true := by
      cases given : record.receiptChecksumSha256 with
      | none => simp [writeNullable, isPortable]
      | some value => exact text value (checksum value given)
    have disposition : isPostgreSqlText (match record.disposition with
        | .represented => js "represented"
        | .retained => js "retained") = true := by
      cases record.disposition with
      | represented => exact dispositions.1
      | retained => exact dispositions.2.1
    rw [MigrationQueueRecord.toJson, isPortable, arePortableMembers_iff]
    simp only [List.forall_mem_cons, textMember, sequenceMember]
    exact ⟨⟨names.1, text _ uuid⟩, ⟨names.2.1, text _ (isPostgreSqlText_padded 19 _)⟩,
      ⟨names.2.2.1, text _ hash⟩, ⟨names.2.2.2.1, text _ disposition⟩, ⟨names.2.2.2.2.1, receipt⟩,
      List.forall_mem_nil _⟩
  refine ⟨_, portableSha256_eq_ok.mpr ⟨?_, rfl⟩⟩
  rw [isPortable, arePortable_iff]
  intro value inside
  obtain ⟨record, member, rfl⟩ := List.mem_map.mp inside
  exact each record member

/-- Every record of a list of rows has texts only. -/
theorem recordsOf_portable {rows : List (EventRow Number)} {records : List MigrationQueueRecord}
    (each : List.Forall₂ (RecordOf evidence) rows records)
    (checksums : ∀ receipt ∈ evidence.receipts, isPostgreSqlText receipt.checksumSha256 = true) :
    ∀ record ∈ records, isPostgreSqlText record.eventUuid = true ∧
      isPostgreSqlText record.envelopeSha256 = true ∧
        ∀ checksum ∈ record.receiptChecksumSha256, isPostgreSqlText checksum = true := by
  induction each with
  | nil => exact List.forall_mem_nil _
  | cons first rest ih =>
      refine List.forall_mem_cons.mpr ⟨⟨first.portable.1, first.portable.2.1, ?_⟩, ih⟩
      intro checksum given
      obtain ⟨receipt, inside, same⟩ := first.portable.2.2 checksum given
      exact same ▸ checksums receipt inside

/-- With its evidence at hand, a classification has a record for each row, or refuses for a row that is
not classifiable. -/
theorem classifyMigrationQueue_ok {projectId : JsString} {tables : ReceiptTables}
    {outbox : EventsTable Number} (clean : includesNul projectId = false)
    (canonical : isCanonicalUuid machineId = true)
    (within : ∀ cutoff ∈ queueCutoff, cutoff ≤ maxEventSequence)
    (read : readMigrationReceiptEvidence platform projectId machineId tables = .ok evidence)
    (checksums : ∀ receipt ∈ evidence.receipts, isPostgreSqlText receipt.checksumSha256 = true)
    (sequences : (migrationRows platform.utf8 queueCutoff outbox).Pairwise fun first second =>
      first.envelope.machineSequence ≠ second.envelope.machineSequence)
    (events : (migrationRows platform.utf8 queueCutoff outbox).Pairwise fun first second =>
      first.envelope.eventUuid ≠ second.envelope.eventUuid) :
    (∃ records digest, classifyMigrationQueue platform projectId machineId queueCutoff tables outbox =
        .ok (.ready records digest evidence) ∧
          List.Forall₂ (RecordOf evidence) (migrationRows platform.utf8 queueCutoff outbox) records) ∨
      ∃ reason row, classifyMigrationQueue platform projectId machineId queueCutoff tables outbox =
        .ok (.refused reason row.envelope.eventUuid) ∧
          row ∈ migrationRows platform.utf8 queueCutoff outbox ∧
            ¬ ClassifiableRow platform machineId evidence row := by
  have checked : (queueCutoff.mapM fun cutoff => sequence cutoff maxEventSequence "queueCutoff") =
      .ok queueCutoff := by
    cases queueCutoff with
    | none => rfl
    | some cutoff =>
        have same : sequence cutoff maxEventSequence "queueCutoff" = .ok cutoff :=
          sequence_eq_ok.mpr ⟨within cutoff rfl, rfl⟩
        show (sequence cutoff maxEventSequence "queueCutoff").map some = _
        rw [same]
        rfl
  have folded := @foldlM_classifyRow Number platform machineId evidence _ ⟨[], [], []⟩ sequences events
    (fun _ _ => List.not_mem_nil) fun _ _ => List.not_mem_nil
  cases classified : (migrationRows platform.utf8 queueCutoff outbox).foldlM
      (classifyRow platform machineId evidence) ⟨[], [], []⟩ with
  | error refusal =>
      rw [classified] at folded
      obtain ⟨row, inside, refused, same⟩ := folded
      refine .inr ⟨refusal.1, row, ?_, inside, refused⟩
      rw [migrationRows] at classified
      simp only [classifyMigrationQueue, Except.bind_eq_ok]
      refine ⟨_, nulFree_eq_ok.mpr ⟨clean, rfl⟩, _, canonicalUuid_ok canonical _, _, checked, _, read, ?_⟩
      rw [classified, ← same]
      rfl
  | ok progress =>
      rw [classified] at folded
      obtain ⟨records, each, same⟩ := folded
      have portable := recordsOf_portable each checksums
      rw [List.nil_append] at same
      rw [← same] at portable each
      obtain ⟨digest, hashed⟩ := @portable_records _ platform _ portable
      refine .inl ⟨progress.records, digest, ?_, each⟩
      rw [migrationRows] at classified
      simp only [classifyMigrationQueue, Except.bind_eq_ok]
      refine ⟨_, nulFree_eq_ok.mpr ⟨clean, rfl⟩, _, canonicalUuid_ok canonical _, _, checked, _, read, ?_⟩
      rw [classified]
      exact Except.bind_eq_ok.mpr ⟨digest, hashed, rfl⟩

end Facts

end Lcm.Migration
