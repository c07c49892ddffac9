import Lcm.Hooks.EventEnvelopes
import Lcm.PassiveEvents.ClaimRuns
import Lcm.PassiveEvents.Replays
import Mathlib.Data.List.Lex

namespace Lcm.Daemon
open Text Hooks PassiveEvents PassiveEventRepository PostgreSql

variable {Number : Type}

def eventPayload (numbers : JsNumbers Number) (event : EventEnvelope Number) : JsonObject Number :=
  [(js "sessionId", .string event.sessionId),
    (js "sessionSequence", .number (numbers.ofNat event.seq)),
    (js "category", .string event.category),
    (js "data", .string event.data),
    (js "priority", .number event.priority),
    (js "sourceHook", .string event.sourceHook),
    (js "previousEventId", event.prevEventId.elim .null fun previous =>
      .number (numbers.ofNat previous)),
    (js "createdAt", .string event.createdAt)]

/-- A claimed row always has a machine. -/
def remoteInput (numbers : JsNumbers Number) (event : EventEnvelope Number) :
    PassiveEventInput Number where
  machineId := event.machineId.getD []
  eventId := event.eventUuid
  eventVersion := event.eventVersion
  machineSequence := event.machineSequence
  eventType := event.type
  payload := eventPayload numbers event

/-- The numbers of a storable payload are finite. -/
theorem finite_of_storable {platform : PayloadPlatform Number} {members : JsonObject Number}
    (storable : arePostgreSqlMembers platform members = true) {key : JsString} {value : Number}
    (inside : (key, .number value) ∈ members) : platform.numbers.isFinite value = true := by
  induction members with
  | nil => cases inside
  | cons member members ih =>
      obtain ⟨name, first⟩ := member
      rw [arePostgreSqlMembers, Bool.and_eq_true, Bool.and_eq_true] at storable
      rcases List.mem_cons.mp inside with same | later
      · obtain ⟨rfl, rfl⟩ := Prod.mk.inj same
        have number := storable.1.2
        rw [isPostgreSqlJson] at number
        exact number
      · exact ih storable.2 later

theorem eventPayload_letters (numbers : JsNumbers Number) (event : EventEnvelope Number) :
    ∀ member ∈ eventPayload numbers event, member.1.all isAsciiLetter = true := by
  have keys : (eventPayload numbers event).map Prod.fst = [js "sessionId", js "sessionSequence",
      js "category", js "data", js "priority", js "sourceHook", js "previousEventId",
      js "createdAt"] := rfl
  have letters : ∀ key ∈ (eventPayload numbers event).map Prod.fst,
      key.all isAsciiLetter = true := by
    rw [keys]
    decide
  exact fun member inside => letters member.1 (List.mem_map_of_mem inside)

/-- A payload that the database can store prints back as it is. -/
theorem eventPayload_printable {platform : PayloadPlatform Number} {event : EventEnvelope Number}
    (plain : platform.numbers.isNegativeZero event.priority = false)
    (storable : arePostgreSqlMembers platform (eventPayload platform.numbers event) = true) :
    Json.Printable platform.numbers.format (.object (eventPayload platform.numbers event)) := by
  have number : ∀ key value, (key, .number value) ∈ eventPayload platform.numbers event →
      platform.numbers.isNegativeZero value = false →
        Json.Printable platform.numbers.format (.number value) := by
    intro key value inside plain
    apply Json.Printable.number
    rw [platform.numbers.printable, finite_of_storable storable inside, plain]
    rfl
  apply Json.Printable.object
  · show [js "sessionId", js "sessionSequence", js "category", js "data", js "priority",
      js "sourceHook", js "previousEventId", js "createdAt"].Nodup
    decide
  · intro member inside
    have listed := inside
    simp only [eventPayload, List.mem_cons, List.not_mem_nil, or_false] at listed
    rcases listed with rfl | rfl | rfl | rfl | rfl | rfl | rfl | rfl
    · exact .string _
    · exact number _ _ inside (platform.numbers.plain_ofNat _)
    · exact .string _
    · exact .string _
    · exact number _ _ inside plain
    · exact .string _
    · cases previous : event.prevEventId with
      | none => exact .null
      | some value =>
          rw [previous] at inside
          exact number _ _ inside (platform.numbers.plain_ofNat _)
    · exact .string _

/-- The stored rows of the events of a batch were uploaded from earlier claims of its rows. -/
def UploadedBefore (platform : PayloadPlatform Number) (run : OutboxRun Number)
    (inbox : PassiveEventInbox Number) (batch : List (EventId × EventRow Number)) : Prop :=
  ∀ entry ∈ batch, ∀ inboxId row, inbox.get? inboxId = some row →
    row.machineId = lowerAscii (remoteInput platform.numbers entry.2.envelope).machineId →
      row.eventId = lowerAscii entry.2.envelope.eventUuid →
        ∃ earlier ∈ run.returned, earlier.1 = entry.1 ∧
          row.Carries platform (remoteInput platform.numbers earlier.2.envelope)

/-- A returned row keeps its envelope for good, an active row knows of no remote copy, a claim
returns the first active rows, and a repeated upload is an exact replay. -/
theorem event_envelopes_last {platform : OutboxPlatform Number} {run : OutboxRun Number}
    (reached : (outboxSystem platform).Reachable run) :
    (∀ entry ∈ run.returned, ∀ row, run.table.get? entry.1 = some row →
      row.envelope = entry.2.envelope) ∧
    (∀ first ∈ run.returned, ∀ second ∈ run.returned, first.1 = second.1 →
      first.2.envelope = second.2.envelope) ∧
    (∀ eventId row, run.table.get? eventId = some row → row.delivery.state.isActive = true →
      row.delivery.remoteInboxId = none) ∧
    (∀ input clock claimed after, run.table.claimDeliveries input clock = .ok (claimed, after) →
      claimed.map Prod.fst <+: run.table.activeRows.map Prod.fst) ∧
    ∀ (repository : PassiveEventRepository Number) batch gap now inbox,
      repository.platform.Lawful → repository.platform.numbers = platform.numbers →
      (∀ entry ∈ batch, entry ∈ run.returned) →
      UploadedBefore repository.platform run inbox batch →
        let inputs := batch.map fun entry => remoteInput platform.numbers entry.2.envelope
        (∀ eventId, repository.insertEvents inputs gap now inbox ≠
          .error (.data "idempotency_collision" eventId)) ∧
        ∀ records after, repository.insertEvents inputs gap now inbox = .ok (records, after) →
          ∀ input ∈ inputs, ∀ inboxId row, inbox.get? inboxId = some row →
            row.machineId = lowerAscii input.machineId → row.eventId = lowerAscii input.eventId →
              after.get? inboxId = some row ∧ ∃ record ∈ records, record.inboxId = inboxId ∧
                record.payload = row.payload := by
  have lasting := OutboxRun.Lasting.reachable reached
  refine ⟨fun entry inside row found => (lasting.current entry inside row found).2, lasting.agree,
    fun eventId row found => (lasting.sound eventId row found).unknown, ?_, ?_⟩
  · intro input clock claimed after claims
    obtain ⟨_, _, _, claims⟩ := EventsTable.claimDeliveries_claims claims
    exact claims.first
  · intro repository batch gap now inbox lawful numbers returned uploaded
    have listed : ∀ input ∈ batch.map (fun entry => remoteInput platform.numbers entry.2.envelope),
        ∃ entry ∈ batch, input = remoteInput repository.platform.numbers entry.2.envelope := by
      intro input inside
      obtain ⟨entry, member, rfl⟩ := List.mem_map.mp inside
      exact ⟨entry, member, by rw [numbers]⟩
    constructor
    · intro eventId failed
      refine insertEvents_avoids lawful ?_ ?_ ?_ _ failed ⟨eventId, rfl⟩
      · intro input inside
        obtain ⟨entry, member, rfl⟩ := listed input inside
        apply eventPayload_printable
        rw [numbers]
        exact (lasting.bound entry (returned entry member)).2
      · intro input inside
        obtain ⟨entry, member, rfl⟩ := listed input inside
        exact eventPayload_letters _ _
      · intro input inside inboxId row found machine event
        obtain ⟨entry, member, rfl⟩ := listed input inside
        obtain ⟨earlier, earlierIn, same, carries⟩ :=
          uploaded entry member inboxId row found machine event
        rw [← lasting.agree earlier earlierIn entry (returned entry member) same]
        exact carries
    · intro records after inserted input inside inboxId row found machine event
      exact insertEvents_replays inserted inside found machine event

/-- A platform that stores members by the length and the units of their names. -/
def storingPlatform : PayloadPlatform Nat where
  numbers := naturalNumbers
  localeCompare := samplePlatform.localeCompare
  jsonb members := sortedBy (fun member => toLex (member.1.length, member.1.map UInt16.toNat)) members

theorem storingPlatform_lawful : storingPlatform.Lawful := by
  have order : ∀ first second, storingPlatform.localeCompare first second ≠ .gt ↔
      first.map UInt16.toNat ≤ second.map UInt16.toNat := by
    intro first second
    rw [storingPlatform, samplePlatform]
    dsimp only
    split
    · next same => simp [same]
    · next other =>
        split
        · next less => simp [less.le]
        · next greater =>
            have distinct : first.map UInt16.toNat ≠ second.map UInt16.toNat := fun same =>
              other (List.map_injective_iff.mpr (fun _ _ => UInt16.toNat_inj.mp) same)
            simp only [ne_eq, not_true_eq_false, false_iff, not_le]
            exact lt_of_le_of_ne (not_lt.mp greater) distinct.symm
  constructor
  · exact fun members _ _ => SortedBy.perm members
  · intro first second
    rw [order, order]
    exact le_total _ _
  · intro first second third
    rw [order, order, order]
    exact le_trans
  · intro first second _ _ before after
    apply List.map_injective_iff.mpr fun _ _ => UInt16.toNat_inj.mp
    exact le_antisymm ((order _ _).mp before) ((order _ _).mp after)

def sampleOutboxPlatform : OutboxPlatform Nat := ⟨naturalNumbers, id⟩

/-- An event is claimed, uploaded, put back to the queue and claimed again. -/
def sampleDeliveries : List (OutboxAction Nat × LocalClock) :=
  let machine := js "0190a000-0000-7000-8000-000000000002"
  let event := js "0190a000-0000-4000-8000-00000000000a"
  let claim : LocalHookDeliveryClaimInput := ⟨machine, js "daemon", 10, 60000⟩
  [(.insertEvent event none 7 (js "2026-01-02 03:04:05") (js "session")
      ⟨js "decision", js "tools", js "use the lock", 3⟩ (js "PostToolUse"), ⟨0, 0⟩),
    (.claimDeliveries claim, ⟨1, 1000⟩), (.markReplicated event (js "daemon") 1, ⟨2, 2000⟩),
    (.requeueReplicated event 1, ⟨3, 3000⟩), (.claimDeliveries claim, ⟨4, 4000⟩)]

def sampleOutbox : OutboxRun Nat :=
  sampleDeliveries.foldl (OutboxRun.step sampleOutboxPlatform) ⟨.empty, []⟩

def sampleUploads : PassiveEventRepository Nat := ⟨sampleCoordinator .pool, storingPlatform⟩

/-- The inbox after the upload of the first claim. -/
def sampleInbox : PassiveEventInbox Nat :=
  sampleUploads.insertRows (fun _ => 0) (fun _ => 0)
    ((sampleOutbox.returned.take 1).map fun entry => remoteInput naturalNumbers entry.2.envelope) .empty

/-- The upload of the second claim finds the row of the first one. -/
theorem event_envelopes_sample :
    let inputs := (sampleOutbox.returned.drop 1).map fun entry =>
      remoteInput naturalNumbers entry.2.envelope
    (sampleUploads.insertEvents inputs (fun _ => 0) (fun _ => 9) sampleInbox).map
        (fun result => result.1.map PassiveEventRecord.inboxId) = .ok [1] ∧
      ∀ eventId, sampleUploads.insertEvents inputs (fun _ => 0) (fun _ => 9) sampleInbox ≠
        .error (.data "idempotency_collision" eventId) := by
  have reached : (outboxSystem sampleOutboxPlatform).Reachable sampleOutbox :=
    .fold (fun _ _ => rfl) sampleDeliveries (.start rfl)
  have ids : ∀ entry ∈ sampleOutbox.returned, entry.1 = 1 := by
    have both : sampleOutbox.returned.map Prod.fst = [1, 1] := by decide +kernel
    intro entry inside
    have listed := List.mem_map_of_mem (f := Prod.fst) inside
    rw [both] at listed
    simpa using listed
  constructor
  · decide +kernel
  · apply ((event_envelopes_last reached).2.2.2.2 sampleUploads (sampleOutbox.returned.drop 1)
      (fun _ => 0) (fun _ => 9) sampleInbox storingPlatform_lawful rfl
        (fun _ inside => List.mem_of_mem_drop inside) _).1
    intro entry inside inboxId row found _ _
    rcases insertRows_row found with stored | ⟨input, member, time, rfl⟩
    · cases stored
    · obtain ⟨earlier, first, rfl⟩ := List.mem_map.mp member
      have returned := List.mem_of_mem_take first
      refine ⟨earlier, returned, ?_, insertedRow_carries time (Int.natCast_nonneg _)
        (Int.natCast_nonneg _)⟩
      rw [ids earlier returned, ids entry (List.mem_of_mem_drop inside)]

end Lcm.Daemon
