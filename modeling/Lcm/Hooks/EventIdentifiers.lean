import Lcm.Hooks.EventEnvelopes

namespace Lcm.Hooks
open Text Store PassiveEvents

variable {Number : Type}

/-- An identifier in the form in which the outbox draws them. -/
def CanonicalEventId (eventId : JsString) : Prop := localEventUuid eventId = .ok eventId

namespace EventsTable

variable {platform : OutboxPlatform Number} {table after : EventsTable Number}

def CanonicalIds (table : EventsTable Number) : Prop :=
  ∀ eventId row, table.get? eventId = some row → CanonicalEventId row.envelope.eventUuid

/-- An update of rows that keeps their identifiers. -/
theorem CanonicalIds.updated (canonical : table.CanonicalIds)
    {change : EventId → EventRow Number → EventRow Number}
    (rows : ∀ eventId, after.get? eventId = (table.get? eventId).map (change eventId))
    (keeps : ∀ eventId row, (change eventId row).envelope.eventUuid = row.envelope.eventUuid) :
    after.CanonicalIds := by
  intro eventId row found
  rw [rows] at found
  obtain ⟨old, stored, rfl⟩ := Option.map_eq_some_iff.mp found
  rw [keeps]
  exact canonical eventId old stored

theorem CanonicalIds.deliver (canonical : table.CanonicalIds) (condition : EventId → EventRow Number → Bool)
    (change : DeliveryColumns → DeliveryColumns) : (table.deliver condition change).CanonicalIds := by
  refine canonical.updated (get?_deliver table condition change) fun eventId row => ?_
  split
  · rfl
  · rfl

theorem CanonicalIds.transition (canonical : table.CanonicalIds) (eventUuid : JsString)
    (guard' : DeliveryColumns → Bool) (change : DeliveryColumns → DeliveryColumns) :
    (table.transition eventUuid guard' change).2.CanonicalIds := canonical.deliver _ _

theorem CanonicalIds.bindMachine (canonical : table.CanonicalIds) (machineId : JsString) (clock : LocalClock) :
    (table.bindMachine machineId clock).CanonicalIds := by
  refine canonical.updated (get?_bindMachine machineId clock table) fun _ row => ?_
  rw [withMachine]
  split
  · rfl
  · rfl

theorem CanonicalIds.insertEvent (canonical : table.CanonicalIds) {eventUuid : JsString}
    {registeredMachineId : Option JsString} {machineSequence : Nat} {createdAt sessionId sourceHook : JsString}
    {clock : LocalClock} {event : LocalHookEvent Number} {eventId : EventId} (drawn : CanonicalEventId eventUuid)
    (inserted : table.insertEvent platform eventUuid registeredMachineId machineSequence createdAt clock sessionId
      event sourceHook = .ok (eventId, after)) : after.CanonicalIds := by
  rw [EventsTable.insertEvent] at inserted
  split at inserted
  · dsimp only at inserted
    split at inserted
    · next last stored =>
        cases inserted
        intro other row found
        rw [get?_insert? stored] at found
        split at found
        · cases found
          exact drawn
        · exact canonical other row found
    · cases inserted
  · cases inserted

theorem CanonicalIds.claimDeliveries (canonical : table.CanonicalIds) {input : LocalHookDeliveryClaimInput}
    {clock : LocalClock} {claimed : List (EventId × EventRow Number)}
    (claims : table.claimDeliveries input clock = .ok (claimed, after)) : after.CanonicalIds := by
  simp only [EventsTable.claimDeliveries, Except.bind_eq_ok] at claims
  obtain ⟨_, _, _, _, _, _, _, _, rest⟩ := claims
  split at rest
  · cases rest
  · obtain ⟨_, rfl⟩ := Prod.mk.inj (Except.pure_eq_ok.mp rest)
    exact (canonical.bindMachine _ _).deliver _ _

end EventsTable

open EventsTable

/-- The outbox draws the identifiers of its events. -/
def DrawsIds : OutboxRun Number → OutboxAction Number × LocalClock → Prop
  | _, (.insertEvent eventUuid _ _ _ _ _ _, _) => CanonicalEventId eventUuid
  | _, _ => True

theorem OutboxRun.step_canonicalIds {platform : OutboxPlatform Number} {run : OutboxRun Number}
    {action : OutboxAction Number × LocalClock} (draws : DrawsIds run action) (canonical : run.table.CanonicalIds) :
    (run.step platform action).table.CanonicalIds := by
  have withTable : ∀ {Reply : Type} {result : Except EventsDbError (Reply × EventsTable Number)},
      (∀ reply after, result = .ok (reply, after) → after.CanonicalIds) →
        (run.withTable result).table.CanonicalIds := by
    intro Reply result keeps
    unfold OutboxRun.withTable
    split
    · next reply after => exact keeps reply after rfl
    · exact canonical
  obtain ⟨action, clock⟩ := action
  unfold OutboxRun.step
  cases action with
  | insertEvent => exact withTable fun _ _ inserted => canonical.insertEvent draws inserted
  | markProcessed =>
      refine canonical.updated (get?_markProcessed _ _ run.table) fun _ row => ?_
      split
      · rfl
      · rfl
  | setPrevEventId =>
      refine canonical.updated (get?_setPrevEventId _ _ _ run.table) fun _ row => ?_
      rw [withPrevEventId]
      split
      · rfl
      · rfl
  | claimDeliveries input =>
      dsimp only
      split
      · next claimed after claims => exact canonical.claimDeliveries claims
      · exact canonical
  | markReplicated =>
      refine withTable fun _ _ marked => ?_
      simp only [markReplicated, Except.bind_eq_ok, Except.pure_eq_ok] at marked
      obtain ⟨_, _, _, _, _, _, same⟩ := marked
      obtain rfl := congrArg Prod.snd same
      exact canonical.transition _ _ _
  | markDeliveryRetry =>
      refine withTable fun _ _ marked => ?_
      simp only [markDeliveryRetry, Except.bind_eq_ok] at marked
      obtain ⟨_, _, _, _, rest⟩ := marked
      split at rest
      · obtain rfl := congrArg Prod.snd (Except.pure_eq_ok.mp rest)
        exact canonical.transition _ _ _
      · split at rest
        · cases rest
        · cases rest
          exact canonical
  | markDeliveryQuarantined =>
      refine withTable fun _ _ marked => ?_
      simp only [markDeliveryQuarantined, Except.bind_eq_ok, Except.pure_eq_ok] at marked
      obtain ⟨_, _, _, _, same⟩ := marked
      obtain rfl := congrArg Prod.snd same
      exact canonical.transition _ _ _
  | markAcknowledged =>
      refine withTable fun _ _ marked => ?_
      simp only [markAcknowledged, Except.bind_eq_ok, Except.pure_eq_ok] at marked
      obtain ⟨_, _, _, _, same⟩ := marked
      obtain rfl := congrArg Prod.snd same
      exact canonical.transition _ _ _
  | markQuarantined =>
      refine withTable fun _ _ marked => ?_
      simp only [markQuarantined, Except.bind_eq_ok, Except.pure_eq_ok] at marked
      obtain ⟨_, _, _, _, same⟩ := marked
      obtain rfl := congrArg Prod.snd same
      exact canonical.transition _ _ _
  | requeueReplicated =>
      refine withTable fun _ _ marked => ?_
      simp only [requeueReplicated, Except.bind_eq_ok, Except.pure_eq_ok] at marked
      obtain ⟨_, _, _, _, same⟩ := marked
      obtain rfl := congrArg Prod.snd same
      exact canonical.transition _ _ _
  | replayQuarantined =>
      refine withTable fun _ _ marked => ?_
      simp only [replayQuarantined, Except.bind_eq_ok, Except.pure_eq_ok] at marked
      obtain ⟨_, _, same⟩ := marked
      obtain rfl := congrArg Prod.snd same
      exact canonical.transition _ _ _
  | markRemotePruned =>
      refine withTable fun _ _ marked => ?_
      simp only [markRemotePruned, Except.bind_eq_ok, Except.pure_eq_ok] at marked
      obtain ⟨_, _, same⟩ := marked
      obtain rfl := congrArg Prod.snd same
      exact canonical.transition _ _ _
  | pruneProcessed => exact fun eventId row found => canonical eventId row (get?_retain.mp found).1

theorem OutboxRun.canonicalIds {platform : OutboxPlatform Number} {run : OutboxRun Number}
    (reached : ((outboxSystem platform).restrict DrawsIds).Reachable run) : run.table.CanonicalIds := by
  induction reached with
  | start initial =>
      cases initial
      exact fun _ _ => nofun
  | next _ step ih =>
      obtain ⟨draws, rfl⟩ := step
      exact step_canonicalIds draws ih

end Lcm.Hooks
