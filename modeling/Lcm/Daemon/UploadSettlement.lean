import Lcm.Daemon.PassiveEventReplication

namespace Lcm.Hooks.EventsTable
open Text PassiveEvents

variable {Number : Type} {platform : OutboxPlatform Number} {table : EventsTable Number}

/-- An update that meets its condition on the row of an event changes that row and no other. -/
theorem transition_row {eventId : EventId} {row : EventRow Number} (found : table.get? eventId = some row)
    {guard' : DeliveryColumns → Bool} (met : guard' row.delivery = true)
    (change : DeliveryColumns → DeliveryColumns) :
    (table.transition row.envelope.eventUuid guard' change).1 = true ∧
      (table.transition row.envelope.eventUuid guard' change).2.get? eventId =
        some { row with delivery := change row.delivery } ∧
      ∀ other, other ≠ eventId →
        (table.transition row.envelope.eventUuid guard' change).2.get? other = table.get? other := by
  have only : ∀ other stored, table.get? other = some stored →
      stored.envelope.eventUuid = row.envelope.eventUuid → other = eventId :=
    fun other stored inside same => table.unique other eventId stored row inside found (.inl same)
  refine ⟨?_, ?_, ?_⟩
  · let condition := fun (_ : EventId) (stored : EventRow Number) =>
      decide (stored.envelope.eventUuid = row.envelope.eventUuid) && guard' stored.delivery
    have inside : (eventId, row) ∈ table.rows.entries.filter fun entry => condition entry.1 entry.2 :=
      List.mem_filter.mpr ⟨KeyedTable.get?_eq_some.mp found, by simp [condition, met]⟩
    have all : ∀ entry ∈ table.rows.entries.filter fun entry => condition entry.1 entry.2, entry = (eventId, row) := by
      intro entry member
      obtain ⟨stored, holds⟩ := List.mem_filter.mp member
      have got : table.get? entry.1 = some entry.2 := KeyedTable.get?_eq_some.mpr stored
      have same := only entry.1 entry.2 got (of_decide_eq_true (Bool.and_eq_true_iff.mp holds).1)
      rw [same, found] at got
      exact Prod.ext same (Option.some.inj got).symm
    have distinct := table.rows.entries_nodup.filter fun entry => condition entry.1 entry.2
    have single : (table.rows.entries.filter fun entry => condition entry.1 entry.2) = [(eventId, row)] := by
      match kept : table.rows.entries.filter fun entry => condition entry.1 entry.2 with
      | [] => simp [kept] at inside
      | [entry] => exact kept.trans (congrArg (fun only => [only]) (all entry (by simp [kept])))
      | first :: second :: rest =>
          rw [kept] at distinct
          have same := (all first (by simp [kept])).trans (all second (by simp [kept])).symm
          simp [same] at distinct
    have counted : table.changes condition = 1 := by
      rw [changes, List.countP_eq_length_filter]
      exact congrArg List.length single
    exact beq_iff_eq.mpr counted
  · rw [transition]
    dsimp only
    rw [get?_deliver, found, Option.map_some]
    simp [met]
  · intro other different
    rw [transition]
    dsimp only
    rw [get?_deliver]
    cases stored : table.get? other with
    | none => rfl
    | some old =>
        rw [Option.map_some, if_neg]
        simp only [Bool.and_eq_true, decide_eq_true_eq, not_and]
        exact fun same => absurd (only other old stored same) different

end Lcm.Hooks.EventsTable

namespace Lcm.Daemon
open Text Hooks PassiveEvents

variable {Number : Type}

/-- The delivery state that a mark leaves. -/
def MarkKind.Reached (platform : OutboxPlatform Number) : MarkKind → DeliveryState → Prop
  | .deliveryRetry _, state => state = .retry
  | .deliveryQuarantined reason, state => state = .quarantined (platform.sanitizeHookErrorDiagnostic reason)
  | .replicated _, state => state = .replicated
  | .acknowledged _, state => ∃ at', state = .acknowledged at'
  | .quarantined _ reason, state => state = .quarantined (platform.sanitizeHookErrorDiagnostic reason)

/-- A row that is claimed and has not been settled. -/
def Ready (owner : JsString) (table : EventsTable Number) (event : LocalEvent Number) : Prop :=
  ∃ row, table.get? event.1 = some row ∧ row.envelope = event.2.envelope ∧
    EventsTable.claimedBy owner row.delivery = true ∧ row.delivery.remoteInboxId = none

section Marks

variable {config : UploadConfig Number} {owner : JsString} {table after : EventsTable Number}

/-- A mark of a claimed row changes it and leaves every other row alone. -/
theorem LocalMark.apply_ready {event : LocalEvent Number} (canonical : CanonicalEventId event.2.envelope.eventUuid)
    (owns : localNonblank "claim owner" config.owner = .ok owner) (ready : Ready owner table event) {kind : MarkKind}
    {call : Nat} {changed : Bool} (applied : (mark event kind).apply config call table = .ok (changed, after)) :
    changed = true ∧ (∃ row, after.get? event.1 = some row ∧ kind.Reached config.platform row.delivery.state) ∧
      ∀ other, other ≠ event.1 → after.get? other = table.get? other := by
  obtain ⟨row, found, envelope, claimed, unknown⟩ := ready
  have uuid : localEventUuid event.2.envelope.eventUuid = .ok row.envelope.eventUuid := envelope ▸ canonical
  have updates : ∀ {guard' change}, table.transition row.envelope.eventUuid guard' change = (changed, after) →
      guard' row.delivery = true → kind.Reached config.platform (change row.delivery).state →
      changed = true ∧ (∃ row, after.get? event.1 = some row ∧ kind.Reached config.platform row.delivery.state) ∧
        ∀ other, other ≠ event.1 → after.get? other = table.get? other := by
    intro guard' change same met reached
    obtain ⟨one, own, others⟩ := EventsTable.transition_row found met change
    rw [same] at one own others
    exact ⟨one, ⟨_, own, reached⟩, others⟩
  have known : ∀ inboxId, EventsTable.knownInbox inboxId row.delivery = true := by
    intro inboxId
    rw [EventsTable.knownInbox, unknown]
    rfl
  have state : ∃ at', row.delivery.state = .claimed at' owner := by
    unfold EventsTable.claimedBy at claimed
    split at claimed
    · next at' holder state => exact ⟨at', by rw [state, beq_iff_eq.mp claimed]⟩
    · cases claimed
  obtain ⟨at', state⟩ := state
  cases kind with
  | deliveryRetry error =>
      obtain ⟨_, same, _, own, rest⟩ := by
        simpa only [LocalMark.apply, mark, EventsTable.markDeliveryRetry, Except.bind_eq_ok] using applied
      cases uuid.symm.trans same
      cases owns.symm.trans own
      split at rest
      · exact updates (Except.pure_eq_ok.mp rest) claimed rfl
      · rw [if_pos (EventsTable.transition_row found claimed id).1] at rest
        cases rest
  | deliveryQuarantined reason =>
      obtain ⟨_, same, _, own, rest⟩ := by
        simpa only [LocalMark.apply, mark, EventsTable.markDeliveryQuarantined, Except.bind_eq_ok] using applied
      cases uuid.symm.trans same
      cases owns.symm.trans own
      exact updates (Except.pure_eq_ok.mp rest) (by rw [claimed, unknown]; rfl) rfl
  | replicated inboxId =>
      obtain ⟨_, _, _, same, _, own, rest⟩ := by
        simpa only [LocalMark.apply, mark, EventsTable.markReplicated, Except.bind_eq_ok] using applied
      cases uuid.symm.trans same
      cases owns.symm.trans own
      exact updates (Except.pure_eq_ok.mp rest) claimed rfl
  | acknowledged inboxId =>
      obtain ⟨inbox, _, _, same, rest⟩ := by
        simpa only [LocalMark.apply, mark, EventsTable.markAcknowledged, Except.bind_eq_ok] using applied
      cases uuid.symm.trans same
      exact updates (Except.pure_eq_ok.mp rest) (by rw [known, state]; rfl) ⟨_, rfl⟩
  | quarantined inboxId reason =>
      obtain ⟨inbox, _, _, same, rest⟩ := by
        simpa only [LocalMark.apply, mark, EventsTable.markQuarantined, Except.bind_eq_ok] using applied
      cases uuid.symm.trans same
      exact updates (Except.pure_eq_ok.mp rest) (by rw [known, state]; rfl) rfl

end Marks

/-- The calls that an upload made for an event. -/
def UploadState.callsOf (state : UploadState Number) (event : LocalEvent Number) : List (LocalMark × Bool) :=
  state.calls.filter fun call => call.1.eventId = event.2.envelope.eventUuid

/-- The rows of a claim have identifiers of their own. -/
structure ClaimedBatch (claimed : List (LocalEvent Number)) : Prop where
  ids : (claimed.map Prod.fst).Nodup
  uuids : ∀ first ∈ claimed, ∀ second ∈ claimed,
    first.2.envelope.eventUuid = second.2.envelope.eventUuid → first.1 = second.1
  canonical : ∀ event ∈ claimed, CanonicalEventId event.2.envelope.eventUuid

theorem ClaimedBatch.same {claimed : List (LocalEvent Number)} (batch : ClaimedBatch claimed)
    {first second : LocalEvent Number} (one : first ∈ claimed) (two : second ∈ claimed)
    (ids : first.1 = second.1) : first = second :=
  List.inj_on_of_nodup_map batch.ids one two ids

/-- A settled row has had one call. The other rows have had none and are still claimed. -/
structure Progress (config : UploadConfig Number) (owner : JsString) (claimed : List (LocalEvent Number))
    (settled : LocalEvent Number → Option MarkKind) (state : UploadState Number) : Prop where
  done : ∀ event ∈ claimed, ∀ kind, settled event = some kind → state.callsOf event = [(mark event kind, true)] ∧
    ∃ row, state.table.get? event.1 = some row ∧ kind.Reached config.platform row.delivery.state
  waiting : ∀ event ∈ claimed, settled event = none →
    state.callsOf event = [] ∧ Ready owner state.table event

namespace Progress

variable {config : UploadConfig Number} {owner : JsString} {claimed : List (LocalEvent Number)}
  {settled : LocalEvent Number → Option MarkKind} {state before after : UploadState Number}

theorem of_settled (progress : Progress config owner claimed settled state)
    {other : LocalEvent Number → Option MarkKind} (same : ∀ event ∈ claimed, settled event = other event) :
    Progress config owner claimed other state where
  done event member kind marked := progress.done event member kind ((same event member).trans marked)
  waiting event member unmarked := progress.waiting event member ((same event member).trans unmarked)

theorem of_outbox (progress : Progress config owner claimed settled state) (table : before.table = state.table)
    (calls : before.calls = state.calls) : Progress config owner claimed settled before where
  done event member kind marked := by
    rw [UploadState.callsOf, table, calls]
    exact progress.done event member kind marked
  waiting event member unmarked := by
    rw [UploadState.callsOf, table, calls]
    exact progress.waiting event member unmarked

/-- A call settles its row and no other. -/
theorem perform (progress : Progress config owner claimed settled state) (batch : ClaimedBatch claimed)
    (owns : localNonblank "claim owner" config.owner = .ok owner) {event : LocalEvent Number}
    (member : event ∈ claimed) (unmarked : settled event = none) {kind : MarkKind}
    (performed : perform config state (mark event kind) = .ok after) :
    Progress config owner claimed (fun other => if other.1 = event.1 then some kind else settled other) after := by
  simp only [Daemon.perform, Except.bind_eq_ok] at performed
  obtain ⟨⟨changed, table⟩, applied, same⟩ := performed
  obtain rfl := Except.pure_eq_ok.mp same
  obtain ⟨silent, ready⟩ := progress.waiting event member unmarked
  obtain ⟨rfl, own, others⟩ := LocalMark.apply_ready (batch.canonical event member) owns ready applied
  have elsewhere : ∀ other ∈ claimed, other.1 ≠ event.1 →
      (state.calls ++ [(mark event kind, true)]).filter (fun call => call.1.eventId = other.2.envelope.eventUuid) =
        state.callsOf other := by
    intro other inside different
    have uuids : ¬ event.2.envelope.eventUuid = other.2.envelope.eventUuid :=
      fun same => different (batch.uuids event member other inside same).symm
    simp [UploadState.callsOf, mark, uuids]
  constructor
  · intro other inside settledKind marked
    by_cases same : other.1 = event.1
    · obtain rfl := batch.same inside member same
      simp only [if_true, Option.some.injEq] at marked
      subst marked
      refine ⟨?_, own⟩
      rw [UploadState.callsOf] at silent
      simp [UploadState.callsOf, silent, mark]
    · rw [if_neg same] at marked
      obtain ⟨calls, reached⟩ := progress.done other inside settledKind marked
      refine ⟨(elsewhere other inside same).trans calls, ?_⟩
      rw [others other.1 same]
      exact reached
  · intro other inside unsettled
    by_cases same : other.1 = event.1
    · simp [same] at unsettled
    · rw [if_neg same] at unsettled
      obtain ⟨calls, ready⟩ := progress.waiting other inside unsettled
      refine ⟨(elsewhere other inside same).trans calls, ?_⟩
      rw [Ready, others other.1 same]
      exact ready

/-- A loop over waiting rows settles them. The loop may touch the summary. -/
theorem phase (progress : Progress config owner claimed settled state) (batch : ClaimedBatch claimed)
    (owns : localNonblank "claim owner" config.owner = .ok owner) {chosen : LocalEvent Number → Bool}
    (waiting : ∀ event ∈ claimed, chosen event = true → settled event = none) {kind : LocalEvent Number → MarkKind}
    {step : UploadState Number → LocalEvent Number → Except EventsDbError (UploadState Number)}
    (steps : ∀ state event after, step state event = .ok after → ∃ before : UploadState Number,
      before.table = state.table ∧ before.calls = state.calls ∧
        Daemon.perform config before (mark event (kind event)) = .ok after)
    (ran : (claimed.filter chosen).foldlM step state = .ok after) :
    Progress config owner claimed (fun event => if chosen event then some (kind event) else settled event) after := by
  have ids : ((claimed.filter chosen).map Prod.fst).Nodup := batch.ids.sublist (List.filter_sublist.map _)
  have each := @Except.foldlM_ok _ _ _ step (claimed.filter chosen) state (fun done state =>
    Progress config owner claimed
      (fun event => if event.1 ∈ done.map Prod.fst then some (kind event) else settled event) state)
    (progress.of_settled fun _ _ => by simp) ?_ _ ran
  · refine each.of_settled fun event member => ?_
    have listed : event.1 ∈ (claimed.filter chosen).map Prod.fst ↔ chosen event = true := by
      constructor
      · intro inside
        obtain ⟨other, kept, same⟩ := List.mem_map.mp inside
        obtain ⟨stored, holds⟩ := List.mem_filter.mp kept
        exact batch.same stored member same ▸ holds
      · exact fun holds => List.mem_map_of_mem (List.mem_filter.mpr ⟨member, holds⟩)
    simp only [listed]
  · intro done event rest before after whole progress made
    have inside : event ∈ claimed.filter chosen := whole ▸ by simp
    obtain ⟨member, holds⟩ := List.mem_filter.mp inside
    have fresh : event.1 ∉ done.map Prod.fst := by
      rw [whole, List.map_append, List.map_cons] at ids
      exact fun earlier => (List.nodup_append.mp ids).2.2 _ earlier _ List.mem_cons_self rfl
    obtain ⟨summed, table, calls, performed⟩ := steps before event after made
    have settledBefore := (progress.of_outbox table calls).perform batch owns member
      (by rw [if_neg fresh]; exact waiting event member holds) performed
    refine settledBefore.of_settled fun other stored => ?_
    by_cases same : other.1 = event.1
    · obtain rfl := batch.same stored member same
      simp
    · simp only [same, if_false, List.map_append, List.map_cons, List.map_nil, List.mem_append, List.mem_singleton,
        or_false]

theorem performAll (progress : Progress config owner claimed settled state) (batch : ClaimedBatch claimed)
    (owns : localNonblank "claim owner" config.owner = .ok owner) {chosen : LocalEvent Number → Bool}
    (waiting : ∀ event ∈ claimed, chosen event = true → settled event = none) {kind : LocalEvent Number → MarkKind}
    (ran : performAll config (claimed.filter chosen) kind state = .ok after) :
    Progress config owner claimed (fun event => if chosen event then some (kind event) else settled event) after :=
  progress.phase batch owns waiting (fun state _ _ made => ⟨state, rfl, rfl, made⟩) ran

theorem accountAll (progress : Progress config owner claimed settled state) (batch : ClaimedBatch claimed)
    (owns : localNonblank "claim owner" config.owner = .ok owner) {chosen : LocalEvent Number → Bool}
    (waiting : ∀ event ∈ claimed, chosen event = true → settled event = none)
    {records : List (PassiveEventRecord Number)}
    (ran : accountAll config (claimed.filter chosen) records state = .ok after) :
    Progress config owner claimed (fun event => if chosen event then
      some (accounted config (recordOf records event) event) else settled event) after := by
  refine progress.phase batch owns waiting (fun state event after made => ⟨_, ?_, ?_, made⟩) ran
  · dsimp only
    split
    · rfl
    · rfl
  · dsimp only
    split
    · rfl
    · rfl

end Progress

end Lcm.Daemon
