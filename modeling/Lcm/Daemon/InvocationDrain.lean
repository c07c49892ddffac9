import Lcm.Daemon.InvocationSystem

namespace Lcm.Daemon
open Text

/-- The permits of a record that are not released yet. -/
def held (permits : List Permit) (record : RecordRef) (kind : PermitKind) : Nat :=
  permits.countP fun permit => permit.record = record && permit.kind = kind && !permit.released

def InvocationRecord.count (fields : InvocationRecord) : PermitKind → Int
  | .work => fields.workCount
  | .commit => fields.commitCount

def Event.record : Event → RecordRef
  | .hit record _ => record
  | .drained record _ => record

theorem held_append (permits : List Permit) (added : Permit) (record : RecordRef)
    (kind : PermitKind) : held (permits ++ [added]) record kind = held permits record kind +
      if added.record = record ∧ added.kind = kind ∧ added.released = false then 1 else 0 := by
  unfold held
  rw [List.countP_append, List.countP_singleton]
  simp [and_assoc]

/-- A release takes one permit of its own record and kind. -/
theorem held_release {permits : List Permit} {index : Nat} {permit : Permit}
    (located : permits[index]? = some permit) (unreleased : permit.released = false)
    (record : RecordRef) (kind : PermitKind) :
    held permits record kind =
      held (permits.modify index fun permit => { permit with released := true }) record kind +
        if permit.record = record ∧ permit.kind = kind then 1 else 0 := by
  induction permits generalizing index with
  | nil => cases located
  | cons first permits ih =>
      cases index with
      | zero =>
          rw [List.getElem?_cons_zero, Option.some.injEq] at located
          subst located
          simp only [held, List.modify_zero_cons, List.countP_cons, unreleased]
          simp
      | succ index =>
          rw [List.getElem?_cons_succ] at located
          have rest := ih located
          simp only [held, List.modify_succ_cons, List.countP_cons] at rest ⊢
          omega

theorem held_pos {permits : List Permit} {permit : Permit} (inside : permit ∈ permits)
    (unreleased : permit.released = false) : 0 < held permits permit.record permit.kind :=
  List.countP_pos_iff.mpr ⟨permit, inside, by simp [unreleased]⟩

theorem hitBeforeDrain_drained (record other : RecordRef) (snapshot : InvocationSnapshot)
    (history : List Event) : hitBeforeDrain record (history ++ [.drained other snapshot]) =
      hitBeforeDrain record history := by
  induction history with
  | nil => simp [hitBeforeDrain]
  | cons event history ih =>
      cases event <;> simp only [List.cons_append, hitBeforeDrain, ih]

theorem hitBeforeDrain_other {record other : RecordRef} (different : other ≠ record) (cause : Cause)
    (history : List Event) : hitBeforeDrain record (history ++ [.hit other cause]) =
      hitBeforeDrain record history := by
  induction history with
  | nil => simp [hitBeforeDrain, different]
  | cons event history ih =>
      cases event <;> simp only [List.cons_append, hitBeforeDrain, ih]

theorem hitBeforeDrain_kept {record : RecordRef} {history : List Event}
    (hit : hitBeforeDrain record history = true) (added : List Event) :
    hitBeforeDrain record (history ++ added) = true := by
  induction history with
  | nil => cases hit
  | cons event history ih =>
      cases event with
      | hit other cause =>
          simp only [List.cons_append, hitBeforeDrain] at hit ⊢
          split at hit
          · next same => rw [if_pos same]
          · next different => rw [if_neg different, ih hit]
      | drained other snapshot =>
          simp only [List.cons_append, hitBeforeDrain] at hit ⊢
          split at hit
          · cases hit
          · next different => rw [if_neg different, ih hit]

/-- A hit counts while its record has not drained. -/
theorem hitBeforeDrain_hit {record : RecordRef} {history : List Event}
    (undrained : ∀ snapshot, .drained record snapshot ∉ history) (cause : Cause) :
    hitBeforeDrain record (history ++ [.hit record cause]) = true := by
  induction history with
  | nil => simp [hitBeforeDrain]
  | cons event history ih =>
      have rest := ih fun snapshot inside => undrained snapshot (List.mem_cons_of_mem _ inside)
      cases event with
      | hit other cause => simp [hitBeforeDrain, rest]
      | drained other snapshot =>
          have different : other ≠ record := by
            rintro rfl
            exact undrained snapshot (List.mem_cons_self ..)
          simp [hitBeforeDrain, different, rest]

theorem hitBeforeDrain_absent {record : RecordRef} {history : List Event}
    (absent : ∀ event ∈ history, event.record ≠ record) : hitBeforeDrain record history = false := by
  induction history with
  | nil => rfl
  | cons event history ih =>
      have rest := ih fun other inside => absent other (List.mem_cons_of_mem _ inside)
      have first := absent event (List.mem_cons_self ..)
      cases event with
      | hit other cause => simp only [hitBeforeDrain, rest, if_neg (show other ≠ record from first)]
      | drained other snapshot =>
          simp only [hitBeforeDrain, rest, if_neg (show other ≠ record from first)]

namespace Coordinator

/-- An interrupted call belongs to records that it has cancelled already. -/
def ValidFrame (state : Coordinator) : Frame → Prop
  | .shutdownSignal => state.shutdownAborted = true
  | .transition record caller =>
      record < state.created ∧ (state.heap record).drainState = some .cancelled ∧
        ∀ rest, caller = .shutdown rest →
          state.shutdownAborted = true ∧ ∀ other ∈ rest, other < state.created

/-- The invariant of a coordinator. -/
structure Sound (state : Coordinator) : Prop where
  records : ∀ invocationId record, state.records.get? invocationId = some record →
    record < state.created ∧ (state.heap record).invocationId = invocationId ∧
      state.Newest record ∧ state.tombstones.get? invocationId = none ∧
        ∀ snapshot, .drained record snapshot ∉ state.history
  tombstones : ∀ invocationId tombstone, state.tombstones.get? invocationId = some tombstone →
    tombstone.record < state.created ∧ (state.heap tombstone.record).invocationId = invocationId ∧
      state.Newest tombstone.record ∧ .drained tombstone.record tombstone.snapshot ∈ state.history
  counts : ∀ record kind, (state.heap record).count kind = held state.permits record kind
  permits : ∀ permit ∈ state.permits, permit.record < state.created ∧
    (permit.released = false → state.registered permit.record = true)
  hits : ∀ record, (state.heap record).drainState = some .cancelled ↔
    hitBeforeDrain record state.history = true
  bounded : ∀ event ∈ state.history, event.record < state.created
  drained : ∀ record snapshot, .drained record snapshot ∈ state.history →
    ∃ drainState, (state.heap record).drainState = some drainState ∧
      snapshot.state = .terminal drainState ∧ (state.heap record).activeCount = 0
  resolved : ∀ resolution ∈ state.resolved,
    .drained resolution.record resolution.snapshot ∈ state.history
  aborted : state.settled ≠ [] ∨ state.globalZeroWaiters ≠ [] → state.shutdownAborted = true
  settled : state.settled ≠ [] → ∀ permit ∈ state.permits, permit.released = true
  frames : ∀ frame ∈ state.stack, state.ValidFrame frame

/-- What a step never takes back: identifiers, the end of an active state and a shutdown. -/
structure Advances (before after : Coordinator) : Prop where
  created : before.created ≤ after.created
  ids : ∀ record < before.created,
    (after.heap record).invocationId = (before.heap record).invocationId
  left : ∀ record < before.created, (before.heap record).state ≠ .active →
    (after.heap record).state ≠ .active
  shuttingDown : before.shuttingDown = true → after.shuttingDown = true

theorem Advances.refl (state : Coordinator) : Advances state state :=
  ⟨Nat.le_refl _, fun _ _ => rfl, fun _ _ left => left, id⟩

theorem Advances.trans {first second third : Coordinator} (before : Advances first second)
    (after : Advances second third) : Advances first third where
  created := Nat.le_trans before.created after.created
  ids := fun record old =>
    (after.ids record (Nat.lt_of_lt_of_le old before.created)).trans (before.ids record old)
  left := fun record old left =>
    after.left record (Nat.lt_of_lt_of_le old before.created) (before.left record old left)
  shuttingDown := fun began => after.shuttingDown (before.shuttingDown began)

theorem sound_empty : Sound .empty where
  records := fun _ _ found => nomatch found
  tombstones := fun _ _ found => nomatch found
  counts := fun _ kind => by cases kind <;> rfl
  permits := List.forall_mem_nil _
  hits := fun _ => ⟨fun hit => (nomatch hit), fun hit => (nomatch hit)⟩
  bounded := List.forall_mem_nil _
  drained := fun _ _ inside => nomatch inside
  resolved := List.forall_mem_nil _
  aborted := fun waiting => by rcases waiting with none | none <;> exact absurd rfl none
  settled := fun none => absurd rfl none
  frames := List.forall_mem_nil _

/-- Changes of records keep the invariant when they keep identifiers and counts, mark no drained
record anew, and agree with the history. -/
theorem Sound.change {state : Coordinator} (sound : Sound state)
    {heap : RecordRef → InvocationRecord} {history : List Event}
    (ids : ∀ record, (heap record).invocationId = (state.heap record).invocationId)
    (counts : ∀ record kind, (heap record).count kind = (state.heap record).count kind)
    (hits : ∀ record, (heap record).drainState = some .cancelled ↔
      hitBeforeDrain record history = true)
    (bounded : ∀ event ∈ history, event.record < state.created)
    (drained : ∀ record snapshot, .drained record snapshot ∈ history ↔
      .drained record snapshot ∈ state.history)
    (kept : ∀ record snapshot, .drained record snapshot ∈ state.history →
      (heap record).drainState = (state.heap record).drainState)
    (cancelled : ∀ record, (state.heap record).drainState = some .cancelled →
      (heap record).drainState = some .cancelled) :
    Sound { state with heap := heap, history := history } := by
  have newest : ∀ record, Newest { state with heap := heap, history := history } record ↔
      state.Newest record := by
    intro record
    simp only [Newest, ids]
  constructor
  · intro invocationId record found
    obtain ⟨inside, named, latest, untombed, undrained⟩ := sound.records invocationId record found
    exact ⟨inside, (ids record).trans named, (newest record).mpr latest, untombed,
      fun snapshot event => undrained snapshot ((drained record snapshot).mp event)⟩
  · intro invocationId tombstone found
    obtain ⟨inside, named, latest, event⟩ := sound.tombstones invocationId tombstone found
    exact ⟨inside, (ids _).trans named, (newest _).mpr latest, (drained _ _).mpr event⟩
  · intro record kind
    exact (counts record kind).trans (sound.counts record kind)
  · intro permit inside
    obtain ⟨known, registered⟩ := sound.permits permit inside
    refine ⟨known, fun unreleased => ?_⟩
    simpa only [Coordinator.registered, ids] using registered unreleased
  · exact hits
  · exact bounded
  · intro record snapshot inside
    have event := (drained record snapshot).mp inside
    obtain ⟨drainState, marked, shown, zero⟩ := sound.drained record snapshot event
    refine ⟨drainState, (kept record snapshot event).trans marked, shown, ?_⟩
    have work := counts record .work
    have commit := counts record .commit
    simp only [InvocationRecord.count] at work commit
    rw [InvocationRecord.activeCount, work, commit]
    exact zero
  · exact fun resolution inside => (drained _ _).mpr (sound.resolved resolution inside)
  · exact sound.aborted
  · exact sound.settled
  · intro frame inside
    have valid := sound.frames frame inside
    cases frame with
    | shutdownSignal => exact valid
    | transition record caller => exact ⟨valid.1, cancelled record valid.2.1, valid.2.2⟩

/-- The fields of a record that the invariant is about. -/
def sameFields (first second : InvocationRecord) : Prop :=
  first.invocationId = second.invocationId ∧ first.drainState = second.drainState ∧
    first.workCount = second.workCount ∧ first.commitCount = second.commitCount

/-- Changes of timers, leases, signals and waiters keep the invariant. -/
theorem Sound.reheap {state : Coordinator} (sound : Sound state)
    {heap : RecordRef → InvocationRecord}
    (same : ∀ record, sameFields (heap record) (state.heap record)) :
    Sound { state with heap := heap } := by
  apply sound.change
  · exact fun record => (same record).1
  · intro record kind
    cases kind
    · exact (same record).2.2.1
    · exact (same record).2.2.2
  · intro record
    rw [(same record).2.1]
    exact sound.hits record
  · exact sound.bounded
  · exact fun _ _ => Iff.rfl
  · exact fun record _ _ => (same record).2.1
  · exact fun record marked => (same record).2.1.trans marked

theorem Sound.update {state : Coordinator} (sound : Sound state) (record : RecordRef)
    {change : InvocationRecord → InvocationRecord}
    (same : ∀ fields, sameFields (change fields) fields) : Sound (state.update record change) := by
  apply sound.reheap
  intro other
  rw [Function.update_apply]
  split
  · next here =>
      rw [here]
      exact same _
  · exact ⟨rfl, rfl, rfl, rfl⟩

/-- A change of one record that reactivates nothing advances. -/
theorem advances_update (state : Coordinator) (record : RecordRef)
    {change : InvocationRecord → InvocationRecord}
    (ids : ∀ fields, (change fields).invocationId = fields.invocationId)
    (left : ∀ fields, fields.state ≠ .active → (change fields).state ≠ .active) :
    Advances state (state.update record change) where
  created := Nat.le_refl _
  ids := by
    intro other _
    show (Function.update state.heap record (change (state.heap record)) other).invocationId = _
    rw [Function.update_apply]
    split
    · next here => rw [ids, here]
    · rfl
  left := by
    intro other _ gone
    show (Function.update state.heap record (change (state.heap record)) other).state ≠ _
    rw [Function.update_apply]
    split
    · next here => exact left _ (here ▸ gone)
    · exact gone
  shuttingDown := id

/-- Changes outside the heap advance. -/
theorem advances_same {before after : Coordinator} (heap : after.heap = before.heap)
    (created : after.created = before.created)
    (shuttingDown : before.shuttingDown = true → after.shuttingDown = true) :
    Advances before after where
  created := Nat.le_of_eq created.symm
  ids := fun _ _ => by rw [heap]
  left := fun _ _ gone => by rw [heap]; exact gone
  shuttingDown := shuttingDown

/-- No permit is held when every registered record is at zero. -/
theorem Sound.globalZero {state : Coordinator} (sound : Sound state)
    (zero : state.globalZero = true) : ∀ permit ∈ state.permits, permit.released = true := by
  intro permit inside
  by_contra unreleased
  rw [Bool.not_eq_true] at unreleased
  have registered := (sound.permits permit inside).2 unreleased
  rw [Coordinator.registered, decide_eq_true_eq] at registered
  have active : (state.heap permit.record).activeCount = 0 :=
    of_decide_eq_true (List.all_eq_true.mp zero permit.record
      (List.mem_map_of_mem (KeyedTable.get?_eq_some.mp registered)))
  have counted := held_pos inside unreleased
  have work := sound.counts permit.record .work
  have commit := sound.counts permit.record .commit
  simp only [InvocationRecord.count, InvocationRecord.activeCount] at work commit active
  cases kind : permit.kind <;> rw [kind] at counted <;> omega

theorem resolveGlobalZero_sound {state : Coordinator} (sound : Sound state) :
    Sound state.resolveGlobalZero := by
  unfold resolveGlobalZero
  split
  · next zero =>
      refine { sound with aborted := ?_, settled := ?_ }
      · rintro (settled | waiting)
        · apply sound.aborted
          by_contra none
          simp only [ne_eq, not_or, not_not] at none
          exact settled (by rw [none.1, none.2]; rfl)
        · exact absurd rfl waiting
      · exact fun _ => sound.globalZero zero
  · exact sound

theorem resolveGlobalZero_advances (state : Coordinator) :
    Advances state state.resolveGlobalZero := by
  unfold resolveGlobalZero
  split
  · exact advances_same rfl rfl id
  · exact .refl state

theorem newest_unique {state : Coordinator} {first second : RecordRef}
    (firstInside : first < state.created) (secondInside : second < state.created)
    (firstNewest : state.Newest first) (secondNewest : state.Newest second)
    (same : (state.heap first).invocationId = (state.heap second).invocationId) : first = second :=
  Nat.le_antisymm (secondNewest first firstInside same)
    (firstNewest second secondInside same.symm)

/-- A record with a held permit has a positive count. -/
theorem Sound.active_pos {state : Coordinator} (sound : Sound state) {permit : Permit}
    (inside : permit ∈ state.permits) (unreleased : permit.released = false) :
    0 < (state.heap permit.record).activeCount := by
  have counted := held_pos inside unreleased
  have work := sound.counts permit.record .work
  have commit := sound.counts permit.record .commit
  simp only [InvocationRecord.count] at work commit
  unfold InvocationRecord.activeCount
  cases kind : permit.kind <;> rw [kind] at counted <;> omega

/-- A record at zero that is the newest one of its identifier leaves the map for a tombstone. -/
theorem Sound.bury {state : Coordinator} (sound : Sound state) {record : RecordRef}
    {snapshot : InvocationSnapshot} {drainState : InvocationTerminalState} {calls : List CallId}
    {tombstones : KeyedTable InvocationId Tombstone}
    (inside : record < state.created) (newest : state.Newest record)
    (marked : (state.heap record).drainState = some drainState)
    (zero : (state.heap record).activeCount = 0) (shown : snapshot.state = .terminal drainState)
    (buried : ∀ invocationId tombstone, tombstones.get? invocationId = some tombstone →
      (invocationId = (state.heap record).invocationId ∧ tombstone.record = record ∧
        tombstone.snapshot = snapshot) ∨
      (invocationId ≠ (state.heap record).invocationId ∧
        state.tombstones.get? invocationId = some tombstone)) :
    Sound { state with
      records := state.records.erase (state.heap record).invocationId
      tombstones := tombstones
      resolved := state.resolved ++ calls.map fun call => ⟨call, record, snapshot⟩
      history := state.history ++ [.drained record snapshot] } := by
  constructor
  · intro invocationId other found
    rw [KeyedTable.get?_erase] at found
    split at found
    · cases found
    · next different =>
        obtain ⟨known, named, latest, untombed, undrained⟩ := sound.records invocationId other found
        refine ⟨known, named, latest, ?_, ?_⟩
        · rw [Option.eq_none_iff_forall_ne_some]
          intro tombstone tombed
          rcases buried invocationId tombstone tombed with ⟨same, _⟩ | ⟨_, old⟩
          · exact different same
          · rw [untombed] at old
            cases old
        · intro shown event
          rcases List.mem_append.mp event with old | new
          · exact undrained shown old
          · have same := List.mem_singleton.mp new
            simp only [Event.drained.injEq] at same
            exact different (by rw [← named, same.1])
  · intro invocationId tombstone tombed
    rcases buried invocationId tombstone tombed with ⟨rfl, same, snapshots⟩ | ⟨_, old⟩
    · rw [same, snapshots]
      exact ⟨inside, rfl, newest, List.mem_append_right _ (List.mem_singleton_self _)⟩
    · obtain ⟨known, named, latest, event⟩ := sound.tombstones invocationId tombstone old
      exact ⟨known, named, latest, List.mem_append_left _ event⟩
  · exact sound.counts
  · intro permit member
    obtain ⟨known, registered⟩ := sound.permits permit member
    refine ⟨known, fun unreleased => ?_⟩
    have old := registered unreleased
    simp only [Coordinator.registered, decide_eq_true_eq] at old ⊢
    rw [KeyedTable.get?_erase, if_neg, old]
    intro same
    have latest := (sound.records _ _ old).2.2.1
    have here := newest_unique known inside latest newest same
    have positive := sound.active_pos member unreleased
    rw [here, zero] at positive
    exact Int.lt_irrefl _ positive
  · intro other
    rw [hitBeforeDrain_drained]
    exact sound.hits other
  · intro event member
    rcases List.mem_append.mp member with old | new
    · exact sound.bounded event old
    · rw [List.mem_singleton.mp new]
      exact inside
  · intro other given event
    rcases List.mem_append.mp event with old | new
    · exact sound.drained other given old
    · have same := List.mem_singleton.mp new
      simp only [Event.drained.injEq] at same
      obtain ⟨rfl, rfl⟩ := same
      exact ⟨drainState, marked, shown, zero⟩
  · intro resolution member
    rcases List.mem_append.mp member with old | new
    · exact List.mem_append_left _ (sound.resolved resolution old)
    · obtain ⟨call, _, rfl⟩ := List.mem_map.mp new
      exact List.mem_append_right _ (List.mem_singleton_self _)
  · exact sound.aborted
  · exact sound.settled
  · exact sound.frames

theorem scheduleReaper_sound {state : Coordinator} (sound : Sound state) :
    Sound state.scheduleReaper :=
  ⟨sound.records, sound.tombstones, sound.counts, sound.permits, sound.hits, sound.bounded,
    sound.drained, sound.resolved, sound.aborted, sound.settled, sound.frames⟩

theorem terminalize_sound {options : CoordinatorOptions} {now : Int} {state : Coordinator}
    (sound : Sound state) {record : RecordRef} {drainState : InvocationTerminalState}
    (inside : record < state.created) (newest : state.Newest record)
    (marked : (state.heap record).drainState = some drainState)
    (zero : (state.heap record).activeCount = 0) :
    Sound (state.terminalize options now record drainState).1 := by
  let cleared := state.update record fun fields =>
    { fields with leaseTimer := false, state := .cancelling, zeroWaiters := [] }
  have fields : ∀ other, sameFields (cleared.heap other) (state.heap other) := by
    intro other
    show sameFields (Function.update state.heap record _ other) _
    rw [Function.update_apply]
    split
    · next here => rw [here]; exact ⟨rfl, rfl, rfl, rfl⟩
    · exact ⟨rfl, rfl, rfl, rfl⟩
  have clear : Sound cleared := sound.reheap fields
  have name := (fields record).1
  have newest' : cleared.Newest record := by
    intro other known same
    rw [(fields other).1, name] at same
    exact newest other known same
  have active : (cleared.heap record).activeCount = 0 := by
    rw [InvocationRecord.activeCount, (fields record).2.2.1, (fields record).2.2.2]
    exact zero
  apply resolveGlobalZero_sound
  apply scheduleReaper_sound
  have buried := @Sound.bury cleared clear record ((state.heap record).terminal drainState) drainState
    (state.heap record).zeroWaiters
    ((state.tombstones.put (state.heap record).invocationId
      ⟨(state.heap record).terminal drainState, expiry options now, record⟩).dropOldest
        ((state.tombstones.put (state.heap record).invocationId
          ⟨(state.heap record).terminal drainState, expiry options now, record⟩).entries.length -
            options.maxTombstones))
    inside newest' ((fields record).2.1.trans marked) active rfl (by
      intro invocationId tombstone found
      rw [name]
      have stored := KeyedTable.get?_dropOldest found
      rw [KeyedTable.get?_put] at stored
      split at stored
      · next same =>
          cases stored
          exact .inl ⟨same, rfl, rfl⟩
      · next different => exact .inr ⟨different, stored⟩)
  rw [name] at buried
  exact buried

section Frame

variable (state : Coordinator)

@[simp] theorem resolveGlobalZero_heap : state.resolveGlobalZero.heap = state.heap := by
  unfold resolveGlobalZero
  split <;> rfl

@[simp] theorem resolveGlobalZero_created : state.resolveGlobalZero.created = state.created := by
  unfold resolveGlobalZero
  split <;> rfl

@[simp] theorem resolveGlobalZero_records : state.resolveGlobalZero.records = state.records := by
  unfold resolveGlobalZero
  split <;> rfl

@[simp] theorem resolveGlobalZero_history : state.resolveGlobalZero.history = state.history := by
  unfold resolveGlobalZero
  split <;> rfl

@[simp] theorem resolveGlobalZero_shutdownAborted :
    state.resolveGlobalZero.shutdownAborted = state.shutdownAborted := by
  unfold resolveGlobalZero
  split <;> rfl

theorem update_heap (record other : RecordRef) (change : InvocationRecord → InvocationRecord) :
    (state.update record change).heap other =
      if other = record then change (state.heap record) else state.heap other :=
  Function.update_apply ..

end Frame

section Drain

variable {options : CoordinatorOptions} {now : Int} {state : Coordinator} {record : RecordRef}

theorem terminalize_advances (drainState : InvocationTerminalState) :
    Advances state (state.terminalize options now record drainState).1 := by
  have cleared : Advances state (state.update record fun fields =>
      { fields with leaseTimer := false, state := .cancelling, zeroWaiters := [] }) :=
    advances_update state record (fun _ => rfl) (fun _ _ => by simp)
  apply (cleared.trans (advances_same _ _ _)).trans (resolveGlobalZero_advances _)
  · rfl
  · rfl
  · exact id

theorem maybeDrainRecord_sound (sound : Sound state) (inside : record < state.created)
    (newest : state.Newest record) : Sound (state.maybeDrainRecord options now record).1 := by
  unfold maybeDrainRecord
  simp only
  split
  · exact resolveGlobalZero_sound sound
  · next zero =>
      split
      · exact resolveGlobalZero_sound sound
      · next drainState marked =>
          exact terminalize_sound sound inside newest marked (not_not.mp zero)

theorem maybeDrainRecord_advances : Advances state (state.maybeDrainRecord options now record).1 := by
  unfold maybeDrainRecord
  simp only
  split
  · exact resolveGlobalZero_advances state
  · split
    · exact resolveGlobalZero_advances state
    · exact terminalize_advances _

/-- A marked record either stays in the map or drains with the snapshot that is returned. -/
theorem maybeDrainRecord_settles (sound : Sound state) {drainState : InvocationTerminalState}
    (marked : (state.heap record).drainState = some drainState) :
    (state.maybeDrainRecord options now record).1.registered record = true ∨
      .drained record (state.maybeDrainRecord options now record).2 ∈
        (state.maybeDrainRecord options now record).1.history := by
  unfold maybeDrainRecord
  simp only [marked]
  split
  · next active =>
      left
      have work := sound.counts record .work
      have commit := sound.counts record .commit
      simp only [InvocationRecord.count, InvocationRecord.activeCount] at work commit active
      have some : ∃ kind, 0 < held state.permits record kind := by
        by_contra none
        push Not at none
        have := none .work
        have := none .commit
        omega
      obtain ⟨kind, positive⟩ := some
      obtain ⟨permit, inside, test⟩ := List.countP_pos_iff.mp positive
      simp only [Bool.and_eq_true, decide_eq_true_eq, Bool.not_eq_true'] at test
      obtain ⟨⟨rfl, _⟩, unreleased⟩ := test
      have registered := (sound.permits permit inside).2 unreleased
      simpa only [Coordinator.registered, resolveGlobalZero_heap, resolveGlobalZero_records] using
        registered
  · right
    unfold terminalize
    simp only [resolveGlobalZero_history]
    exact List.mem_append_right _ (List.mem_singleton_self _)

/-- The drain of a cancelled record leaves the other records as they are to be settled. -/
theorem maybeDrainRecord_settleable (inside : record < state.created) (newest : state.Newest record)
    (marked : (state.heap record).drainState = some .cancelled) {other : RecordRef}
    (known : other < state.created) (settleable : state.Settleable other) :
    (state.maybeDrainRecord options now record).1.Settleable other := by
  unfold maybeDrainRecord
  simp only [marked]
  split
  · simpa only [Settleable, Newest, Coordinator.registered, resolveGlobalZero_heap,
      resolveGlobalZero_created, resolveGlobalZero_records] using settleable
  · have ids : ∀ r, ((state.update record fun fields => { fields with
        leaseTimer := false, state := .cancelling, zeroWaiters := [] }).heap r).invocationId =
          (state.heap r).invocationId := by
      intro r
      rw [update_heap]
      split
      · next here => rw [here]
      · rfl
    have drains : ∀ r, ((state.update record fun fields => { fields with
        leaseTimer := false, state := .cancelling, zeroWaiters := [] }).heap r).drainState =
          (state.heap r).drainState := by
      intro r
      rw [update_heap]
      split
      · next here => rw [here]
      · rfl
    obtain ⟨latest, settled⟩ := settleable
    unfold terminalize scheduleReaper
    simp only [Settleable, Newest, Coordinator.registered, resolveGlobalZero_heap,
      resolveGlobalZero_created, resolveGlobalZero_records, decide_eq_true_eq, ids, drains]
    refine ⟨latest, ?_⟩
    rcases settled with registered | cancelled
    · by_cases same : (state.heap other).invocationId = (state.heap record).invocationId
      · right
        rw [newest_unique known inside latest newest same]
        exact marked
      · left
        rw [KeyedTable.get?_erase, if_neg same]
        simpa only [Coordinator.registered, decide_eq_true_eq] using registered
    · exact .inr cancelled

theorem maybeDrainRecord_created :
    (state.maybeDrainRecord options now record).1.created = state.created := by
  unfold maybeDrainRecord terminalize scheduleReaper
  simp only
  split
  · exact resolveGlobalZero_created state
  · split
    · exact resolveGlobalZero_created state
    · rw [resolveGlobalZero_created]
      rfl

theorem maybeDrainRecord_shutdownAborted :
    (state.maybeDrainRecord options now record).1.shutdownAborted = state.shutdownAborted := by
  unfold maybeDrainRecord terminalize scheduleReaper
  simp only
  split
  · exact resolveGlobalZero_shutdownAborted state
  · split
    · exact resolveGlobalZero_shutdownAborted state
    · rw [resolveGlobalZero_shutdownAborted]
      rfl

end Drain

end Coordinator

end Lcm.Daemon
