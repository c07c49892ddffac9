import Lcm.Daemon.InvocationDrain

namespace Lcm.Daemon
open Text

namespace Coordinator

section Transition

variable {options : CoordinatorOptions} {now : Int} {state : Coordinator} {record : RecordRef}

theorem Sound.registered_known (sound : Sound state) (registered : state.registered record = true) :
    record < state.created ∧ state.Settleable record := by
  have found : state.records.get? (state.heap record).invocationId = some record := by
    simpa [Coordinator.registered] using registered
  obtain ⟨inside, _, newest, _⟩ := sound.records _ _ found
  exact ⟨inside, newest, .inl registered⟩

theorem Sound.registered_of_get (sound : Sound state) {invocationId : InvocationId}
    (found : state.records.get? invocationId = some record) : state.registered record = true := by
  obtain ⟨_, named, _⟩ := sound.records _ _ found
  rw [Coordinator.registered, named]
  exact decide_eq_true found

theorem markCancelling_heap (drainState : InvocationTerminalState) (cause : Cause)
    (other : RecordRef) : (state.markCancelling record drainState cause).heap other =
      if other = record then { state.heap record with
        leaseTimer := false, state := .cancelling, drainState := some drainState }
      else state.heap other :=
  update_heap state record other fun fields =>
    { fields with leaseTimer := false, state := .cancelling, drainState := some drainState }

theorem markCancelling_ids (drainState : InvocationTerminalState) (cause : Cause)
    (other : RecordRef) : ((state.markCancelling record drainState cause).heap other).invocationId =
      (state.heap other).invocationId := by
  rw [markCancelling_heap]
  split
  · next here => rw [here]
  · rfl

theorem markCancelling_marked (cause : Cause) :
    ((state.markCancelling record .cancelled cause).heap record).drainState = some .cancelled := by
  rw [markCancelling_heap, if_pos rfl]

/-- A cancelled mark is a hit on an undrained record, or repeats one. -/
theorem markCancelling_sound (sound : Sound state) (inside : record < state.created)
    (settleable : state.Settleable record) (cause : Cause) :
    Sound (state.markCancelling record .cancelled cause) := by
  have hitNow : hitBeforeDrain record (state.history ++ [.hit record cause]) = true := by
    rcases settleable.2 with registered | cancelled
    · have found : state.records.get? (state.heap record).invocationId = some record := by
        simpa [Coordinator.registered] using registered
      exact hitBeforeDrain_hit (sound.records _ _ found).2.2.2.2 cause
    · exact hitBeforeDrain_kept ((sound.hits record).mp cancelled) _
  apply sound.change
  · exact markCancelling_ids .cancelled cause
  · intro other kind
    show ((state.markCancelling record .cancelled cause).heap other).count kind = _
    rw [markCancelling_heap]
    split
    · next here =>
        rw [here]
        cases kind <;> rfl
    · rfl
  · intro other
    show ((state.markCancelling record .cancelled cause).heap other).drainState = _ ↔ _
    rw [markCancelling_heap]
    split
    · next here =>
        rw [here]
        exact ⟨fun _ => hitNow, fun _ => rfl⟩
    · next different =>
        rw [hitBeforeDrain_other (Ne.symm different)]
        exact sound.hits other
  · intro event member
    rcases List.mem_append.mp member with old | new
    · exact sound.bounded event old
    · rw [List.mem_singleton.mp new]
      exact inside
  · intro other snapshot
    simp
  · intro other snapshot event
    show ((state.markCancelling record .cancelled cause).heap other).drainState = _
    rw [markCancelling_heap]
    split
    · next here =>
        subst here
        rcases settleable.2 with registered | cancelled
        · have found : state.records.get? (state.heap other).invocationId = some other := by
            simpa [Coordinator.registered] using registered
          exact absurd event ((sound.records _ _ found).2.2.2.2 snapshot)
        · exact cancelled.symm
    · rfl
  · intro other cancelled
    show ((state.markCancelling record .cancelled cause).heap other).drainState = _
    rw [markCancelling_heap]
    split
    · rfl
    · exact cancelled

theorem markCancelling_advances (drainState : InvocationTerminalState) (cause : Cause) :
    Advances state (state.markCancelling record drainState cause) := by
  have marked : Advances state (state.update record fun fields =>
      { fields with leaseTimer := false, state := .cancelling, drainState := some drainState }) :=
    advances_update state record (fun _ => rfl) (fun _ _ => by simp)
  exact marked.trans (advances_same rfl rfl id)

theorem markCancelling_newest {drainState : InvocationTerminalState} {cause : Cause}
    {other : RecordRef} (newest : state.Newest other) :
    (state.markCancelling record drainState cause).Newest other := by
  intro third known same
  rw [markCancelling_ids, markCancelling_ids] at same
  exact newest third known same

theorem markCancelling_settleable {cause : Cause} {other : RecordRef}
    (settleable : state.Settleable other) :
    (state.markCancelling record .cancelled cause).Settleable other := by
  refine ⟨markCancelling_newest settleable.1, ?_⟩
  rcases settleable.2 with registered | cancelled
  · left
    simp only [Coordinator.registered, markCancelling_ids] at registered ⊢
    exact registered
  · right
    rw [markCancelling_heap]
    split
    · rfl
    · exact cancelled

theorem dispatch_sound (sound : Sound state) {caller : Caller}
    (valid : state.ValidFrame (.transition record caller)) :
    Sound (state.dispatch record caller) := by
  have aborted : Sound (state.update record fun fields => { fields with aborted := true }) :=
    sound.update record fun _ => ⟨rfl, rfl, rfl, rfl⟩
  have drains : ((state.update record fun fields => { fields with aborted := true }).heap
      record).drainState = (state.heap record).drainState := by
    rw [update_heap, if_pos rfl]
  refine { aborted with frames := ?_ }
  intro frame member
  rcases List.mem_cons.mp member with rfl | old
  · exact ⟨valid.1, drains.trans valid.2.1, valid.2.2⟩
  · exact aborted.frames frame old

theorem dispatch_advances (caller : Caller) : Advances state (state.dispatch record caller) := by
  have aborted : Advances state (state.update record fun fields => { fields with aborted := true }) :=
    advances_update state record (fun _ => rfl) (fun _ left => left)
  exact aborted.trans (advances_same rfl rfl id)

theorem settleCall_sound (sound : Sound state) {call : CallId} {snapshot : InvocationSnapshot}
    (settles : state.registered record = true ∨ .drained record snapshot ∈ state.history) :
    Sound (state.settleCall record call snapshot) := by
  unfold settleCall
  split
  · exact sound.update record fun _ => ⟨rfl, rfl, rfl, rfl⟩
  · next gone =>
      refine { sound with resolved := ?_ }
      intro resolution member
      rcases List.mem_append.mp member with old | new
      · exact sound.resolved resolution old
      · rw [List.mem_singleton.mp new]
        exact settles.resolve_left gone

theorem settleCall_advances (call : CallId) (snapshot : InvocationSnapshot) :
    Advances state (state.settleCall record call snapshot) := by
  unfold settleCall
  split
  · exact advances_update state record (fun _ => rfl) (fun _ left => left)
  · exact advances_same rfl rfl id

theorem shutdownEnd_sound (sound : Sound state) (aborted : state.shutdownAborted = true) :
    Sound state.shutdownEnd := by
  unfold shutdownEnd
  split
  · next zero =>
      exact { sound with aborted := fun _ => aborted, settled := fun _ => sound.globalZero zero }
  · apply resolveGlobalZero_sound
    exact { sound with aborted := fun _ => aborted }

theorem shutdownEnd_advances : Advances state state.shutdownEnd := by
  unfold shutdownEnd
  split
  · exact advances_same rfl rfl id
  · apply Advances.trans _ (resolveGlobalZero_advances _)
    exact advances_same rfl rfl id

/-- A shutdown keeps the invariant while every record of its list can be settled. -/
theorem shutdownLoop_sound {rest : List RecordRef} (sound : Sound state)
    (aborted : state.shutdownAborted = true)
    (pending : ∀ other ∈ rest, other < state.created ∧ state.Settleable other) :
    Sound (shutdownLoop options now state rest) ∧
      Advances state (shutdownLoop options now state rest) := by
  induction rest generalizing state with
  | nil => exact ⟨shutdownEnd_sound sound aborted, shutdownEnd_advances⟩
  | cons first rest ih =>
      obtain ⟨inside, settleable⟩ := pending first (List.mem_cons_self ..)
      have marked := markCancelling_sound sound inside settleable .shutdown
      have marks := @markCancelling_marked state first .shutdown
      have advanced := @markCancelling_advances state first .cancelled .shutdown
      have newest := @markCancelling_newest state first .cancelled .shutdown first settleable.1
      unfold shutdownLoop
      simp only
      split
      · have later : ∀ other ∈ rest,
            other < ((state.markCancelling first .cancelled .shutdown).maybeDrainRecord options now
              first).1.created ∧
            ((state.markCancelling first .cancelled .shutdown).maybeDrainRecord options now
              first).1.Settleable other := by
          intro other member
          obtain ⟨known, ready⟩ := pending other (List.mem_cons_of_mem _ member)
          rw [maybeDrainRecord_created]
          exact ⟨known, @maybeDrainRecord_settleable options now
            (state.markCancelling first .cancelled .shutdown) first inside newest marks other known
              (markCancelling_settleable ready)⟩
        obtain ⟨kept, moved⟩ := ih (maybeDrainRecord_sound marked inside newest)
          (maybeDrainRecord_shutdownAborted.trans aborted) later
        exact ⟨kept, (advanced.trans maybeDrainRecord_advances).trans moved⟩
      · refine ⟨dispatch_sound marked ⟨inside, marks, ?_⟩, advanced.trans (dispatch_advances _)⟩
        rintro _ ⟨⟩
        exact ⟨aborted, fun other member => (pending other (List.mem_cons_of_mem _ member)).1⟩

/-- An interrupted transition keeps the invariant when its records can be settled. -/
theorem completeTransition_sound {caller : Caller} (sound : Sound state)
    (valid : state.ValidFrame (.transition record caller))
    (pending : ∀ other ∈ (Frame.transition record caller).unsettled, state.Settleable other) :
    Sound (state.completeTransition options now record caller) ∧
      Advances state (state.completeTransition options now record caller) := by
  obtain ⟨inside, marked, shutdown⟩ := valid
  have settleable : state.Settleable record := by
    apply pending
    cases caller <;> exact List.mem_cons_self ..
  have drained := @maybeDrainRecord_sound options now state record sound inside settleable.1
  have moved := @maybeDrainRecord_advances options now state record
  unfold completeTransition
  cases caller with
  | lease => exact ⟨drained, moved⟩
  | heartbeat => exact ⟨drained, moved⟩
  | cancel call =>
      exact ⟨settleCall_sound drained (maybeDrainRecord_settles sound marked),
        moved.trans (settleCall_advances _ _)⟩
  | shutdown rest =>
      obtain ⟨aborted, known⟩ := shutdown rest rfl
      obtain ⟨kept, looped⟩ := @shutdownLoop_sound options now _ rest drained
        (maybeDrainRecord_shutdownAborted.trans aborted) (by
          intro other member
          rw [maybeDrainRecord_created]
          exact ⟨known other member, maybeDrainRecord_settleable inside settleable.1 marked
            (known other member) (pending other (List.mem_cons_of_mem _ member))⟩)
      exact ⟨kept, moved.trans looped⟩

theorem transitionToCancel_sound {caller : Caller} (sound : Sound state)
    (registered : state.registered record = true) (cause : Cause)
    (single : ∀ rest, caller ≠ .shutdown rest) :
    Sound (state.transitionToCancel options now record .cancelled cause caller) ∧
      Advances state (state.transitionToCancel options now record .cancelled cause caller) := by
  obtain ⟨inside, settleable⟩ := sound.registered_known registered
  have marked := markCancelling_sound sound inside settleable cause
  have advanced := @markCancelling_advances state record .cancelled cause
  have valid : (state.markCancelling record .cancelled cause).ValidFrame
      (.transition record caller) :=
    ⟨inside, markCancelling_marked cause, fun rest same => absurd same (single rest)⟩
  unfold transitionToCancel
  simp only
  split
  · obtain ⟨kept, moved⟩ := @completeTransition_sound options now _ record caller marked valid (by
      intro other member
      cases caller with
      | shutdown rest => exact absurd rfl (single rest)
      | lease | heartbeat | cancel =>
          rw [List.mem_singleton.mp member]
          exact markCancelling_settleable settleable)
    exact ⟨kept, advanced.trans moved⟩
  · exact ⟨dispatch_sound marked valid, advanced.trans (dispatch_advances _)⟩

end Transition

section Calls

variable {options : CoordinatorOptions} {now : Int} {state : Coordinator} {record : RecordRef}

theorem refreshTombstone_sound (sound : Sound state) {invocationId : InvocationId}
    {tombstone : Tombstone} (found : state.tombstones.get? invocationId = some tombstone) :
    Sound (state.refreshTombstone options now invocationId tombstone) := by
  have gets : ∀ other, ((state.tombstones.erase invocationId).put invocationId
      { tombstone with expiresAt := expiry options now }).get? other =
        if other = invocationId then some { tombstone with expiresAt := expiry options now }
        else state.tombstones.get? other := by
    intro other
    rw [KeyedTable.get?_put]
    split
    · rfl
    · next different => rw [KeyedTable.get?_erase, if_neg different]
  refine { sound with records := ?_, tombstones := ?_ }
  · intro other record member
    obtain ⟨inside, named, newest, untombed, undrained⟩ := sound.records other record member
    refine ⟨inside, named, newest, ?_, undrained⟩
    rw [show ((state.refreshTombstone options now invocationId tombstone).tombstones.get? other) = _
      from gets other, if_neg, untombed]
    rintro rfl
    rw [found] at untombed
    cases untombed
  · intro other buried member
    rw [show ((state.refreshTombstone options now invocationId tombstone).tombstones.get? other) = _
      from gets other] at member
    split at member
    · next here =>
        cases member
        rw [here]
        exact sound.tombstones invocationId tombstone found
    · exact sound.tombstones other buried member

/-- A lookup finds what the maps hold and keeps the invariant. -/
theorem lookup_sound (sound : Sound state) {invocationId : InvocationId} {looked : Coordinator}
    {result : Except Failure Found} (looks : state.lookup options now invocationId = (looked, result)) :
    Sound looked ∧ Advances state looked ∧
      (∀ record, result = .ok (.record record) → looked = state ∧
        state.records.get? invocationId = some record) ∧
      ∀ tombstone, result = .ok (.tombstone tombstone) →
        state.tombstones.get? invocationId = some tombstone ∧
          .drained tombstone.record tombstone.snapshot ∈ looked.history := by
  unfold lookup at looks
  split at looks
  · next record found =>
      cases looks
      refine ⟨sound, .refl state, ?_, fun _ none => by cases none⟩
      rintro _ ⟨⟩
      exact ⟨rfl, found⟩
  · split at looks
    · next tombstone found =>
        cases looks
        refine ⟨refreshTombstone_sound sound found, advances_same rfl rfl id,
          fun _ none => (by cases none), ?_⟩
        rintro _ ⟨⟩
        exact ⟨found, (sound.tombstones _ _ found).2.2.2⟩
    · cases looks
      exact ⟨sound, .refl state, fun _ none => (by cases none), fun _ none => by cases none⟩

theorem held_unknown (sound : Sound state) (kind : PermitKind) :
    held state.permits state.created kind = 0 := by
  apply List.countP_eq_zero.mpr
  intro permit inside
  have known := (sound.permits permit inside).1
  simp [Nat.ne_of_lt known]

/-- A new record under a free identifier keeps the invariant. -/
theorem register_sound (sound : Sound state) {fields : InvocationRecord}
    (free : state.records.get? fields.invocationId = none)
    (untombed : state.tombstones.get? fields.invocationId = none)
    (zero : ∀ kind, fields.count kind = 0) (unmarked : fields.drainState = none) :
    Sound { state with
      heap := Function.update state.heap state.created fields
      created := state.created + 1
      records := state.records.put fields.invocationId state.created } := by
  have kept : ∀ other < state.created,
      Function.update state.heap state.created fields other = state.heap other :=
    fun other known => Function.update_of_ne (Nat.ne_of_lt known) ..
  have newest : ∀ other < state.created, state.Newest other →
      (state.heap other).invocationId ≠ fields.invocationId →
        ∀ third < state.created + 1,
          (Function.update state.heap state.created fields third).invocationId =
            (Function.update state.heap state.created fields other).invocationId → third ≤ other := by
    intro other known latest different third below same
    rw [kept other known] at same
    rcases Nat.lt_succ_iff_lt_or_eq.mp below with old | rfl
    · rw [kept third old] at same
      exact latest third old same
    · rw [Function.update_self] at same
      exact absurd same.symm different
  have fresh : ∀ event ∈ state.history, event.record ≠ state.created :=
    fun event member => Nat.ne_of_lt (sound.bounded event member)
  constructor
  · intro invocationId other found
    rw [KeyedTable.get?_put] at found
    split at found
    · next here =>
        cases found
        subst here
        refine ⟨Nat.lt_succ_self _, ?_, fun third below _ => Nat.le_of_lt_succ below, untombed, ?_⟩
        · exact congrArg InvocationRecord.invocationId (Function.update_self ..)
        · exact fun snapshot event => fresh _ event rfl
    · next different =>
        obtain ⟨known, named, latest, bare, undrained⟩ := sound.records invocationId other found
        refine ⟨Nat.lt_succ_of_lt known, ?_, newest other known latest (named ▸ different), bare,
          undrained⟩
        exact (congrArg InvocationRecord.invocationId (kept other known)).trans named
  · intro invocationId tombstone found
    obtain ⟨known, named, latest, event⟩ := sound.tombstones invocationId tombstone found
    have different : invocationId ≠ fields.invocationId := by
      rintro rfl
      rw [untombed] at found
      cases found
    refine ⟨Nat.lt_succ_of_lt known, ?_, newest _ known latest (named ▸ different), event⟩
    exact (congrArg InvocationRecord.invocationId (kept _ known)).trans named
  · intro other kind
    show (Function.update state.heap state.created fields other).count kind = _
    rw [Function.update_apply]
    split
    · next here => rw [here, zero, held_unknown sound]; rfl
    · exact sound.counts other kind
  · intro permit inside
    obtain ⟨known, registered⟩ := sound.permits permit inside
    refine ⟨Nat.lt_succ_of_lt known, fun unreleased => ?_⟩
    have old := registered unreleased
    simp only [Coordinator.registered, decide_eq_true_eq, kept _ known] at old ⊢
    rw [KeyedTable.get?_put, if_neg, old]
    intro same
    rw [same, free] at old
    cases old
  · intro other
    show (Function.update state.heap state.created fields other).drainState = _ ↔ _
    rw [Function.update_apply]
    split
    · next here =>
        rw [here, unmarked, hitBeforeDrain_absent fresh]
        simp
    · exact sound.hits other
  · exact fun event member => Nat.lt_succ_of_lt (sound.bounded event member)
  · intro other snapshot event
    obtain ⟨drainState, marked, shown, none⟩ := sound.drained other snapshot event
    have same := kept other (sound.bounded _ event)
    exact ⟨drainState, (congrArg InvocationRecord.drainState same).trans marked, shown,
      (congrArg InvocationRecord.activeCount same).trans none⟩
  · exact sound.resolved
  · exact sound.aborted
  · exact sound.settled
  · intro frame member
    have valid := sound.frames frame member
    cases frame with
    | shutdownSignal => exact valid
    | transition record caller =>
        refine ⟨Nat.lt_succ_of_lt valid.1, ?_, ?_⟩
        · show (Function.update state.heap state.created fields record).drainState = _
          rw [kept record valid.1]
          exact valid.2.1
        · intro rest same
          obtain ⟨aborted, known⟩ := valid.2.2 rest same
          exact ⟨aborted, fun other inside => Nat.lt_succ_of_lt (known other inside)⟩

theorem clearLeaseTimer_sound (sound : Sound state) (record : RecordRef) :
    Sound (state.clearLeaseTimer record) :=
  sound.update record fun _ => ⟨rfl, rfl, rfl, rfl⟩

theorem clearLeaseTimer_advances (record : RecordRef) :
    Advances state (state.clearLeaseTimer record) :=
  advances_update state record (fun _ => rfl) (fun _ left => left)

theorem scheduleLease_sound (sound : Sound state) (record : RecordRef) :
    Sound (state.scheduleLease record) :=
  sound.update record fun _ => ⟨rfl, rfl, rfl, rfl⟩

theorem scheduleLease_advances (record : RecordRef) :
    Advances state (state.scheduleLease record) :=
  advances_update state record (fun _ => rfl) (fun _ left => left)

theorem start_sound (sound : Sound state) (input : InvocationInput) :
    Sound (state.start options now input).1 ∧ Advances state (state.start options now input).1 := by
  unfold start
  split
  · exact ⟨sound, .refl state⟩
  · next target _ =>
      split
      · exact ⟨sound, .refl state⟩
      · split
        · exact ⟨sound, .refl state⟩
        · next free =>
            simp only [Bool.or_eq_true, not_or, Bool.not_eq_true, Option.isSome_eq_false_iff,
              Option.isNone_iff_eq_none] at free
            have registered := @register_sound state sound
              ⟨target.invocationId, target.command, target.daemonInstanceId, .active, false, 0, 0,
                now + options.leaseMs, false, none, []⟩ free.1 free.2
              (fun kind => by cases kind <;> rfl) rfl
            refine ⟨scheduleLease_sound registered _, ?_⟩
            apply Advances.trans _ (scheduleLease_advances _)
            have kept : ∀ other < state.created, ∀ fields,
                Function.update state.heap state.created fields other = state.heap other :=
              fun other known _ => Function.update_of_ne (Nat.ne_of_lt known) ..
            exact ⟨Nat.le_succ _,
              fun other known => congrArg InvocationRecord.invocationId (kept other known _),
              fun other known left gone =>
                left ((congrArg InvocationRecord.state (kept other known _)).symm.trans gone), id⟩

theorem heartbeat_sound (sound : Sound state) (input : InvocationInput) :
    Sound (state.heartbeat options now input).1 ∧
      Advances state (state.heartbeat options now input).1 := by
  unfold heartbeat
  split
  · exact ⟨sound, .refl state⟩
  · split
    · next looks =>
        obtain ⟨kept, moved, _⟩ := lookup_sound sound looks
        exact ⟨kept, moved⟩
    · next looks =>
        obtain ⟨kept, moved, _⟩ := lookup_sound sound looks
        exact ⟨kept, moved⟩
    · next looked record looks =>
        obtain ⟨_, _, holds, _⟩ := lookup_sound sound looks
        obtain ⟨rfl, found⟩ := holds record rfl
        simp only
        split
        · exact ⟨sound, .refl _⟩
        · split
          · exact transitionToCancel_sound sound (sound.registered_of_get found) .lease
              (fun _ none => (nomatch none))
          · have renewed : Sound (looked.update record fun fields =>
                { fields with leaseExpiresAt := now + options.leaseMs }) :=
              sound.update record fun _ => ⟨rfl, rfl, rfl, rfl⟩
            have advanced : Advances looked (looked.update record fun fields =>
                { fields with leaseExpiresAt := now + options.leaseMs }) :=
              advances_update looked record (fun _ => rfl) (fun _ left => left)
            exact ⟨scheduleLease_sound renewed record,
              advanced.trans (scheduleLease_advances record)⟩

theorem addCount_fields (kind : PermitKind) (change : Int) (fields : InvocationRecord) :
    (addCount kind change fields).invocationId = fields.invocationId ∧
      (addCount kind change fields).drainState = fields.drainState ∧
      (addCount kind change fields).state = fields.state ∧
      ∀ other, (addCount kind change fields).count other =
        fields.count other + if kind = other then change else 0 := by
  cases kind
  · refine ⟨rfl, rfl, rfl, fun other => ?_⟩
    cases other
    · rfl
    · exact (Int.add_zero _).symm
  · refine ⟨rfl, rfl, rfl, fun other => ?_⟩
    cases other
    · exact (Int.add_zero _).symm
    · rfl

theorem recount_ids (kind : PermitKind) (change : Int) (other : RecordRef) :
    ((state.update record (addCount kind change)).heap other).invocationId =
      (state.heap other).invocationId := by
  rw [update_heap]
  split
  · next here => rw [here, (addCount_fields kind change _).1]
  · rfl

theorem recount_newest {kind : PermitKind} {change : Int} {permits : List Permit}
    {other : RecordRef} (latest : state.Newest other) :
    Newest { state.update record (addCount kind change) with permits := permits } other := by
  intro third below same
  exact latest third below
    ((recount_ids kind change third).symm.trans (same.trans (recount_ids kind change other)))

/-- A change of permits that the counts of one registered record follow keeps the invariant. -/
theorem Sound.recount (sound : Sound state) {kind : PermitKind} {change : Int}
    {permits : List Permit} (registered : state.registered record = true)
    (counts : ∀ other otherKind, (held permits other otherKind : Int) =
      held state.permits other otherKind +
        if other = record ∧ kind = otherKind then change else 0)
    (known : ∀ permit ∈ permits, permit.record < state.created ∧
      (permit.released = false → state.registered permit.record = true))
    (settled : state.settled ≠ [] → ∀ permit ∈ permits, permit.released = true) :
    Sound { state.update record (addCount kind change) with permits := permits } := by
  have heap : ∀ other, (state.update record (addCount kind change)).heap other =
      if other = record then addCount kind change (state.heap record) else state.heap other :=
    fun other => update_heap state record other _
  have ids := @recount_ids state record kind change
  have drains : ∀ other, ((state.update record (addCount kind change)).heap other).drainState =
      (state.heap other).drainState := by
    intro other
    rw [heap]
    split
    · next here => rw [here, (addCount_fields kind change _).2.1]
    · rfl
  have found : state.records.get? (state.heap record).invocationId = some record := by
    simpa [Coordinator.registered] using registered
  constructor
  · intro invocationId other inside
    obtain ⟨below, named, latest, bare, undrained⟩ := sound.records invocationId other inside
    exact ⟨below, (ids other).trans named, recount_newest latest, bare, undrained⟩
  · intro invocationId tombstone inside
    obtain ⟨below, named, latest, event⟩ := sound.tombstones invocationId tombstone inside
    exact ⟨below, (ids _).trans named, recount_newest latest, event⟩
  · intro other otherKind
    have old := sound.counts other otherKind
    show ((state.update record (addCount kind change)).heap other).count otherKind = _
    rw [counts, heap]
    by_cases here : other = record
    · subst here
      simp only [if_true, (addCount_fields kind change _).2.2.2, true_and, old]
    · simp only [here, if_false, false_and, Int.add_zero, old]
  · intro permit inside
    obtain ⟨below, stays⟩ := known permit inside
    refine ⟨below, fun unreleased => ?_⟩
    have old := stays unreleased
    simp only [Coordinator.registered, ids] at old ⊢
    exact old
  · intro other
    show ((state.update record (addCount kind change)).heap other).drainState = _ ↔ _
    rw [drains]
    exact sound.hits other
  · exact sound.bounded
  · intro other snapshot event
    obtain ⟨drainState, marked, shown, zero⟩ := sound.drained other snapshot event
    refine ⟨drainState, (drains other).trans marked, shown, ?_⟩
    show ((state.update record (addCount kind change)).heap other).activeCount = 0
    rw [heap, if_neg, zero]
    rintro rfl
    exact (sound.records _ _ found).2.2.2.2 snapshot event
  · exact sound.resolved
  · exact sound.aborted
  · exact settled
  · intro frame member
    have valid := sound.frames frame member
    cases frame with
    | shutdownSignal => exact valid
    | transition other caller => exact ⟨valid.1, (drains other).trans valid.2.1, valid.2.2⟩

theorem recount_advances (kind : PermitKind) (change : Int) (permits : List Permit) :
    Advances state { state.update record (addCount kind change) with permits := permits } := by
  have counted : Advances state (state.update record (addCount kind change)) :=
    advances_update state record (fun fields => (addCount_fields kind change fields).1)
      (fun fields left => by rw [(addCount_fields kind change fields).2.2.1]; exact left)
  exact counted.trans (advances_same rfl rfl id)

theorem admitPermit_sound (sound : Sound state) (input : InvocationInput) (kind : PermitKind) :
    Sound (state.admitPermit options now input kind).1 ∧
      Advances state (state.admitPermit options now input kind).1 := by
  unfold admitPermit
  split
  · exact ⟨sound, .refl state⟩
  · split
    · exact ⟨sound, .refl state⟩
    · next open' =>
        split
        · next looks =>
            obtain ⟨kept, moved, _⟩ := lookup_sound sound looks
            exact ⟨kept, moved⟩
        · next looks =>
            obtain ⟨kept, moved, _⟩ := lookup_sound sound looks
            exact ⟨kept, moved⟩
        · next looked record looks =>
            obtain ⟨_, _, holds, _⟩ := lookup_sound sound looks
            obtain ⟨rfl, found⟩ := holds record rfl
            split
            · exact ⟨sound, .refl _⟩
            · have registered := sound.registered_of_get found
              have inside := (sound.registered_known registered).1
              refine ⟨sound.recount registered ?_ ?_ ?_, recount_advances ..⟩
              · intro other otherKind
                rw [held_append]
                by_cases same : other = record ∧ kind = otherKind
                · rw [if_pos ⟨same.1.symm, same.2, rfl⟩, if_pos same]
                  omega
                · rw [if_neg (fun both => same ⟨both.1.symm, both.2.1⟩), if_neg same]
                  omega
              · intro permit member
                rcases List.mem_append.mp member with old | new
                · exact sound.permits permit old
                · rw [List.mem_singleton.mp new]
                  exact ⟨inside, fun _ => registered⟩
              · intro settled
                exact absurd (sound.aborted (.inl settled)) open'

theorem release_sound (sound : Sound state) (index : Nat) :
    Sound (state.release options now index) ∧ Advances state (state.release options now index) := by
  unfold release
  split
  · exact ⟨sound, .refl state⟩
  · next permit located =>
      split
      · exact ⟨sound, .refl state⟩
      · next open' =>
          rw [Bool.not_eq_true] at open'
          have member := List.mem_of_getElem? located
          obtain ⟨inside, registered⟩ := sound.permits permit member
          have registered := registered open'
          have newest := (sound.registered_known registered).2.1
          have counted := @Sound.recount state permit.record sound permit.kind (-1)
            (state.permits.modify index fun permit => { permit with released := true }) registered
            (by
              intro other otherKind
              rw [held_release located open' other otherKind]
              by_cases same : permit.record = other ∧ permit.kind = otherKind
              · rw [if_pos same, if_pos ⟨same.1.symm, same.2⟩]
                omega
              · rw [if_neg same, if_neg (fun both => same ⟨both.1.symm, both.2⟩)]
                omega)
            (by
              intro changed within
              obtain ⟨position, place⟩ := List.mem_iff_getElem?.mp within
              rw [List.getElem?_modify, Option.map_eq_map, Option.map_eq_some_iff] at place
              obtain ⟨old, before, same⟩ := place
              have kept := sound.permits old (List.mem_of_getElem? before)
              subst same
              split
              · exact ⟨kept.1, fun unreleased => (nomatch unreleased)⟩
              · exact kept)
            (by
              intro settled
              have all := sound.settled settled permit member
              rw [open'] at all
              cases all)
          exact ⟨maybeDrainRecord_sound counted inside (recount_newest newest),
            (recount_advances ..).trans maybeDrainRecord_advances⟩

theorem calls_sound (sound : Sound state) (calls : CallId) : Sound { state with calls := calls } :=
  ⟨sound.records, sound.tombstones, sound.counts, sound.permits, sound.hits, sound.bounded,
    sound.drained, sound.resolved, sound.aborted, sound.settled, sound.frames⟩

/-- A call on a tombstone resolves with the snapshot of its record. -/
theorem resolve_sound (sound : Sound state) {tombstone : Tombstone} (call : CallId)
    (drained : .drained tombstone.record tombstone.snapshot ∈ state.history) :
    Sound { state with
      calls := state.calls + 1
      resolved := state.resolved ++ [⟨call, tombstone.record, tombstone.snapshot⟩] } := by
  refine { calls_sound sound (state.calls + 1) with resolved := ?_ }
  intro resolution member
  rcases List.mem_append.mp member with old | new
  · exact sound.resolved resolution old
  · rw [List.mem_singleton.mp new]
    exact drained

theorem cancel_sound (sound : Sound state) (input : InvocationInput) :
    Sound (state.cancel options now input).1 ∧ Advances state (state.cancel options now input).1 := by
  unfold cancel
  split
  · exact ⟨sound, .refl state⟩
  · split
    · next looks =>
        obtain ⟨kept, moved, _⟩ := lookup_sound sound looks
        exact ⟨kept, moved⟩
    · next looked tombstone looks =>
        obtain ⟨kept, moved, _, tombed⟩ := lookup_sound sound looks
        exact ⟨resolve_sound kept _ (tombed tombstone rfl).2, moved.trans (advances_same rfl rfl id)⟩
    · next looked record looks =>
        obtain ⟨_, _, holds, _⟩ := lookup_sound sound looks
        obtain ⟨rfl, found⟩ := holds record rfl
        obtain ⟨kept, moved⟩ := @transitionToCancel_sound options now
          { looked with calls := looked.calls + 1 } record (.cancel looked.calls)
          (calls_sound sound _) (sound.registered_of_get found) .cancel
          (fun _ none => (nomatch none))
        refine ⟨kept, Advances.trans ?_ moved⟩
        exact advances_same rfl rfl id

/-- A finish marks a registered record that is not cancelled. -/
theorem markFinished_sound (sound : Sound state) (registered : state.registered record = true)
    (uncancelled : (state.heap record).drainState ≠ some .cancelled) :
    Sound (state.update record fun fields =>
      { fields with state := .cancelling, drainState := some .finished }) := by
  have found : state.records.get? (state.heap record).invocationId = some record := by
    simpa [Coordinator.registered] using registered
  apply sound.change
  · intro other
    rw [Function.update_apply]
    split
    · next here => rw [here]
    · rfl
  · intro other kind
    rw [Function.update_apply]
    split
    · next here =>
        rw [here]
        cases kind <;> rfl
    · rfl
  · intro other
    rw [Function.update_apply]
    split
    · next here =>
        rw [here, ← sound.hits]
        simp [uncancelled]
    · exact sound.hits other
  · exact sound.bounded
  · exact fun _ _ => Iff.rfl
  · intro other snapshot event
    rw [Function.update_apply, if_neg]
    rintro rfl
    exact (sound.records _ _ found).2.2.2.2 snapshot event
  · intro other cancelled
    rw [Function.update_apply, if_neg, cancelled]
    rintro rfl
    exact uncancelled cancelled

/-- A record that is marked and drained settles its call. -/
theorem drainCall_sound (sound : Sound state) (registered : state.registered record = true)
    {drainState : InvocationTerminalState}
    (marked : (state.heap record).drainState = some drainState) (call : CallId) :
    Sound ((state.maybeDrainRecord options now record).1.settleCall record call
        (state.maybeDrainRecord options now record).2) ∧
      Advances state ((state.maybeDrainRecord options now record).1.settleCall record call
        (state.maybeDrainRecord options now record).2) := by
  obtain ⟨inside, newest, _⟩ := sound.registered_known registered
  exact ⟨settleCall_sound (maybeDrainRecord_sound sound inside newest)
    (maybeDrainRecord_settles sound marked),
    maybeDrainRecord_advances.trans (settleCall_advances _ _)⟩

theorem finish_sound (sound : Sound state) (input : InvocationInput) :
    Sound (state.finish options now input).1 ∧ Advances state (state.finish options now input).1 := by
  unfold finish
  split
  · exact ⟨sound, .refl state⟩
  · split
    · next looks =>
        obtain ⟨kept, moved, _⟩ := lookup_sound sound looks
        exact ⟨kept, moved⟩
    · next looked tombstone looks =>
        obtain ⟨kept, moved, _, tombed⟩ := lookup_sound sound looks
        exact ⟨resolve_sound kept _ (tombed tombstone rfl).2, moved.trans (advances_same rfl rfl id)⟩
    · next looked record looks =>
        obtain ⟨_, _, holds, _⟩ := lookup_sound sound looks
        obtain ⟨rfl, found⟩ := holds record rfl
        have called := clearLeaseTimer_sound (calls_sound sound (looked.calls + 1)) record
        have named : ((clearLeaseTimer { looked with calls := looked.calls + 1 }
            record).heap record).invocationId = (looked.heap record).invocationId := by
          rw [clearLeaseTimer, update_heap, if_pos rfl]
        have registered : (clearLeaseTimer { looked with calls := looked.calls + 1 }
            record).registered record = true := by
          rw [Coordinator.registered, named]
          exact sound.registered_of_get found
        have moved : Advances looked (clearLeaseTimer { looked with calls := looked.calls + 1 }
            record) := by
          apply Advances.trans _ (clearLeaseTimer_advances record)
          exact advances_same rfl rfl id
        simp only
        split
        · next cancelled =>
            obtain ⟨kept, settles⟩ := @drainCall_sound options now _ record called registered _
              cancelled looked.calls
            exact ⟨kept, moved.trans settles⟩
        · next uncancelled =>
            have finished := markFinished_sound called registered uncancelled
            have advanced : Advances (clearLeaseTimer { looked with calls := looked.calls + 1 } record)
                ((clearLeaseTimer { looked with calls := looked.calls + 1 } record).update record
                  fun fields => { fields with state := .cancelling, drainState := some .finished }) :=
              advances_update _ record (fun _ => rfl) (fun _ _ => by simp)
            obtain ⟨kept, settles⟩ := @drainCall_sound options now _ record finished
              (by
                rw [Coordinator.registered, update_heap, if_pos rfl]
                rw [Coordinator.registered] at registered
                exact registered) .finished (by rw [update_heap, if_pos rfl]) looked.calls
            exact ⟨kept, (moved.trans advanced).trans settles⟩

theorem snapshot_sound (sound : Sound state) (invocationId : InvocationId) :
    Sound (state.snapshot options now invocationId).1 ∧
      Advances state (state.snapshot options now invocationId).1 := by
  unfold snapshot
  split
  · exact ⟨sound, .refl state⟩
  · split <;> next looks =>
      obtain ⟨kept, moved, _⟩ := lookup_sound sound looks
      exact ⟨kept, moved⟩

theorem Sound.row_registered (sound : Sound state) (inside : record ∈ state.records.rows) :
    state.registered record = true := by
  obtain ⟨⟨invocationId, _⟩, entry, rfl⟩ := List.mem_map.mp inside
  exact sound.registered_of_get (KeyedTable.get?_eq_some.mpr entry)

theorem began_sound (sound : Sound state) :
    Sound { state with shuttingDown := true, shutdownAborted := true } := by
  refine { sound with aborted := fun _ => rfl, frames := ?_ }
  intro frame member
  have valid := sound.frames frame member
  cases frame with
  | shutdownSignal => rfl
  | transition record caller =>
      exact ⟨valid.1, valid.2.1, fun rest same => ⟨rfl, (valid.2.2 rest same).2⟩⟩

theorem shutdown_sound (sound : Sound state) :
    Sound (state.shutdown options now) ∧ Advances state (state.shutdown options now) := by
  unfold shutdown
  split
  · exact ⟨sound, .refl state⟩
  · have began := began_sound sound
    have moved : Advances state { state with shuttingDown := true, shutdownAborted := true } :=
      advances_same rfl rfl fun _ => rfl
    simp only
    split
    · obtain ⟨kept, looped⟩ := @shutdownLoop_sound options now _ state.records.rows began rfl
        fun other inside => began.registered_known (began.row_registered inside)
      exact ⟨kept, moved.trans looped⟩
    · refine ⟨{ began with frames := ?_ }, advances_same rfl rfl fun _ => rfl⟩
      intro frame member
      rcases List.mem_cons.mp member with rfl | old
      · rfl
      · exact began.frames frame old

theorem leaseTimer_sound (sound : Sound state) (record : RecordRef) :
    Sound (state.leaseTimer options now record) ∧
      Advances state (state.leaseTimer options now record) := by
  have fired := clearLeaseTimer_sound sound record
  have moved := @clearLeaseTimer_advances state record
  unfold leaseTimer
  simp only
  split
  · exact ⟨fired, moved⟩
  · next active =>
      simp only [Bool.or_eq_true, Bool.not_eq_true', not_or, Bool.not_eq_false] at active
      split
      · exact ⟨scheduleLease_sound fired record, moved.trans (scheduleLease_advances record)⟩
      · obtain ⟨kept, cancelled⟩ := @transitionToCancel_sound options now _ record .lease fired
          active.1 .lease (fun _ none => (nomatch none))
        exact ⟨kept, moved.trans cancelled⟩

theorem reap_sound (sound : Sound state) : Sound (state.reap now) := by
  apply scheduleReaper_sound
  refine { sound with records := ?_, tombstones := ?_ }
  · intro invocationId record found
    obtain ⟨inside, named, newest, bare, undrained⟩ := sound.records invocationId record found
    refine ⟨inside, named, newest, ?_, undrained⟩
    rw [Option.eq_none_iff_forall_ne_some]
    intro tombstone kept
    rw [(KeyedTable.get?_retain.mp kept).1] at bare
    cases bare
  · intro invocationId tombstone found
    exact sound.tombstones invocationId tombstone (KeyedTable.get?_retain.mp found).1

theorem resume_sound (sound : Sound state)
    (pending : ∀ frame ∈ state.stack.head?, ∀ record ∈ frame.unsettled, state.Settleable record) :
    Sound (state.resume options now) ∧ Advances state (state.resume options now) := by
  unfold resume
  split
  · exact ⟨sound, .refl state⟩
  · next rest stacked =>
      have popped : Sound { state with stack := rest } :=
        { sound with frames := fun frame member =>
            sound.frames frame (stacked ▸ List.mem_cons_of_mem _ member) }
      have aborted : state.shutdownAborted = true :=
        sound.frames .shutdownSignal (stacked ▸ List.mem_cons_self ..)
      obtain ⟨kept, moved⟩ := @shutdownLoop_sound options now _ state.records.rows popped aborted
        fun other inside => popped.registered_known (popped.row_registered inside)
      refine ⟨kept, Advances.trans ?_ moved⟩
      exact advances_same rfl rfl id
  · next record caller rest stacked =>
      have popped : Sound { state with stack := rest } :=
        { sound with frames := fun frame member =>
            sound.frames frame (stacked ▸ List.mem_cons_of_mem _ member) }
      have valid := sound.frames (.transition record caller) (stacked ▸ List.mem_cons_self ..)
      have settleable := pending (.transition record caller) (by rw [stacked]; rfl)
      obtain ⟨kept, moved⟩ := @completeTransition_sound options now _ record caller popped valid
        settleable
      refine ⟨kept, Advances.trans ?_ moved⟩
      exact advances_same rfl rfl id

/-- Every step whose listeners are kept keeps the invariant and takes nothing back. -/
theorem coordinatorAct_sound {action : CoordinatorAction} {after : Coordinator}
    (sound : Sound state) (kept : ListenersKept state action)
    (acts : coordinatorAct options state action = some after) :
    Sound after ∧ Advances state after := by
  cases action with
  | start now input =>
      cases acts
      exact start_sound sound input
  | heartbeat now input =>
      cases acts
      exact heartbeat_sound sound input
  | admitWork now input =>
      cases acts
      exact admitPermit_sound sound input .work
  | acquireCommit now input =>
      cases acts
      exact admitPermit_sound sound input .commit
  | release now index =>
      cases acts
      exact release_sound sound index
  | cancel now input =>
      cases acts
      exact cancel_sound sound input
  | finish now input =>
      cases acts
      exact finish_sound sound input
  | snapshot now invocationId =>
      cases acts
      exact snapshot_sound sound invocationId
  | shutdown now =>
      cases acts
      exact shutdown_sound sound
  | leaseTimer now record =>
      simp only [coordinatorAct] at acts
      split at acts
      · cases acts
        exact leaseTimer_sound sound record
      · cases acts
  | reaperTimer now =>
      simp only [coordinatorAct] at acts
      split at acts
      · cases acts
        exact ⟨reap_sound sound, advances_same rfl rfl id⟩
      · cases acts
  | abortWait record call =>
      simp only [coordinatorAct] at acts
      split at acts
      · cases acts
        exact ⟨sound.update record fun _ => ⟨rfl, rfl, rfl, rfl⟩,
          advances_update state record (fun _ => rfl) (fun _ left => left)⟩
      · cases acts
  | resume now =>
      simp only [coordinatorAct] at acts
      split at acts
      · cases acts
      · cases acts
        exact resume_sound sound kept

end Calls

end Coordinator

end Lcm.Daemon
