import Lcm.Daemon.InvocationSafety

namespace Lcm.Daemon
open Text

/-- What a drained invocation promises in one state of its coordinator. -/
structure DrainSound (options : CoordinatorOptions) (state : Coordinator) : Prop where
  closed : ∀ now input target, normalizeTarget options input = .ok target →
    ((∃ record, state.records.get? target.invocationId = some record ∧
        (state.heap record).state ≠ .active) ∨
      ∃ tombstone, state.tombstones.get? target.invocationId = some tombstone) →
    (∃ failure, (state.admitWork options now input).2 = .error failure) ∧
      ∃ failure, (state.acquireCommit options now input).2 = .error failure
  resolved : ∀ resolution ∈ state.resolved,
    .drained resolution.record resolution.snapshot ∈ state.history ∧
      (∃ terminal, resolution.snapshot.state = .terminal terminal) ∧
      ∀ permit ∈ state.permits, permit.record = resolution.record → permit.released = true
  counts : ∀ record, 0 ≤ (state.heap record).workCount ∧ 0 ≤ (state.heap record).commitCount
  terminal : ∀ record snapshot, .drained record snapshot ∈ state.history →
    (snapshot.state = .terminal .cancelled ↔ hitBeforeDrain record state.history = true) ∧
      (snapshot.state = .terminal .finished ↔ hitBeforeDrain record state.history = false)
  tombstones : ∀ invocationId tombstone, state.tombstones.get? invocationId = some tombstone →
    .drained tombstone.record tombstone.snapshot ∈ state.history ∧
      (state.heap tombstone.record).invocationId = invocationId ∧ state.Newest tombstone.record
  quiet : state.settled ≠ [] → ∀ permit ∈ state.permits, permit.released = true
  refused : state.shuttingDown = true →
    ∀ now input, ∃ failure, (state.start options now input).2 = .error failure

namespace Coordinator

variable {options : CoordinatorOptions} {state : Coordinator}

/-- No permit is issued for a target whose lookup does not find an active record. -/
theorem admitPermit_refused {now : Int} {input : InvocationInput} {target : InvocationTarget}
    (targets : normalizeTarget options input = .ok target)
    (inactive : ∀ record, state.records.get? target.invocationId = some record →
      (state.heap record).state ≠ .active) (kind : PermitKind) :
    ∃ failure, (state.admitPermit options now input kind).2 = .error failure := by
  unfold admitPermit
  rw [targets]
  simp only
  split
  · exact ⟨_, rfl⟩
  · unfold lookup
    split
    · next looks =>
        split at looks
        · cases looks
        · split at looks <;> cases looks <;> exact ⟨_, rfl⟩
    · exact ⟨_, rfl⟩
    · next looked record looks =>
        split at looks
        · next found =>
            cases looks
            rw [if_pos (inactive _ found)]
            exact ⟨_, rfl⟩
        · split at looks <;> cases looks

theorem start_refused (shuttingDown : state.shuttingDown = true) (now : Int)
    (input : InvocationInput) : ∃ failure, (state.start options now input).2 = .error failure := by
  unfold start
  split
  · exact ⟨_, rfl⟩
  · rw [if_pos shuttingDown]
    exact ⟨_, rfl⟩

/-- The invariant gives the promises. -/
theorem Sound.drainSound (sound : Sound state) : DrainSound options state where
  closed := by
    intro now input target targets gone
    have inactive : ∀ record, state.records.get? target.invocationId = some record →
        (state.heap record).state ≠ .active := by
      intro record found
      rcases gone with ⟨other, held, left⟩ | ⟨tombstone, buried⟩
      · rw [held] at found
        cases found
        exact left
      · rw [(sound.records _ _ found).2.2.2.1] at buried
        cases buried
    exact ⟨admitPermit_refused targets inactive .work, admitPermit_refused targets inactive .commit⟩
  resolved := by
    intro resolution member
    have event := sound.resolved resolution member
    obtain ⟨drainState, _, shown, zero⟩ := sound.drained _ _ event
    refine ⟨event, ⟨drainState, shown⟩, fun permit inside own => ?_⟩
    by_contra unreleased
    have positive := sound.active_pos inside (by simpa using unreleased)
    rw [own, zero] at positive
    exact Int.lt_irrefl _ positive
  counts := by
    intro record
    have work := sound.counts record .work
    have commit := sound.counts record .commit
    simp only [InvocationRecord.count] at work commit
    omega
  terminal := by
    intro record snapshot event
    obtain ⟨drainState, marked, shown, _⟩ := sound.drained record snapshot event
    rw [shown, ← Bool.not_eq_true, ← sound.hits record, marked]
    cases drainState <;> simp
  tombstones := by
    intro invocationId tombstone found
    obtain ⟨_, named, newest, event⟩ := sound.tombstones invocationId tombstone found
    exact ⟨event, named, newest⟩
  quiet := sound.settled
  refused := fun shuttingDown => start_refused shuttingDown

end Coordinator

/-- In every run whose calls go on only while the records that they still have to cancel can be
settled, each state keeps the promises of a drain and each step advances. -/
theorem invocation_drain_sound {options : CoordinatorOptions} {state : Coordinator}
    (reached : ((coordinatorSystem options).restrict ListenersKept).Reachable state) :
    DrainSound options state ∧ ∀ action after, ListenersKept state action →
      coordinatorAct options state action = some after → Coordinator.Advances state after := by
  have sound : state.Sound := by
    apply StepSystem.Reachable.invariant _ _ reached
    · rintro _ rfl
      exact Coordinator.sound_empty
    · rintro before action after _ sound ⟨kept, acts⟩
      exact (Coordinator.coordinatorAct_sound sound kept acts).1
  exact ⟨sound.drainSound, fun action after kept acts =>
    (Coordinator.coordinatorAct_sound sound kept acts).2⟩

def sampleOptions : CoordinatorOptions where
  daemonInstanceId := js "00000000-0000-4000-8000-000000000000"
  leaseMs := 30000
  tombstoneTtlMs := none
  maxTombstones := 1024

/-- A request for the invocation with the given last digit. -/
def sampleRequest (digit : String) : InvocationInput where
  isObject := true
  invocationId := .string (js "00000000-0000-4000-8000-00000000000" ++ js digit)
  invocation_id := .undefined
  command := .string (js "compact")
  daemonInstanceId := .string sampleOptions.daemonInstanceId
  daemon_instance_id := .undefined

/-- A cancel whose abort listeners release the last permit, and a shutdown. -/
def sampleCancelActions : List CoordinatorAction :=
  [.start 0 (sampleRequest "1"), .admitWork 1 (sampleRequest "1"), .cancel 2 (sampleRequest "1"),
    .release 3 0, .resume 4, .finish 5 (sampleRequest "1"), .shutdown 6, .resume 7]

def sampleCancelRun : Option Coordinator :=
  sampleCancelActions.foldlM (fun before action =>
    if ListenersKept before action then coordinatorAct sampleOptions before action else none) .empty

theorem invocation_drain_sound_sample : ∃ state, sampleCancelRun = some state ∧
    state.resolved.length = 2 ∧ state.settled = [0] ∧ DrainSound sampleOptions state := by
  have ran : (sampleCancelRun.any fun state =>
      state.resolved.length = 2 && state.settled = [0]) = true := by decide
  obtain ⟨state, run, facts⟩ := (Option.any_eq_true ..).mp ran
  simp only [Bool.and_eq_true, decide_eq_true_eq] at facts
  refine ⟨state, run, facts.1, facts.2, (invocation_drain_sound ?_).1⟩
  exact StepSystem.Reachable.run_restrict (fun _ _ _ acts => acts) (.start rfl) run

/-- While a shutdown aborts the first invocation, its listeners finish the second one. -/
def sampleShutdownActions : List CoordinatorAction :=
  [.start 0 (sampleRequest "1"), .start 1 (sampleRequest "2"), .admitWork 2 (sampleRequest "1"),
    .shutdown 3, .resume 4, .finish 5 (sampleRequest "2"), .resume 6, .resume 7]

def sampleShutdownRun : Option Coordinator :=
  sampleShutdownActions.foldlM (coordinatorAct sampleOptions) .empty

/-- The second invocation resolves as finished, and its tombstone says that it was cancelled. -/
theorem shutdown_overwrites_finished : ∃ state,
    (coordinatorSystem sampleOptions).Reachable state ∧
      (∃ resolution ∈ state.resolved, resolution.record = 1 ∧
        resolution.snapshot.state = .terminal .finished) ∧
      (∃ tombstone ∈ state.tombstones.rows, tombstone.record = 1 ∧
        tombstone.snapshot.state = .terminal .cancelled) ∧
      ¬ DrainSound sampleOptions state := by
  have ran : (sampleShutdownRun.any fun state =>
      (state.resolved.any fun resolution => resolution.record = 1 &&
        resolution.snapshot.state = .terminal .finished) &&
      (state.tombstones.rows.any fun tombstone => tombstone.record = 1 &&
        tombstone.snapshot.state = .terminal .cancelled) &&
      !hitBeforeDrain 1 state.history) = true := by decide
  obtain ⟨state, run, facts⟩ := (Option.any_eq_true ..).mp ran
  simp only [Bool.and_eq_true, List.any_eq_true, decide_eq_true_eq, Bool.not_eq_true'] at facts
  obtain ⟨⟨resolves, buries⟩, unhit⟩ := facts
  refine ⟨state, ?_, resolves, buries, ?_⟩
  · exact StepSystem.Reachable.run (fun _ _ _ acts => acts) (.start rfl) run
  · intro promised
    obtain ⟨tombstone, inside, own, cancelled⟩ := buries
    obtain ⟨⟨invocationId, stored⟩, entry, rfl⟩ := List.mem_map.mp inside
    obtain ⟨event, _⟩ := promised.tombstones invocationId stored
      (KeyedTable.get?_eq_some.mpr entry)
    have hit := (promised.terminal _ _ event).1.mp cancelled
    rw [own, unhit] at hit
    cases hit

end Lcm.Daemon
