import Lcm.Compaction.SweepRules

namespace Lcm.Compaction
open Text Store

/-- Later passes are recorded below the earlier ones, and strictly below those of their own loop. -/
def CommittedPass.Precedes (earlier later : CommittedPass) : Prop :=
  later.recorded ≤ earlier.recorded ∧ (earlier.condensed = later.condensed → later.recorded < earlier.recorded)

/-- The passes that a sweep may have committed at any time. -/
structure Bounded (world : SweepWorld) : Prop where
  ordered : world.passes.Pairwise CommittedPass.Precedes
  counted : world.passes = [] ∨ ∃ tokens, world.tokensBefore = some tokens ∧ world.passes.length ≤ tokens + 2

/-- Others change the tables, the summarizer and the clock, but not what the sweep has done. -/
def sweepRely : Rely SweepWorld where
  may before after := after.tokensBefore = before.tokensBefore ∧ after.passes = before.passes
  refl _ := ⟨rfl, rfl⟩
  trans _ _ _ first second := ⟨second.1.trans first.1, second.2.trans first.2⟩
  always := Bounded

theorem Bounded.later {before after : SweepWorld} (bounded : Bounded before)
    (moved : sweepRely.may before after) : Bounded after := by
  obtain ⟨read, same⟩ := moved
  constructor
  · rw [same]
    exact bounded.ordered
  · rw [read, same]
    exact bounded.counted

theorem sweepRely_events : AllowsEvents sweepRely :=
  fun _ _ _ _ always _ => ⟨⟨rfl, rfl⟩, always.ordered, always.counted⟩

/-- A loop of the sweep is about to look for its next chunk. -/
structure InPhase (condensed : Bool) (tokens previousTokens : Nat) (world : SweepWorld) : Prop where
  read : world.tokensBefore = some tokens
  counted : world.passes.length + previousTokens ≤ tokens + condensed.toNat
  above : ∀ pass ∈ world.passes, previousTokens ≤ pass.recorded ∧
    (pass.condensed = condensed → previousTokens < pass.recorded)
  kinds : condensed = false → ∀ pass ∈ world.passes, pass.condensed = false

/-- A loop of the sweep has committed a pass. -/
structure AfterPass (condensed : Bool) (tokens previousTokens : Nat) (world : SweepWorld) : Prop where
  read : world.tokensBefore = some tokens
  counted : world.passes.length + previousTokens ≤ tokens + condensed.toNat + 1
  above : ∀ pass ∈ world.passes, previousTokens ≤ pass.recorded
  kinds : condensed = false → ∀ pass ∈ world.passes, pass.condensed = false

section Phases

variable {condensed : Bool} {tokens previousTokens : Nat} {world : SweepWorld}

theorem InPhase.stable (condensed : Bool) (tokens previousTokens : Nat) :
    sweepRely.Stable (InPhase condensed tokens previousTokens) := by
  rintro before after ⟨read, same⟩ phase
  constructor
  · rw [read]
    exact phase.read
  · rw [same]
    exact phase.counted
  · rw [same]
    exact phase.above
  · rw [same]
    exact phase.kinds

theorem AfterPass.stable (condensed : Bool) (tokens previousTokens : Nat) :
    sweepRely.Stable (AfterPass condensed tokens previousTokens) := by
  rintro before after ⟨read, same⟩ phase
  constructor
  · rw [read]
    exact phase.read
  · rw [same]
    exact phase.counted
  · rw [same]
    exact phase.above
  · rw [same]
    exact phase.kinds

/-- A loop goes on only below everything that it has recorded. -/
theorem AfterPass.next (after : AfterPass condensed tokens previousTokens world) {passTokensAfter : Nat}
    (fewer : passTokensAfter < previousTokens) : InPhase condensed tokens passTokensAfter world := by
  constructor
  · exact after.read
  · have := after.counted
    omega
  · intro pass inside
    have := after.above pass inside
    exact ⟨by omega, fun _ => by omega⟩
  · exact after.kinds

/-- The second loop takes over from the first one. -/
theorem InPhase.condense (phase : InPhase false tokens previousTokens world) :
    InPhase true tokens previousTokens world := by
  constructor
  · exact phase.read
  · exact Nat.le_succ_of_le phase.counted
  · intro pass inside
    refine ⟨(phase.above pass inside).1, fun same => ?_⟩
    rw [phase.kinds rfl pass inside] at same
    cases same
  · exact nofun

theorem AfterPass.condense (after : AfterPass false tokens previousTokens world) :
    InPhase true tokens previousTokens world := by
  constructor
  · exact after.read
  · exact after.counted
  · intro pass inside
    refine ⟨after.above pass inside, fun same => ?_⟩
    rw [after.kinds rfl pass inside] at same
    cases same
  · exact nofun

/-- A commit counts one pass against the recorded tokens. -/
theorem InPhase.commit (phase : InPhase condensed tokens previousTokens world) (escalation : Escalation)
    (pending : PendingCommit) :
    sweepRely.Ensures (fun _ => AfterPass condensed tokens previousTokens) (fun _ _ => True)
      (commit condensed previousTokens escalation pending) world := by
  apply Rely.ensures_act
  intro later moved always
  have phase := InPhase.stable _ _ _ world later moved phase
  split
  · exact ⟨always, nofun, fun _ _ _ _ => trivial⟩
  · next tables committed =>
      have counted := phase.counted
      have small : condensed.toNat ≤ 1 := Bool.toNat_le condensed
      refine ⟨⟨?_, ?_⟩, ?_, fun _ _ _ _ => trivial⟩
      · refine List.pairwise_append.mpr ⟨always.ordered, List.pairwise_singleton _ _, ?_⟩
        intro earlier inside added same
        rw [List.mem_singleton.mp same]
        exact phase.above earlier inside
      · refine .inr ⟨tokens, phase.read, ?_⟩
        rw [List.length_append, List.length_singleton]
        omega
      · intro _ _ last further _
        apply AfterPass.stable _ _ _ _ last further
        constructor
        · exact phase.read
        · rw [List.length_append, List.length_singleton]
          omega
        · intro pass inside
          rcases List.mem_append.mp inside with old | new
          · exact (phase.above pass old).1
          · rw [List.mem_singleton.mp new]
            exact le_refl _
        · intro leaf pass inside
          rcases List.mem_append.mp inside with old | new
          · exact phase.kinds leaf pass old
          · rw [List.mem_singleton.mp new]
            exact leaf

/-- The loops of a sweep count their passes against the tokens that it read first. -/
theorem loopRule (condensed : Bool) (tokens : Nat) :
    LoopRule sweepRely condensed (InPhase condensed tokens) (AfterPass condensed tokens) where
  stableBefore := InPhase.stable condensed tokens
  stableAfter := AfterPass.stable condensed tokens
  commits _ escalation pending _ _ phase := phase.commit escalation pending
  next _ _ _ fewer after := after.next fewer

end Phases

section Programs

variable {environment : Environment} {config : CompactionConfig} {conversationId : ConversationId}

/-- A sweep that has read its first count may commit so many passes. -/
theorem ensures_readTokensBefore {world : SweepWorld} (none : world.passes = []) :
    sweepRely.Ensures (fun tokens => InPhase false tokens tokens) (fun _ _ => True) readTokensBefore
      world := by
  apply Rely.ensures_act
  intro later moved _
  have empty : later.passes = [] := moved.2.trans none
  refine ⟨⟨?_, .inl empty⟩, ?_, fun _ _ _ _ => trivial⟩
  · simp only [empty]
    exact List.Pairwise.nil
  · intro tokens given last further _
    cases given
    apply InPhase.stable _ _ _ _ last further
    constructor
    · rfl
    · simp [empty]
    · simp [empty]
    · simp [empty]

theorem ensures_fullSweep_bounded (input : CompactionInput) {world : SweepWorld}
    (none : world.passes = []) :
    sweepRely.Ensures (fun _ _ => True) (fun _ _ => True)
      (compactFullSweep environment config conversationId input) world := by
  rw [compactFullSweep]
  apply (ensures_readTokensBefore none).bind
  intro tokensBefore later phase _
  have stable := InPhase.stable false tokensBefore tokensBefore
  apply (stable.ask phase _).bind
  intro shouldCompact later phase _
  split
  · exact fun _ _ _ => trivial
  · apply (stable.ask phase _).bind
    intro contextItems later phase _
    split
    · exact fun _ _ _ => trivial
    · apply ((loopRule false tokensBefore).leafPhase sweepRely_events (InPhase.stable true tokensBefore)
        (fun _ _ => InPhase.condense) (fun _ _ => AfterPass.condense) phase input true _ _).bind
      rintro ⟨previousTokens, progress⟩ later phase _
      apply ((loopRule true tokensBefore).condensedPhase sweepRely_events (fun _ _ _ => id)
        (fun _ _ _ => trivial) (fun _ _ _ => trivial) phase input progress).bind
      intro progress later _ _
      have counted : sweepRely.Ensures (fun _ _ => True) (fun _ _ => True) readTokenCount later :=
        Rely.ensures_ask (fun _ _ _ _ _ _ => trivial) fun _ _ _ _ => trivial
      exact counted.bind fun _ _ _ _ _ _ _ => trivial

end Programs

/-- Whatever others do in between, a sweep ends, and it commits at most two passes more than the tokens that
it read first; each pass of a loop is recorded below all earlier ones. -/
theorem compactFullSweep_bounded (environment : Environment) (config : CompactionConfig)
    (conversationId : ConversationId) (input : CompactionInput) :
    (∀ solo, (Solo.system sweepRely.may (fun world => world.tokensBefore = none ∧ world.passes = [])
        (compactFullSweep environment config conversationId input)).Reachable solo →
      solo.world.passes.Pairwise CommittedPass.Precedes ∧
        (solo.world.passes = [] ∨ ∃ tokens, solo.world.tokensBefore = some tokens ∧
          solo.world.passes.length ≤ tokens + 2)) ∧
      ∀ answers, ∃ calls,
        ((compactFullSweep environment config conversationId input).after answers calls).Ended := by
  constructor
  · intro solo reached
    have ensured : sweepRely.always solo.world ∧
        sweepRely.Ensures (fun _ _ => True) (fun _ _ => True) solo.process solo.world := by
      apply Solo.reachable_ensures _ _ reached
      · rintro world ⟨_, none⟩
        refine ⟨⟨?_, .inl none⟩, ensures_fullSweep_bounded input none⟩
        rw [none]
        exact List.Pairwise.nil
      · exact fun world later always moved => ⟨moved, Bounded.later always moved⟩
    exact ⟨ensured.1.ordered, ensured.1.counted⟩
  · intro answers
    exact (compactFullSweep environment config conversationId input).exists_ended answers

end Lcm.Compaction
