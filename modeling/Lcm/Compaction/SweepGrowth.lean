import Lcm.Compaction.Lossless
import Lcm.Compaction.SweepRules

namespace Lcm.Compaction
open Text Store

/-- All passes of a sweep so far save. -/
def AllSave (world : SweepWorld) : Prop := ∀ pass ∈ world.passes, pass.Saves

/-- What is known of a sweep: each pass grows the context exactly when it does not save, and when others
leave the tables alone the context has not grown while all passes save. -/
structure Costed (quiet : Prop) (world : SweepWorld) : Prop where
  referenced : Referenced world.tables
  decided : ∀ pass ∈ world.passes,
    getContextTokenCount pass.after ≤ getContextTokenCount pass.before ↔ pass.Saves
  within : quiet → ∀ tokens, world.tokensBefore = some tokens → AllSave world →
    getContextTokenCount world.tables ≤ tokens

/-- The first count stays and passes are only added. -/
def costRely (quiet : Prop) : Rely SweepWorld where
  may before after := after.tokensBefore = before.tokensBefore ∧ before.passes <+: after.passes
  refl world := ⟨rfl, List.prefix_refl world.passes⟩
  trans _ _ _ first second := ⟨second.1.trans first.1, first.2.trans second.2⟩
  always := Costed quiet

/-- A count that is not above the first one while all passes save. -/
def Measured (quiet : Prop) (first count : Nat) (world : SweepWorld) : Prop :=
  world.tokensBefore = some first ∧ (quiet → AllSave world → count ≤ first)

section Rules

variable {quiet : Prop} {first count : Nat} {world : SweepWorld} {conversationId : ConversationId}
  {environment : Environment} {config : CompactionConfig}

theorem AllSave.earlier {before after : SweepWorld} (grown : before.passes <+: after.passes)
    (all : AllSave after) : AllSave before := fun pass inside => all pass (grown.subset inside)

theorem Measured.stable (quiet : Prop) (first count : Nat) :
    (costRely quiet).Stable (Measured quiet first count) := by
  rintro before after ⟨read, grown⟩ ⟨same, within⟩
  exact ⟨read.trans same, fun alone all => within alone (all.earlier grown)⟩

theorem costRely_events (quiet : Prop) : AllowsEvents (costRely quiet) := by
  intro world conversationId input tables always appended
  obtain ⟨referenced, same⟩ := appendEvent_keeps always.referenced appended
  refine ⟨⟨rfl, List.prefix_refl _⟩, referenced, always.decided, ?_⟩
  intro alone tokens read all
  rw [same]
  exact always.within alone tokens read all

/-- A reading of the context is measured against the first one. -/
theorem ensures_readTokenCount (read : world.tokensBefore = some first) :
    (costRely quiet).Ensures (fun count => Measured quiet first count) (fun _ _ => True) readTokenCount
      world := by
  apply Rely.ensures_ask
  · intro later moved always last further _
    have same := moved.1.trans read
    exact Measured.stable _ _ _ later last further ⟨same, fun alone => always.within alone first same⟩
  · exact fun _ _ _ _ => trivial

theorem ensures_firstCount :
    (costRely quiet).Ensures (fun first => Measured quiet first first) (fun _ _ => True)
      readTokensBefore world := by
  apply Rely.ensures_act
  intro later _ always
  refine ⟨⟨always.referenced, always.decided, ?_⟩, ?_, fun _ _ _ _ => trivial⟩
  · intro _ tokens read _
    cases read
    exact le_refl _
  · intro tokens given last further _
    cases given
    exact Measured.stable _ _ _ _ last further ⟨rfl, fun _ _ => le_refl _⟩

/-- A commit is decided by what its pass costs. -/
theorem ensures_commit {holds : SweepWorld → Prop} (stable : (costRely quiet).Stable holds)
    (held : holds world) (condensed : Bool) (recorded : Nat) {escalation : Escalation}
    {pending : PendingCommit} (cost : pending.input.tokenCount = escalation.tokens) :
    (costRely quiet).Ensures (fun _ => holds) (fun _ _ => True)
      (commit condensed recorded escalation pending) world := by
  apply Rely.ensures_act
  intro later moved always
  have held := stable world later moved held
  split
  · exact ⟨always, nofun, fun _ _ _ _ => trivial⟩
  · next tables committed =>
      have decided := recordPass_saves_iff always.referenced committed cost condensed recorded
      refine ⟨⟨?_, ?_, ?_⟩, ?_, fun _ _ _ _ => trivial⟩
      · exact (commitPass_tokens always.referenced committed).1
      · intro pass inside
        rcases List.mem_append.mp inside with old | new
        · exact always.decided pass old
        · rw [List.mem_singleton.mp new]
          exact decided
      · intro alone tokens read all
        have before := always.within alone tokens read fun pass inside =>
          all pass (List.mem_append_left _ inside)
        have last := decided.mpr (all _ (List.mem_append_right _ (List.mem_singleton_self _)))
        exact last.trans before
      · exact fun _ _ last further _ =>
          stable later last ⟨further.1, (List.prefix_append _ _).trans further.2⟩ held

/-- Both loops of a sweep keep what is stable. -/
theorem costRule {holds : SweepWorld → Prop} (stable : (costRely quiet).Stable holds) (condensed : Bool) :
    LoopRule (costRely quiet) condensed (fun _ => holds) (fun _ => holds) where
  stableBefore _ := stable
  stableAfter _ := stable
  commits recorded _ _ _ cost held := ensures_commit stable held condensed recorded cost
  next _ _ _ _ := id

theorem ensures_fullSweep_measured (input : CompactionInput) :
    (costRely quiet).Ensures (fun result => Measured quiet result.tokensBefore result.tokensAfter)
      (fun _ _ => True) (compactFullSweep environment config conversationId input) world := by
  rw [compactFullSweep]
  apply ensures_firstCount.bind
  intro tokensBefore later measured _
  have stable := Measured.stable quiet tokensBefore tokensBefore
  apply (stable.ask measured _).bind
  intro shouldCompact later measured _
  split
  · exact Rely.ensures_pure fun last moved _ => stable later last moved measured
  · apply (stable.ask measured _).bind
    intro contextItems later measured _
    split
    · exact Rely.ensures_pure fun last moved _ => stable later last moved measured
    · apply ((costRule stable false).leafPhase (costRely_events quiet) (fun _ => stable) (fun _ _ => id)
        (fun _ _ => id) measured input true _ _).bind
      rintro ⟨previousTokens, progress⟩ later measured _
      apply ((costRule stable true).condensedPhase (costRely_events quiet) stable (fun _ _ => id)
        (fun _ _ => id) measured input progress).bind
      intro progress later measured _
      apply (ensures_readTokenCount measured.1).bind
      intro tokensAfter later measured _
      exact Rely.ensures_pure fun last moved _ =>
        Measured.stable quiet tokensBefore tokensAfter later last moved measured

theorem ensures_incrementalPhase (rounds targetDepth : Nat) (progress : Progress)
    (measured : Measured quiet first count world) :
    (costRely quiet).Ensures (fun last => Measured quiet first last.1) (fun _ _ => True)
      (incrementalPhase environment config conversationId targetDepth count progress rounds) world := by
  induction rounds generalizing targetDepth count progress world with
  | zero => exact Rely.ensures_pure fun last moved _ => Measured.stable _ _ _ world last moved measured
  | succ rounds ih =>
      have stable := Measured.stable quiet first count
      rw [incrementalPhase]
      apply (stable.ask measured _).bind
      intro eligible later measured _
      split
      · exact Rely.ensures_pure fun last moved _ => stable later last moved measured
      · next items =>
          apply (stable.ask measured _).bind
          intro passTokensBefore later measured _
          apply ((costRule stable true).runCondensedPass measured items targetDepth).bind
          intro result later measured _
          apply (ensures_readTokenCount measured.1).bind
          intro passTokensAfter later measured _
          apply (ensures_persistCompactionEvent (costRely_events quiet)
            (Measured.stable quiet first passTokensAfter) measured _ _ _ _).bind
          intro _ later measured _
          dsimp only
          split
          · exact Rely.ensures_pure fun last moved _ =>
              Measured.stable quiet first passTokensAfter later last moved measured
          · exact ih _ _ measured

theorem ensures_leaf_measured (incrementalMaxDepth : Nat) (input : CompactionInput) :
    (costRely quiet).Ensures (fun result => Measured quiet result.tokensBefore result.tokensAfter)
      (fun _ _ => True) (compactLeaf environment config conversationId incrementalMaxDepth input)
      world := by
  rw [compactLeaf]
  apply ensures_firstCount.bind
  intro tokensBefore later measured _
  have stable := Measured.stable quiet tokensBefore tokensBefore
  apply (stable.ask measured _).bind
  intro shouldCompact later measured _
  split
  · exact Rely.ensures_pure fun last moved _ => stable later last moved measured
  · apply (stable.ask measured _).bind
    intro items later measured _
    split
    · exact Rely.ensures_pure fun last moved _ => stable later last moved measured
    · apply (ensures_seedSummary stable measured input items).bind
      intro previous later measured _
      apply ((costRule stable false).runLeafPass measured items previous).bind
      intro result later measured _
      apply (ensures_readTokenCount measured.1).bind
      intro tokensAfterLeaf later measured _
      apply (ensures_persistCompactionEvent (costRely_events quiet)
        (Measured.stable quiet tokensBefore tokensAfterLeaf) measured _ _ _ _).bind
      intro _ later measured _
      apply (ensures_incrementalPhase incrementalMaxDepth 0 _ measured).bind
      rintro ⟨tokensAfter, progress⟩ later measured _
      exact Rely.ensures_pure fun last moved _ =>
        Measured.stable quiet tokensBefore tokensAfter later last moved measured

end Rules

/-- The two entries of the engine; an incremental compaction names its last depth. -/
inductive CompactionProgram where
  | fullSweep (input : CompactionInput)
  | leaf (incrementalMaxDepth : Nat) (input : CompactionInput)

def CompactionProgram.process (environment : Environment) (config : CompactionConfig)
    (conversationId : ConversationId) : CompactionProgram → SweepProcess CompactionResult
  | .fullSweep input => compactFullSweep environment config conversationId input
  | .leaf incrementalMaxDepth input =>
      compactLeaf environment config conversationId incrementalMaxDepth input

/-- Others keep the references of the context; a quiet system changes no tables at all. -/
def sweepOthers (quiet : Prop) (before after : SweepWorld) : Prop :=
  after.tokensBefore = before.tokensBefore ∧ after.passes = before.passes ∧ Referenced after.tables ∧
    (quiet → after.tables = before.tables)

/-- A compaction on any tables whose context names stored rows. -/
def compactionRuns (quiet : Prop) (environment : Environment) (config : CompactionConfig)
    (conversationId : ConversationId) (program : CompactionProgram) :
    StepSystem (Solo SweepWorld SweepFailure CompactionResult) (SoloTurn SweepFailure) :=
  Solo.system (sweepOthers quiet)
    (fun world => Referenced world.tables ∧ world.tokensBefore = none ∧ world.passes = [])
    (program.process environment config conversationId)

theorem reachable_costed {quiet : Prop} {environment : Environment} {config : CompactionConfig}
    {conversationId : ConversationId} {program : CompactionProgram}
    {solo : Solo SweepWorld SweepFailure CompactionResult}
    (reached : (compactionRuns quiet environment config conversationId program).Reachable solo) :
    (costRely quiet).always solo.world ∧ (costRely quiet).Ensures
      (fun result => Measured quiet result.tokensBefore result.tokensAfter) (fun _ _ => True) solo.process
        solo.world := by
  apply Solo.reachable_ensures _ _ reached
  · rintro world ⟨referenced, unread, none⟩
    refine ⟨⟨referenced, ?_, ?_⟩, ?_⟩
    · intro pass inside
      rw [none] at inside
      cases inside
    · intro _ tokens read
      rw [unread] at read
      cases read
    · cases program with
      | fullSweep input => exact ensures_fullSweep_measured input
      | leaf incrementalMaxDepth input => exact ensures_leaf_measured incrementalMaxDepth input
  · rintro world later always ⟨read, same, referenced, alone⟩
    refine ⟨⟨read, same ▸ List.prefix_refl _⟩, referenced, ?_, ?_⟩
    · rw [same]
      exact always.decided
    · intro still tokens found all
      rw [alone still]
      apply always.within still tokens (read.symm.trans found)
      rw [AllSave, same] at all
      exact all

/-- Every committed pass leaves the context no larger exactly when it saves; when nothing else writes and all
passes save, the result reports no more tokens than before. -/
theorem passes_save_iff (environment : Environment) (config : CompactionConfig)
    (conversationId : ConversationId) (program : CompactionProgram) :
    (∀ solo, (compactionRuns False environment config conversationId program).Reachable solo →
      ∀ pass ∈ solo.world.passes,
        getContextTokenCount pass.after ≤ getContextTokenCount pass.before ↔ pass.Saves) ∧
    ∀ solo, (compactionRuns True environment config conversationId program).Reachable solo →
      AllSave solo.world → ∀ result, solo.process = .done result →
        result.tokensAfter ≤ result.tokensBefore := by
  constructor
  · intro solo reached
    exact (reachable_costed reached).1.decided
  · intro solo reached all result ended
    obtain ⟨always, ensures⟩ := reachable_costed reached
    rw [ended] at ensures
    exact (ensures solo.world ((costRely True).refl solo.world) always).2 trivial all

section Samples

/-- Two short messages, each stored with one token. -/
def sampleTables : Tables :=
  ((ingest 1 .empty [⟨.user, js "hi", 1⟩, ⟨.user, js "ho", 1⟩] fun _ => 0).map Prod.fst).getD .empty

def sampleLeaf : CompactionProgram := .leaf 0 ⟨fun _ => false, true, false, none⟩

/-- A compaction of the sample with a summarizer that always gives the same text. -/
def sampleCompaction (summary : JsString) : Solo SweepWorld SweepFailure CompactionResult :=
  ⟨⟨sampleTables, fun _ _ _ => summary, 1, 0, none, []⟩, sampleLeaf.process sampleEnvironment sampleConfig 1⟩

/-- All calls of a compaction are performed. -/
def performAll (calls : Nat) (solo : Solo SweepWorld SweepFailure CompactionResult) :
    Option (Solo SweepWorld SweepFailure CompactionResult) :=
  (List.replicate calls ()).foldlM (fun before _ => before.answer true .ok) solo

theorem sampleCompaction_reachable {summary : JsString} {calls : Nat}
    {solo : Solo SweepWorld SweepFailure CompactionResult}
    (ran : performAll calls (sampleCompaction summary) = some solo) :
    (compactionRuns True sampleEnvironment sampleConfig 1 sampleLeaf).Reachable solo := by
  have rows : sampleTables.contextItems.rows = [.message 1, .message 2] := by decide
  have referenced : Referenced sampleTables := by
    intro item inside
    rw [rows] at inside
    rcases List.mem_cons.mp inside with rfl | inside
    · exact Option.isSome_iff_exists.mp (by decide)
    · rw [List.mem_singleton.mp inside]
      exact Option.isSome_iff_exists.mp (by decide)
  have first : (compactionRuns True sampleEnvironment sampleConfig 1 sampleLeaf).Reachable
      (sampleCompaction summary) := .start ⟨⟨referenced, rfl, rfl⟩, rfl⟩
  rw [performAll] at ran
  generalize List.replicate calls () = turns at ran
  generalize sampleCompaction summary = before at ran first
  induction turns generalizing before with
  | nil =>
      cases ran
      exact first
  | cons turn turns ih =>
      obtain ⟨middle, moved, rest⟩ := Option.bind_eq_some_iff.mp ran
      have step : (compactionRuns True sampleEnvironment sampleConfig 1 sampleLeaf).step before
        .performed middle := moved
      exact ih middle rest (.next first step)

/-- What a finished compaction reports and what its passes did to the context. -/
def outcome (solo : Solo SweepWorld SweepFailure CompactionResult) : Option (Nat × Nat × List (Nat × Nat)) :=
  match solo.process with
  | .done result => some (result.tokensBefore, result.tokensAfter, solo.world.passes.map fun pass =>
      (getContextTokenCount pass.before, getContextTokenCount pass.after))
  | _ => none

theorem outcome_eq {solo : Solo SweepWorld SweepFailure CompactionResult} {before after : Nat}
    {counts : List (Nat × Nat)} (ended : outcome solo = some (before, after, counts)) :
    ∃ result, solo.process = .done result ∧ result.tokensBefore = before ∧ result.tokensAfter = after ∧
      (solo.world.passes.map fun pass =>
        (getContextTokenCount pass.before, getContextTokenCount pass.after)) = counts := by
  rw [outcome] at ended
  split at ended
  · next result same =>
      cases ended
      exact ⟨result, same, rfl, rfl, rfl⟩
  · cases ended

/-- A summary that is shorter than the rendered source can be longer than the stored counts. -/
theorem compaction_grows : ∃ solo result, (compactionRuns True sampleEnvironment sampleConfig 1
    sampleLeaf).Reachable solo ∧ solo.process = .done result ∧ result.tokensBefore < result.tokensAfter ∧
      ∃ pass ∈ solo.world.passes, getContextTokenCount pass.before < getContextTokenCount pass.after := by
  have ran : (performAll 9 (sampleCompaction (js "a summary that is longer"))).bind outcome =
      some (2, 7, [(2, 7)]) := by decide +kernel
  obtain ⟨solo, performed, ended⟩ := Option.bind_eq_some_iff.mp ran
  obtain ⟨result, done, before, after, counts⟩ := outcome_eq ended
  obtain ⟨pass, inside, same⟩ : ∃ pass ∈ solo.world.passes,
      (getContextTokenCount pass.before, getContextTokenCount pass.after) = (2, 7) := by
    rw [← List.mem_map, counts]
    exact List.mem_singleton_self _
  obtain ⟨small, large⟩ := Prod.mk.inj same
  exact ⟨solo, result, sampleCompaction_reachable performed, done, by omega, pass, inside, by omega⟩

theorem passes_save_iff_sample : ∃ solo result, performAll 9 (sampleCompaction (js "A")) = some solo ∧
    solo.process = .done result ∧ result.tokensAfter ≤ result.tokensBefore := by
  have ran : (performAll 9 (sampleCompaction (js "A"))).bind outcome = some (2, 2, [(2, 2)]) := by
    decide +kernel
  obtain ⟨solo, performed, ended⟩ := Option.bind_eq_some_iff.mp ran
  obtain ⟨result, done, _⟩ := outcome_eq ended
  have saved : (performAll 9 (sampleCompaction (js "A"))).any (fun solo => solo.world.passes.all fun pass =>
      pass.escalation.tokens ≤ replacedTokens pass.before pass.startOrdinal pass.endOrdinal) = true := by
    decide +kernel
  rw [performed, Option.any_some, List.all_eq_true] at saved
  have all : AllSave solo.world := by
    intro pass inside
    have cost := saved pass inside
    rw [decide_eq_true_eq] at cost
    exact cost
  exact ⟨solo, result, performed, done, (passes_save_iff sampleEnvironment sampleConfig 1 sampleLeaf).2 solo
    (sampleCompaction_reachable performed) all result done⟩

end Samples

end Lcm.Compaction
