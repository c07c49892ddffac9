import Lcm.Compaction.PassGrowth

namespace Lcm.Compaction
open Text Store

section Rules

variable {rely : Rely SweepWorld} {environment : Environment} {config : CompactionConfig}
  {conversationId : ConversationId} {world : SweepWorld}

/-- The events of a sweep do what others may do too. -/
def AllowsEvents (rely : Rely SweepWorld) : Prop :=
  ∀ world conversationId input tables, rely.always world →
    appendEvent world.tables conversationId [input] (fun _ => world.clock) = some tables →
      rely.may world { world with tables := tables } ∧ rely.always { world with tables := tables }

theorem ensures_writeEvent (events : AllowsEvents rely) {holds : SweepWorld → Prop}
    (stable : rely.Stable holds) (held : holds world) (input : AppendMessageInput) :
    rely.Ensures (fun _ => holds) (fun _ => holds) (writeEvent conversationId input) world := by
  apply Rely.ensures_act
  intro later moved always
  have held := stable world later moved held
  split
  · refine ⟨always, nofun, ?_⟩
    rintro failure last (further | further) _
    · exact stable later last further held
    · exact stable later last further held
  · next tables appended =>
      obtain ⟨allowed, kept⟩ := events later conversationId input tables always appended
      refine ⟨kept, ?_, ?_⟩
      · exact fun _ _ last further _ => stable later last (rely.trans _ _ _ allowed further) held
      · rintro failure last (further | further) _
        · exact stable later last further held
        · exact stable later last (rely.trans _ _ _ allowed further) held

theorem ensures_persistCompactionEvent (events : AllowsEvents rely) {holds : SweepWorld → Prop}
    (stable : rely.Stable holds) (held : holds world) (condensed : Bool) (level : CompactionLevel)
    (tokensBefore tokensAfter : Nat) :
    rely.Ensures (fun _ => holds) (fun _ _ => True)
      (persistCompactionEvent conversationId condensed level tokensBefore tokensAfter) world := by
  have written : rely.Ensures (fun _ => holds) (fun _ => holds)
      (writeEvent conversationId (eventInput condensed level tokensBefore tokensAfter)) world :=
    ensures_writeEvent events stable held _
  apply written.attempt
  intro failure later held _
  split
  · exact fun _ _ _ => trivial
  · exact stable.pure held ()

/-- What a loop of passes needs to know: what holds before and after a pass with the count that the loop
recorded, what a commit does, and that the loop goes on with a smaller count. -/
structure LoopRule (rely : Rely SweepWorld) (condensed : Bool) (before after : Nat → SweepWorld → Prop) :
    Prop where
  stableBefore : ∀ recorded, rely.Stable (before recorded)
  stableAfter : ∀ recorded, rely.Stable (after recorded)
  commits : ∀ recorded escalation pending world, pending.input.tokenCount = escalation.tokens →
    before recorded world → rely.Ensures (fun _ => after recorded) (fun _ _ => True)
      (commit condensed recorded escalation pending) world
  next : ∀ recorded later world, later < recorded → after recorded world → before later world

variable {before after : Nat → SweepWorld → Prop} {recorded : Nat}

theorem LoopRule.runLeafPass (rule : LoopRule rely false before after) (held : before recorded world)
    (items : List ContextItemRecord) (previousSummary : Option JsString) :
    rely.Ensures (fun _ => after recorded) (fun _ _ => True)
      (runLeafPass environment recorded items previousSummary) world := by
  rw [Compaction.runLeafPass]
  apply ((rule.stableBefore recorded).ask held _).bind
  intro contents later held _
  apply ((rule.stableBefore recorded).ask held _).bind
  rintro ⟨summarize, now⟩ later held _
  dsimp only
  split
  · exact fun _ _ _ => trivial
  · next pending made =>
      apply (rule.commits recorded _ pending later (leafPass_tokens made) held).bind
      exact fun _ later held _ => (rule.stableAfter recorded).pure held _

theorem LoopRule.runCondensedPass (rule : LoopRule rely true before after)
    (held : before recorded world) (items : List ContextItemRecord) (targetDepth : Nat) :
    rely.Ensures (fun _ => after recorded) (fun _ _ => True)
      (runCondensedPass environment recorded items targetDepth) world := by
  rw [Compaction.runCondensedPass]
  apply ((rule.stableBefore recorded).ask held _).bind
  intro records later held _
  apply ((rule.stableBefore recorded).ask held _).bind
  intro previousSummary later held _
  apply ((rule.stableBefore recorded).ask held _).bind
  rintro ⟨summarize, now⟩ later held _
  dsimp only
  split
  · exact fun _ _ _ => trivial
  · next pending made =>
      apply (rule.commits recorded _ pending later (condensedPass_tokens made) held).bind
      exact fun _ later held _ => (rule.stableAfter recorded).pure held _

theorem ensures_seedSummary {holds : SweepWorld → Prop} (stable : rely.Stable holds) (held : holds world)
    (input : CompactionInput) (items : List ContextItemRecord) :
    rely.Ensures (fun _ => holds) (fun _ _ => True) (seedSummary input items) world := by
  rw [seedSummary]
  split
  · exact stable.pure held _
  · exact stable.ask held _

theorem ensures_leafContext {holds : SweepWorld → Prop} (stable : rely.Stable holds) (held : holds world)
    (input : CompactionInput) (first : Bool) (previousSummary : Option JsString)
    (items : List ContextItemRecord) :
    rely.Ensures (fun _ => holds) (fun _ _ => True) (leafContext input first previousSummary items)
      world := by
  rw [leafContext]
  split
  · apply (ensures_seedSummary stable held input items).bind
    exact fun _ later held _ => stable.pure held _
  · exact stable.pure held _

theorem ensures_candidate {holds : SweepWorld → Prop} (stable : rely.Stable holds) (held : holds world)
    (hardTrigger : Bool) :
    rely.Ensures (fun _ => holds) (fun _ _ => True)
      (selectShallowestCondensationCandidate config hardTrigger) world := by
  rw [selectShallowestCondensationCandidate]
  apply (stable.ask held _).bind
  intro freshTail later held _
  apply (stable.ask held _).bind
  intro depths later held _
  induction depths generalizing later with
  | nil => exact stable.pure held _
  | cons targetDepth depths ih =>
      rw [firstCandidate]
      apply (stable.ask held _).bind
      intro eligible later held always
      split
      · exact stable.pure held _
      · exact ih later held always

/-- The leaf loop ends with the last count that it recorded. -/
theorem LoopRule.leafPhase (rule : LoopRule rely false before after) (events : AllowsEvents rely)
    {ended : Nat → SweepWorld → Prop} (stable : ∀ recorded, rely.Stable (ended recorded))
    (chunkless : ∀ recorded world, before recorded world → ended recorded world)
    (stuck : ∀ recorded world, after recorded world → ended recorded world)
    (held : before recorded world) (input : CompactionInput) (first : Bool)
    (previousSummary : Option JsString) (progress : Progress) :
    rely.Ensures (fun last => ended last.1) (fun _ _ => True)
      (leafPhase environment config conversationId input first previousSummary recorded progress)
      world := by
  induction start : recorded using Nat.strongRecOn
    generalizing recorded world first previousSummary progress with
  | ind count ih =>
  subst start
  rw [Compaction.leafPhase]
  apply ((rule.stableBefore recorded).ask held _).bind
  intro items later held _
  split
  · intro last moved _
    exact stable recorded later last moved (chunkless recorded later held)
  · apply (ensures_leafContext (rule.stableBefore recorded) held input first previousSummary items).bind
    intro previous later held _
    apply ((rule.stableBefore recorded).ask held _).bind
    intro passTokensBefore later held _
    apply (rule.runLeafPass held items previous).bind
    intro result later held _
    apply ((rule.stableAfter recorded).ask held _).bind
    intro passTokensAfter later held _
    apply (ensures_persistCompactionEvent events (rule.stableAfter recorded) held _ _ _ _).bind
    intro _ later held _
    dsimp only
    split
    · intro last moved _
      exact stable recorded later last moved (stuck recorded later held)
    · next fewer =>
        push Not at fewer
        exact ih passTokensAfter fewer.2 (rule.next recorded passTokensAfter later fewer.2 held) _ _ _ rfl

theorem LoopRule.condensedPhase (rule : LoopRule rely true before after) (events : AllowsEvents rely)
    {ended : SweepWorld → Prop} (stable : rely.Stable ended)
    (candidateless : ∀ recorded world, before recorded world → ended world)
    (stuck : ∀ recorded world, after recorded world → ended world)
    (held : before recorded world) (input : CompactionInput) (progress : Progress) :
    rely.Ensures (fun _ => ended) (fun _ _ => True)
      (condensedPhase environment config conversationId input recorded progress) world := by
  induction start : recorded using Nat.strongRecOn generalizing recorded world progress with
  | ind count ih =>
  subst start
  rw [Compaction.condensedPhase]
  apply (ensures_candidate (rule.stableBefore recorded) held input.hardTrigger).bind
  intro candidate later held _
  split
  · exact stable.pure (candidateless recorded later held) _
  · next targetDepth items =>
    apply ((rule.stableBefore recorded).ask held _).bind
    intro passTokensBefore later held _
    apply (rule.runCondensedPass held items targetDepth).bind
    intro result later held _
    apply ((rule.stableAfter recorded).ask held _).bind
    intro passTokensAfter later held _
    apply (ensures_persistCompactionEvent events (rule.stableAfter recorded) held _ _ _ _).bind
    intro _ later held _
    dsimp only
    split
    · exact stable.pure (stuck recorded later held) _
    · next fewer =>
        push Not at fewer
        exact ih passTokensAfter fewer.2 (rule.next recorded passTokensAfter later fewer.2 held) _ rfl

end Rules

end Lcm.Compaction
