import Lcm.Compaction.Phases
import Lcm.Compaction.System

namespace Lcm.Compaction
open Text Store Folded Segments

/-- A pass is idle or works on a segment of the forest. -/
def PassRefines (tables : Tables) (forest : List SummaryTree) (pass : PassState) : Prop :=
  pass = .idle ∨ ∃ base chunk, Located forest base chunk ∧ Busy tables base chunk pass

/-- A pass stays on its segment when the tables grow and trees are appended. -/
theorem PassRefines.grow {before after : Tables} {forest : List SummaryTree} {pass : PassState}
    (passRefines : PassRefines before forest pass) (extended : Extends before after)
    (added : List SummaryTree) : PassRefines after (forest ++ added) pass := by
  rcases passRefines with idle | ⟨base, chunk, located, busy⟩
  · exact .inl idle
  · exact .inr ⟨base, chunk, located.append added, busy.mono extended⟩

theorem PassRefines.advance {environment : Environment} {config : CompactionConfig}
    {tables : Tables} {forest : List SummaryTree} {pass next : PassState} {action : PassAction}
    (passRefines : PassRefines tables forest pass) (refines : Refines tables forest)
    (advanced : advance environment config tables pass action = some next) :
    PassRefines tables forest next := by
  rcases advance_cases refines advanced with idle | ⟨_, started⟩ | ⟨working, kept⟩
  · exact .inl idle
  · exact .inr started
  · rcases passRefines with idle | ⟨base, chunk, located, busy⟩
    · exact absurd idle working
    · exact .inr ⟨base, chunk, located, kept base chunk busy⟩

/-- A run is related to the covering that its tables store. -/
structure Related (run : Run) (covering : Covering SummaryId MessageId) : Prop where
  refines : Refines run.tables covering.items
  pass : PassRefines run.tables covering.items run.pass
  ingested : run.ingested = covering.log

/-- A message below a stored tree is stored. -/
theorem Refines.messages {tables : Tables} {forest : List SummaryTree}
    (refines : Refines tables forest) :
    ∀ messageId ∈ frontiers forest, StoredMessage tables messageId := by
  intro messageId inside
  obtain ⟨tree, member, below⟩ := List.mem_flatMap.mp inside
  exact (refines.stored tree member).messages messageId below

/-- Fresh messages keep a log without repetitions. -/
theorem log_append {tables : Tables} {covering : Covering SummaryId MessageId}
    (lossless : Lossless covering) (refines : Refines tables covering.items)
    {messageIds : List MessageId} (distinct : messageIds.Nodup)
    (fresh : ∀ messageId ∈ messageIds, ¬ StoredMessage tables messageId) :
    (covering.log ++ messageIds).Nodup := by
  refine List.nodup_append.mpr ⟨lossless.leaves, distinct, ?_⟩
  intro old known new inside same
  rw [← lossless.frontier] at known
  exact fresh new inside (same ▸ refines.messages old known)

/-- Every action of a run is at most one move of its covering. -/
theorem act_related {environment : Environment} {config : CompactionConfig}
    {conversationId : ConversationId} {run next : Run} {action : Action}
    {covering : Covering SummaryId MessageId} (lossless : Lossless covering)
    (related : Related run covering)
    (step : act environment config conversationId run action = some next) :
    ∃ covering', Related next covering' ∧ (covering' = covering ∨
      ∃ move, (coveringSystem SummaryId MessageId).step covering move covering') := by
  cases action with
  | ingest inputs clock =>
      simp only [act, Option.bind_eq_bind, Option.bind_eq_some_iff, Prod.exists,
        Option.some.injEq] at step
      obtain ⟨tables, messageIds, ingested, rfl⟩ := step
      obtain ⟨growth, refines, distinct, fresh⟩ := ingest_refines related.refines ingested
      exact ⟨⟨covering.items ++ messageIds.map .raw, covering.log ++ messageIds⟩,
        ⟨refines, related.pass.grow growth _, by rw [related.ingested]⟩, .inr
        ⟨.append messageIds, log_append lossless related.refines distinct fresh, rfl⟩⟩
  | event other inputs clock =>
      simp only [act, Option.bind_eq_bind, Option.bind_eq_some_iff, Option.some.injEq] at step
      obtain ⟨tables, appended, rfl⟩ := step
      obtain ⟨growth, refines⟩ := appendEvent_refines related.refines appended
      have pass := related.pass.grow growth []
      rw [List.append_nil] at pass
      exact ⟨covering, ⟨refines, pass, related.ingested⟩, .inl rfl⟩
  | advance action =>
      simp only [act, Option.bind_eq_bind, Option.bind_eq_some_iff, Option.some.injEq] at step
      obtain ⟨pass, advanced, rfl⟩ := step
      exact ⟨covering, ⟨related.refines, related.pass.advance related.refines advanced,
        related.ingested⟩, .inl rfl⟩
  | commit createdAt =>
      simp only [act] at step
      split at step
      · next pending ready =>
          cases step
          cases committed : commitPass run.tables pending createdAt with
          | none => exact ⟨covering, ⟨related.refines, .inl rfl, related.ingested⟩, .inl rfl⟩
          | some tables =>
              have pass := related.pass
              rw [ready] at pass
              rcases pass with idle | ⟨base, chunk, ⟨before, rest, parts, length⟩, busy⟩
              · cases idle
              · cases busy.phase with
                | ready first last pendingFold =>
                    rw [← length] at first last
                    have leaves : (frontiers covering.items).Nodup := by
                      rw [lossless.frontier]
                      exact lossless.leaves
                    obtain ⟨fresh, _, refines⟩ := commitPass_refines related.refines leaves
                      lossless.nodes parts busy.nonempty first last pendingFold committed
                    exact ⟨⟨before ++ .fold pending.input.summaryId chunk :: rest, covering.log⟩,
                      ⟨refines, .inl rfl, related.ingested⟩,
                      .inr ⟨.fold pending.input.summaryId before chunk rest, fresh, parts, rfl⟩⟩
      · cases step

/-- The compaction system simulates folds of a growing forest. -/
theorem compaction_simulation (environment : Environment) (config : CompactionConfig)
    (conversationId : ConversationId) :
    StepSystem.Simulation (compactionSystem environment config conversationId)
      (coveringSystem SummaryId MessageId) Related where
  start := by
    intro run start
    rw [show run = ⟨.empty, .idle, []⟩ from start]
    exact ⟨⟨[], []⟩, rfl, refines_empty, .inl rfl, rfl⟩
  step := by
    intro run action next covering _ reached related step
    exact act_related (coveringSystem_lossless reached) related step

/-- Every reachable run stores a lossless forest of its ingested messages. -/
theorem reachable_related {environment : Environment} {config : CompactionConfig}
    {conversationId : ConversationId} {run : Run}
    (reached : (compactionSystem environment config conversationId).Reachable run) :
    ∃ covering, Lossless covering ∧ Related run covering := by
  obtain ⟨covering, coveringReached, related⟩ :=
    (compaction_simulation environment config conversationId).reachable reached
  exact ⟨covering, coveringSystem_lossless coveringReached, related⟩

end Lcm.Compaction
