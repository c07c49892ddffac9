import Lcm.Compaction.FreshTail
import Lcm.Compaction.Sweep
import Lcm.Library.AloneRuns

namespace Lcm.Compaction
open Text Store

section Keeps

variable {environment : Environment} {config : CompactionConfig} {conversationId : ConversationId}

/-- A sweep has committed a pass. -/
def HasPass (world : SweepWorld) : Prop := world.passes ≠ []

theorem keeps_commit (condensed : Bool) (recorded : Nat) (escalation : Escalation) (pending : PendingCommit) :
    (commit condensed recorded escalation pending).Keeps HasPass := by
  apply Process.keeps_act
  intro world held
  split
  · exact held
  · exact List.append_ne_nil_of_left_ne_nil held _

theorem keeps_writeEvent (input : AppendMessageInput) : (writeEvent conversationId input).Keeps HasPass := by
  apply Process.keeps_act
  intro world held
  split
  · exact held
  · exact held

theorem keeps_persistCompactionEvent (condensed : Bool) (level : CompactionLevel) (tokensBefore tokensAfter : Nat) :
    (persistCompactionEvent conversationId condensed level tokensBefore tokensAfter).Keeps HasPass := by
  rw [persistCompactionEvent]
  apply (keeps_writeEvent _).attempt
  intro failure
  split
  · trivial
  · trivial

theorem keeps_runLeafPass (recorded : Nat) (items : List ContextItemRecord) (previousSummary : Option JsString) :
    (runLeafPass environment recorded items previousSummary).Keeps HasPass := by
  apply (Process.keeps_ask _).bind
  intro contents
  apply (Process.keeps_ask _).bind
  rintro ⟨summarize, now⟩
  dsimp only
  split
  · trivial
  · exact (keeps_commit ..).bind fun _ => Process.keeps_pure _

theorem keeps_runCondensedPass (recorded : Nat) (items : List ContextItemRecord) (targetDepth : Nat) :
    (runCondensedPass environment recorded items targetDepth).Keeps HasPass := by
  apply (Process.keeps_ask _).bind
  intro records
  apply (Process.keeps_ask _).bind
  intro previousSummary
  apply (Process.keeps_ask _).bind
  rintro ⟨summarize, now⟩
  dsimp only
  split
  · trivial
  · exact (keeps_commit ..).bind fun _ => Process.keeps_pure _

theorem keeps_leafContext (input : CompactionInput) (first : Bool) (previousSummary : Option JsString)
    (items : List ContextItemRecord) : (leafContext input first previousSummary items).Keeps HasPass := by
  unfold leafContext seedSummary
  split
  · apply Process.Keeps.bind
    · split
      · trivial
      · exact Process.keeps_ask _
    · exact fun seed => Process.keeps_pure _
  · trivial

theorem keeps_firstCandidate (freshTail : FreshTail) (hardTrigger : Bool) (depths : List Nat) :
    (firstCandidate config freshTail hardTrigger depths).Keeps HasPass := by
  induction depths with
  | nil => trivial
  | cons targetDepth depths ih =>
      apply (Process.keeps_ask _).bind
      intro eligible
      split
      · trivial
      · exact ih

theorem keeps_selectShallowestCondensationCandidate (hardTrigger : Bool) :
    (selectShallowestCondensationCandidate config hardTrigger).Keeps HasPass := by
  apply (Process.keeps_ask _).bind
  intro freshTail
  apply (Process.keeps_ask _).bind
  exact fun depths => keeps_firstCandidate freshTail hardTrigger depths

theorem keeps_leafPhase (input : CompactionInput) (first : Bool) (previousSummary : Option JsString)
    (previousTokens : Nat) (progress : Progress) :
    (leafPhase environment config conversationId input first previousSummary previousTokens progress).Keeps
      HasPass := by
  induction previousTokens using Nat.strongRecOn generalizing first previousSummary progress with
  | ind previousTokens ih =>
  rw [leafPhase]
  apply (Process.keeps_ask _).bind
  intro items
  split
  · trivial
  · apply (keeps_leafContext ..).bind
    intro previous
    apply (Process.keeps_ask _).bind
    intro passTokensBefore
    apply (keeps_runLeafPass ..).bind
    intro result
    apply (Process.keeps_ask _).bind
    intro passTokensAfter
    apply (keeps_persistCompactionEvent ..).bind
    intro _
    dsimp only
    split
    · trivial
    · next fewer =>
        push Not at fewer
        exact ih passTokensAfter fewer.2 _ _ _

theorem keeps_condensedPhase (input : CompactionInput) (previousTokens : Nat) (progress : Progress) :
    (condensedPhase environment config conversationId input previousTokens progress).Keeps HasPass := by
  induction previousTokens using Nat.strongRecOn generalizing progress with
  | ind previousTokens ih =>
  rw [condensedPhase]
  apply (keeps_selectShallowestCondensationCandidate _).bind
  intro candidate
  split
  · trivial
  · apply (Process.keeps_ask _).bind
    intro passTokensBefore
    apply (keeps_runCondensedPass ..).bind
    intro result
    apply (Process.keeps_ask _).bind
    intro passTokensAfter
    apply (keeps_persistCompactionEvent ..).bind
    intro _
    dsimp only
    split
    · trivial
    · next fewer =>
        push Not at fewer
        exact ih passTokensAfter fewer.2 _

end Keeps

section Commit

variable {environment : Environment} {config : CompactionConfig} {tables : Tables} {pending : PendingCommit}
  {summarize : SummarizeFn} {now : Nat}

/-- What the store asks of a summary: a new identifier, and numbers that it can read back. -/
structure Storable (tables : Tables) (createdAt : Timestamp) (pending : PendingCommit) : Prop where
  fresh : tables.getSummary pending.input.summaryId = none
  readable : Tables.readable (Tables.summaryRow pending.input createdAt) = true

/-- The ordinals of a pass start at one of its items and do not end before it. -/
structure Ranged (items : List ContextItemRecord) (pending : PendingCommit) : Prop where
  start : pending.startOrdinal ∈ items.map Prod.fst
  ordered : pending.startOrdinal ≤ pending.endOrdinal

theorem ranged_of_extremes {items : List ContextItemRecord}
    (least : (items.map Prod.fst).min? = some pending.startOrdinal)
    (greatest : (items.map Prod.fst).max? = some pending.endOrdinal) : Ranged items pending where
  start := List.min?_mem least
  ordered := (List.le_min?_iff least).mp le_rfl _ (List.max?_mem greatest)

theorem leafPass_ranged {items : List ContextItemRecord} {contents : List MessageContent}
    {previousSummary : Option JsString}
    (made : leafPass environment items contents summarize previousSummary now = some pending) :
    Ranged items pending := by
  simp only [leafPass, Option.bind_eq_bind, Option.bind_eq_some_iff, Option.some.injEq] at made
  obtain ⟨start, least, last, greatest, rfl⟩ := made
  exact ranged_of_extremes least greatest

theorem condensedPass_ranged {items : List ContextItemRecord} {targetDepth : Nat} {records : List SummaryRecord}
    {previousSummary : Option JsString}
    (made : condensedPass environment items targetDepth records summarize previousSummary now = some pending) :
    Ranged items pending := by
  simp only [condensedPass, Option.bind_eq_bind, Option.bind_eq_some_iff, Option.some.injEq] at made
  obtain ⟨start, least, last, greatest, rfl⟩ := made
  exact ranged_of_extremes least greatest

/-- The transaction of a pass on some of the context items succeeds when its summary can be stored. -/
theorem commitPass_isSome {items : List ContextItemRecord} {createdAt : Timestamp}
    (natural : ∀ key ∈ tables.contextItems.keys, 0 ≤ key) (inside : ∀ item ∈ items, item ∈ tables.getContextItems)
    (ranged : Ranged items pending) (storable : Storable tables createdAt pending) :
    (commitPass tables pending createdAt).isSome := by
  have unused : pending.input.summaryId ∉ tables.summaries.keys := KeyedTable.get?_eq_none.mp storable.fresh
  have start : pending.startOrdinal ∈ tables.contextItems.keys := by
    obtain ⟨item, chosen, same⟩ := List.mem_map.mp ranged.start
    exact List.mem_map.mpr ⟨item, inside item chosen, same⟩
  have erased : (tables.contextItems.eraseRange pending.startOrdinal pending.endOrdinal).get?
      pending.startOrdinal = none := by
    rw [OrderedTable.eraseRange, OrderedTable.get?_select]
    simp [ranged.ordered]
  have insertable : ((tables.contextItems.eraseRange pending.startOrdinal pending.endOrdinal).insert?
      pending.startOrdinal (ContextItem.summary pending.input.summaryId)).isSome :=
    OrderedTable.insert?_isSome.mpr erased
  obtain ⟨inserted, added⟩ := Option.isSome_iff_exists.mp insertable
  have kept : ∀ key ∈ inserted.keys, 0 ≤ key := by
    intro key used
    obtain ⟨row, located⟩ := Option.ne_none_iff_exists'.mp (mt OrderedTable.get?_eq_none.mp (not_not.mpr used))
    rw [OrderedTable.get?_insert? added] at located
    split at located
    · next same =>
        rw [same]
        exact natural _ start
    · rw [OrderedTable.eraseRange, OrderedTable.get?_select] at located
      split at located
      · exact natural key (OrderedTable.mem_keys.mpr ⟨row, OrderedTable.get?_eq_some.mp located⟩)
      · cases located
  have summaries : ∃ summaries, tables.summaries.insert? pending.input.summaryId
      (Tables.summaryRow pending.input createdAt) = some summaries := by
    rw [KeyedTable.insert?, dif_neg unused]
    exact ⟨_, rfl⟩
  obtain ⟨summaries, stored⟩ := summaries
  have context : ∀ linked : Tables, linked.contextItems = tables.contextItems →
      (linked.replaceContextRangeWithSummary pending.startOrdinal pending.endOrdinal
        pending.input.summaryId).isSome := by
    intro linked same
    simp only [Tables.replaceContextRangeWithSummary, same, added, Option.bind_eq_bind, Option.bind_some,
      OrderedTable.renumber?_eq kept, Option.isSome_some]
  simp only [commitPass, Tables.insertSummary, stored, storable.readable, guard_true, Option.bind_eq_bind,
    Option.bind_some, Option.pure_def]
  apply context
  cases pending.links <;> rfl

end Commit

section Alone

variable {environment : Environment} {config : CompactionConfig} {conversationId : ConversationId}
  {world : SweepWorld} {hardTrigger : Bool}

/-- The transactions that a sweep may start with, whatever summary comes before. -/
inductive FirstPass (environment : Environment) (config : CompactionConfig) (hardTrigger : Bool)
    (world : SweepWorld) : PendingCommit → Prop
  | leaf {previous : Option JsString} {pending : PendingCommit}
      (made : leafPass environment (selectOldestLeafChunk config world.tables).items
        ((selectOldestLeafChunk config world.tables).items.filterMap (readMessage world.tables))
        world.summarize previous world.now = some pending) :
      FirstPass environment config hardTrigger world pending
  | condensed {targetDepth : Nat} {items : List ContextItemRecord} {previous : Option JsString}
      {pending : PendingCommit}
      (eligible : eligibleChunkAtDepth config world.tables targetDepth
        (some (resolveFreshTailOrdinal config world.tables.getContextItems)) hardTrigger = some items)
      (made : condensedPass environment items targetDepth (items.filterMap (readSummary world.tables))
        world.summarize previous world.now = some pending) :
      FirstPass environment config hardTrigger world pending

/-- The store takes whatever a sweep writes first. -/
def AcceptsFirst (environment : Environment) (config : CompactionConfig) (hardTrigger : Bool)
    (world : SweepWorld) : Prop :=
  ∀ pending, FirstPass environment config hardTrigger world pending → Storable world.tables world.clock pending

theorem commit_alone {pending : PendingCommit} (accepted : (commitPass world.tables pending world.clock).isSome)
    (condensed : Bool) (recorded : Nat) (escalation : Escalation) :
    HasPass ((commit condensed recorded escalation pending).alone world).2 := by
  obtain ⟨tables, committed⟩ := Option.isSome_iff_exists.mp accepted
  rw [commit, Process.alone_act, committed]
  exact List.append_ne_nil_of_right_ne_nil _ (List.cons_ne_nil _ _)

theorem extremes_of_ne_nil {items : List ContextItemRecord} (nonempty : items ≠ []) :
    ∃ least greatest, (items.map Prod.fst).min? = some least ∧ (items.map Prod.fst).max? = some greatest := by
  have mapped : items.map Prod.fst ≠ [] := fun empty => nonempty (List.map_eq_nil_iff.mp empty)
  obtain ⟨least, low⟩ := Option.isSome_iff_exists.mp (List.isSome_min?_of_ne_nil mapped)
  obtain ⟨greatest, high⟩ := Option.isSome_iff_exists.mp (List.isSome_max?_of_ne_nil mapped)
  exact ⟨least, greatest, low, high⟩

/-- A leaf pass on the oldest chunk commits. -/
theorem runLeafPass_alone (natural : ∀ key ∈ world.tables.contextItems.keys, 0 ≤ key)
    (accepts : AcceptsFirst environment config hardTrigger world)
    (nonempty : (selectOldestLeafChunk config world.tables).items ≠ []) (recorded : Nat)
    (previousSummary : Option JsString) :
    HasPass ((runLeafPass environment recorded (selectOldestLeafChunk config world.tables).items
      previousSummary).alone world).2 := by
  obtain ⟨⟨before, rest, parts⟩, _⟩ := selectOldestLeafChunk_segment config world.tables
  obtain ⟨least, greatest, low, high⟩ := extremes_of_ne_nil nonempty
  rw [runLeafPass, Process.alone_bind_ok (Process.alone_ask _), Process.alone_bind_ok (Process.alone_ask _)]
  dsimp only
  split
  · next none => simp [leafPass, low, high] at none
  · next pending made =>
      apply Process.alone_bind_keeps
      · apply commit_alone
        apply commitPass_isSome natural _ (leafPass_ranged made) (accepts pending (.leaf made))
        intro item inside
        rw [parts]
        exact List.mem_append_left _ (List.mem_append_right _ inside)
      · exact fun _ => Process.keeps_pure _

/-- A condensed pass on an eligible chunk commits. -/
theorem runCondensedPass_alone (natural : ∀ key ∈ world.tables.contextItems.keys, 0 ≤ key)
    (accepts : AcceptsFirst environment config hardTrigger world) {targetDepth : Nat}
    {items : List ContextItemRecord}
    (eligible : eligibleChunkAtDepth config world.tables targetDepth
      (some (resolveFreshTailOrdinal config world.tables.getContextItems)) hardTrigger = some items)
    (recorded : Nat) : HasPass ((runCondensedPass environment recorded items targetDepth).alone world).2 := by
  obtain ⟨nonempty, ⟨before, rest, parts⟩, _⟩ := eligibleChunkAtDepth_segment eligible
  obtain ⟨least, greatest, low, high⟩ := extremes_of_ne_nil nonempty
  rw [runCondensedPass, Process.alone_bind_ok (Process.alone_ask _), Process.alone_bind_ok (Process.alone_ask _),
    Process.alone_bind_ok (Process.alone_ask _)]
  dsimp only
  split
  · next none => simp [condensedPass, low, high] at none
  · next pending made =>
      apply Process.alone_bind_keeps
      · apply commit_alone
        apply commitPass_isSome natural _ (condensedPass_ranged made) (accepts pending (.condensed eligible made))
        intro item inside
        rw [parts]
        exact List.mem_append_left _ (List.mem_append_right _ inside)
      · exact fun _ => Process.keeps_pure _

theorem leafContext_alone (input : CompactionInput) (first : Bool) (previousSummary : Option JsString)
    (items : List ContextItemRecord) :
    ∃ previous, (leafContext input first previousSummary items).alone world = (.ok previous, world) := by
  unfold leafContext seedSummary
  split
  · cases input.previousSummaryContent with
    | some content => exact ⟨_, rfl⟩
    | none => exact ⟨_, rfl⟩
  · exact ⟨_, rfl⟩

theorem firstCandidate_alone (freshTail : FreshTail) (depths : List Nat) :
    (firstCandidate config freshTail hardTrigger depths).alone world =
      (.ok (depths.findSome? fun targetDepth =>
        (eligibleChunkAtDepth config world.tables targetDepth (some freshTail) hardTrigger).map fun items =>
          (targetDepth, items)), world) := by
  induction depths with
  | nil => rfl
  | cons targetDepth depths ih =>
      rw [firstCandidate, Process.alone_bind_ok (Process.alone_ask _), List.findSome?_cons]
      cases eligibleChunkAtDepth config world.tables targetDepth (some freshTail) hardTrigger with
      | none => exact ih
      | some items => rfl

/-- A leaf phase commits a pass exactly when there is a chunk, and else does nothing. -/
theorem leafPhase_alone (natural : ∀ key ∈ world.tables.contextItems.keys, 0 ≤ key)
    (accepts : AcceptsFirst environment config hardTrigger world) (input : CompactionInput) (first : Bool)
    (previousSummary : Option JsString) (previousTokens : Nat) (progress : Progress) :
    if (selectOldestLeafChunk config world.tables).items = [] then
      (leafPhase environment config conversationId input first previousSummary previousTokens progress).alone world =
        (.ok (previousTokens, progress), world)
    else HasPass ((leafPhase environment config conversationId input first previousSummary previousTokens
      progress).alone world).2 := by
  rw [leafPhase, Process.alone_bind_ok (Process.alone_ask _)]
  split
  · exact Process.alone_pure _
  · next nonempty =>
      obtain ⟨previous, seeded⟩ := @leafContext_alone world input first previousSummary
        (selectOldestLeafChunk config world.tables).items
      rw [Process.alone_bind_ok seeded, readTokenCount, Process.alone_bind_ok (Process.alone_ask _)]
      apply Process.alone_bind_keeps (runLeafPass_alone natural accepts nonempty _ _)
      intro result
      apply (Process.keeps_ask _).bind
      intro passTokensAfter
      apply (keeps_persistCompactionEvent ..).bind
      intro _
      dsimp only
      split
      · trivial
      · exact keeps_leafPhase ..

/-- A condensed phase commits a pass exactly when there is a candidate, and else does nothing. -/
theorem condensedPhase_alone (natural : ∀ key ∈ world.tables.contextItems.keys, 0 ≤ key) (input : CompactionInput)
    (accepts : AcceptsFirst environment config input.hardTrigger world) (previousTokens : Nat)
    (progress : Progress) :
    let freshTail := resolveFreshTailOrdinal config world.tables.getContextItems
    if ∃ targetDepth ∈ getDistinctDepthsInContext world.tables freshTail,
        (eligibleChunkAtDepth config world.tables targetDepth (some freshTail) input.hardTrigger).isSome then
      HasPass ((condensedPhase environment config conversationId input previousTokens progress).alone world).2
    else (condensedPhase environment config conversationId input previousTokens progress).alone world =
      (.ok progress, world) := by
  intro freshTail
  have chosen : (selectShallowestCondensationCandidate config input.hardTrigger).alone world = _ :=
    @firstCandidate_alone config world input.hardTrigger freshTail (getDistinctDepthsInContext world.tables freshTail)
  rw [condensedPhase, Process.alone_bind_ok chosen]
  generalize found : (getDistinctDepthsInContext world.tables freshTail).findSome? _ = candidate
  cases candidate with
  | none =>
      rw [if_neg, Process.alone_pure]
      rintro ⟨targetDepth, listed, eligible⟩
      have none := List.findSome?_eq_none_iff.mp found targetDepth listed
      rw [Option.map_eq_none_iff] at none
      rw [none] at eligible
      cases eligible
  | some candidate =>
      obtain ⟨targetDepth, items⟩ := candidate
      obtain ⟨depth, listed, mapped⟩ := List.exists_of_findSome?_eq_some found
      obtain ⟨chunk, eligible, same⟩ := Option.map_eq_some_iff.mp mapped
      cases same
      rw [if_pos ⟨targetDepth, listed, by rw [eligible]; rfl⟩]
      dsimp only
      rw [readTokenCount, Process.alone_bind_ok (Process.alone_ask _)]
      apply Process.alone_bind_keeps (runCondensedPass_alone natural accepts eligible _)
      intro result
      apply (Process.keeps_ask _).bind
      intro passTokensAfter
      apply (keeps_persistCompactionEvent ..).bind
      intro _
      split
      · trivial
      · exact keeps_condensedPhase ..

/-- A forced sweep that nothing disturbs commits a pass exactly when a leaf chunk or a candidate exists. -/
theorem compactFullSweep_alone (natural : ∀ key ∈ world.tables.contextItems.keys, 0 ≤ key)
    {input : CompactionInput} (forced : input.force = true)
    (accepts : AcceptsFirst environment config input.hardTrigger world)
    (nonempty : world.tables.getContextItems ≠ []) (first : world.passes = []) :
    HasPass ((compactFullSweep environment config conversationId input).alone world).2 ↔
      (selectOldestLeafChunk config world.tables).items ≠ [] ∨
        ∃ targetDepth ∈ getDistinctDepthsInContext world.tables
            (resolveFreshTailOrdinal config world.tables.getContextItems),
          (eligibleChunkAtDepth config world.tables targetDepth
            (some (resolveFreshTailOrdinal config world.tables.getContextItems)) input.hardTrigger).isSome := by
  have counted : readTokensBefore.alone world = (.ok (getContextTokenCount world.tables),
      { world with tokensBefore := some (getContextTokenCount world.tables) }) := Process.alone_act _
  rw [compactFullSweep, Process.alone_bind_ok counted, evaluateLeafTrigger,
    Process.alone_bind_ok (Process.alone_ask _)]
  generalize getContextTokenCount world.tables = tokensBefore
  generalize start : ({ world with tokensBefore := some tokensBefore } : SweepWorld) = begun
  have same : begun.tables = world.tables := by rw [← start]
  have accepts : AcceptsFirst environment config input.hardTrigger begun := by
    intro pending starts
    rw [← start] at starts ⊢
    apply accepts
    cases starts with
    | leaf made => exact .leaf made
    | condensed eligible made => exact .condensed eligible made
  have idle : ¬ HasPass begun := by
    rw [← start]
    exact not_not.mpr first
  rw [← same] at natural nonempty ⊢
  simp only [forced, Bool.not_true, Bool.false_and, Bool.false_eq_true, if_false]
  rw [Process.alone_bind_ok (Process.alone_ask _), if_neg nonempty]
  have leaves := @leafPhase_alone environment config conversationId begun input.hardTrigger natural accepts input true
    none tokensBefore ⟨false, none⟩
  split at leaves
  · next empty =>
      have condenses := @condensedPhase_alone environment config conversationId begun natural input accepts
        tokensBefore ⟨false, none⟩
      have leafless : ¬ (selectOldestLeafChunk config begun.tables).items ≠ [] := not_not.mpr empty
      rw [Process.alone_bind_ok leaves]
      simp only [leafless, false_or]
      dsimp only at condenses ⊢
      split at condenses
      · next candidate =>
          refine iff_of_true ?_ candidate
          apply Process.alone_bind_keeps condenses
          exact fun progress => (Process.keeps_ask _).bind fun _ => Process.keeps_pure _
      · next candidate =>
          refine iff_of_false ?_ candidate
          rw [Process.alone_bind_ok condenses]
          exact idle
  · next nonempty =>
      refine iff_of_true ?_ (.inl nonempty)
      apply Process.alone_bind_keeps leaves
      rintro ⟨previousTokens, progress⟩
      exact (keeps_condensedPhase ..).bind fun _ => (Process.keeps_ask _).bind fun _ => Process.keeps_pure _

end Alone

end Lcm.Compaction
