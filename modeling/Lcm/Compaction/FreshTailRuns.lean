import Lcm.Compaction.FreshTail
import Lcm.Compaction.Lossless

namespace Lcm.Compaction
open Text Store

/-- A run remembers the protected messages that its pass found and the messages deleted since then. -/
structure TailRun where
  run : Run
  protectedMessages : List ContextItem
  deleted : List MessageId

/-- Besides the actions of a run, messages may be deleted at any time. -/
inductive TailAction where
  | act (action : Action)
  | deleteMessages (messageIds : List MessageId)

/-- A choice of a chunk remembers the protected messages of the context that it chose from. -/
def tailAct (environment : Environment) (config : CompactionConfig) (conversationId : ConversationId)
    (before : TailRun) : TailAction → Option TailRun
  | .deleteMessages messageIds =>
      some { before with
        run := { before.run with tables := before.run.tables.deleteMessages messageIds }
        deleted := before.deleted ++ messageIds }
  | .act action => do
      let after ← act environment config conversationId before.run action
      if before.run.pass = .idle ∧ after.pass ≠ .idle then
        some {
          run := after
          protectedMessages :=
            (lastMessages config.freshTailCount before.run.tables.getContextItems).map Prod.snd
          deleted := [] }
      else some { before with run := after }

/-- A system of passes, appends and deletions that starts with any tables and no pass. -/
def tailSystem (environment : Environment) (config : CompactionConfig)
    (conversationId : ConversationId) : StepSystem TailRun TailAction where
  start before := before.run.pass = .idle ∧ before.protectedMessages = [] ∧ before.deleted = []
  step before action after := tailAct environment config conversationId before action = some after

/-- Appended messages stand behind all items of the context. -/
theorem insertContextMessages_appended {messageIds : List MessageId} {ordinal : Int}
    {before after : OrderedTable Int ContextItem} (above : ∀ entry ∈ before.entries, entry.1 < ordinal)
    (inserted : Tables.insertContextMessages before ordinal messageIds = some after) :
    ∃ appended, after.entries = before.entries ++ appended := by
  induction messageIds generalizing before ordinal with
  | nil =>
      cases inserted
      exact ⟨[], (List.append_nil _).symm⟩
  | cons messageId messageIds ih =>
      obtain ⟨middle, first, rest⟩ := Option.bind_eq_some_iff.mp inserted
      obtain ⟨next, same, entries⟩ := before.insert?_between ordinal (.message messageId)
        (List.append_nil before.entries).symm above nofun
      rw [same] at first
      cases first
      have beyond : ∀ entry ∈ middle.entries, entry.1 < ordinal + 1 := by
        intro entry inside
        rw [entries] at inside
        rcases List.mem_append.mp inside with old | new
        · have := above entry old
          omega
        · rw [List.mem_singleton.mp new]
          omega
      obtain ⟨appended, grown⟩ := ih beyond rest
      exact ⟨(ordinal, .message messageId) :: appended, by rw [grown, entries, List.append_assoc]; rfl⟩

/-- The next ordinal is above all ordinals in use. -/
theorem lt_nextOrdinalOf {contextItems : OrderedTable Int ContextItem} {entry : ContextItemRecord}
    (inside : entry ∈ contextItems.entries) : entry.1 < nextOrdinalOf contextItems := by
  have bound : ∀ (keys : List Int) (base : Int), base ≤ keys.foldl max base ∧
      ∀ key ∈ keys, key ≤ keys.foldl max base := by
    intro keys
    induction keys with
    | nil => exact fun base => ⟨le_refl base, nofun⟩
    | cons key keys ih =>
        intro base
        obtain ⟨start, each⟩ := ih (max base key)
        refine ⟨le_trans (le_max_left base key) start, List.forall_mem_cons.mpr ⟨?_, each⟩⟩
        exact le_trans (le_max_right base key) start
  have below := (bound contextItems.keys (-1)).2 entry.1 (List.mem_map_of_mem inside)
  rw [nextOrdinalOf]
  omega

/-- A commit keeps every item outside the range that it replaces. -/
theorem commitPass_keeps {tables after : Tables} {pending : PendingCommit} {createdAt : Timestamp}
    (committed : commitPass tables pending createdAt = some after) {entry : ContextItemRecord}
    (stored : entry ∈ tables.getContextItems)
    (outside : ¬ (pending.startOrdinal ≤ entry.1 ∧ entry.1 ≤ pending.endOrdinal)) :
    entry.2 ∈ after.contextItems.rows := by
  obtain ⟨inserted, first, second⟩ := Option.bind_eq_some_iff.mp committed
  have unchanged : (linkSources inserted pending.input.summaryId pending.links).contextItems =
      tables.contextItems := by
    simp only [Tables.insertSummary, Option.bind_eq_bind, Option.bind_eq_some_iff, Option.some.injEq]
      at first
    obtain ⟨_, _, _, _, rfl⟩ := first
    cases pending.links <;> rfl
  simp only [Tables.replaceContextRangeWithSummary, unchanged, Option.bind_eq_bind,
    Option.bind_eq_some_iff, Option.some.injEq] at second
  obtain ⟨replaced, placed, renumbered, numbered, rfl⟩ := second
  apply (OrderedTable.rows_renumber?_perm numbered).mem_iff.mpr
  apply List.mem_map_of_mem
  apply (OrderedTable.mem_insert? placed).mpr
  right
  rw [OrderedTable.eraseRange, OrderedTable.select, List.mem_filter, Bool.not_eq_true',
    decide_eq_false_iff_not]
  exact ⟨stored, outside⟩

/-- A deletion removes only the context items of the messages that it names. -/
theorem deleteMessages_keeps {tables : Tables} {messageIds : List MessageId} {entry : ContextItemRecord}
    (stored : entry ∈ tables.getContextItems)
    (other : ∀ messageId ∈ messageIds, entry.2 ≠ .message messageId) :
    entry ∈ (tables.deleteMessages messageIds).getContextItems := by
  induction messageIds generalizing tables with
  | nil => exact stored
  | cons messageId messageIds ih =>
      rw [List.forall_mem_cons] at other
      apply ih _ other.2
      rw [Tables.deleteMessage]
      split
      · exact stored
      · exact List.mem_filter.mpr ⟨stored, by simpa using other.1⟩

/-- What a run keeps of the protected messages of its pass. -/
structure TailKept (config : CompactionConfig) (state : TailRun) : Prop where
  kept : ∀ item ∈ state.protectedMessages, (∀ messageId ∈ state.deleted, item ≠ .message messageId) →
    ∃ ordinal, (ordinal, item) ∈ state.run.tables.getContextItems ∧ ¬ state.run.pass.Replaces ordinal
  spanned : state.deleted = [] → ∀ ordinal, state.run.pass.Replaces ordinal →
    ∃ entry ∈ state.run.tables.getContextItems, ordinal ≤ entry.1
  recent : state.deleted = [] →
    ∀ message ∈ lastMessages config.freshTailCount state.run.tables.getContextItems,
      ¬ state.run.pass.Replaces message.1

/-- A choice of a chunk protects the last messages of its context. -/
theorem TailKept.chosen {config : CompactionConfig} {run : Run} (items : List ContextItemRecord)
    (pass : PassState) (spans : ∀ ordinal, pass.Replaces ordinal → Spans items ordinal)
    (stored : ∀ item ∈ items, item ∈ run.tables.getContextItems)
    (outside : ∀ message ∈ lastMessages config.freshTailCount run.tables.getContextItems,
      ¬ Spans items message.1) :
    TailKept config {
      run := { run with pass := pass }
      protectedMessages := (lastMessages config.freshTailCount run.tables.getContextItems).map Prod.snd
      deleted := [] } := by
  constructor
  · intro item inside _
    obtain ⟨message, recent, rfl⟩ := List.mem_map.mp inside
    exact ⟨message.1, (mem_lastMessages recent).1, fun replaced => outside message recent (spans _ replaced)⟩
  · intro _ ordinal replaced
    obtain ⟨low, high, _, highest, _, below⟩ := spans ordinal replaced
    obtain ⟨entry, inside, rfl⟩ := List.mem_map.mp (List.max?_mem highest)
    exact ⟨entry, stored entry inside, below⟩
  · exact fun _ message recent replaced => outside message recent (spans _ replaced)

/-- A pass that chooses nothing new keeps the protected messages. -/
theorem TailKept.advanced {config : CompactionConfig} {state : TailRun} (kept : TailKept config state)
    {pass : PassState} (fewer : ∀ ordinal, pass.Replaces ordinal → state.run.pass.Replaces ordinal) :
    TailKept config { state with run := { state.run with pass := pass } } := by
  constructor
  · intro item inside others
    obtain ⟨ordinal, stored, free⟩ := kept.kept item inside others
    exact ⟨ordinal, stored, fun replaced => free (fewer _ replaced)⟩
  · exact fun undeleted ordinal replaced => kept.spanned undeleted ordinal (fewer _ replaced)
  · exact fun undeleted message recent replaced => kept.recent undeleted message recent (fewer _ replaced)

/-- Messages that are appended to the context are protected too. -/
theorem TailKept.appended {config : CompactionConfig} {state : TailRun} (kept : TailKept config state)
    {tables : Tables} {ingested : List MessageId} {appended : List ContextItemRecord}
    (grown : tables.getContextItems = state.run.tables.getContextItems ++ appended) :
    TailKept config { state with run := { state.run with tables := tables, ingested := ingested } } := by
  have sorted := tables.contextItems.sorted
  change tables.getContextItems.Pairwise _ at sorted
  rw [grown] at sorted
  constructor
  · intro item inside others
    obtain ⟨ordinal, stored, free⟩ := kept.kept item inside others
    exact ⟨ordinal, by rw [grown]; exact List.mem_append_left _ stored, free⟩
  · intro undeleted ordinal replaced
    obtain ⟨entry, stored, below⟩ := kept.spanned undeleted ordinal replaced
    exact ⟨entry, by rw [grown]; exact List.mem_append_left _ stored, below⟩
  · intro undeleted message recent replaced
    simp only [grown] at recent
    rcases mem_lastMessages_append recent with early | late
    · exact kept.recent undeleted message early replaced
    · obtain ⟨entry, stored, below⟩ := kept.spanned undeleted message.1 replaced
      exact absurd below (not_le_of_gt ((List.pairwise_append.mp sorted).2.2 entry stored message late))

theorem TailKept.messagesDeleted {config : CompactionConfig} {state : TailRun}
    (kept : TailKept config state) (messageIds : List MessageId) :
    TailKept config { state with
      run := { state.run with tables := state.run.tables.deleteMessages messageIds }
      deleted := state.deleted ++ messageIds } := by
  constructor
  · intro item inside others
    simp only [List.forall_mem_append] at others
    obtain ⟨ordinal, stored, free⟩ := kept.kept item inside others.1
    exact ⟨ordinal, deleteMessages_keeps stored others.2, free⟩
  · intro undeleted
    obtain ⟨before, rfl⟩ := List.append_eq_nil_iff.mp undeleted
    exact kept.spanned before
  · intro undeleted
    obtain ⟨before, rfl⟩ := List.append_eq_nil_iff.mp undeleted
    exact kept.recent before

/-- A pass moves within the ordinals that it has chosen, or chooses outside the protected messages. -/
theorem TailKept.moved {environment : Environment} {config : CompactionConfig} {before after : TailRun}
    {action : PassAction} {pass : PassState} (kept : TailKept config before)
    (advanced : advance environment config before.run.tables before.run.pass action = some pass)
    (rest : (if before.run.pass = .idle ∧ pass ≠ .idle then
        some { run := { before.run with pass := pass }
               protectedMessages :=
                (lastMessages config.freshTailCount before.run.tables.getContextItems).map Prod.snd
               deleted := [] }
      else some { before with run := { before.run with pass := pass } }) = some after) :
    TailKept config after := by
  cases action with
  | chooseLeaf =>
      rw [advance, Option.ite_none_right_eq_some, chooseLeaf, Option.ite_none_left_eq_some] at advanced
      obtain ⟨idle, _, same⟩ := advanced
      cases same
      rw [if_pos ⟨idle, by simp⟩] at rest
      cases rest
      have chosen := selectOldestLeafChunk_wellChosen config before.run.tables
      obtain ⟨skipped, left, whole⟩ := chosen.adjacent
      apply TailKept.chosen _ (.leafChosen (selectOldestLeafChunk config before.run.tables).items)
        fun _ spans => spans
      · intro item inside
        rw [whole]
        exact List.mem_append_left _ (List.mem_append_right _ inside)
      · exact fun message recent => chosen.outside recent
  | chooseCondensed targetDepth freshTailOrdinalOverride hardTrigger =>
      rw [advance, Option.ite_none_right_eq_some] at advanced
      obtain ⟨idle, chosen⟩ := advanced
      obtain ⟨items, eligible, same⟩ := Option.bind_eq_some_iff.mp chosen
      cases same
      rw [if_pos ⟨idle, by simp⟩] at rest
      cases rest
      obtain ⟨_, ⟨skipped, left, whole⟩, _⟩ := eligibleChunkAtDepth_segment eligible
      apply TailKept.chosen items (.condensedChosen items targetDepth) fun _ spans => spans
      · intro item inside
        rw [whole]
        exact List.mem_append_left _ (List.mem_append_right _ inside)
      · intro message recent
        obtain ⟨stored, messageId, same⟩ := mem_lastMessages recent
        have raw : (message.1, ContextItem.message messageId) ∈ before.run.tables.getContextItems := by
          rw [← same]
          exact stored
        exact eligibleChunkAtDepth_outside eligible raw
  | read =>
      rw [if_neg] at rest
      · cases rest
        exact kept.advanced fun _ => readChunk_replaces advanced
      · rintro ⟨idle, _⟩
        rw [advance, idle] at advanced
        cases advanced
  | summarize summarize previousSummary now =>
      rw [if_neg] at rest
      · cases rest
        exact kept.advanced fun _ => summarizeChunk_replaces advanced
      · rintro ⟨idle, _⟩
        rw [advance, idle] at advanced
        cases advanced
  | abandon =>
      cases advanced
      rw [if_neg (by tauto)] at rest
      cases rest
      exact kept.advanced fun _ => False.elim

/-- A commit, or its rollback, ends the pass with all messages outside its range in the context. -/
theorem TailKept.committed {config : CompactionConfig} {state : TailRun} (kept : TailKept config state)
    {pending : PendingCommit} (ready : state.run.pass = .ready pending) (createdAt : Timestamp) :
    TailKept config { state with
      run := { state.run with
        tables := (commitPass state.run.tables pending createdAt).getD state.run.tables
        pass := .idle } } := by
  constructor
  · intro item inside others
    obtain ⟨ordinal, stored, free⟩ := kept.kept item inside others
    rw [ready] at free
    cases done : commitPass state.run.tables pending createdAt with
    | none => exact ⟨ordinal, stored, id⟩
    | some tables =>
        obtain ⟨⟨place, _⟩, present, rfl⟩ := List.mem_map.mp (commitPass_keeps done stored free)
        exact ⟨place, present, id⟩
  · exact fun _ _ => False.elim
  · exact fun _ _ _ => id

/-- Every action of a run keeps the protected messages of its pass. -/
theorem TailKept.acted {environment : Environment} {config : CompactionConfig}
    {conversationId : ConversationId} {before after : TailRun} {action : TailAction}
    (kept : TailKept config before)
    (step : tailAct environment config conversationId before action = some after) :
    TailKept config after := by
  cases action with
  | deleteMessages messageIds =>
      cases step
      exact kept.messagesDeleted messageIds
  | act action =>
      obtain ⟨run, acted, rest⟩ := Option.bind_eq_some_iff.mp step
      cases action with
      | ingest inputs clock =>
          obtain ⟨⟨tables, messageIds⟩, ingested, same⟩ := Option.bind_eq_some_iff.mp acted
          cases same
          rw [if_neg (by tauto)] at rest
          cases rest
          obtain ⟨⟨messages, records⟩, _, appended⟩ := Option.bind_eq_some_iff.mp ingested
          obtain ⟨_, extended, same⟩ := Option.bind_eq_some_iff.mp appended
          cases same
          obtain ⟨contextItems, inserted, same⟩ := Option.bind_eq_some_iff.mp extended
          cases same
          obtain ⟨added, grown⟩ := insertContextMessages_appended (fun _ => lt_nextOrdinalOf) inserted
          exact kept.appended grown
      | event other inputs clock =>
          obtain ⟨tables, stored, same⟩ := Option.bind_eq_some_iff.mp acted
          cases same
          rw [if_neg (by tauto)] at rest
          cases rest
          obtain ⟨_, _, same⟩ := Option.bind_eq_some_iff.mp stored
          cases same
          exact kept.appended (List.append_nil _).symm
      | advance action =>
          obtain ⟨pass, advanced, same⟩ := Option.bind_eq_some_iff.mp acted
          cases same
          exact kept.moved advanced rest
      | commit createdAt =>
          rw [act] at acted
          split at acted
          · next pending ready =>
              cases acted
              rw [if_neg (by tauto)] at rest
              cases rest
              exact kept.committed ready createdAt
          · cases acted

/-- In every run the protected messages of a pass stay in the context unless they are deleted. -/
theorem tailKept {environment : Environment} {config : CompactionConfig}
    {conversationId : ConversationId} {state : TailRun}
    (reached : (tailSystem environment config conversationId).Reachable state) : TailKept config state := by
  apply reached.invariant
  · rintro first ⟨idle, none, _⟩
    constructor
    · intro item inside
      rw [none] at inside
      cases inside
    · intro _ ordinal replaced
      rw [idle] at replaced
      cases replaced
    · intro _ message _ replaced
      rw [idle] at replaced
      cases replaced
  · intro before action after _ kept step
    exact kept.acted step

/-- After a commit the last messages of the context before it are raw items when none was deleted. -/
theorem TailKept.afterCommit {environment : Environment} {config : CompactionConfig}
    {conversationId : ConversationId} {before after : TailRun} {createdAt : Timestamp}
    (kept : TailKept config before) (undeleted : before.deleted = [])
    (step : tailAct environment config conversationId before (.act (.commit createdAt)) = some after)
    {message : ContextItemRecord}
    (recent : message ∈ lastMessages config.freshTailCount before.run.tables.getContextItems) :
    message.2 ∈ after.run.tables.contextItems.rows := by
  obtain ⟨run, acted, rest⟩ := Option.bind_eq_some_iff.mp step
  have stored := (mem_lastMessages recent).1
  rw [act] at acted
  split at acted
  · next pending ready =>
      cases acted
      rw [if_neg (by tauto)] at rest
      cases rest
      have outside := kept.recent undeleted message recent
      rw [ready] at outside
      cases done : commitPass before.run.tables pending createdAt with
      | none => exact List.mem_map_of_mem stored
      | some tables => exact commitPass_keeps done stored outside
  · cases acted

/-- Chunks are well chosen, and no sequence of passes takes a protected message out of the context. -/
theorem passes_keep_freshTail (environment : Environment) (config : CompactionConfig)
    (conversationId : ConversationId) :
    (∀ tables, (∀ item ∈ (selectOldestLeafChunk config tables).items, ∃ messageId, item.2 = .message messageId) ∧
      WellChosen config tables.getContextItems (fun item => (messageWeight tables item).getD 0)
        (selectOldestLeafChunk config tables).items) ∧
    (∀ tables targetDepth earlier appended freshTailOrdinalOverride,
      tables.getContextItems = earlier ++ appended → (∀ item ∈ appended, isMessage item = true) →
      freshTailOrdinalOverride.getD (resolveFreshTailOrdinal config tables.getContextItems) =
        resolveFreshTailOrdinal config earlier →
      (∀ item ∈ (selectOldestChunkAtDepth config tables targetDepth freshTailOrdinalOverride).items,
        ∃ summary, summaryAtDepth tables targetDepth item.2 = some summary) ∧
      WellChosen config tables.getContextItems
        (fun item => (summaryWeight tables targetDepth item).getD 0)
        (selectOldestChunkAtDepth config tables targetDepth freshTailOrdinalOverride).items) ∧
    ∀ state, (tailSystem environment config conversationId).Reachable state →
      (∀ item ∈ state.protectedMessages, (∀ messageId ∈ state.deleted, item ≠ .message messageId) →
        item ∈ state.run.tables.contextItems.rows) ∧
      ∀ createdAt after, state.deleted = [] →
        tailAct environment config conversationId state (.act (.commit createdAt)) = some after →
          ∀ message ∈ lastMessages config.freshTailCount state.run.tables.getContextItems,
            message.2 ∈ after.run.tables.contextItems.rows := by
  refine ⟨fun tables => ?_, ?_, fun state reached => ⟨?_, ?_⟩⟩
  · exact ⟨(selectOldestLeafChunk_segment config tables).2, selectOldestLeafChunk_wellChosen config tables⟩
  · intro tables targetDepth earlier appended freshTailOrdinalOverride grown raw read
    refine ⟨?_, selectOldestChunkAtDepth_wellChosen config tables targetDepth grown raw read⟩
    intro item inside
    exact Option.isSome_iff_exists.mp ((selectOldestChunkAtDepth_segment config tables targetDepth _).2 item inside)
  · intro item inside others
    obtain ⟨ordinal, stored, _⟩ := (tailKept reached).kept item inside others
    exact List.mem_map_of_mem stored
  · intro createdAt after undeleted step message recent
    exact (tailKept reached).afterCommit undeleted step recent

/-- A leaf pass is ready to commit in a context with a deleted message. -/
def sampleTail : Option TailRun :=
  [TailAction.act (.ingest [sampleInput "first", sampleInput "second", sampleInput "third"] fun _ => 0),
    .deleteMessages [2], .act (.advance .chooseLeaf), .act (.advance .read),
    .act (.advance (.summarize (fun _ _ _ => js "A") none 1))].foldlM
      (tailAct sampleEnvironment sampleConfig 1) ⟨⟨.empty, .idle, []⟩, [], []⟩

theorem passes_keep_freshTail_sample : ∃ before after, sampleTail = some before ∧
    tailAct sampleEnvironment sampleConfig 1 before (.act (.commit 0)) = some after ∧
      ∀ message ∈ lastMessages 1 before.run.tables.getContextItems,
        message.2 ∈ after.run.tables.contextItems.rows := by
  obtain ⟨before, ran⟩ := Option.isSome_iff_exists.mp (show sampleTail.isSome by decide)
  obtain ⟨after, step⟩ := Option.isSome_iff_exists.mp (show (sampleTail.bind fun before =>
    tailAct sampleEnvironment sampleConfig 1 before (.act (.commit 0))).isSome by decide)
  have undeleted : (sampleTail.map (·.deleted)) = some [] := by decide
  rw [ran] at step undeleted
  have reached : (tailSystem sampleEnvironment sampleConfig 1).Reachable before :=
    StepSystem.Reachable.run (fun _ _ _ moved => moved) (.start ⟨rfl, rfl, rfl⟩) ran
  exact ⟨before, after, ran, step,
    ((passes_keep_freshTail sampleEnvironment sampleConfig 1).2.2 before reached).2 0 after
      (Option.some.inj undeleted) step⟩

end Lcm.Compaction
