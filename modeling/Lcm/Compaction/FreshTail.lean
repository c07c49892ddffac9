import Lcm.Compaction.System

namespace Lcm.Compaction
open Text Store

/-- The raw messages at the end of a context that a configuration protects. -/
def lastMessages (count : Nat) (contextItems : List ContextItemRecord) : List ContextItemRecord :=
  (contextItems.filter isMessage).drop ((contextItems.filter isMessage).length - count)

theorem mem_lastMessages {count : Nat} {contextItems : List ContextItemRecord} {item : ContextItemRecord}
    (inside : item ∈ lastMessages count contextItems) :
    item ∈ contextItems ∧ ∃ messageId, item.2 = .message messageId := by
  obtain ⟨member, message⟩ := List.mem_filter.mp (List.mem_of_mem_drop inside)
  refine ⟨member, ?_⟩
  rw [isMessage] at message
  split at message
  · next messageId same => exact ⟨messageId, same⟩
  · cases message

/-- An item that the scan does not stop at lies before all protected messages. -/
theorem before_lastMessages {config : CompactionConfig} {contextItems : List ContextItemRecord}
    (ascending : contextItems.Pairwise fun first second => first.1 < second.1) {ordinal : Int}
    (free : protects (resolveFreshTailOrdinal config contextItems) ordinal = false)
    {message : ContextItemRecord} (inside : message ∈ lastMessages config.freshTailCount contextItems) :
    ordinal < message.1 := by
  have sorted := ascending.filter isMessage
  rw [lastMessages] at inside
  have within : (contextItems.filter isMessage).length - config.freshTailCount <
      (contextItems.filter isMessage).length := by
    by_contra beyond
    rw [List.drop_eq_nil_of_le (Nat.le_of_not_lt beyond)] at inside
    cases inside
  have counted : config.freshTailCount ≠ 0 := by
    intro zero
    rw [zero] at within
    omega
  rw [resolveFreshTailOrdinal, if_neg counted] at free
  simp only [List.getElem?_eq_getElem within, Option.map_some, protects, decide_eq_false_iff_not, not_le]
    at free
  rw [List.drop_eq_getElem_cons within] at inside
  rcases List.mem_cons.mp inside with rfl | later
  · exact free
  · have parts := List.pairwise_iff_getElem.mp sorted
    obtain ⟨place, bound, rfl⟩ := List.mem_iff_getElem.mp later
    rw [List.length_drop] at bound
    rw [List.getElem_drop]
    exact lt_trans free (parts _ _ within (by omega) (by omega))

/-- A protected message of a longer context was protected before or is one of the appended items. -/
theorem mem_lastMessages_append {count : Nat} {earlier appended : List ContextItemRecord}
    {message : ContextItemRecord} (inside : message ∈ lastMessages count (earlier ++ appended)) :
    message ∈ lastMessages count earlier ∨ message ∈ appended := by
  rw [lastMessages, List.filter_append, List.drop_append, List.length_append] at inside
  rcases List.mem_append.mp inside with early | late
  · left
    have fewer : (earlier.filter isMessage).length - count ≤
        (earlier.filter isMessage).length + (appended.filter isMessage).length - count := by omega
    rw [lastMessages]
    apply List.mem_of_mem_drop
    rw [List.drop_drop, Nat.add_sub_cancel' fewer]
    exact early
  · exact .inr (List.mem_filter.mp (List.mem_of_mem_drop late)).1

/-- Raw messages that are appended later do not make the protected part start earlier. -/
theorem before_lastMessages_appended {config : CompactionConfig}
    {earlier appended : List ContextItemRecord}
    (ascending : (earlier ++ appended).Pairwise fun first second => first.1 < second.1)
    {item : ContextItemRecord} (old : item ∈ earlier)
    (free : protects (resolveFreshTailOrdinal config earlier) item.1 = false)
    {message : ContextItemRecord}
    (inside : message ∈ lastMessages config.freshTailCount (earlier ++ appended)) : item.1 < message.1 := by
  rw [List.pairwise_append] at ascending
  rcases mem_lastMessages_append inside with early | late
  · exact before_lastMessages ascending.1 free early
  · exact ascending.2.2 item old message late

/-- In an ascending list a contiguous part holds everything between two of its ordinals. -/
theorem mem_of_between {contextItems before chunk after : List ContextItemRecord}
    (ascending : contextItems.Pairwise fun first second => first.1 < second.1)
    (parts : contextItems = before ++ chunk ++ after) {low high : Int} (lowIn : low ∈ chunk.map Prod.fst)
    (highIn : high ∈ chunk.map Prod.fst) {entry : ContextItemRecord} (inside : entry ∈ contextItems)
    (above : low ≤ entry.1) (below : entry.1 ≤ high) : entry ∈ chunk := by
  obtain ⟨first, firstIn, rfl⟩ := List.mem_map.mp lowIn
  obtain ⟨last, lastIn, rfl⟩ := List.mem_map.mp highIn
  rw [parts] at ascending inside
  obtain ⟨left, _, right⟩ := List.pairwise_append.mp ascending
  rcases List.mem_append.mp inside with early | late
  · rcases List.mem_append.mp early with earlier | here
    · have := (List.pairwise_append.mp left).2.2 entry earlier first firstIn
      omega
    · exact here
  · have := right last (List.mem_append_right _ lastIn) entry late
    omega

/-- What every choice of a chunk satisfies: it is a contiguous part of the context, alone between its
ordinals and before the protected messages, and goes over the budget only with a single item. -/
structure WellChosen (config : CompactionConfig) (contextItems : List ContextItemRecord)
    (tokens : ContextItemRecord → Nat) (items : List ContextItemRecord) : Prop where
  adjacent : ∃ before after, contextItems = before ++ items ++ after
  alone : ∀ low high, (items.map Prod.fst).min? = some low → (items.map Prod.fst).max? = some high →
    ∀ entry ∈ contextItems, low ≤ entry.1 → entry.1 ≤ high → entry ∈ items
  beforeTail : ∀ item ∈ items, ∀ message ∈ lastMessages config.freshTailCount contextItems,
    item.1 < message.1
  budgeted : config.resolveLeafChunkTokens < (items.map tokens).sum → items.length = 1

/-- The chunk that a scan takes is well chosen when the items it takes lie before the protected messages. -/
theorem scan_wellChosen {config : CompactionConfig} {contextItems : List ContextItemRecord}
    (ascending : contextItems.Pairwise fun first second => first.1 < second.1) (freshTail : FreshTail)
    (weight : ContextItemRecord → Option Nat)
    (beforeTail : ∀ item ∈ contextItems, protects freshTail item.1 = false → (weight item).isSome →
      ∀ message ∈ lastMessages config.freshTailCount contextItems, item.1 < message.1) :
    WellChosen config contextItems (fun item => (weight item).getD 0)
      (ChunkScan.scan (fun item => protects freshTail item.1) weight config.resolveLeafChunkTokens [] 0
        contextItems) := by
  have extended : ChunkScan.Extends (fun item => protects freshTail item.1) weight [] contextItems
      (ChunkScan.scan (fun item => protects freshTail item.1) weight config.resolveLeafChunkTokens [] 0
        contextItems) := ChunkScan.scan_extends contextItems [] 0
  have single : config.resolveLeafChunkTokens < ChunkScan.totalWeight weight
      (ChunkScan.scan (fun item => protects freshTail item.1) weight config.resolveLeafChunkTokens [] 0
        contextItems) → (ChunkScan.scan (fun item => protects freshTail item.1) weight
          config.resolveLeafChunkTokens [] 0 contextItems).length = 1 :=
    ChunkScan.scan_budget contextItems [] (.inl rfl)
  obtain ⟨skipped, added, left, whole, same, _, _, members⟩ := extended.parts
  rw [List.nil_append] at same
  rw [same] at single
  rw [same]
  constructor
  · exact ⟨skipped, left, whole⟩
  · intro low high lowest highest entry inside above below
    exact mem_of_between ascending whole (List.min?_mem lowest) (List.max?_mem highest) inside above below
  · intro item inside
    have present : item ∈ contextItems := by
      rw [whole]
      exact List.mem_append_left _ (List.mem_append_right _ inside)
    exact beforeTail item present (members item inside).1 (members item inside).2
  · exact single

/-- The leaf chunk is well chosen and holds only messages. -/
theorem selectOldestLeafChunk_wellChosen (config : CompactionConfig) (tables : Tables) :
    WellChosen config tables.getContextItems (fun item => (messageWeight tables item).getD 0)
      (selectOldestLeafChunk config tables).items := by
  rw [selectOldestLeafChunk, leafScan_eq]
  apply scan_wellChosen tables.contextItems.sorted
  intro item _ free _ message inside
  exact before_lastMessages tables.contextItems.sorted free inside

/-- A chunk at a depth is well chosen, also when raw messages were appended after its fresh tail was read. -/
theorem selectOldestChunkAtDepth_wellChosen (config : CompactionConfig) (tables : Tables)
    (targetDepth : Nat) {earlier appended : List ContextItemRecord}
    (grown : tables.getContextItems = earlier ++ appended)
    (raw : ∀ item ∈ appended, isMessage item = true) {freshTailOrdinalOverride : Option FreshTail}
    (read : freshTailOrdinalOverride.getD (resolveFreshTailOrdinal config tables.getContextItems) =
      resolveFreshTailOrdinal config earlier) :
    WellChosen config tables.getContextItems (fun item => (summaryWeight tables targetDepth item).getD 0)
      (selectOldestChunkAtDepth config tables targetDepth freshTailOrdinalOverride).items := by
  rw [selectOldestChunkAtDepth, depthScan_eq]
  apply scan_wellChosen tables.contextItems.sorted
  intro item inside free weighted message recent
  simp only [read] at free
  have ascending : (earlier ++ appended).Pairwise fun first second => first.1 < second.1 := by
    rw [← grown]
    exact tables.contextItems.sorted
  have within : item ∈ earlier ++ appended := by
    rw [← grown]
    exact inside
  have last : message ∈ lastMessages config.freshTailCount (earlier ++ appended) := by
    rw [← grown]
    exact recent
  rcases List.mem_append.mp within with old | new
  · exact before_lastMessages_appended ascending old free last
  · rw [summaryWeight_isSome] at weighted
    have message := raw item new
    rw [isMessage] at message
    split at message
    · next same =>
        rw [same] at weighted
        cases weighted
    · cases message

/-- A pass is going to replace the ordinals from the least to the greatest of its chosen items. -/
def Spans (items : List ContextItemRecord) (ordinal : Int) : Prop :=
  ∃ low high, (items.map Prod.fst).min? = some low ∧ (items.map Prod.fst).max? = some high ∧
    low ≤ ordinal ∧ ordinal ≤ high

namespace PassState

/-- The ordinals that a pass in progress is going to replace. -/
def Replaces (pass : PassState) (ordinal : Int) : Prop :=
  match pass with
  | .idle => False
  | .leafChosen items => Spans items ordinal
  | .leafRead items _ => Spans items ordinal
  | .condensedChosen items _ => Spans items ordinal
  | .condensedRead items _ _ => Spans items ordinal
  | .ready pending => pending.startOrdinal ≤ ordinal ∧ ordinal ≤ pending.endOrdinal

end PassState

theorem readChunk_replaces {tables : Tables} {before after : PassState}
    (moved : readChunk tables before = some after) {ordinal : Int} (replaced : after.Replaces ordinal) :
    before.Replaces ordinal := by
  cases before with
  | leafChosen items =>
      cases moved
      exact replaced
  | condensedChosen items targetDepth =>
      cases moved
      exact replaced
  | _ => cases moved

theorem leafPass_replaces {environment : Environment} {items : List ContextItemRecord}
    {contents : List MessageContent} {summarize : SummarizeFn} {previousSummary : Option JsString}
    {now : Nat} {pending : PendingCommit}
    (made : leafPass environment items contents summarize previousSummary now = some pending)
    {ordinal : Int} (replaced : (PassState.ready pending).Replaces ordinal) : Spans items ordinal := by
  simp only [leafPass, Option.bind_eq_bind, Option.bind_eq_some_iff, Option.some.injEq] at made
  obtain ⟨low, lowest, high, highest, rfl⟩ := made
  exact ⟨low, high, lowest, highest, replaced⟩

theorem condensedPass_replaces {environment : Environment} {items : List ContextItemRecord}
    {targetDepth : Nat} {records : List SummaryRecord} {summarize : SummarizeFn}
    {previousSummary : Option JsString} {now : Nat} {pending : PendingCommit}
    (made : condensedPass environment items targetDepth records summarize previousSummary now =
      some pending)
    {ordinal : Int} (replaced : (PassState.ready pending).Replaces ordinal) : Spans items ordinal := by
  simp only [condensedPass, Option.bind_eq_bind, Option.bind_eq_some_iff, Option.some.injEq] at made
  obtain ⟨low, lowest, high, highest, rfl⟩ := made
  exact ⟨low, high, lowest, highest, replaced⟩

theorem summarizeChunk_replaces {environment : Environment} {summarize : SummarizeFn}
    {previousSummary : Option JsString} {now : Nat} {before after : PassState}
    (moved : summarizeChunk environment summarize previousSummary now before = some after) {ordinal : Int}
    (replaced : after.Replaces ordinal) : before.Replaces ordinal := by
  cases before with
  | leafRead items contents =>
      simp only [summarizeChunk, Option.bind_eq_bind, Option.bind_eq_some_iff, Option.some.injEq] at moved
      obtain ⟨pending, made, rfl⟩ := moved
      exact leafPass_replaces made replaced
  | condensedRead items targetDepth records =>
      simp only [summarizeChunk, Option.bind_eq_bind, Option.bind_eq_some_iff, Option.some.injEq] at moved
      obtain ⟨pending, made, rfl⟩ := moved
      exact condensedPass_replaces made replaced
  | _ => cases moved

/-- A chosen chunk leaves every protected message outside the ordinals that it spans. -/
theorem WellChosen.outside {config : CompactionConfig} {contextItems items : List ContextItemRecord}
    {tokens : ContextItemRecord → Nat} (chosen : WellChosen config contextItems tokens items)
    {message : ContextItemRecord} (recent : message ∈ lastMessages config.freshTailCount contextItems) :
    ¬ Spans items message.1 := by
  rintro ⟨low, high, lowest, highest, above, below⟩
  have inside := chosen.alone low high lowest highest message (mem_lastMessages recent).1 above below
  exact lt_irrefl _ (chosen.beforeTail message inside message recent)

/-- A chunk of summaries leaves every message outside, whatever fresh tail it was chosen with. -/
theorem eligibleChunkAtDepth_outside {config : CompactionConfig} {tables : Tables} {targetDepth : Nat}
    {freshTailOrdinalOverride : Option FreshTail} {hardTrigger : Bool} {items : List ContextItemRecord}
    (eligible : eligibleChunkAtDepth config tables targetDepth freshTailOrdinalOverride hardTrigger =
      some items) {ordinal : Int} {messageId : MessageId}
    (stored : (ordinal, ContextItem.message messageId) ∈ tables.getContextItems) :
    ¬ Spans items ordinal := by
  obtain ⟨_, ⟨before, after, whole⟩, summaries⟩ := eligibleChunkAtDepth_segment eligible
  rintro ⟨low, high, lowest, highest, above, below⟩
  have inside := mem_of_between tables.contextItems.sorted whole (List.min?_mem lowest)
    (List.max?_mem highest) stored above below
  have summary := summaries _ inside
  cases summary

end Lcm.Compaction
