import Lcm.Compaction.BatchDiscovery
import Lcm.Compaction.FirstPass
import Mathlib.Data.List.Dedup

namespace Lcm.Compaction
open Text Store

section Pages

variable {tables : Tables} {conversationId : ConversationId}

/-- The messages of a conversation. -/
def conversationMessages (tables : Tables) (conversationId : ConversationId) : List MessageRecord :=
  tables.messages.rows.rows.filter (·.conversationId = conversationId)

theorem distinct_seq (distinct : (tables.messages.seqs conversationId).Nodup) :
    ∀ first ∈ conversationMessages tables conversationId, ∀ second ∈ conversationMessages tables conversationId,
      first.seq = second.seq → first = second :=
  fun _ firstIn _ secondIn same => List.inj_on_of_nodup_map distinct firstIn secondIn same

theorem messagesAfter_eq (distinct : (tables.messages.seqs conversationId).Nodup) (afterSeq : Option Nat) :
    messagesAfter tables conversationId afterSeq =
      (messagesAfter tables conversationId none).filter fun message => afterSeq.all (· < message.seq) := by
  have none : messagesAfter tables conversationId none =
      sortedBy (·.seq) (conversationMessages tables conversationId) := by simp [messagesAfter, conversationMessages]
  rw [none, ← SortedBy.filter _ (distinct_seq distinct), conversationMessages, List.filter_filter, messagesAfter]
  congr 2
  funext message
  simp [Bool.and_comm]

theorem messagesAfter_ascending (distinct : (tables.messages.seqs conversationId).Nodup) (afterSeq : Option Nat) :
    (messagesAfter tables conversationId afterSeq).Pairwise fun first second => first.seq < second.seq := by
  have once : (conversationMessages tables conversationId).Nodup := List.Nodup.of_map _ distinct
  have ascending := SortedBy.strictly once (distinct_seq distinct)
  rw [messagesAfter_eq distinct]
  apply List.Pairwise.filter
  simpa [messagesAfter, conversationMessages] using ascending

/-- Behind a page come the messages that the page leaves. -/
theorem messagesAfter_page (distinct : (tables.messages.seqs conversationId).Nodup) {afterSeq : Option Nat}
    {last : MessageRecord} (ends : (getMessagePage tables conversationId afterSeq).getLast? = some last) :
    messagesAfter tables conversationId (some last.seq) =
      (messagesAfter tables conversationId afterSeq).drop messagePageSize := by
  have later := SortedBy.filter_behind (messagesAfter_ascending distinct afterSeq)
    (List.take_append_drop messagePageSize _).symm ends
  have inside : last ∈ messagesAfter tables conversationId afterSeq :=
    List.mem_of_mem_take (List.mem_of_getLast? ends)
  rw [← later, messagesAfter_eq distinct (some last.seq), messagesAfter_eq distinct afterSeq, List.filter_filter]
  apply List.filter_congr
  intro message _
  rw [messagesAfter_eq distinct, List.mem_filter] at inside
  cases afterSeq with
  | none => simp
  | some after =>
      have behind : after < last.seq := by simpa using inside.2
      by_cases more : last.seq < message.seq
      · simp [more, behind.trans more]
      · simp [more]

/-- The pages count every message once. -/
theorem countMessages_eq (distinct : (tables.messages.seqs conversationId).Nodup) {fuel : Nat}
    {afterSeq : Option Nat} (enough : (messagesAfter tables conversationId afterSeq).length < fuel)
    (messages tokens : Nat) :
    countMessages tables conversationId fuel afterSeq (messages, tokens) =
      (messages + (messagesAfter tables conversationId afterSeq).length,
        tokens + ((messagesAfter tables conversationId afterSeq).map (·.tokenCount)).sum) := by
  induction fuel generalizing afterSeq messages tokens with
  | zero => cases enough
  | succ fuel ih =>
      rw [countMessages]
      split
      · next short =>
          rw [getMessagePage, List.length_take] at short
          have whole : getMessagePage tables conversationId afterSeq = messagesAfter tables conversationId afterSeq :=
            List.take_of_length_le (by omega)
          rw [whole]
      · next full =>
          have positive : 0 < messagePageSize := by decide
          have nonempty : getMessagePage tables conversationId afterSeq ≠ [] := by
            intro empty
            rw [empty] at full
            exact full positive
          have page : messagePageSize ≤ (messagesAfter tables conversationId afterSeq).length := by
            rw [getMessagePage, List.length_take] at full
            omega
          have ends := List.getLast?_eq_some_getLast nonempty
          have left := messagesAfter_page distinct ends
          rw [ends, Option.map_some, ih (by rw [left, List.length_drop]; omega), left]
          have parts := List.take_append_drop messagePageSize (messagesAfter tables conversationId afterSeq)
          have lengths := congrArg List.length parts
          have sums := congrArg (fun rows => (rows.map fun message : MessageRecord => message.tokenCount).sum) parts
          simp only [List.length_append, List.map_append, List.sum_append_nat] at lengths sums
          rw [getMessagePage, Prod.mk.injEq]
          omega

theorem counted_eq (distinct : (tables.messages.seqs conversationId).Nodup) :
    countMessages tables conversationId (tables.messages.rows.rows.length + 1) none (0, 0) =
      ((conversationMessages tables conversationId).length,
        ((conversationMessages tables conversationId).map (·.tokenCount)).sum) := by
  have same : (messagesAfter tables conversationId none).Perm (conversationMessages tables conversationId) := by
    have sorted : (sortedBy (·.seq) (conversationMessages tables conversationId)).Perm _ := SortedBy.perm _
    simpa [messagesAfter, conversationMessages] using sorted
  have fewer : (messagesAfter tables conversationId none).length < tables.messages.rows.rows.length + 1 := by
    rw [same.length_eq]
    exact Nat.lt_succ_of_le (List.length_filter_le _ _)
  rw [countMessages_eq distinct fewer, same.length_eq, (same.map _).sum_nat, Nat.zero_add, Nat.zero_add]

end Pages

section Runs

variable {tables : Tables} {freshTail : FreshTail}

/-- Only the summary rows of a depth have a weight for a replay run. -/
def rowWeight (depth : Nat) (row : ReplayContextRow) : Option Nat :=
  if row.itemType = .summary ∧ row.depth = some depth then some row.tokenCount else none

theorem replayRun_eq (depth : Nat) (rest chunk : List ReplayContextRow) :
    replayRun freshTail depth chunk.length (ChunkScan.totalWeight (rowWeight depth) chunk) (decide (chunk ≠ []))
        rest =
      ((ChunkScan.scan (fun row => protects freshTail row.ordinal) (rowWeight depth) manualCompactSummaryChunkTokens
          chunk (ChunkScan.totalWeight (rowWeight depth) chunk) rest).length,
        ChunkScan.totalWeight (rowWeight depth)
          (ChunkScan.scan (fun row => protects freshTail row.ordinal) (rowWeight depth)
            manualCompactSummaryChunkTokens chunk (ChunkScan.totalWeight (rowWeight depth) chunk) rest)) := by
  induction rest generalizing chunk with
  | nil => rfl
  | cons row rest ih =>
      rw [replayRun, ChunkScan.scan]
      split
      · rfl
      · by_cases weighted : row.itemType = .summary ∧ row.depth = some depth
        · have held : rowWeight depth row = some row.tokenCount := if_pos weighted
          have total : ChunkScan.totalWeight (rowWeight depth) (chunk ++ [row]) =
              ChunkScan.totalWeight (rowWeight depth) chunk + row.tokenCount := by
            rw [ChunkScan.totalWeight_concat, held, Option.getD_some]
          have grown := ih (chunk ++ [row])
          rw [total, List.length_append, List.length_singleton,
            decide_eq_true (List.append_ne_nil_of_right_ne_nil chunk (List.cons_ne_nil row []))] at grown
          have here : ¬ (row.itemType ≠ .summary ∨ row.depth ≠ some depth) := by
            rw [← not_and_or, not_not]
            exact weighted
          rw [if_neg here, held]
          simp only [decide_eq_true_eq]
          split
          · rfl
          · split
            · rw [total, List.length_append, List.length_singleton]
            · exact grown
        · have held : rowWeight depth row = none := if_neg weighted
          rw [if_pos (not_and_or.mp weighted), held]
          simp only [decide_eq_true_eq]
          by_cases empty : chunk = []
          · rw [if_neg (not_not.mpr empty), if_pos empty]
            exact ih chunk
          · rw [if_pos empty, if_neg empty]

end Runs

section Depths

variable (tables : Tables)

/-- The weight of a summary item of a depth. -/
def depthWeight (tokensOf : SummaryRecord → Nat) (depth : Nat) (item : ContextItemRecord) : Option Nat :=
  (summaryAtDepth tables depth item.2).map tokensOf

/-- The oldest run of summaries of one depth before the fresh tail. -/
def oldestRun (tokensOf : SummaryRecord → Nat) (depth : Nat) : List ContextItemRecord :=
  ChunkScan.scan (fun item => protects (resolveFreshTailOrdinal compactRouteConfig tables.getContextItems) item.1)
    (depthWeight tables tokensOf depth) manualCompactSummaryChunkTokens [] 0 tables.getContextItems

/-- At some depth the oldest run has the members and the tokens of a condensation. -/
def Condensable (tokensOf : SummaryRecord → Nat) : Prop :=
  ∃ depth, replayFanout depth ≤ (oldestRun tables tokensOf depth).length ∧
    manualCompactMinCondensedTokens ≤
      ChunkScan.totalWeight (depthWeight tables tokensOf depth) (oldestRun tables tokensOf depth)

/-- A depth with a summary before the fresh tail. -/
def PresentDepth (depth : Nat) : Prop :=
  ∃ item ∈ tables.getContextItems,
    protects (resolveFreshTailOrdinal compactRouteConfig tables.getContextItems) item.1 = false ∧
      (summaryAtDepth tables depth item.2).isSome

variable {tables}

theorem replayFanout_pos (depth : Nat) : 0 < replayFanout depth := by
  unfold replayFanout
  split <;> decide

theorem oldestRun_present {tokensOf : SummaryRecord → Nat} {depth : Nat}
    (enough : replayFanout depth ≤ (oldestRun tables tokensOf depth).length) : PresentDepth tables depth := by
  have extended : ChunkScan.Extends _ (depthWeight tables tokensOf depth) [] tables.getContextItems
      (oldestRun tables tokensOf depth) := ChunkScan.scan_extends tables.getContextItems [] 0
  obtain ⟨skipped, added, left, whole, same, _, _, members⟩ := extended.parts
  rw [same, List.nil_append] at enough
  obtain ⟨item, inside⟩ := List.exists_mem_of_length_pos (Nat.lt_of_lt_of_le (replayFanout_pos depth) enough)
  obtain ⟨free, weighted⟩ := members item inside
  refine ⟨item, ?_, free, by simpa [depthWeight] using weighted⟩
  rw [whole]
  exact List.mem_append_left _ (List.mem_append_right _ inside)

theorem summaryAtDepth_isSome {depth : Nat} {item : ContextItem} :
    (summaryAtDepth tables depth item).isSome ↔
      ∃ summaryId summary, item = .summary summaryId ∧ tables.getSummary summaryId = some summary ∧
        summary.depth = depth := by
  cases item with
  | message messageId => simp [summaryAtDepth]
  | summary summaryId =>
      rw [summaryAtDepth, Option.isSome_filter]
      cases stored : tables.getSummary summaryId with
      | none => simp [stored]
      | some summary => simp [stored]

theorem mem_getDistinctDepthsInContext {depth : Nat} :
    depth ∈ getDistinctDepthsInContext tables
      (resolveFreshTailOrdinal compactRouteConfig tables.getContextItems) ↔ PresentDepth tables depth := by
  rw [getDistinctDepthsInContext, List.mem_insertionSort, List.mem_dedup, List.mem_filterMap, PresentDepth]
  apply exists_congr
  rintro ⟨ordinal, item⟩
  cases item with
  | message messageId => simp [summaryAtDepth]
  | summary summaryId =>
      rw [summaryAtDepth_isSome]
      cases protects (resolveFreshTailOrdinal compactRouteConfig tables.getContextItems) ordinal with
      | true => simp
      | false => simp

theorem mem_replayDepths {depth : Nat} :
    depth ∈ replayDepths (resolveFreshTailOrdinal compactRouteConfig tables.getContextItems) (replayRows tables) ↔
      PresentDepth tables depth := by
  rw [replayDepths, List.mem_insertionSort, List.mem_dedup, replayRows, List.filterMap_map, List.mem_filterMap,
    PresentDepth]
  apply exists_congr
  rintro ⟨ordinal, item⟩
  rw [summaryAtDepth_isSome]
  cases item with
  | message messageId => simp [replayRow]
  | summary summaryId =>
      cases stored : tables.getSummary summaryId with
      | none => simp [replayRow, stored]
      | some summary => simp [replayRow, stored]

theorem replayRow_ordinal (entry : ContextItemRecord) : (replayRow tables entry).ordinal = entry.1 := by
  rw [replayRow]
  split
  · rfl
  · split <;> rfl

theorem replayFreshTail_eq :
    replayFreshTail (replayRows tables) = resolveFreshTailOrdinal compactRouteConfig tables.getContextItems := by
  have kind : ∀ entry : ContextItemRecord,
      (decide ((replayRow tables entry).itemType = .message)) = isMessage entry := by
    rintro ⟨ordinal, item⟩
    cases item with
    | message messageId => rfl
    | summary summaryId =>
        cases stored : tables.getSummary summaryId with
        | none => simp [replayRow, isMessage, stored]
        | some summary => simp [replayRow, isMessage, stored]
  have raws : ((replayRows tables).filter (·.itemType = .message)).map (·.ordinal) =
      (tables.getContextItems.filter isMessage).map Prod.fst := by
    rw [replayRows, List.filter_map, List.map_map]
    simp only [Function.comp_def, kind, replayRow_ordinal]
  rw [replayFreshTail, raws, resolveFreshTailOrdinal, if_neg (by decide)]
  simp only [List.length_map, List.getElem?_map]
  rfl

end Depths

section Agreement

variable {tables : Tables}

theorem rowWeight_replayRow (depth : Nat) (entry : ContextItemRecord) :
    rowWeight depth (replayRow tables entry) = depthWeight tables replayTokenCount depth entry := by
  obtain ⟨ordinal, item⟩ := entry
  cases item with
  | message messageId => rfl
  | summary summaryId =>
      cases stored : tables.getSummary summaryId with
      | none => simp [rowWeight, replayRow, depthWeight, summaryAtDepth, stored]
      | some summary =>
          by_cases same : summary.depth = depth
          · simp [rowWeight, replayRow, depthWeight, summaryAtDepth, stored, same]
          · simp [rowWeight, replayRow, depthWeight, summaryAtDepth, stored, same]

/-- The replay rows have the oldest runs of the context. -/
theorem replayRun_replayRows (depth : Nat) :
    replayRun (resolveFreshTailOrdinal compactRouteConfig tables.getContextItems) depth 0 0 false
        (replayRows tables) =
      ((oldestRun tables replayTokenCount depth).length,
        ChunkScan.totalWeight (depthWeight tables replayTokenCount depth)
          (oldestRun tables replayTokenCount depth)) := by
  have mapped : ChunkScan.scan
      (fun row => protects (resolveFreshTailOrdinal compactRouteConfig tables.getContextItems)
        (ReplayContextRow.ordinal row)) (rowWeight depth) manualCompactSummaryChunkTokens [] 0 (replayRows tables) =
      (oldestRun tables replayTokenCount depth).map (replayRow tables) := by
    have scanned := @ChunkScan.scan_map _
      (fun row => protects (resolveFreshTailOrdinal compactRouteConfig tables.getContextItems)
        (ReplayContextRow.ordinal row)) (rowWeight depth) manualCompactSummaryChunkTokens _ (replayRow tables)
      tables.getContextItems [] 0
    simp only [List.map_nil, replayRow_ordinal, rowWeight_replayRow] at scanned
    exact scanned
  have whole := @replayRun_eq (resolveFreshTailOrdinal compactRouteConfig tables.getContextItems) depth
    (replayRows tables) []
  have zero : ChunkScan.totalWeight (rowWeight depth) [] = 0 := rfl
  rw [zero, mapped, List.length_map, ChunkScan.totalWeight_map] at whole
  simp only [rowWeight_replayRow] at whole
  exact whole

/-- Replay discovery looks for a condensation with its own estimate of the tokens. -/
theorem hasReplayCondensationCandidate_iff :
    hasReplayCondensationCandidate (replayRows tables) = true ↔ Condensable tables replayTokenCount := by
  rw [hasReplayCondensationCandidate, replayFreshTail_eq]
  simp only [List.any_eq_true, mem_replayDepths, replayRun_replayRows, Bool.and_eq_true, decide_eq_true_eq]
  constructor
  · rintro ⟨depth, _, enough⟩
    exact ⟨depth, enough⟩
  · rintro ⟨depth, enough⟩
    exact ⟨depth, oldestRun_present enough.1, enough⟩

theorem depthScan_tokens (freshTail : FreshTail) (targetDepth budget : Nat) (rest chunk : List ContextItemRecord) :
    (depthScan tables freshTail targetDepth budget chunk
      (ChunkScan.totalWeight (summaryWeight tables targetDepth) chunk) rest).summaryTokens =
        ChunkScan.totalWeight (summaryWeight tables targetDepth)
          (depthScan tables freshTail targetDepth budget chunk
            (ChunkScan.totalWeight (summaryWeight tables targetDepth) chunk) rest).items := by
  induction rest generalizing chunk with
  | nil => rfl
  | cons entry rest ih =>
      obtain ⟨ordinal, item⟩ := entry
      rw [depthScan]
      split
      · rfl
      · split
        · split
          · exact ih chunk
          · rfl
        · next summary found =>
            have total : ChunkScan.totalWeight (summaryWeight tables targetDepth) (chunk ++ [(ordinal, item)]) =
                ChunkScan.totalWeight (summaryWeight tables targetDepth) chunk + resolveSummaryTokenCount summary := by
              rw [ChunkScan.totalWeight_concat, summaryWeight, found, Option.map_some, Option.getD_some]
            have grown := ih (chunk ++ [(ordinal, item)])
            rw [total] at grown
            dsimp only
            split
            · rfl
            · split
              · exact total.symm
              · exact grown

theorem resolveFanoutForDepth_route (depth : Nat) :
    compactRouteConfig.resolveFanoutForDepth depth false = replayFanout depth := by
  unfold CompactionConfig.resolveFanoutForDepth replayFanout
  split
  · next hard => cases hard
  · split <;> rfl

/-- The engine looks for a condensation with the estimate of the engine. -/
theorem eligible_iff :
    (∃ targetDepth ∈ getDistinctDepthsInContext tables
        (resolveFreshTailOrdinal compactRouteConfig tables.getContextItems),
      (eligibleChunkAtDepth compactRouteConfig tables targetDepth
        (some (resolveFreshTailOrdinal compactRouteConfig tables.getContextItems)) false).isSome) ↔
      Condensable tables resolveSummaryTokenCount := by
  have eligible : ∀ depth, (eligibleChunkAtDepth compactRouteConfig tables depth
      (some (resolveFreshTailOrdinal compactRouteConfig tables.getContextItems)) false).isSome ↔
        replayFanout depth ≤ (oldestRun tables resolveSummaryTokenCount depth).length ∧
          manualCompactMinCondensedTokens ≤ ChunkScan.totalWeight (depthWeight tables resolveSummaryTokenCount depth)
            (oldestRun tables resolveSummaryTokenCount depth) := by
    intro depth
    have items : (selectOldestChunkAtDepth compactRouteConfig tables depth
        (some (resolveFreshTailOrdinal compactRouteConfig tables.getContextItems))).items =
          oldestRun tables resolveSummaryTokenCount depth := depthScan_eq ..
    have tokens := @depthScan_tokens tables (resolveFreshTailOrdinal compactRouteConfig tables.getContextItems) depth
      compactRouteConfig.resolveLeafChunkTokens tables.getContextItems []
    have summed : (selectOldestChunkAtDepth compactRouteConfig tables depth
        (some (resolveFreshTailOrdinal compactRouteConfig tables.getContextItems))).summaryTokens =
          ChunkScan.totalWeight (depthWeight tables resolveSummaryTokenCount depth)
            (oldestRun tables resolveSummaryTokenCount depth) := by
      rw [← items]
      exact tokens
    have least : compactRouteConfig.resolveCondensedMinChunkTokens = manualCompactMinCondensedTokens := rfl
    simp only [eligibleChunkAtDepth, items, summed, resolveFanoutForDepth_route, least]
    split
    · next few => simp [Nat.not_le_of_lt few]
    · next many =>
        split
        · next light => simp [Nat.not_le_of_lt light]
        · next heavy => simp [Nat.le_of_not_lt many, Nat.le_of_not_lt heavy]
  simp only [mem_getDistinctDepthsInContext, eligible]
  constructor
  · rintro ⟨depth, _, enough⟩
    exact ⟨depth, enough⟩
  · rintro ⟨depth, enough⟩
    exact ⟨depth, oldestRun_present enough.1, enough⟩

/-- There is a leaf chunk exactly when more raw messages are in the context than the fresh tail holds. -/
theorem leafChunk_iff :
    (selectOldestLeafChunk compactRouteConfig tables).items ≠ [] ↔ manualCompactFreshTailCount < rawCount tables := by
  have chosen := selectOldestLeafChunk_wellChosen compactRouteConfig tables
  obtain ⟨⟨before, rest, parts⟩, messages⟩ := selectOldestLeafChunk_segment compactRouteConfig tables
  constructor
  · intro nonempty
    by_contra few
    obtain ⟨item, inside⟩ := List.exists_mem_of_ne_nil _ nonempty
    obtain ⟨messageId, raw⟩ := messages item inside
    have listed : item ∈ tables.getContextItems := by
      rw [parts]
      exact List.mem_append_left _ (List.mem_append_right _ inside)
    have all : (tables.getContextItems.filter isMessage).length - compactRouteConfig.freshTailCount = 0 :=
      Nat.sub_eq_zero_of_le (Nat.le_of_not_lt few)
    have last : item ∈ lastMessages compactRouteConfig.freshTailCount tables.getContextItems := by
      rw [lastMessages, all, List.drop_zero]
      exact List.mem_filter.mpr ⟨listed, by rw [isMessage, raw]⟩
    exact lt_irrefl _ (chosen.beforeTail item inside item last)
  · intro many
    have sorted := tables.contextItems.sorted.filter isMessage
    have within : (tables.getContextItems.filter isMessage).length - compactRouteConfig.freshTailCount <
        (tables.getContextItems.filter isMessage).length := Nat.sub_lt (by rw [rawCount] at many; omega) (by decide)
    have tail : resolveFreshTailOrdinal compactRouteConfig tables.getContextItems =
        some (tables.getContextItems.filter isMessage)[(tables.getContextItems.filter isMessage).length -
          compactRouteConfig.freshTailCount].1 := by
      rw [resolveFreshTailOrdinal, if_neg (by decide)]
      simp only [List.getElem?_eq_getElem within, Option.map_some]
    have positive : 0 < (tables.getContextItems.filter isMessage).length := Nat.zero_lt_of_lt many
    have oldest := List.mem_filter.mp (List.getElem_mem positive)
    have ahead := List.pairwise_iff_getElem.mp sorted 0 _ positive within
      (Nat.sub_pos_of_lt (show compactRouteConfig.freshTailCount < _ from many))
    have free : ∀ ordinal, ordinal ≤ (tables.getContextItems.filter isMessage)[0].1 →
        protects (resolveFreshTailOrdinal compactRouteConfig tables.getContextItems) ordinal = false := by
      intro ordinal early
      rw [tail, protects, decide_eq_false_iff_not, not_le]
      exact lt_of_le_of_lt early ahead
    generalize (tables.getContextItems.filter isMessage)[0] = first at oldest free
    obtain ⟨skipped, others, whole⟩ := List.append_of_mem oldest.1
    have order : (skipped ++ first :: others).Pairwise fun before after => before.1 < after.1 := by
      rw [← whole]
      exact tables.contextItems.sorted
    rw [selectOldestLeafChunk, leafScan_eq]
    have taken := @ChunkScan.scan_ne_nil _
      (fun item : ContextItemRecord => protects (resolveFreshTailOrdinal compactRouteConfig tables.getContextItems) item.1)
      (messageWeight tables) compactRouteConfig.resolveLeafChunkTokens skipped others first
      (fun other inside => free other.1
        (le_of_lt ((List.pairwise_append.mp order).2.2 other inside first (List.mem_cons_self ..))))
      (free first.1 le_rfl) (messageWeight_isSome.mpr (by
        have message := oldest.2
        rw [isMessage] at message
        split at message
        · next messageId same => exact ⟨messageId, same⟩
        · cases message))
    rw [← whole] at taken
    exact taken

theorem summaryAtDepth_stored {depth : Nat} {item : ContextItem} {summary : SummaryRecord}
    (found : summaryAtDepth tables depth item = some summary) :
    ∃ summaryId, tables.getSummary summaryId = some summary := by
  cases item with
  | message messageId => cases found
  | summary summaryId => exact ⟨summaryId, (Option.filter_eq_some_iff.mp found).1⟩

/-- Two estimates that give every stored summary the same count agree about condensations. -/
theorem condensable_congr {first second : SummaryRecord → Nat}
    (same : ∀ summaryId summary, tables.getSummary summaryId = some summary → first summary = second summary) :
    Condensable tables first ↔ Condensable tables second := by
  have weights : ∀ depth, depthWeight tables first depth = depthWeight tables second depth := by
    intro depth
    funext item
    apply Option.map_congr
    intro summary found
    obtain ⟨summaryId, stored⟩ := summaryAtDepth_stored found
    exact same summaryId summary stored
  unfold Condensable oldestRun
  simp only [weights]

end Agreement

section Discovery

variable {environment : Environment} {conversationId : ConversationId} {minTokens : Nat} {world : SweepWorld}
  {input : CompactionInput}

/-- A stored conversation that discovery looks at: it has a message, enough tokens and a context with tokens. -/
structure Discoverable (tables : Tables) (conversationId : ConversationId) (minTokens : Nat) : Prop where
  distinct : (tables.messages.seqs conversationId).Nodup
  natural : ∀ key ∈ tables.contextItems.keys, 0 ≤ key
  message : conversationMessages tables conversationId ≠ []
  enough : minTokens ≤ ((conversationMessages tables conversationId).map (·.tokenCount)).sum
  positive : 0 < getContextTokenCount tables

theorem Discoverable.nonempty {tables : Tables} (state : Discoverable tables conversationId minTokens) :
    tables.getContextItems ≠ [] := by
  intro empty
  have rows : tables.contextItems.rows = [] := List.map_eq_nil_iff.mpr empty
  have none := state.positive
  rw [getContextTokenCount, rows] at none
  cases none

theorem discoverConversation_isSome {tables : Tables} (state : Discoverable tables conversationId minTokens) :
    (discoverConversation tables conversationId minTokens true).isSome ↔
      manualCompactFreshTailCount < rawCount tables ∨ Condensable tables replayTokenCount := by
  have some : ¬ ((conversationMessages tables conversationId).length = 0 ∨
      ((conversationMessages tables conversationId).map (·.tokenCount)).sum < minTokens) := by
    rw [not_or, not_lt, List.length_eq_zero_iff]
    exact ⟨state.message, state.enough⟩
  rw [discoverConversation, counted_eq state.distinct, ← hasReplayCondensationCandidate_iff]
  simp only [some, if_false, Bool.not_true, Bool.false_and, Bool.false_eq_true, Bool.true_and]
  split
  · next few =>
      simp only [Nat.not_lt_of_le few, false_or]
      split
      · next candidate => simp [candidate]
      · next none => simp [none]
  · next many => simp [Nat.lt_of_not_le many]

/-- Replay discovery and the sweep agree exactly when more raw messages are in the context than the fresh tail
holds, or the two estimates of a summary without a count agree about whether there is a condensation. They do
when no such summary holds a surrogate pair. -/
theorem replay_discovery_agrees (state : Discoverable world.tables conversationId minTokens)
    (idle : world.passes = []) (forced : input.force = true) (soft : input.hardTrigger = false)
    (accepts : AcceptsFirst environment compactRouteConfig input.hardTrigger world) :
    (((discoverConversation world.tables conversationId minTokens true).isSome ↔
        HasPass ((compactFullSweep environment compactRouteConfig conversationId input).alone world).2) ↔
      (manualCompactFreshTailCount < rawCount world.tables ∨
        (Condensable world.tables replayTokenCount ↔ Condensable world.tables resolveSummaryTokenCount))) ∧
    ((∀ summaryId summary, world.tables.getSummary summaryId = some summary → summary.tokenCount = 0 →
        codePointCount summary.content = summary.content.length) →
      (Condensable world.tables replayTokenCount ↔ Condensable world.tables resolveSummaryTokenCount)) := by
  constructor
  · have swept := @compactFullSweep_alone environment compactRouteConfig conversationId world state.natural input forced
      accepts state.nonempty idle
    rw [soft, eligible_iff, leafChunk_iff] at swept
    rw [discoverConversation_isSome state, swept]
    tauto
  · intro plain
    apply condensable_congr
    intro summaryId summary stored
    rw [replayTokenCount, resolveSummaryTokenCount, resolveTokenCount, positiveOr, estimateTokens]
    split
    · rfl
    · next zero => rw [plain summaryId summary stored (Nat.eq_zero_of_not_pos zero)]

/-- A summary with one source message. -/
def sampleSummary (summaryId content : JsString) (tokenCount : Nat) : SummaryRecord where
  summaryId := summaryId
  kind := .condensed
  depth := 1
  content := content
  tokenCount := tokenCount
  fileIds := []
  earliestAt := none
  latestAt := none
  descendantCount := 1
  descendantTokenCount := 3
  sourceMessageTokenCount := 3
  createdAt := 0

/-- Four characters outside the basic plane. -/
def fourAstral : JsString := (List.replicate 4 [0xd83d, 0xde00]).flatten

/-- A context of a summary with a count, one without, and a raw message. -/
def replayTables : Tables where
  messages := ⟨⟨[(1, ⟨1, 1, 0, .user, js "hello", 3, 0⟩)], by decide⟩, 1, by decide, by decide⟩
  summaries := ⟨[(js "a", sampleSummary (js "a") (js "a") 1998), (js "b", sampleSummary (js "b") fourAstral 0)],
    by decide⟩
  summaryMessages := .empty
  summaryParents := .empty
  contextItems := .numbered [.summary (js "a"), .summary (js "b"), .message 1]

def replayEnvironment : Environment where
  formatTimestamp _ := []
  scrub text := text
  sha256Hex _ := js "0123456789abcdef"

def replayWorld : SweepWorld := ⟨replayTables, fun _ _ _ => js "x", 1, 0, none, []⟩

def replayInput : CompactionInput := ⟨fun _ => false, true, false, none⟩

theorem replayWorld_accepts : AcceptsFirst replayEnvironment compactRouteConfig false replayWorld := by
  intro pending starts
  cases starts with
  | leaf made =>
      have none : (selectOldestLeafChunk compactRouteConfig replayWorld.tables).items = [] := by decide
      rw [none] at made
      cases made
  | @condensed targetDepth items previous pending eligible made =>
      obtain ⟨nonempty, _, depths⟩ := eligibleChunkAtDepth_segment eligible
      obtain ⟨item, inside⟩ := List.exists_mem_of_ne_nil _ nonempty
      obtain ⟨summaryId, summary, _, stored, depth⟩ := summaryAtDepth_isSome.mp (depths item inside)
      have one : ∀ entry ∈ replayTables.summaries.entries, entry.2.depth = 1 := by decide
      have same : targetDepth = 1 := depth.symm.trans (one _ (KeyedTable.get?_eq_some.mp stored))
      have chunk : eligibleChunkAtDepth compactRouteConfig replayWorld.tables 1
          (some (resolveFreshTailOrdinal compactRouteConfig replayWorld.tables.getContextItems)) false =
            some [(0, .summary (js "a")), (1, .summary (js "b"))] := by decide
      rw [same] at eligible made
      rw [chunk] at eligible
      cases eligible
      have text : ∀ options, (summarizeWithEscalation replayEnvironment (condensedSource replayEnvironment
          ([(0, .summary (js "a")), (1, .summary (js "b"))].filterMap (readSummary replayWorld.tables)))
            replayWorld.summarize options).1 = js "x" := by
        intro options
        show (summarizeWithEscalation replayEnvironment _ replayWorld.summarize ⟨none, true, none⟩).1 = js "x"
        decide
      cases made
      constructor
      · simp only [text]
        decide
      · simp only [text]
        decide

theorem replayTables_discoverable : Discoverable replayTables 1 0 where
  distinct := by decide
  natural := by decide
  message := by decide
  enough := by decide
  positive := by decide

/-- The summary without a count has two tokens for the engine and one for discovery. -/
theorem replay_discovery_differs : ¬ ((discoverConversation replayTables 1 0 true).isSome ↔
    HasPass ((compactFullSweep replayEnvironment compactRouteConfig 1 replayInput).alone replayWorld).2) := by
  have hidden : (discoverConversation replayTables 1 0 true).isSome = false := by decide
  have state := replayTables_discoverable
  have swept := (@compactFullSweep_alone replayEnvironment compactRouteConfig 1 replayWorld state.natural replayInput rfl
    replayWorld_accepts state.nonempty rfl).mpr (.inr ⟨1, by decide, by decide⟩)
  rw [hidden]
  simp [swept]

theorem replay_discovery_agrees_sample :
    (((discoverConversation replayTables 1 0 true).isSome ↔
        HasPass ((compactFullSweep replayEnvironment compactRouteConfig 1 replayInput).alone replayWorld).2) ↔
      (manualCompactFreshTailCount < rawCount replayTables ∨
        (Condensable replayTables replayTokenCount ↔ Condensable replayTables resolveSummaryTokenCount))) :=
  (@replay_discovery_agrees replayEnvironment 1 0 replayWorld replayInput replayTables_discoverable rfl rfl rfl
    replayWorld_accepts).1

end Discovery

end Lcm.Compaction
