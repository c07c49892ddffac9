import Lcm.Compaction.Summarize
import Lcm.Library.ChunkScan

namespace Lcm.Compaction
open Text Store

abbrev ContextItemRecord := Int × ContextItem

structure CompactionConfig where
  freshTailCount : Nat
  leafMinFanout : Nat
  condensedMinFanout : Nat
  condensedMinFanoutHard : Nat
  leafChunkTokens : Option Nat
  condensedTargetTokens : Nat

/-- A configured number counts only when it is positive. -/
def positiveOr (value fallback : Nat) : Nat := if 0 < value then value else fallback

theorem positiveOr_pos {value fallback : Nat} (positive : 0 < fallback) :
    0 < positiveOr value fallback := by
  unfold positiveOr
  split <;> assumption

namespace CompactionConfig

def resolveLeafChunkTokens (config : CompactionConfig) : Nat :=
  positiveOr (config.leafChunkTokens.getD 0) 20000

def resolveLeafMinFanout (config : CompactionConfig) : Nat := positiveOr config.leafMinFanout 8

def resolveCondensedMinFanout (config : CompactionConfig) : Nat :=
  positiveOr config.condensedMinFanout 4

def resolveCondensedMinFanoutHard (config : CompactionConfig) : Nat :=
  positiveOr config.condensedMinFanoutHard 2

def resolveFanoutForDepth (config : CompactionConfig) (targetDepth : Nat) (hardTrigger : Bool) :
    Nat :=
  if hardTrigger then config.resolveCondensedMinFanoutHard
  else if targetDepth = 0 then config.resolveLeafMinFanout
  else config.resolveCondensedMinFanout

/-- A condensed chunk holds at least a tenth of the leaf chunk size. -/
def resolveCondensedMinChunkTokens (config : CompactionConfig) : Nat :=
  max config.condensedTargetTokens (config.resolveLeafChunkTokens / 10)

theorem resolveFanoutForDepth_pos (config : CompactionConfig) (targetDepth : Nat)
    (hardTrigger : Bool) : 0 < config.resolveFanoutForDepth targetDepth hardTrigger := by
  unfold resolveFanoutForDepth
  split
  · exact positiveOr_pos (by decide)
  · split
    · exact positiveOr_pos (by decide)
    · exact positiveOr_pos (by decide)

end CompactionConfig

/-- A stored count wins when it is positive, else the length decides. -/
def resolveTokenCount (tokenCount : Nat) (content : JsString) : Nat :=
  positiveOr tokenCount (estimateTokens content)

def resolveMessageTokenCount (message : MessageRecord) : Nat :=
  resolveTokenCount message.tokenCount message.content

def resolveSummaryTokenCount (summary : SummaryRecord) : Nat :=
  resolveTokenCount summary.tokenCount summary.content

/-- A missing message counts no tokens. -/
def getMessageTokenCount (tables : Tables) (messageId : MessageId) : Nat :=
  match tables.messages.getMessageById messageId with
  | none => 0
  | some message => resolveMessageTokenCount message

/-- The ordinal from which the fresh tail is protected; none stands for infinity. -/
abbrev FreshTail := Option Int

/-- The scan of a context stops at the first protected ordinal. -/
def protects (freshTail : FreshTail) (ordinal : Int) : Bool :=
  match freshTail with
  | none => false
  | some first => first ≤ ordinal

def isMessage (item : ContextItemRecord) : Bool :=
  match item.2 with
  | .message _ => true
  | .summary _ => false

def resolveFreshTailOrdinal (config : CompactionConfig) (contextItems : List ContextItemRecord) :
    FreshTail :=
  if config.freshTailCount = 0 then none else
    let rawMessageItems := contextItems.filter isMessage
    (rawMessageItems[rawMessageItems.length - config.freshTailCount]?).map Prod.fst

structure LeafChunkSelection where
  items : List ContextItemRecord
  rawTokensOutsideTail : Nat
  threshold : Nat

/-- The tokens of the raw messages in front of the fresh tail. -/
def rawTokensOutsideTail (tables : Tables) (freshTail : FreshTail) : List ContextItemRecord → Nat
  | [] => 0
  | (ordinal, item) :: rest =>
      if protects freshTail ordinal then 0 else
        match item with
        | .summary _ => rawTokensOutsideTail tables freshTail rest
        | .message messageId =>
            getMessageTokenCount tables messageId + rawTokensOutsideTail tables freshTail rest

/-- The leaf scan skips summaries until the first message and stops at the next summary. -/
def leafScan (tables : Tables) (freshTail : FreshTail) (threshold : Nat)
    (chunk : List ContextItemRecord) (chunkTokens : Nat) :
    List ContextItemRecord → List ContextItemRecord
  | [] => chunk
  | (ordinal, item) :: rest =>
      if protects freshTail ordinal then chunk else
        match item with
        | .summary _ =>
            if chunk = [] then leafScan tables freshTail threshold chunk chunkTokens rest else chunk
        | .message messageId =>
            let total := chunkTokens + getMessageTokenCount tables messageId
            if chunk ≠ [] ∧ threshold < total then chunk
            else if threshold ≤ total then chunk ++ [(ordinal, item)]
            else leafScan tables freshTail threshold (chunk ++ [(ordinal, item)]) total rest

def selectOldestLeafChunk (config : CompactionConfig) (tables : Tables) : LeafChunkSelection :=
  let contextItems := tables.getContextItems
  let freshTail := resolveFreshTailOrdinal config contextItems
  let threshold := config.resolveLeafChunkTokens
  { items := leafScan tables freshTail threshold [] 0 contextItems
    rawTokensOutsideTail := rawTokensOutsideTail tables freshTail contextItems
    threshold := threshold }

structure CondensedChunkSelection where
  items : List ContextItemRecord
  summaryTokens : Nat

/-- The record of a summary item that lies at the target depth. -/
def summaryAtDepth (tables : Tables) (targetDepth : Nat) (item : ContextItem) :
    Option SummaryRecord :=
  match item with
  | .message _ => none
  | .summary summaryId => (tables.getSummary summaryId).filter fun summary =>
      summary.depth = targetDepth

/-- The condensed scan skips other items until the first match and stops at the next mismatch. -/
def depthScan (tables : Tables) (freshTail : FreshTail) (targetDepth budget : Nat)
    (chunk : List ContextItemRecord) (summaryTokens : Nat) :
    List ContextItemRecord → CondensedChunkSelection
  | [] => ⟨chunk, summaryTokens⟩
  | (ordinal, item) :: rest =>
      if protects freshTail ordinal then ⟨chunk, summaryTokens⟩ else
        match summaryAtDepth tables targetDepth item with
        | none =>
            if chunk = [] then
              depthScan tables freshTail targetDepth budget chunk summaryTokens rest
            else ⟨chunk, summaryTokens⟩
        | some summary =>
            let total := summaryTokens + resolveSummaryTokenCount summary
            if chunk ≠ [] ∧ budget < total then ⟨chunk, summaryTokens⟩
            else if budget ≤ total then ⟨chunk ++ [(ordinal, item)], total⟩
            else depthScan tables freshTail targetDepth budget (chunk ++ [(ordinal, item)]) total rest

/-- A caller may pass the fresh tail that it computed from an earlier read. -/
def selectOldestChunkAtDepth (config : CompactionConfig) (tables : Tables) (targetDepth : Nat)
    (freshTailOrdinalOverride : Option FreshTail) : CondensedChunkSelection :=
  let contextItems := tables.getContextItems
  let freshTail := freshTailOrdinalOverride.getD (resolveFreshTailOrdinal config contextItems)
  depthScan tables freshTail targetDepth config.resolveLeafChunkTokens [] 0 contextItems

/-- A chunk is condensed only with the fanout and the tokens that its depth asks for. -/
def eligibleChunkAtDepth (config : CompactionConfig) (tables : Tables) (targetDepth : Nat)
    (freshTailOrdinalOverride : Option FreshTail) (hardTrigger : Bool) :
    Option (List ContextItemRecord) :=
  let chunk := selectOldestChunkAtDepth config tables targetDepth freshTailOrdinalOverride
  if chunk.items.length < config.resolveFanoutForDepth targetDepth hardTrigger then none
  else if chunk.summaryTokens < config.resolveCondensedMinChunkTokens then none
  else some chunk.items

/-- Only messages have a weight for the leaf scan. -/
def messageWeight (tables : Tables) (item : ContextItemRecord) : Option Nat :=
  match item.2 with
  | .summary _ => none
  | .message messageId => some (getMessageTokenCount tables messageId)

/-- Only summaries at the target depth have a weight for the condensed scan. -/
def summaryWeight (tables : Tables) (targetDepth : Nat) (item : ContextItemRecord) : Option Nat :=
  (summaryAtDepth tables targetDepth item.2).map resolveSummaryTokenCount

theorem leafScan_eq (tables : Tables) (freshTail : FreshTail) (threshold : Nat)
    (rest chunk : List ContextItemRecord) (chunkTokens : Nat) :
    leafScan tables freshTail threshold chunk chunkTokens rest =
      ChunkScan.scan (fun item => protects freshTail item.1) (messageWeight tables) threshold chunk
        chunkTokens rest := by
  induction rest generalizing chunk chunkTokens with
  | nil => rfl
  | cons item rest ih =>
      obtain ⟨ordinal, item⟩ := item
      cases item with
      | summary summaryId => simp [leafScan, ChunkScan.scan, messageWeight, ih]
      | message messageId => simp [leafScan, ChunkScan.scan, messageWeight, ih]

theorem depthScan_eq (tables : Tables) (freshTail : FreshTail) (targetDepth budget : Nat)
    (rest chunk : List ContextItemRecord) (summaryTokens : Nat) :
    (depthScan tables freshTail targetDepth budget chunk summaryTokens rest).items =
      ChunkScan.scan (fun item => protects freshTail item.1) (summaryWeight tables targetDepth) budget chunk
        summaryTokens rest := by
  induction rest generalizing chunk summaryTokens with
  | nil => rfl
  | cons item rest ih =>
      obtain ⟨ordinal, item⟩ := item
      cases found : summaryAtDepth tables targetDepth item with
      | none =>
          simp only [depthScan, ChunkScan.scan, summaryWeight, found, Option.map_none]
          split
          · rfl
          · split
            · exact ih chunk summaryTokens
            · rfl
      | some summary =>
          simp only [depthScan, ChunkScan.scan, summaryWeight, found, Option.map_some]
          split
          · rfl
          · split
            · rfl
            · split
              · rfl
              · exact ih _ _

theorem messageWeight_isSome {tables : Tables} {item : ContextItemRecord} :
    (messageWeight tables item).isSome ↔ ∃ messageId, item.2 = .message messageId := by
  rw [messageWeight]
  split <;> simp_all

theorem summaryWeight_isSome {tables : Tables} {targetDepth : Nat} {item : ContextItemRecord} :
    (summaryWeight tables targetDepth item).isSome ↔ (summaryAtDepth tables targetDepth item.2).isSome := by
  rw [summaryWeight, Option.isSome_map]

/-- A leaf chunk is a contiguous part of the context and holds only messages. -/
theorem selectOldestLeafChunk_segment (config : CompactionConfig) (tables : Tables) :
    (∃ before after, tables.getContextItems =
      before ++ (selectOldestLeafChunk config tables).items ++ after) ∧
      ∀ item ∈ (selectOldestLeafChunk config tables).items,
        ∃ messageId, item.2 = .message messageId := by
  rw [selectOldestLeafChunk, leafScan_eq]
  obtain ⟨skipped, added, left, whole, same, _, _, members⟩ := (ChunkScan.scan_extends _ _ _).parts
  rw [same, List.nil_append]
  exact ⟨⟨skipped, left, whole⟩, fun item inside => messageWeight_isSome.mp (members item inside).2⟩

/-- A chunk at a depth is a contiguous part of the context and holds only summaries of that depth. -/
theorem selectOldestChunkAtDepth_segment (config : CompactionConfig) (tables : Tables) (targetDepth : Nat)
    (freshTailOrdinalOverride : Option FreshTail) :
    (∃ before after, tables.getContextItems = before ++
      (selectOldestChunkAtDepth config tables targetDepth freshTailOrdinalOverride).items ++ after) ∧
      ∀ item ∈ (selectOldestChunkAtDepth config tables targetDepth freshTailOrdinalOverride).items,
        (summaryAtDepth tables targetDepth item.2).isSome := by
  rw [selectOldestChunkAtDepth, depthScan_eq]
  obtain ⟨skipped, added, left, whole, same, _, _, members⟩ := (ChunkScan.scan_extends _ _ _).parts
  rw [same, List.nil_append]
  exact ⟨⟨skipped, left, whole⟩, fun item inside => summaryWeight_isSome.mp (members item inside).2⟩

/-- An eligible chunk is a nonempty contiguous part of the context at one depth. -/
theorem eligibleChunkAtDepth_segment {config : CompactionConfig} {tables : Tables}
    {targetDepth : Nat} {freshTailOrdinalOverride : Option FreshTail} {hardTrigger : Bool}
    {items : List ContextItemRecord}
    (eligible : eligibleChunkAtDepth config tables targetDepth freshTailOrdinalOverride hardTrigger =
      some items) :
    items ≠ [] ∧ (∃ before after, tables.getContextItems = before ++ items ++ after) ∧
      ∀ item ∈ items, (summaryAtDepth tables targetDepth item.2).isSome := by
  unfold eligibleChunkAtDepth at eligible
  simp only at eligible
  split at eligible
  · cases eligible
  · next enough =>
      split at eligible
      · cases eligible
      · cases eligible
        refine ⟨?_, selectOldestChunkAtDepth_segment config tables targetDepth freshTailOrdinalOverride⟩
        intro empty
        have positive := config.resolveFanoutForDepth_pos targetDepth hardTrigger
        rw [empty] at enough
        exact enough positive

end Lcm.Compaction
