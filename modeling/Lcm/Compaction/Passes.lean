import Lcm.Compaction.Selection

namespace Lcm.Compaction
open Text Store

/-- The message data that a leaf pass reads for one context item. -/
structure MessageContent where
  messageId : MessageId
  content : JsString
  createdAt : Timestamp
  tokenCount : Nat
  deriving DecidableEq

/-- A leaf pass skips items without a stored message. -/
def readMessage (tables : Tables) (item : ContextItemRecord) : Option MessageContent :=
  match item.2 with
  | .summary _ => none
  | .message messageId =>
      (tables.messages.getMessageById messageId).map fun message =>
        { messageId := message.messageId
          content := message.content
          createdAt := message.createdAt
          tokenCount := resolveMessageTokenCount message }

/-- A condensed pass skips items without a stored summary. -/
def readSummary (tables : Tables) (item : ContextItemRecord) : Option SummaryRecord :=
  match item.2 with
  | .message _ => none
  | .summary summaryId => tables.getSummary summaryId

/-- The rows that link a new summary to its sources. -/
inductive SummaryLinks where
  | messages (messageIds : List MessageId)
  | parents (parentSummaryIds : List SummaryId)
  deriving DecidableEq

/-- A pass ends with one transaction over these values. -/
structure PendingCommit where
  input : CreateSummaryInput
  links : SummaryLinks
  startOrdinal : Int
  endOrdinal : Int
  deriving DecidableEq

/-- The source text of a leaf pass. -/
def leafSource (environment : Environment) (contents : List MessageContent) : JsString :=
  join (js "\n\n") (contents.map fun message =>
    js "[" ++ environment.formatTimestamp message.createdAt ++ js "]\n" ++ message.content)

/-- The summary that a leaf pass inserts. -/
def leafInput (contents : List MessageContent) (summaryId : SummaryId) (content : JsString) :
    CreateSummaryInput where
  summaryId := summaryId
  kind := .leaf
  depth := some 0
  content := content
  tokenCount := estimateTokens content
  fileIds := dedupeOrdered (contents.flatMap fun message => extractFileIdsFromContent message.content)
  earliestAt := (contents.map (·.createdAt)).min?
  latestAt := (contents.map (·.createdAt)).max?
  descendantCount := some 0
  descendantTokenCount := some 0
  sourceMessageTokenCount := some (contents.map (·.tokenCount)).sum

/-- A leaf pass turns the messages that it read into one pending commit. -/
def leafPass (environment : Environment) (items : List ContextItemRecord)
    (contents : List MessageContent) (summarize : SummarizeFn) (previousSummary : Option JsString)
    (now : Nat) : Option PendingCommit := do
  let summary := (summarizeWithEscalation environment (leafSource environment contents) summarize
    { previousSummary := previousSummary, isCondensed := false, depth := none }).1
  let startOrdinal ← (items.map Prod.fst).min?
  let endOrdinal ← (items.map Prod.fst).max?
  some {
    input := leafInput contents (generateSummaryId environment summary now) summary
    links := .messages (contents.map (·.messageId))
    startOrdinal := startOrdinal
    endOrdinal := endOrdinal }

/-- The time range of a summary falls back to its creation time. -/
def earliestOf (summary : SummaryRecord) : Timestamp := summary.earliestAt.getD summary.createdAt

def latestOf (summary : SummaryRecord) : Timestamp := summary.latestAt.getD summary.createdAt

/-- The source text of a condensed pass. -/
def condensedSource (environment : Environment) (records : List SummaryRecord) : JsString :=
  join (js "\n\n") (records.map fun summary =>
    js "[" ++ environment.formatTimestamp (earliestOf summary) ++ js " - " ++
      environment.formatTimestamp (latestOf summary) ++ js "]\n" ++ summary.content)

/-- The summary that a condensed pass inserts. -/
def condensedInput (records : List SummaryRecord) (targetDepth : Nat) (summaryId : SummaryId)
    (content : JsString) : CreateSummaryInput where
  summaryId := summaryId
  kind := .condensed
  depth := some (targetDepth + 1)
  content := content
  tokenCount := estimateTokens content
  fileIds := dedupeOrdered (records.flatMap fun summary =>
    summary.fileIds ++ extractFileIdsFromContent summary.content)
  earliestAt := (records.map earliestOf).min?
  latestAt := (records.map latestOf).max?
  descendantCount := some (records.map fun summary => summary.descendantCount + 1).sum
  descendantTokenCount :=
    some (records.map fun summary => summary.tokenCount + summary.descendantTokenCount).sum
  sourceMessageTokenCount := some (records.map (·.sourceMessageTokenCount)).sum

/-- A condensed pass turns the summaries that it read into one pending commit. -/
def condensedPass (environment : Environment) (items : List ContextItemRecord) (targetDepth : Nat)
    (records : List SummaryRecord) (summarize : SummarizeFn) (previousSummary : Option JsString)
    (now : Nat) : Option PendingCommit := do
  let summary := (summarizeWithEscalation environment (condensedSource environment records) summarize
    { previousSummary := previousSummary, isCondensed := true, depth := some (targetDepth + 1) }).1
  let startOrdinal ← (items.map Prod.fst).min?
  let endOrdinal ← (items.map Prod.fst).max?
  some {
    input := condensedInput records targetDepth (generateSummaryId environment summary now) summary
    links := .parents (records.map (·.summaryId))
    startOrdinal := startOrdinal
    endOrdinal := endOrdinal }

/-- A pass is idle, has chosen its chunk, has read it, or waits to commit its summary. -/
inductive PassState where
  | idle
  | leafChosen (items : List ContextItemRecord)
  | leafRead (items : List ContextItemRecord) (contents : List MessageContent)
  | condensedChosen (items : List ContextItemRecord) (targetDepth : Nat)
  | condensedRead (items : List ContextItemRecord) (targetDepth : Nat)
      (records : List SummaryRecord)
  | ready (pending : PendingCommit)
  deriving DecidableEq

/-- A leaf pass starts only on a nonempty chunk. -/
def chooseLeaf (config : CompactionConfig) (tables : Tables) : Option PassState :=
  let chunk := (selectOldestLeafChunk config tables).items
  if chunk = [] then none else some (.leafChosen chunk)

/-- A condensed pass starts only on an eligible chunk. -/
def chooseCondensed (config : CompactionConfig) (tables : Tables) (targetDepth : Nat)
    (freshTailOrdinalOverride : Option FreshTail) (hardTrigger : Bool) : Option PassState := do
  let items ← eligibleChunkAtDepth config tables targetDepth freshTailOrdinalOverride hardTrigger
  some (.condensedChosen items targetDepth)

/-- The read phase fetches the rows of the chosen items. -/
def readChunk (tables : Tables) : PassState → Option PassState
  | .leafChosen items => some (.leafRead items (items.filterMap (readMessage tables)))
  | .condensedChosen items targetDepth =>
      some (.condensedRead items targetDepth (items.filterMap (readSummary tables)))
  | _ => none

/-- The summarizer turns the fetched rows into a pending commit. -/
def summarizeChunk (environment : Environment) (summarize : SummarizeFn)
    (previousSummary : Option JsString) (now : Nat) : PassState → Option PassState
  | .leafRead items contents => do
      some (.ready (← leafPass environment items contents summarize previousSummary now))
  | .condensedRead items targetDepth records => do
      some (.ready (← condensedPass environment items targetDepth records summarize
        previousSummary now))
  | _ => none

/-- The moves of a pass before its commit. -/
inductive PassAction where
  | chooseLeaf
  | chooseCondensed (targetDepth : Nat) (freshTailOrdinalOverride : Option FreshTail)
      (hardTrigger : Bool)
  | read
  | summarize (summarize : SummarizeFn) (previousSummary : Option JsString) (now : Nat)
  | abandon

/-- A pass reads the tables but changes nothing before its commit. -/
def advance (environment : Environment) (config : CompactionConfig) (tables : Tables)
    (pass : PassState) : PassAction → Option PassState
  | .chooseLeaf => if pass = .idle then chooseLeaf config tables else none
  | .chooseCondensed targetDepth freshTailOrdinalOverride hardTrigger =>
      if pass = .idle then
        chooseCondensed config tables targetDepth freshTailOrdinalOverride hardTrigger
      else none
  | .read => readChunk tables pass
  | .summarize summarize previousSummary now =>
      summarizeChunk environment summarize previousSummary now pass
  | .abandon => some .idle

/-- The links of a pending commit. -/
def linkSources (tables : Tables) (summaryId : SummaryId) : SummaryLinks → Tables
  | .messages messageIds => tables.linkSummaryToMessages summaryId messageIds
  | .parents parentSummaryIds => tables.linkSummaryToParents summaryId parentSummaryIds

/-- The transaction of a pass inserts, links and replaces, or changes nothing. -/
def commitPass (tables : Tables) (pending : PendingCommit) (createdAt : Timestamp) :
    Option Tables := do
  let inserted ← tables.insertSummary pending.input createdAt
  (linkSources inserted pending.input.summaryId pending.links).replaceContextRangeWithSummary
    pending.startOrdinal pending.endOrdinal pending.input.summaryId

end Lcm.Compaction
