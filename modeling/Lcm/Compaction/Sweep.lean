import Lcm.Compaction.System
import Lcm.Library.SoloProcess
import Mathlib.Data.List.Sort

namespace Lcm.Compaction
open Text Store

/-- The stored token count of a context item; a missing row counts nothing. -/
def storedTokens (tables : Tables) (item : ContextItem) : Nat :=
  match item with
  | .message messageId => ((tables.messages.getMessageById messageId).map (·.tokenCount)).getD 0
  | .summary summaryId => ((tables.getSummary summaryId).map (·.tokenCount)).getD 0

def getContextTokenCount (tables : Tables) : Nat :=
  (tables.contextItems.rows.map (storedTokens tables)).sum

/-- The depths of the summaries in the context before an ordinal, in ascending order. -/
def getDistinctDepthsInContext (tables : Tables) (maxOrdinalExclusive : FreshTail) : List Nat :=
  let depths := tables.getContextItems.filterMap fun entry =>
    match entry.2 with
    | .message _ => none
    | .summary summaryId =>
        if protects maxOrdinalExclusive entry.1 then none else (tables.getSummary summaryId).map (·.depth)
  depths.dedup.insertionSort (· ≤ ·)

/-- The source of a summary with the two answers that the summarizer gives or would give for it. -/
structure Escalation where
  sourceText : JsString
  normal : JsString
  aggressive : JsString

/-- A committed pass as a record for proofs: the count that its loop recorded before it, what was
summarized, the range that it replaced and the tables around its transaction. -/
structure CommittedPass where
  condensed : Bool
  recorded : Nat
  escalation : Escalation
  startOrdinal : Int
  endOrdinal : Int
  before : Tables
  after : Tables

/-- A sweep works on tables that others may change, with a summarizer that may answer differently each
time. The last two fields record what the sweep itself did. -/
structure SweepWorld where
  tables : Tables
  summarize : SummarizeFn
  now : Nat
  clock : Timestamp
  tokensBefore : Option Nat
  passes : List CommittedPass

/-- A call fails because the invocation was aborted or because the store refuses it. -/
inductive SweepFailure where
  | aborted
  | error
  deriving DecidableEq

abbrev SweepProcess := Process SweepWorld SweepFailure

structure PassResult where
  summaryId : SummaryId
  level : CompactionLevel
  content : JsString

/-- What a sweep has done so far. -/
structure Progress where
  condensed : Bool
  created : Option PassResult

structure CompactionResult where
  actionTaken : Bool
  tokensBefore : Nat
  tokensAfter : Nat
  createdSummaryId : Option SummaryId
  condensed : Bool
  level : Option CompactionLevel

/-- The arguments of a compaction; the comparison with the threshold is one of floating-point numbers. -/
structure CompactionInput where
  withinThreshold : Nat → Bool
  force : Bool
  hardTrigger : Bool
  previousSummaryContent : Option JsString

def unchanged (tokensBefore : Nat) : CompactionResult where
  actionTaken := false
  tokensBefore := tokensBefore
  tokensAfter := tokensBefore
  createdSummaryId := none
  condensed := false
  level := none

def Progress.result (progress : Progress) (tokensBefore tokensAfter : Nat) : CompactionResult where
  actionTaken := progress.created.isSome
  tokensBefore := tokensBefore
  tokensAfter := tokensAfter
  createdSummaryId := progress.created.map (·.summaryId)
  condensed := progress.condensed
  level := progress.created.map (·.level)

/-- An absent text and an empty one count alike. -/
def presentText (text : JsString) : Option JsString := if text = [] then none else some text

/-- The summary items before a chunk. -/
def priorSummaryIds (tables : Tables) (items : List ContextItemRecord) : List SummaryId :=
  match (items.map Prod.fst).min? with
  | none => []
  | some startOrdinal => tables.getContextItems.filterMap fun entry =>
      match entry.2 with
      | .message _ => none
      | .summary summaryId => if entry.1 < startOrdinal then some summaryId else none

/-- The last elements of a list. -/
def lastOf {Item : Type} (count : Nat) (items : List Item) : List Item := items.drop (items.length - count)

def resolvePriorLeafSummaryContext (tables : Tables) (items : List ContextItemRecord) : Option JsString :=
  let contents := (lastOf 2 (priorSummaryIds tables items)).filterMap fun summaryId =>
    (tables.getSummary summaryId).bind fun summary => presentText (trim summary.content)
  if contents = [] then none else some (join (js "\n\n") contents)

def resolvePriorSummaryContextAtDepth (tables : Tables) (items : List ContextItemRecord)
    (targetDepth : Nat) : Option JsString :=
  let contents := (lastOf 4 (priorSummaryIds tables items)).filterMap fun summaryId =>
    ((tables.getSummary summaryId).filter fun summary => summary.depth = targetDepth).bind fun summary =>
      presentText (trim summary.content)
  if contents = [] then none else some (join (js "\n\n") (lastOf 2 contents))

def maxPreviousSummaryLength : Nat := 50000

def levelName (level : CompactionLevel) : JsString :=
  match level with
  | .normal => js "normal"
  | .aggressive => js "aggressive"
  | .fallback => js "fallback"

section Calls

def readTokenCount : SweepProcess Nat := Process.ask fun world => getContextTokenCount world.tables

/-- The first count is also recorded. -/
def readTokensBefore : SweepProcess Nat := Process.act fun world =>
  (.ok (getContextTokenCount world.tables),
    { world with tokensBefore := some (getContextTokenCount world.tables) })

/-- The record of a commit. -/
def recordPass (condensed : Bool) (recorded : Nat) (escalation : Escalation) (pending : PendingCommit)
    (before after : Tables) : CommittedPass where
  condensed := condensed
  recorded := recorded
  escalation := escalation
  startOrdinal := pending.startOrdinal
  endOrdinal := pending.endOrdinal
  before := before
  after := after

/-- The transaction of a pass, which is also recorded. -/
def commit (condensed : Bool) (recorded : Nat) (escalation : Escalation) (pending : PendingCommit) :
    SweepProcess Unit := Process.act fun world =>
  match commitPass world.tables pending world.clock with
  | none => (.error .error, world)
  | some tables =>
      (.ok (), { world with
        tables := tables
        passes := world.passes ++ [recordPass condensed recorded escalation pending world.tables tables] })

/-- The message of a compaction event. -/
def eventInput (condensed : Bool) (level : CompactionLevel) (tokensBefore tokensAfter : Nat) :
    AppendMessageInput :=
  let content := js "LCM compaction " ++ (if condensed then js "condensed" else js "leaf") ++ js " pass (" ++
    levelName level ++ js "): " ++ decimal tokensBefore ++ js " -> " ++ decimal tokensAfter
  ⟨.system, content, estimateTokens content⟩

def writeEvent (conversationId : ConversationId) (input : AppendMessageInput) : SweepProcess Unit :=
  Process.act fun world =>
    match appendEvent world.tables conversationId [input] (fun _ => world.clock) with
    | none => (.error .error, world)
    | some tables => (.ok (), { world with tables := tables })

/-- Only an abort gets through; compaction succeeds also when its event is not stored. -/
def persistCompactionEvent (conversationId : ConversationId) (condensed : Bool) (level : CompactionLevel)
    (tokensBefore tokensAfter : Nat) : SweepProcess Unit :=
  (writeEvent conversationId (eventInput condensed level tokensBefore tokensAfter)).attempt
    fun failure => if failure = .aborted then .failed .aborted else .done ()

end Calls

section Passes

variable (environment : Environment)

/-- What the summarizer is given and answers, as it enters a summary. -/
def escalate (rawSource : JsString) (summarize : SummarizeFn) (options : SummarizeOptions) : Escalation :=
  let sourceText := environment.scrub (trim rawSource)
  ⟨sourceText, summarize sourceText false options, summarize sourceText true options⟩

def runLeafPass (recorded : Nat) (items : List ContextItemRecord) (previousSummary : Option JsString) :
    SweepProcess PassResult := do
  let contents ← Process.ask fun world => items.filterMap (readMessage world.tables)
  let (summarize, now) ← Process.ask fun world => (world.summarize, world.now)
  let options := { previousSummary, isCondensed := false, depth := none }
  let source := leafSource environment contents
  match leafPass environment items contents summarize previousSummary now with
  | none => .failed .error
  | some pending => do
      commit false recorded (escalate environment source summarize options) pending
      pure ⟨pending.input.summaryId, (summarizeWithEscalation environment source summarize options).2,
        pending.input.content⟩

def runCondensedPass (recorded : Nat) (items : List ContextItemRecord) (targetDepth : Nat) :
    SweepProcess PassResult := do
  let records ← Process.ask fun world => items.filterMap (readSummary world.tables)
  let previousSummary ← Process.ask fun world =>
    if targetDepth = 0 then resolvePriorSummaryContextAtDepth world.tables items targetDepth else none
  let (summarize, now) ← Process.ask fun world => (world.summarize, world.now)
  let options := { previousSummary, isCondensed := true, depth := some (targetDepth + 1) }
  let source := condensedSource environment records
  match condensedPass environment items targetDepth records summarize previousSummary now with
  | none => .failed .error
  | some pending => do
      commit true recorded (escalate environment source summarize options) pending
      pure ⟨pending.input.summaryId, (summarizeWithEscalation environment source summarize options).2,
        pending.input.content⟩

end Passes

section Sweeps

variable (environment : Environment) (config : CompactionConfig) (conversationId : ConversationId)

def evaluateLeafTrigger : SweepProcess Bool := Process.ask fun world =>
  let chunk := selectOldestLeafChunk config world.tables
  decide (chunk.threshold ≤ chunk.rawTokensOutsideTail)

/-- The first depth of a list with an eligible chunk. -/
def firstCandidate (freshTail : FreshTail) (hardTrigger : Bool) :
    List Nat → SweepProcess (Option (Nat × List ContextItemRecord))
  | [] => pure none
  | targetDepth :: depths => do
      let eligible ← Process.ask fun world =>
        eligibleChunkAtDepth config world.tables targetDepth (some freshTail) hardTrigger
      match eligible with
      | some items => pure (some (targetDepth, items))
      | none => firstCandidate freshTail hardTrigger depths

def selectShallowestCondensationCandidate (hardTrigger : Bool) :
    SweepProcess (Option (Nat × List ContextItemRecord)) := do
  let freshTail ← Process.ask fun world => resolveFreshTailOrdinal config world.tables.getContextItems
  let depths ← Process.ask fun world => getDistinctDepthsInContext world.tables freshTail
  firstCandidate config freshTail hardTrigger depths

/-- The text before a leaf pass comes from the caller, else from the store. -/
def seedSummary (input : CompactionInput) (items : List ContextItemRecord) :
    SweepProcess (Option JsString) :=
  match input.previousSummaryContent with
  | some content => pure (some content)
  | none => Process.ask fun world => resolvePriorLeafSummaryContext world.tables items

/-- The first leaf pass of a sweep starts from a limited seed, the later ones from the summary before. -/
def leafContext (input : CompactionInput) (first : Bool) (previousSummary : Option JsString)
    (items : List ContextItemRecord) : SweepProcess (Option JsString) :=
  if first then do
    let seed ← seedSummary input items
    pure ((seed.bind presentText).map (List.take maxPreviousSummaryLength))
  else pure previousSummary

/-- Leaf passes run while each of them leaves fewer tokens than before it and than recorded so far. -/
def leafPhase (input : CompactionInput) (first : Bool) (previousSummary : Option JsString)
    (previousTokens : Nat) (progress : Progress) : SweepProcess (Nat × Progress) := do
  let items ← Process.ask fun world => (selectOldestLeafChunk config world.tables).items
  if items = [] then pure (previousTokens, progress) else
    let previous ← leafContext input first previousSummary items
    let passTokensBefore ← readTokenCount
    let result ← runLeafPass environment previousTokens items previous
    let passTokensAfter ← readTokenCount
    persistCompactionEvent conversationId false result.level passTokensBefore passTokensAfter
    let progress := { progress with created := some result }
    if _ : passTokensBefore ≤ passTokensAfter ∨ previousTokens ≤ passTokensAfter then
      pure (previousTokens, progress)
    else leafPhase input false (some result.content) passTokensAfter progress
termination_by previousTokens

/-- Condensed passes take the shallowest candidate and go on under the same comparisons. -/
def condensedPhase (input : CompactionInput) (previousTokens : Nat) (progress : Progress) :
    SweepProcess Progress := do
  let candidate ← selectShallowestCondensationCandidate config input.hardTrigger
  match candidate with
  | none => pure progress
  | some (targetDepth, items) => do
      let passTokensBefore ← readTokenCount
      let result ← runCondensedPass environment previousTokens items targetDepth
      let passTokensAfter ← readTokenCount
      persistCompactionEvent conversationId true result.level passTokensBefore passTokensAfter
      let progress := ⟨true, some result⟩
      if _ : passTokensBefore ≤ passTokensAfter ∨ previousTokens ≤ passTokensAfter then pure progress
      else condensedPhase input passTokensAfter progress
termination_by previousTokens

def compactFullSweep (input : CompactionInput) : SweepProcess CompactionResult := do
  let tokensBefore ← readTokensBefore
  let shouldCompact ← evaluateLeafTrigger config
  if !input.force && input.withinThreshold tokensBefore && !shouldCompact then
    pure (unchanged tokensBefore)
  else
    let contextItems ← Process.ask fun world => world.tables.getContextItems
    if contextItems = [] then pure (unchanged tokensBefore) else
      let (previousTokens, progress) ←
        leafPhase environment config conversationId input true none tokensBefore ⟨false, none⟩
      let progress ← condensedPhase environment config conversationId input previousTokens progress
      let tokensAfter ← readTokenCount
      pure (progress.result tokensBefore tokensAfter)

/-- Incremental condensation goes through the depths up to a configured one. A configuration without a
limit has no last depth; whatever it does before some depth is what it does with that depth as the last. -/
def incrementalPhase (targetDepth : Nat) (tokensAfter : Nat) (progress : Progress) :
    Nat → SweepProcess (Nat × Progress)
  | 0 => pure (tokensAfter, progress)
  | rounds + 1 => do
      let eligible ← Process.ask fun world =>
        eligibleChunkAtDepth config world.tables targetDepth none false
      match eligible with
      | none => pure (tokensAfter, progress)
      | some items => do
          let passTokensBefore ← readTokenCount
          let result ← runCondensedPass environment passTokensBefore items targetDepth
          let passTokensAfter ← readTokenCount
          persistCompactionEvent conversationId true result.level passTokensBefore passTokensAfter
          let progress := ⟨true, some result⟩
          if passTokensBefore ≤ passTokensAfter then pure (passTokensAfter, progress)
          else incrementalPhase (targetDepth + 1) passTokensAfter progress rounds

def compactLeaf (incrementalMaxDepth : Nat) (input : CompactionInput) : SweepProcess CompactionResult := do
  let tokensBefore ← readTokensBefore
  let shouldCompact ← evaluateLeafTrigger config
  if !input.force && input.withinThreshold tokensBefore && !shouldCompact then
    pure (unchanged tokensBefore)
  else
    let items ← Process.ask fun world => (selectOldestLeafChunk config world.tables).items
    if items = [] then pure (unchanged tokensBefore) else
      let previous ← seedSummary input items
      let result ← runLeafPass environment tokensBefore items previous
      let tokensAfterLeaf ← readTokenCount
      persistCompactionEvent conversationId false result.level tokensBefore tokensAfterLeaf
      let (tokensAfter, progress) ← incrementalPhase environment config conversationId 0 tokensAfterLeaf
        ⟨false, some result⟩ incrementalMaxDepth
      pure (progress.result tokensBefore tokensAfter)

end Sweeps

end Lcm.Compaction
