import Lcm.Compaction.Sweep
import Lcm.Library.SortedBy

namespace Lcm.Compaction
open Text Store

section Limits

def manualCompactFreshTailCount : Nat := 8

def manualCompactLeafMinFanout : Nat := 3

def manualCompactCondensedMinFanout : Nat := 2

def manualCompactSummaryChunkTokens : Nat := 20000

def manualCompactMinCondensedTokens : Nat := 2000

def messagePageSize : Nat := 500

/-- The configuration with which the compact route builds its engine. -/
def compactRouteConfig : CompactionConfig where
  freshTailCount := manualCompactFreshTailCount
  leafMinFanout := 3
  condensedMinFanout := 2
  condensedMinFanoutHard := 1
  leafChunkTokens := none
  condensedTargetTokens := 900

end Limits

section Candidates

inductive ContextItemType
  | message
  | summary
  deriving DecidableEq

structure ReplayContextRow where
  ordinal : Int
  itemType : ContextItemType
  depth : Option Nat
  tokenCount : Nat

/-- The code points of a text, as spreading it gives them. -/
def codePointCount : JsString → Nat
  | [] => 0
  | [_] => 1
  | unit :: following :: rest =>
      if Json.isHighSurrogate unit && Json.isLowSurrogate following then codePointCount rest + 1
      else codePointCount (following :: rest) + 1

/-- The count of a summary in a replay row. -/
def replayTokenCount (summary : SummaryRecord) : Nat :=
  if 0 < summary.tokenCount then summary.tokenCount else (codePointCount summary.content + 3) / 4

/-- The rows before the fresh tail at one depth: how many the run has so far, and their tokens. -/
def replayRun (freshTail : FreshTail) (depth : Nat) (count tokens : Nat) (started : Bool) :
    List ReplayContextRow → Nat × Nat
  | [] => (count, tokens)
  | item :: rest =>
      if protects freshTail item.ordinal then (count, tokens)
      else if item.itemType ≠ .summary ∨ item.depth ≠ some depth then
        if started then (count, tokens) else replayRun freshTail depth count tokens started rest
      else if started ∧ manualCompactSummaryChunkTokens < tokens + item.tokenCount then (count, tokens)
      else if manualCompactSummaryChunkTokens ≤ tokens + item.tokenCount then (count + 1, tokens + item.tokenCount)
      else replayRun freshTail depth (count + 1) (tokens + item.tokenCount) true rest

/-- The first raw message of the fresh tail. -/
def replayFreshTail (items : List ReplayContextRow) : FreshTail :=
  let rawOrdinals := (items.filter (·.itemType = .message)).map (·.ordinal)
  rawOrdinals[rawOrdinals.length - manualCompactFreshTailCount]?

def replayDepths (freshTail : FreshTail) (items : List ReplayContextRow) : List Nat :=
  let depths := items.filterMap fun item =>
    if protects freshTail item.ordinal = false ∧ item.itemType = .summary then item.depth else none
  depths.dedup.insertionSort (· ≤ ·)

def replayFanout (depth : Nat) : Nat :=
  if depth = 0 then manualCompactLeafMinFanout else manualCompactCondensedMinFanout

def hasReplayCondensationCandidate (items : List ReplayContextRow) : Bool :=
  let freshTail := replayFreshTail items
  (replayDepths freshTail items).any fun depth =>
    let run := replayRun freshTail depth 0 0 false items
    replayFanout depth ≤ run.1 && manualCompactMinCondensedTokens ≤ run.2

end Candidates

section Discovery

variable (tables : Tables) (conversationId : ConversationId)

/-- The messages of a conversation behind a sequence number, in order. -/
def messagesAfter (afterSeq : Option Nat) : List MessageRecord :=
  sortedBy (·.seq) (tables.messages.rows.rows.filter fun message =>
    message.conversationId = conversationId ∧ afterSeq.all (· < message.seq))

def getMessagePage (afterSeq : Option Nat) : List MessageRecord :=
  (messagesAfter tables conversationId afterSeq).take messagePageSize

/-- The number of messages and their tokens, page by page; the fuel bounds the pages. -/
def countMessages : Nat → Option Nat → Nat × Nat → Nat × Nat
  | 0, _, counted => counted
  | fuel + 1, afterSeq, (messages, tokens) =>
      let page := getMessagePage tables conversationId afterSeq
      let counted := (messages + page.length, tokens + (page.map (·.tokenCount)).sum)
      if page.length < messagePageSize then counted
      else countMessages fuel (page.getLast?.map (·.seq)) counted

def replayRow (entry : ContextItemRecord) : ReplayContextRow :=
  match entry.2 with
  | .message _ => ⟨entry.1, .message, none, 0⟩
  | .summary summaryId =>
      match tables.getSummary summaryId with
      | none => ⟨entry.1, .summary, none, 0⟩
      | some summary => ⟨entry.1, .summary, some summary.depth, replayTokenCount summary⟩

def replayRows : List ReplayContextRow := tables.getContextItems.map (replayRow tables)

def rawCount : Nat := (tables.getContextItems.filter isMessage).length

/-- What discovery lists of a conversation: its messages and their tokens. -/
def discoverConversation (minTokens : Nat) (replay : Bool) : Option (Nat × Nat) :=
  let counted := countMessages tables conversationId (tables.messages.rows.rows.length + 1) none (0, 0)
  if counted.1 = 0 ∨ counted.2 < minTokens then none
  else if !replay && !tables.summaries.rows.isEmpty then none
  else if rawCount tables ≤ manualCompactFreshTailCount then
    if replay && hasReplayCondensationCandidate (replayRows tables) then some counted else none
  else some counted

end Discovery

end Lcm.Compaction
