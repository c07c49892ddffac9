import Lcm.Library.LinkTable
import Lcm.Library.OrderedTable
import Lcm.Store.Messages

namespace Lcm.Store
open Text

abbrev SummaryId := JsString

inductive SummaryKind where
  | leaf
  | condensed
  deriving DecidableEq, Repr

structure CreateSummaryInput where
  summaryId : SummaryId
  kind : SummaryKind
  depth : Option Nat
  content : JsString
  tokenCount : Nat
  fileIds : List JsString
  earliestAt : Option Timestamp
  latestAt : Option Timestamp
  descendantCount : Option Nat
  descendantTokenCount : Option Nat
  sourceMessageTokenCount : Option Nat
  deriving DecidableEq

structure SummaryRecord where
  summaryId : SummaryId
  kind : SummaryKind
  depth : Nat
  content : JsString
  tokenCount : Nat
  fileIds : List JsString
  earliestAt : Option Timestamp
  latestAt : Option Timestamp
  descendantCount : Nat
  descendantTokenCount : Nat
  sourceMessageTokenCount : Nat
  createdAt : Timestamp
  deriving DecidableEq

/-- A context item names one message or one summary. -/
inductive ContextItem where
  | message (messageId : MessageId)
  | summary (summaryId : SummaryId)
  deriving DecidableEq

/-- The ordinal after the largest one in use. -/
def nextOrdinalOf (contextItems : OrderedTable Int ContextItem) : Int :=
  contextItems.keys.foldl max (-1) + 1

/-- The tables of one project, with the context items of one conversation. -/
structure Tables where
  messages : MessageTable
  summaries : KeyedTable SummaryId SummaryRecord
  summaryMessages : LinkTable SummaryId MessageId
  summaryParents : LinkTable SummaryId SummaryId
  contextItems : OrderedTable Int ContextItem

namespace Tables

def empty : Tables := ⟨.empty, .empty, .empty, .empty, .empty⟩

/-- The row that an insertion stores, with its defaults. -/
def summaryRow (input : CreateSummaryInput) (createdAt : Timestamp) : SummaryRecord where
  summaryId := input.summaryId
  kind := input.kind
  depth := input.depth.getD (if input.kind = .leaf then 0 else 1)
  content := input.content
  tokenCount := input.tokenCount
  fileIds := input.fileIds
  earliestAt := input.earliestAt
  latestAt := input.latestAt
  descendantCount := input.descendantCount.getD 0
  descendantTokenCount := input.descendantTokenCount.getD 0
  sourceMessageTokenCount := input.sourceMessageTokenCount.getD 0
  createdAt := createdAt

/-- Reading a row back fails when one of its integers is not a safe integer. -/
def readable (record : SummaryRecord) : Bool :=
  record.depth ≤ maxSafeInteger && record.tokenCount ≤ maxSafeInteger &&
    record.descendantCount ≤ maxSafeInteger && record.descendantTokenCount ≤ maxSafeInteger &&
      record.sourceMessageTokenCount ≤ maxSafeInteger

/-- An insertion refuses a used identifier and reads its row back. -/
def insertSummary (tables : Tables) (input : CreateSummaryInput) (createdAt : Timestamp) :
    Option Tables := do
  let summaries ← tables.summaries.insert? input.summaryId (summaryRow input createdAt)
  guard (readable (summaryRow input createdAt))
  some { tables with summaries := summaries }

def getSummary (tables : Tables) (summaryId : SummaryId) : Option SummaryRecord :=
  tables.summaries.get? summaryId

def linkSummaryToMessages (tables : Tables) (summaryId : SummaryId)
    (messageIds : List MessageId) : Tables :=
  { tables with summaryMessages := tables.summaryMessages.link summaryId messageIds }

def linkSummaryToParents (tables : Tables) (summaryId : SummaryId)
    (parentSummaryIds : List SummaryId) : Tables :=
  { tables with summaryParents := tables.summaryParents.link summaryId parentSummaryIds }

def getSummaryMessages (tables : Tables) (summaryId : SummaryId) : List MessageId :=
  tables.summaryMessages.items summaryId

/-- The summaries that name the given one as a parent. -/
def getSummaryChildren (tables : Tables) (parentSummaryId : SummaryId) : List SummaryRecord :=
  (tables.summaryParents.owners parentSummaryId).filterMap tables.getSummary

/-- The summaries that the given one names as parents. -/
def getSummaryParents (tables : Tables) (summaryId : SummaryId) : List SummaryRecord :=
  (tables.summaryParents.items summaryId).filterMap tables.getSummary

def getContextItems (tables : Tables) : List (Int × ContextItem) := tables.contextItems.entries

def nextOrdinal (tables : Tables) : Int := nextOrdinalOf tables.contextItems

/-- Context rows of the given messages from one ordinal on. -/
def insertContextMessages (contextItems : OrderedTable Int ContextItem) (ordinal : Int) :
    List MessageId → Option (OrderedTable Int ContextItem)
  | [] => some contextItems
  | messageId :: rest => do
      let next ← contextItems.insert? ordinal (.message messageId)
      insertContextMessages next (ordinal + 1) rest

def appendContextMessages (tables : Tables) (messageIds : List MessageId) : Option Tables := do
  let contextItems ← insertContextMessages tables.contextItems tables.nextOrdinal messageIds
  some { tables with contextItems := contextItems }

/-- A message that no summary names leaves the context and the messages; the ordinals keep a gap. -/
def deleteMessage (tables : Tables) (messageId : MessageId) : Tables :=
  if tables.summaryMessages.keys.any (fun link => link.2 = messageId) then tables else
    { tables with
      contextItems := tables.contextItems.keepRows fun item => item ≠ .message messageId
      messages := tables.messages.deleteMessage messageId }

def deleteMessages (tables : Tables) (messageIds : List MessageId) : Tables :=
  messageIds.foldl deleteMessage tables

/-- A range of context items becomes one summary item and the ordinals become contiguous. -/
def replaceContextRangeWithSummary (tables : Tables) (startOrdinal endOrdinal : Int)
    (summaryId : SummaryId) : Option Tables := do
  let deleted := tables.contextItems.eraseRange startOrdinal endOrdinal
  let inserted ← deleted.insert? startOrdinal (.summary summaryId)
  let contextItems ← inserted.renumber?
  some { tables with contextItems := contextItems }

end Tables

/-- Messages are appended at the end of a numbered context. -/
theorem insertContextMessages_numbered (rows : List ContextItem) (messageIds : List MessageId) :
    Tables.insertContextMessages (.numbered rows) rows.length messageIds =
      some (.numbered (rows ++ messageIds.map .message)) := by
  induction messageIds generalizing rows with
  | nil => simp [Tables.insertContextMessages]
  | cons messageId messageIds ih =>
      have rest := ih (rows ++ [.message messageId])
      rw [List.length_append, List.length_singleton, List.append_assoc] at rest
      simp only [Tables.insertContextMessages, OrderedTable.numbered_insert?,
        Option.bind_eq_bind, Option.bind_some, List.map_cons]
      exact rest

theorem nextOrdinalOf_numbered (rows : List ContextItem) :
    nextOrdinalOf (.numbered rows) = rows.length := by
  have largest : ∀ count : Nat, ((List.range count).map Int.ofNat).foldl max (-1) =
      (count : Int) - 1 := by
    intro count
    induction count with
    | zero => rfl
    | succ count ih =>
        rw [List.range_succ, List.map_append, List.foldl_append, ih]
        simp only [List.map_cons, List.map_nil, List.foldl_cons, List.foldl_nil,
          Int.ofNat_eq_natCast]
        omega
  rw [nextOrdinalOf, OrderedTable.numbered_keys, largest]
  omega

/-- A replacement puts the summary item in the place of the chunk. -/
theorem replaceContextRange_numbered {tables : Tables} {before chunk rest : List ContextItem}
    {startOrdinal endOrdinal : Int} (summaryId : SummaryId)
    (context : tables.contextItems = .numbered (before ++ chunk ++ rest))
    (first : startOrdinal = before.length) (last : endOrdinal + 1 = before.length + chunk.length)
    (nonempty : chunk ≠ []) :
    tables.replaceContextRangeWithSummary startOrdinal endOrdinal summaryId =
      some { tables with contextItems := .numbered (before ++ .summary summaryId :: rest) } := by
  obtain ⟨middle, moved, rows, natural⟩ := OrderedTable.numbered_replace rest
    (.summary summaryId) first last nonempty
  simp only [Tables.replaceContextRangeWithSummary, context, moved, Option.bind_eq_bind,
    Option.bind_some, OrderedTable.renumber?_eq natural, rows]

end Lcm.Store
