import Lcm.Compaction.Passes
import Lcm.Library.StepSystem

namespace Lcm.Compaction
open Text Store

/-- A run holds the tables, the pass in progress and the messages ingested so far. -/
structure Run where
  tables : Tables
  pass : PassState
  ingested : List MessageId

/-- The actions on one conversation; the queue of the project lets one pass run at a time. -/
inductive Action where
  | ingest (inputs : List AppendMessageInput) (clock : MessageId → Timestamp)
  | event (conversationId : ConversationId) (inputs : List AppendMessageInput)
      (clock : MessageId → Timestamp)
  | advance (action : PassAction)
  | commit (createdAt : Timestamp)

/-- Messages are appended to the table and to the context in one transaction. -/
def ingest (conversationId : ConversationId) (tables : Tables) (inputs : List AppendMessageInput)
    (clock : MessageId → Timestamp) : Option (Tables × List MessageId) := do
  let (messages, records) ← tables.messages.appendMessages conversationId inputs clock
  let messageIds := records.map (·.messageId)
  let appended ← { tables with messages := messages }.appendContextMessages messageIds
  some (appended, messageIds)

/-- A compaction event is a message without a context item. -/
def appendEvent (tables : Tables) (conversationId : ConversationId)
    (inputs : List AppendMessageInput) (clock : MessageId → Timestamp) : Option Tables := do
  let (messages, _) ← tables.messages.appendMessages conversationId inputs clock
  some { tables with messages := messages }

/-- One action moves a run; a failed commit rolls back and ends its pass. -/
def act (environment : Environment) (config : CompactionConfig) (conversationId : ConversationId)
    (run : Run) : Action → Option Run
  | .ingest inputs clock => do
      let (tables, messageIds) ← ingest conversationId run.tables inputs clock
      some { run with tables := tables, ingested := run.ingested ++ messageIds }
  | .event other inputs clock => do
      let tables ← appendEvent run.tables other inputs clock
      some { run with tables := tables }
  | .advance action => do
      some { run with pass := ← advance environment config run.tables run.pass action }
  | .commit createdAt =>
      match run.pass with
      | .ready pending =>
          some { run with
            tables := (commitPass run.tables pending createdAt).getD run.tables
            pass := .idle }
      | _ => none

/-- The compaction system starts with empty tables. -/
def compactionSystem (environment : Environment) (config : CompactionConfig)
    (conversationId : ConversationId) : StepSystem Run Action where
  start run := run = ⟨.empty, .idle, []⟩
  step before action after := act environment config conversationId before action = some after

end Lcm.Compaction
