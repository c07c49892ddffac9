import Lcm.Compaction.Passes
import Lcm.Library.Folded
import Mathlib.Order.Bounds.Basic

namespace Lcm.Compaction
open Text Store Folded

/-- A summary tree folds the messages that its summaries cover. -/
abbrev SummaryTree := Folded SummaryId MessageId

/-- The context shows a raw message by itself and a fold by its summary. -/
def shown : SummaryTree → ContextItem
  | .raw messageId => .message messageId
  | .fold summaryId _ => .summary summaryId

/-- The sources that the link rows of a summary name, messages first. -/
def linkedItems (tables : Tables) (summaryId : SummaryId) : List ContextItem :=
  (tables.getSummaryMessages summaryId).map .message ++
    (tables.summaryParents.items summaryId).map .summary

/-- The stored token count of a summary. -/
def summaryTokens (tables : Tables) (summaryId : SummaryId) : Nat :=
  match tables.getSummary summaryId with
  | none => 0
  | some summary => summary.tokenCount

/-- The creation time of a message. -/
def messageTime (tables : Tables) (messageId : MessageId) : Timestamp :=
  match tables.messages.getMessageById messageId with
  | none => 0
  | some message => message.createdAt

/-- The creation times of the messages below a row of trees. -/
def coveredTimes (tables : Tables) (children : List SummaryTree) : Set Timestamp :=
  {time | ∃ messageId ∈ frontiers children, messageTime tables messageId = time}

/-- A summary row describes the trees that it was made from. -/
structure Describes (tables : Tables) (summary : SummaryRecord) (children : List SummaryTree) :
    Prop where
  level : Level summary.depth (.fold summary.summaryId children)
  kind : summary.kind = if summary.depth = 0 then .leaf else .condensed
  descendantCount : summary.descendantCount = (allNodes children).length
  descendantTokenCount :
    summary.descendantTokenCount = ((allNodes children).map (summaryTokens tables)).sum
  sourceMessageTokenCount :
    summary.sourceMessageTokenCount = ((frontiers children).map (getMessageTokenCount tables)).sum
  earliestAt : ∃ time, summary.earliestAt = some time ∧ IsLeast (coveredTimes tables children) time
  latestAt : ∃ time, summary.latestAt = some time ∧ IsGreatest (coveredTimes tables children) time

/-- A leaf of a tree is a stored message. -/
def StoredMessage (tables : Tables) (messageId : MessageId) : Prop :=
  ∃ message, tables.messages.getMessageById messageId = some message

/-- A node of a tree is a stored summary. -/
def StoredSummary (tables : Tables) (summaryId : SummaryId) : Prop :=
  ∃ summary, tables.getSummary summaryId = some summary

/-- A fold is stored when its rows link and describe exactly its children. -/
structure StoredFold (tables : Tables) (summaryId : SummaryId) (children : List SummaryTree) :
    Prop where
  links : linkedItems tables summaryId = children.map shown
  messages : ∀ messageId ∈ frontiers children, StoredMessage tables messageId
  summaries : ∀ node ∈ allNodes children, StoredSummary tables node
  row : ∃ summary, tables.getSummary summaryId = some summary ∧ summary.summaryId = summaryId ∧
    Describes tables summary children

/-- A tree is stored when all its folds and messages are. -/
def Stored (tables : Tables) : SummaryTree → Prop :=
  Everywhere (StoredFold tables) (StoredMessage tables)

/-- Tables extend others when every stored row and the links of every stored summary stay. -/
structure Extends (before after : Tables) : Prop where
  messages : ∀ messageId message, before.messages.getMessageById messageId = some message →
    after.messages.getMessageById messageId = some message
  summaries : ∀ summaryId summary, before.getSummary summaryId = some summary →
    after.getSummary summaryId = some summary
  links : ∀ summaryId, StoredSummary before summaryId →
    linkedItems after summaryId = linkedItems before summaryId

namespace Extends

variable {before after : Tables}

theorem storedMessage (extended : Extends before after) {messageId : MessageId}
    (stored : StoredMessage before messageId) : StoredMessage after messageId := by
  obtain ⟨message, found⟩ := stored
  exact ⟨message, extended.messages _ _ found⟩

theorem storedSummary (extended : Extends before after) {summaryId : SummaryId}
    (stored : StoredSummary before summaryId) : StoredSummary after summaryId := by
  obtain ⟨summary, found⟩ := stored
  exact ⟨summary, extended.summaries _ _ found⟩

theorem messageTokens (extended : Extends before after) {messageId : MessageId}
    (stored : StoredMessage before messageId) :
    getMessageTokenCount after messageId = getMessageTokenCount before messageId := by
  obtain ⟨message, found⟩ := stored
  rw [getMessageTokenCount, getMessageTokenCount, found, extended.messages _ _ found]

theorem time (extended : Extends before after) {messageId : MessageId}
    (stored : StoredMessage before messageId) :
    messageTime after messageId = messageTime before messageId := by
  obtain ⟨message, found⟩ := stored
  rw [messageTime, messageTime, found, extended.messages _ _ found]

theorem tokens (extended : Extends before after) {summaryId : SummaryId}
    (stored : StoredSummary before summaryId) :
    summaryTokens after summaryId = summaryTokens before summaryId := by
  obtain ⟨summary, found⟩ := stored
  rw [summaryTokens, summaryTokens, found, extended.summaries _ _ found]

theorem times (extended : Extends before after) {children : List SummaryTree}
    (messages : ∀ messageId ∈ frontiers children, StoredMessage before messageId) :
    coveredTimes after children = coveredTimes before children := by
  ext time
  constructor
  · intro covered
    obtain ⟨messageId, inside, same⟩ := covered
    exact ⟨messageId, inside, by rw [← extended.time (messages _ inside), same]⟩
  · intro covered
    obtain ⟨messageId, inside, same⟩ := covered
    exact ⟨messageId, inside, by rw [extended.time (messages _ inside), same]⟩

/-- A description stays right when the tables grow. -/
theorem describes (extended : Extends before after) {summary : SummaryRecord}
    {children : List SummaryTree}
    (messages : ∀ messageId ∈ frontiers children, StoredMessage before messageId)
    (summaries : ∀ node ∈ allNodes children, StoredSummary before node)
    (described : Describes before summary children) : Describes after summary children where
  level := described.level
  kind := described.kind
  descendantCount := described.descendantCount
  descendantTokenCount := by
    rw [described.descendantTokenCount]
    exact congrArg List.sum (List.map_congr_left fun node inside =>
      (extended.tokens (summaries node inside)).symm)
  sourceMessageTokenCount := by
    rw [described.sourceMessageTokenCount]
    exact congrArg List.sum (List.map_congr_left fun messageId inside =>
      (extended.messageTokens (messages messageId inside)).symm)
  earliestAt := by
    rw [extended.times messages]
    exact described.earliestAt
  latestAt := by
    rw [extended.times messages]
    exact described.latestAt

theorem storedFold (extended : Extends before after) {summaryId : SummaryId}
    {children : List SummaryTree} (stored : StoredFold before summaryId children) :
    StoredFold after summaryId children := by
  obtain ⟨summary, found, named, described⟩ := stored.row
  exact {
    links := by rw [extended.links summaryId ⟨summary, found⟩, stored.links]
    messages := fun messageId inside => extended.storedMessage (stored.messages messageId inside)
    summaries := fun node inside => extended.storedSummary (stored.summaries node inside)
    row := ⟨summary, extended.summaries _ _ found, named,
      extended.describes stored.messages stored.summaries described⟩ }

/-- A stored tree stays stored when the tables grow. -/
theorem stored (extended : Extends before after) {tree : SummaryTree}
    (stored : Stored before tree) : Stored after tree :=
  Everywhere.mono stored (fun _ _ => extended.storedFold) fun _ => extended.storedMessage

end Extends

/-- A stored tree covers stored messages. -/
theorem Stored.messages {tables : Tables} {tree : SummaryTree} (stored : Stored tables tree) :
    ∀ messageId ∈ tree.frontier, StoredMessage tables messageId := by
  cases stored with
  | raw here =>
      intro messageId inside
      rw [frontier_raw, List.mem_singleton] at inside
      rw [inside]
      exact here
  | fold here _ =>
      intro messageId inside
      rw [frontier_fold] at inside
      exact here.messages messageId inside

/-- A stored tree is made of stored summaries. -/
theorem Stored.summaries {tables : Tables} {tree : SummaryTree} (stored : Stored tables tree) :
    ∀ node ∈ tree.nodes, StoredSummary tables node := by
  cases stored with
  | raw here => simp
  | fold here _ =>
      intro node inside
      rw [nodes_fold] at inside
      rcases List.mem_cons.mp inside with same | below
      · obtain ⟨summary, found, _⟩ := here.row
        exact ⟨summary, same ▸ found⟩
      · exact here.summaries node below

/-- The context items that the links of a pass name. -/
def SummaryLinks.items : SummaryLinks → List ContextItem
  | .messages messageIds => messageIds.map .message
  | .parents parentSummaryIds => parentSummaryIds.map .summary

/-- A pending commit describes a segment of the forest. -/
structure PendingFold (tables : Tables) (pending : PendingCommit) (chunk : List SummaryTree) :
    Prop where
  links : chunk.map shown = pending.links.items
  describes : ∀ createdAt, Describes tables (Tables.summaryRow pending.input createdAt) chunk

theorem PendingFold.mono {before after : Tables} {pending : PendingCommit}
    {chunk : List SummaryTree} (pendingFold : PendingFold before pending chunk)
    (extended : Extends before after) (stored : ∀ tree ∈ chunk, Stored before tree) :
    PendingFold after pending chunk where
  links := pendingFold.links
  describes := by
    intro createdAt
    apply extended.describes _ _ (pendingFold.describes createdAt)
    · intro messageId inside
      obtain ⟨tree, member, below⟩ := List.mem_flatMap.mp inside
      exact (stored tree member).messages messageId below
    · intro node inside
      obtain ⟨tree, member, below⟩ := List.mem_flatMap.mp inside
      exact (stored tree member).summaries node below

end Lcm.Compaction
