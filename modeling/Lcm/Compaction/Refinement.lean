import Lcm.Compaction.PassCoverage
import Lcm.Compaction.System

namespace Lcm.Compaction
open Text Store Folded

/-- The tables refine a forest when the context shows its trees and every tree is stored. -/
structure Refines (tables : Tables) (forest : List SummaryTree) : Prop where
  context : tables.contextItems = .numbered (forest.map shown)
  stored : ∀ tree ∈ forest, Stored tables tree
  summaries : ∀ summaryId, summaryId ∈ tables.summaries.keys ↔ summaryId ∈ allNodes forest
  messageOwners : ∀ key ∈ tables.summaryMessages.keys, key.1 ∈ tables.summaries.keys
  parentOwners : ∀ key ∈ tables.summaryParents.keys, key.1 ∈ tables.summaries.keys

theorem refines_empty : Refines .empty [] where
  context := rfl
  stored := List.forall_mem_nil _
  summaries := fun _ => Iff.rfl
  messageOwners := List.forall_mem_nil _
  parentOwners := List.forall_mem_nil _

/-- New messages extend the tables. -/
theorem extends_messages {tables : Tables} {messages : MessageTable}
    {contextItems : OrderedTable Int ContextItem}
    (extended : MessageTable.Extends tables.messages messages) :
    Extends tables { tables with messages := messages, contextItems := contextItems } where
  messages := extended
  summaries := fun _ _ found => found
  links := fun _ _ => rfl

/-- An ingest appends raw leaves to the forest. -/
theorem ingest_refines {conversationId : ConversationId} {tables after : Tables}
    {inputs : List AppendMessageInput} {clock : MessageId → Timestamp}
    {messageIds : List MessageId} {forest : List SummaryTree} (refines : Refines tables forest)
    (ingested : ingest conversationId tables inputs clock = some (after, messageIds)) :
    Extends tables after ∧ Refines after (forest ++ messageIds.map .raw) ∧ messageIds.Nodup ∧
      ∀ messageId ∈ messageIds, ¬ StoredMessage tables messageId := by
  simp only [ingest, Option.bind_eq_bind, Option.bind_eq_some_iff, Prod.exists, Option.some.injEq,
    Prod.mk.injEq, Tables.appendContextMessages] at ingested
  obtain ⟨messages, records, appended, _, ⟨contextItems, inserted, rfl⟩, rfl, rfl⟩ := ingested
  have entries := MessageTable.appendMessages_entries appended
  have extended := MessageTable.extends_of_entries entries
  obtain ⟨distinct, fresh⟩ := MessageTable.records_of_entries entries
  have context : contextItems = .numbered
      (forest.map shown ++ (records.map (·.messageId)).map .message) := by
    have ordinal : ({ tables with messages := messages } : Tables).nextOrdinal =
        (forest.map shown).length := by
      rw [Tables.nextOrdinal, refines.context, nextOrdinalOf_numbered]
    rw [ordinal] at inserted
    simp only [refines.context, insertContextMessages_numbered, Option.some.injEq] at inserted
    exact inserted.symm
  have growth : Extends tables
      { tables with messages := messages, contextItems := contextItems } := extends_messages extended
  refine ⟨growth, ?_, distinct, ?_⟩
  · constructor
    · rw [context, List.map_append]
      refine congrArg (fun rows => OrderedTable.numbered (forest.map shown ++ rows)) ?_
      simp only [List.map_map]
      rfl
    · intro tree inside
      rcases List.mem_append.mp inside with old | new
      · exact growth.stored (refines.stored tree old)
      · obtain ⟨messageId, member, rfl⟩ := List.mem_map.mp new
        obtain ⟨record, known, rfl⟩ := List.mem_map.mp member
        exact .raw ⟨record, (fresh record known).2⟩
    · intro summaryId
      rw [allNodes_append, allNodes_raws, List.append_nil]
      exact refines.summaries summaryId
    · exact refines.messageOwners
    · exact refines.parentOwners
  · intro messageId inside known
    obtain ⟨record, member, rfl⟩ := List.mem_map.mp inside
    obtain ⟨stored, found⟩ := known
    exact (fresh record member).1 (KeyedTable.mem_keys.mpr ⟨stored, KeyedTable.get?_eq_some.mp found⟩)

/-- An event message leaves the forest as it is. -/
theorem appendEvent_refines {tables after : Tables} {conversationId : ConversationId}
    {inputs : List AppendMessageInput} {clock : MessageId → Timestamp}
    {forest : List SummaryTree} (refines : Refines tables forest)
    (appended : appendEvent tables conversationId inputs clock = some after) :
    Extends tables after ∧ Refines after forest := by
  simp only [appendEvent, Option.bind_eq_bind, Option.bind_eq_some_iff, Prod.exists,
    Option.some.injEq] at appended
  obtain ⟨messages, records, appended, rfl⟩ := appended
  have growth : Extends tables { tables with messages := messages } :=
    extends_messages (MessageTable.extends_of_entries (MessageTable.appendMessages_entries appended))
  exact ⟨growth, {
    context := refines.context
    stored := fun tree inside => growth.stored (refines.stored tree inside)
    summaries := refines.summaries
    messageOwners := refines.messageOwners
    parentOwners := refines.parentOwners }⟩

/-- The rows that an insertion and the links of a pass add. -/
structure Linked (tables after : Tables) (pending : PendingCommit) (createdAt : Timestamp) :
    Prop where
  fresh : pending.input.summaryId ∉ tables.summaries.keys
  messages : after.messages = tables.messages
  context : after.contextItems = tables.contextItems
  summaries : tables.summaries.insert? pending.input.summaryId
    (Tables.summaryRow pending.input createdAt) = some after.summaries
  links : linkedItems after pending.input.summaryId = pending.links.items
  otherLinks : ∀ summaryId ≠ pending.input.summaryId,
    linkedItems after summaryId = linkedItems tables summaryId
  messageOwners : ∀ key ∈ after.summaryMessages.keys, key.1 ∈ after.summaries.keys
  parentOwners : ∀ key ∈ after.summaryParents.keys, key.1 ∈ after.summaries.keys

/-- A pending commit links every source once. -/
def SummaryLinks.Distinct : SummaryLinks → Prop
  | .messages messageIds => messageIds.Nodup
  | .parents parentSummaryIds => parentSummaryIds.Nodup

theorem items_nil {Owner Item : Type*} [DecidableEq Owner] [DecidableEq Item]
    {table : LinkTable Owner Item} {owner : Owner} (fresh : ∀ key ∈ table.keys, key.1 ≠ owner) :
    table.items owner = [] := by
  apply List.eq_nil_iff_forall_not_mem.mpr
  intro item inside
  exact fresh _ (LinkTable.mem_items.mp inside) rfl

theorem linkOwners {Item : Type} [DecidableEq Item] {table : LinkTable SummaryId Item}
    {owner : SummaryId} {linked : List Item} (distinct : linked.Nodup)
    (fresh : ∀ key ∈ table.keys, key.1 ≠ owner) :
    ∀ key ∈ (table.link owner linked).keys, key ∈ table.keys ∨ key.1 = owner := by
  intro key used
  rw [LinkTable.link, KeyedTable.keys,
    LinkTable.linkFrom_entries distinct fun item _ clash => fresh _ clash rfl,
    List.map_append] at used
  rcases List.mem_append.mp used with old | new
  · exact .inl old
  · obtain ⟨row, inside, rfl⟩ := List.mem_map.mp new
    exact .inr (LinkTable.rowsFrom_owner inside).1

/-- A new summary row with its links changes only what it adds. -/
theorem linkSources_linked {tables : Tables} {pending : PendingCommit} {createdAt : Timestamp}
    {forest : List SummaryTree} {summaries : KeyedTable SummaryId SummaryRecord}
    (refines : Refines tables forest) (distinct : pending.links.Distinct)
    (row : tables.summaries.insert? pending.input.summaryId
      (Tables.summaryRow pending.input createdAt) = some summaries) :
    Linked tables (linkSources { tables with summaries := summaries } pending.input.summaryId
      pending.links) pending createdAt := by
  have fresh := (KeyedTable.insert?_eq_some.mp row).1
  have keys := KeyedTable.keys_insert? row
  have messageFresh : ∀ key ∈ tables.summaryMessages.keys, key.1 ≠ pending.input.summaryId :=
    fun key used same => fresh (same ▸ refines.messageOwners key used)
  have parentFresh : ∀ key ∈ tables.summaryParents.keys, key.1 ≠ pending.input.summaryId :=
    fun key used same => fresh (same ▸ refines.parentOwners key used)
  have messageOwners : ∀ key ∈ tables.summaryMessages.keys, key.1 ∈ summaries.keys := by
    intro key used
    rw [keys]
    exact List.mem_append_left _ (refines.messageOwners key used)
  have parentOwners : ∀ key ∈ tables.summaryParents.keys, key.1 ∈ summaries.keys := by
    intro key used
    rw [keys]
    exact List.mem_append_left _ (refines.parentOwners key used)
  have ownKey : pending.input.summaryId ∈ summaries.keys := by
    rw [keys]
    exact List.mem_append_right _ (List.mem_singleton_self _)
  cases links : pending.links with
  | messages messageIds =>
      rw [links] at distinct
      constructor
      · exact fresh
      · rfl
      · rfl
      · exact row
      · simp only [linkedItems, Tables.getSummaryMessages, linkSources,
          Tables.linkSummaryToMessages, LinkTable.items_link_self distinct messageFresh,
          items_nil parentFresh, List.map_nil, List.append_nil, links, SummaryLinks.items]
      · intro summaryId different
        simp only [linkedItems, Tables.getSummaryMessages, linkSources,
          Tables.linkSummaryToMessages,
          LinkTable.items_link_other distinct messageFresh different]
      · intro key used
        rcases linkOwners distinct messageFresh key used with old | new
        · exact messageOwners key old
        · exact new ▸ ownKey
      · exact parentOwners
  | parents parentSummaryIds =>
      rw [links] at distinct
      constructor
      · exact fresh
      · rfl
      · rfl
      · exact row
      · simp only [linkedItems, Tables.getSummaryMessages, linkSources,
          Tables.linkSummaryToParents, LinkTable.items_link_self distinct parentFresh,
          items_nil messageFresh, List.map_nil, List.nil_append, links, SummaryLinks.items]
      · intro summaryId different
        simp only [linkedItems, Tables.getSummaryMessages, linkSources,
          Tables.linkSummaryToParents,
          LinkTable.items_link_other distinct parentFresh different]
      · exact messageOwners
      · intro key used
        rcases linkOwners distinct parentFresh key used with old | new
        · exact parentOwners key old
        · exact new ▸ ownKey

/-- The links of a new summary extend the tables. -/
theorem Linked.extends {tables after : Tables} {pending : PendingCommit} {createdAt : Timestamp}
    (linked : Linked tables after pending createdAt) : Extends tables after where
  messages := by
    rw [linked.messages]
    exact fun _ _ found => found
  summaries := fun summaryId summary found =>
    KeyedTable.get?_insert?_of_some linked.summaries found
  links := by
    intro summaryId stored
    apply linked.otherLinks
    intro same
    obtain ⟨summary, found⟩ := stored
    apply linked.fresh
    rw [← same]
    exact KeyedTable.mem_keys.mpr ⟨summary, KeyedTable.get?_eq_some.mp found⟩

/-- The new row and its links store the fold of the chunk. -/
theorem Linked.storedFold {tables after : Tables} {pending : PendingCommit} {createdAt : Timestamp}
    {chunk : List SummaryTree} (linked : Linked tables after pending createdAt)
    (pendingFold : PendingFold tables pending chunk) (stored : ∀ tree ∈ chunk, Stored tables tree) :
    StoredFold after pending.input.summaryId chunk where
  links := by rw [linked.links, pendingFold.links]
  messages := by
    intro messageId inside
    obtain ⟨tree, member, below⟩ := List.mem_flatMap.mp inside
    exact linked.extends.storedMessage ((stored tree member).messages messageId below)
  summaries := by
    intro node inside
    obtain ⟨tree, member, below⟩ := List.mem_flatMap.mp inside
    exact linked.extends.storedSummary ((stored tree member).summaries node below)
  row := by
    refine ⟨Tables.summaryRow pending.input createdAt, ?_, rfl,
      (pendingFold.mono linked.extends stored).describes createdAt⟩
    rw [Tables.getSummary, KeyedTable.get?_insert? linked.summaries, if_pos rfl]

/-- Replaced tables refine the forest with the chunk folded. -/
theorem Linked.refines {tables linkedTables after : Tables} {pending : PendingCommit}
    {createdAt : Timestamp} {before chunk rest : List SummaryTree}
    (linked : Linked tables linkedTables pending createdAt)
    (refines : Refines tables (before ++ chunk ++ rest))
    (pendingFold : PendingFold tables pending chunk)
    (tablesKept : after = { linkedTables with contextItems := after.contextItems })
    (context : after.contextItems =
      .numbered ((before ++ .fold pending.input.summaryId chunk :: rest).map shown)) :
    Extends tables after ∧
      Refines after (before ++ .fold pending.input.summaryId chunk :: rest) := by
  have growth : Extends tables after := by
    rw [tablesKept]
    exact ⟨linked.extends.messages, linked.extends.summaries, linked.extends.links⟩
  have chunkStored : ∀ tree ∈ chunk, Stored tables tree := fun tree inside =>
    refines.stored tree (List.mem_append_left _ (List.mem_append_right _ inside))
  have fold : StoredFold after pending.input.summaryId chunk := by
    rw [tablesKept]
    exact (extends_messages fun _ _ found => found).storedFold
      (linked.storedFold pendingFold chunkStored)
  refine ⟨growth, context, ?_, ?_, ?_, ?_⟩
  · intro tree inside
    rcases List.mem_append.mp inside with early | late
    · exact growth.stored (refines.stored tree
        (List.mem_append_left _ (List.mem_append_left _ early)))
    · rcases List.mem_cons.mp late with rfl | later
      · exact .fold fold fun child member => growth.stored (chunkStored child member)
      · exact growth.stored (refines.stored tree (List.mem_append_right _ later))
  · intro summaryId
    rw [(allNodes_fold before chunk rest pending.input.summaryId).mem_iff, List.mem_cons,
      ← refines.summaries summaryId, tablesKept, KeyedTable.keys_insert? linked.summaries,
      List.mem_append, List.mem_singleton, or_comm]
  · rw [tablesKept]
    exact linked.messageOwners
  · rw [tablesKept]
    exact linked.parentOwners

/-- Trees that show messages are raw leaves. -/
theorem raws_of_shown {chunk : List SummaryTree} {messageIds : List MessageId}
    (links : chunk.map shown = messageIds.map .message) : chunk = messageIds.map .raw := by
  induction chunk generalizing messageIds with
  | nil =>
      rw [List.map_nil, eq_comm, List.map_eq_nil_iff] at links
      rw [links]
      rfl
  | cons tree chunk ih =>
      cases messageIds with
      | nil => cases links
      | cons messageId messageIds =>
          simp only [List.map_cons, List.cons.injEq] at links
          rw [List.map_cons, ← ih links.2]
          cases tree with
          | raw leaf =>
              have same : leaf = messageId := by simpa [shown] using links.1
              rw [same]
          | fold node children => simp [shown] at links

/-- Trees that show summaries have those summaries among their nodes, in order. -/
theorem parents_of_shown {chunk : List SummaryTree} {parentSummaryIds : List SummaryId}
    (links : chunk.map shown = parentSummaryIds.map .summary) :
    parentSummaryIds.Sublist (allNodes chunk) := by
  induction chunk generalizing parentSummaryIds with
  | nil =>
      rw [List.map_nil, eq_comm, List.map_eq_nil_iff] at links
      rw [links]
      exact List.nil_sublist _
  | cons tree chunk ih =>
      cases parentSummaryIds with
      | nil => exact List.nil_sublist _
      | cons summaryId summaryIds =>
          simp only [List.map_cons, List.cons.injEq] at links
          cases tree with
          | raw leaf => simp [shown] at links
          | fold node children =>
              have same : node = summaryId := by simpa [shown] using links.1
              rw [same, allNodes, List.flatMap_cons, nodes_fold, List.cons_append]
              exact ((ih links.2).trans (List.sublist_append_right _ _)).cons_cons _

theorem PendingFold.distinct {tables : Tables} {pending : PendingCommit} {chunk : List SummaryTree}
    (pendingFold : PendingFold tables pending chunk) (leaves : (frontiers chunk).Nodup)
    (nodes : (allNodes chunk).Nodup) : pending.links.Distinct := by
  have links := pendingFold.links
  cases kind : pending.links with
  | messages messageIds =>
      rw [kind, SummaryLinks.items] at links
      rw [raws_of_shown links, frontiers_raws] at leaves
      exact leaves
  | parents parentSummaryIds =>
      rw [kind, SummaryLinks.items] at links
      exact nodes.sublist (parents_of_shown links)

/-- A commit of a pass folds the segment that the pass summarized. -/
theorem commitPass_refines {tables after : Tables} {pending : PendingCommit} {createdAt : Timestamp}
    {forest chunk before rest : List SummaryTree} (refines : Refines tables forest)
    (leaves : (frontiers forest).Nodup) (nodes : (allNodes forest).Nodup)
    (parts : forest = before ++ chunk ++ rest) (nonempty : chunk ≠ [])
    (first : pending.startOrdinal = before.length)
    (last : pending.endOrdinal + 1 = before.length + chunk.length)
    (pendingFold : PendingFold tables pending chunk)
    (committed : commitPass tables pending createdAt = some after) :
    pending.input.summaryId ∉ allNodes forest ∧ Extends tables after ∧
      Refines after (before ++ .fold pending.input.summaryId chunk :: rest) := by
  subst parts
  have distinct : pending.links.Distinct := by
    apply pendingFold.distinct
    · rw [frontiers_append, frontiers_append] at leaves
      exact (leaves.of_append_left).of_append_right
    · rw [allNodes_append, allNodes_append] at nodes
      exact (nodes.of_append_left).of_append_right
  simp only [commitPass, Option.bind_eq_bind, Option.bind_eq_some_iff] at committed
  obtain ⟨inserted, insertion, replaced⟩ := committed
  simp only [Tables.insertSummary, Option.bind_eq_bind, Option.bind_eq_some_iff,
    Option.some.injEq] at insertion
  obtain ⟨summaries, row, _, _, rfl⟩ := insertion
  have linked := linkSources_linked refines distinct row
  have context : (linkSources { tables with summaries := summaries } pending.input.summaryId
      pending.links).contextItems =
      .numbered (before.map shown ++ chunk.map shown ++ rest.map shown) := by
    rw [linked.context, refines.context, List.map_append, List.map_append]
  rw [replaceContextRange_numbered pending.input.summaryId context
    (by rw [List.length_map, first]) (by rw [List.length_map, List.length_map, last])
    (fun empty => nonempty (List.map_eq_nil_iff.mp empty))] at replaced
  cases replaced
  refine ⟨fun inside => linked.fresh ((refines.summaries _).mpr inside), ?_⟩
  apply linked.refines refines pendingFold rfl
  rw [List.map_append, List.map_cons]
  rfl

end Lcm.Compaction
