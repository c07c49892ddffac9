import Lcm.Compaction.Passes
import Mathlib.Data.Option.Basic

namespace Lcm.PostgreSql
open Text Store Compaction

/-- The largest value of an integer column. -/
def maxPostgreSqlInteger : Nat := 2147483647

/-- Opaque text has no NUL and no lone surrogate. -/
def validateOpaqueText (text : JsString) : Bool :=
  !includesNul text && !containsMalformedUtf16 text

/-- The checks on a summary before its transaction starts. -/
def validateSummaryInput (input : CreateSummaryInput) : Bool :=
  validateOpaqueText input.summaryId && validateOpaqueText input.content &&
    input.tokenCount ≤ maxSafeInteger && input.depth.all (· ≤ maxPostgreSqlInteger) &&
    input.descendantCount.all (· ≤ maxSafeInteger) &&
    input.descendantTokenCount.all (· ≤ maxSafeInteger) &&
    input.sourceMessageTokenCount.all (· ≤ maxSafeInteger) &&
    input.fileIds.all validateOpaqueText &&
    input.earliestAt.all fun earliest => input.latestAt.all fun latest => earliest ≤ latest

/-- The json of a batch refuses lone surrogates. -/
def appendMessages (messages : MessageTable) (conversationId : ConversationId)
    (inputs : List AppendMessageInput) (clock : MessageId → Timestamp) :
    Option (MessageTable × List MessageRecord) := do
  guard (inputs.all fun input => !containsMalformedUtf16 input.content)
  messages.appendMessages conversationId inputs clock

/-- A message batch extends the context by consecutive ordinals within the integer range. -/
def appendContextMessages (tables : Tables) (messageIds : List MessageId) : Option Tables :=
  if messageIds = [] then some tables else do
    guard (messageIds.all (· ≤ maxSafeInteger))
    guard messageIds.Nodup
    let base := tables.nextOrdinal
    guard (base ≤ maxPostgreSqlInteger)
    guard ((messageIds.length : Int) - 1 ≤ maxPostgreSqlInteger - base)
    guard (messageIds.all fun messageId => (tables.messages.getMessageById messageId).isSome)
    let contextItems ← Tables.insertContextMessages tables.contextItems base messageIds
    some { tables with contextItems := contextItems }

/-- An insertion refuses invalid values and a used identifier. -/
def insertSummary (tables : Tables) (input : CreateSummaryInput) (createdAt : Timestamp) :
    Option Tables := do
  guard (validateSummaryInput input)
  let summaries ← tables.summaries.insert? input.summaryId (Tables.summaryRow input createdAt)
  some { tables with summaries := summaries }

/-- The keys of a link table refuse a repeated item or position of one owner. -/
def acceptsLinks {Item : Type} [DecidableEq Item] (table : LinkTable SummaryId Item)
    (summaryId : SummaryId) (linked : List Item) : Bool :=
  table.entries.all fun entry =>
    entry.1.1 ≠ summaryId || (entry.1.2 ∉ linked && linked.length ≤ entry.2)

/-- A summary links distinct stored messages, and an empty list changes nothing. -/
def linkSummaryToMessages (tables : Tables) (summaryId : SummaryId)
    (messageIds : List MessageId) : Option Tables :=
  if messageIds = [] then some tables else do
    guard (messageIds.all (· ≤ maxSafeInteger))
    guard messageIds.Nodup
    guard (tables.getSummary summaryId).isSome
    guard (messageIds.all fun messageId => (tables.messages.getMessageById messageId).isSome)
    guard (acceptsLinks tables.summaryMessages summaryId messageIds)
    some (tables.linkSummaryToMessages summaryId messageIds)

/-- The given summaries with those that name one of them as a parent, to the depth of the fuel. -/
def descendants (tables : Tables) : Nat → List SummaryId → List SummaryId
  | 0, reached => reached
  | fuel + 1, reached =>
      descendants tables fuel (reached ++ reached.flatMap tables.summaryParents.owners).dedup

/-- A summary links distinct stored parents, none of them the summary itself or its descendant. -/
def linkSummaryToParents (tables : Tables) (summaryId : SummaryId)
    (parentSummaryIds : List SummaryId) : Option Tables :=
  if parentSummaryIds = [] then some tables else do
    guard (parentSummaryIds.all validateOpaqueText)
    guard parentSummaryIds.Nodup
    guard (summaryId ∉ parentSummaryIds)
    guard (tables.getSummary summaryId).isSome
    guard (parentSummaryIds.all fun parentId => (tables.getSummary parentId).isSome)
    guard ((descendants tables tables.summaries.keys.length [summaryId]).all
      fun reached => reached ∉ parentSummaryIds)
    guard (acceptsLinks tables.summaryParents summaryId parentSummaryIds)
    some (tables.linkSummaryToParents summaryId parentSummaryIds)

/-- Ordinals are non-negative and fit their column. -/
def safeOrdinalInput (ordinal : Int) : Bool := 0 ≤ ordinal && ordinal ≤ maxPostgreSqlInteger

/-- The range is present without gaps in a context that runs from zero without gaps. -/
def rangeComplete (contextItems : OrderedTable Int ContextItem) (startOrdinal endOrdinal : Int) :
    Bool :=
  let ordinals := contextItems.keys
  let covered := ordinals.filter fun ordinal => startOrdinal ≤ ordinal && ordinal ≤ endOrdinal
  (covered.length : Int) == endOrdinal - startOrdinal + 1 && ordinals.min?.getD (-1) == 0 &&
    ordinals.max?.getD (-1) == (ordinals.length : Int) - 1

/-- The rows behind a deleted range move down one by one, in ascending order. -/
def closeGap (contextItems : OrderedTable Int ContextItem) (endOrdinal shift : Int) :
    Option (OrderedTable Int ContextItem) :=
  if 0 < shift then
    contextItems.rekeyAll? ((contextItems.keys.filter fun ordinal => endOrdinal < ordinal).map
      fun ordinal => (ordinal, ordinal - shift))
  else some contextItems

/-- A complete range of context items becomes one summary item. -/
def replaceContextRangeWithSummary (tables : Tables) (startOrdinal endOrdinal : Int)
    (summaryId : SummaryId) : Option Tables := do
  guard (validateOpaqueText summaryId)
  guard (safeOrdinalInput startOrdinal)
  guard (safeOrdinalInput endOrdinal)
  guard (startOrdinal ≤ endOrdinal)
  guard (tables.getSummary summaryId).isSome
  guard (rangeComplete tables.contextItems startOrdinal endOrdinal)
  let deleted := tables.contextItems.eraseRange startOrdinal endOrdinal
  let shifted ← closeGap deleted endOrdinal (endOrdinal - startOrdinal)
  let inserted ← shifted.insert? startOrdinal (.summary summaryId)
  some { tables with contextItems := inserted }

/-- The links of a pending commit. -/
def linkSources (tables : Tables) (summaryId : SummaryId) : SummaryLinks → Option Tables
  | .messages messageIds => linkSummaryToMessages tables summaryId messageIds
  | .parents parentSummaryIds => linkSummaryToParents tables summaryId parentSummaryIds

/-- The transaction of a pass inserts, links and replaces, or changes nothing. -/
def commitPass (tables : Tables) (pending : PendingCommit) (createdAt : Timestamp) :
    Option Tables := do
  let inserted ← insertSummary tables pending.input createdAt
  let linked ← linkSources inserted pending.input.summaryId pending.links
  replaceContextRangeWithSummary linked pending.startOrdinal pending.endOrdinal
    pending.input.summaryId

/-- The checks that refuse a commit whatever the items of its range are. -/
def refused (tables : Tables) (pending : PendingCommit) : Bool :=
  !validateSummaryInput pending.input || pending.input.summaryId ∈ tables.summaries.keys ||
    !rangeComplete tables.contextItems pending.startOrdinal pending.endOrdinal

/-- Links that go through are the links of the other store. -/
theorem linkSources_eq {tables after : Tables} {summaryId : SummaryId} {links : SummaryLinks}
    (linked : linkSources tables summaryId links = some after) :
    after = Compaction.linkSources tables summaryId links := by
  cases links with
  | messages messageIds =>
      simp only [linkSources, linkSummaryToMessages] at linked
      split at linked
      · next empty =>
          subst empty
          cases linked
          rfl
      · simp only [Option.bind_eq_bind, Option.bind_eq_some_iff, Option.guard_eq_some',
          exists_const, Option.some.injEq] at linked
        obtain ⟨_, _, _, _, _, same⟩ := linked
        exact same.symm
  | parents parentSummaryIds =>
      simp only [linkSources, linkSummaryToParents] at linked
      split at linked
      · next empty =>
          subst empty
          cases linked
          rfl
      · simp only [Option.bind_eq_bind, Option.bind_eq_some_iff, Option.guard_eq_some',
          exists_const, Option.some.injEq] at linked
        obtain ⟨_, _, _, _, _, _, _, same⟩ := linked
        exact same.symm

/-- Closing the gap of a deleted range leaves room for one row. -/
theorem closeGap_numbered {before chunk : List ContextItem} (rest : List ContextItem)
    {startOrdinal endOrdinal : Int}
    (first : startOrdinal = before.length) (last : endOrdinal + 1 = before.length + chunk.length)
    (nonempty : chunk ≠ []) : ∃ shifted,
      closeGap ((OrderedTable.numbered (before ++ chunk ++ rest)).eraseRange startOrdinal endOrdinal)
        endOrdinal (endOrdinal - startOrdinal) = some shifted ∧
      shifted.entries = OrderedTable.numberedFrom 0 before ++
        OrderedTable.numberedFrom (before.length + 1) rest := by
  have positive := List.length_pos_iff.mpr nonempty
  have parts := @OrderedTable.numbered_eraseRange _ before chunk rest _ _ first last
  unfold closeGap
  split
  · have suffix : ((OrderedTable.numbered (before ++ chunk ++ rest)).eraseRange startOrdinal
        endOrdinal).keys.filter (fun ordinal => endOrdinal < ordinal) =
        (OrderedTable.numberedFrom (before.length + chunk.length) rest).map Prod.fst := by
      rw [OrderedTable.keys, parts, List.map_append, List.filter_append,
        List.filter_eq_nil_iff.mpr, List.filter_eq_self.mpr, List.nil_append]
      · intro ordinal inside
        obtain ⟨entry, member, rfl⟩ := List.mem_map.mp inside
        have := OrderedTable.numberedFrom_bounds member
        simp only [decide_eq_true_eq]
        omega
      · intro ordinal inside
        obtain ⟨entry, member, rfl⟩ := List.mem_map.mp inside
        have := OrderedTable.numberedFrom_bounds member
        simp only [decide_eq_true_eq]
        omega
    obtain ⟨shifted, moved, entries⟩ := OrderedTable.rekeyAll?_shift
      (show (0 : Int) ≤ endOrdinal - startOrdinal by omega) parts (by
        intro early inside late member
        have := OrderedTable.numberedFrom_bounds inside
        have := OrderedTable.numberedFrom_bounds member
        omega)
    refine ⟨shifted, ?_, ?_⟩
    · rw [suffix, List.map_map]
      exact moved
    · have shift := OrderedTable.numberedFrom_shift (before.length + 1) (chunk.length - 1) rest
      rw [show before.length + 1 + (chunk.length - 1) = before.length + chunk.length by omega,
        show ((chunk.length - 1 : Nat) : Int) = endOrdinal - startOrdinal by omega] at shift
      rw [entries, shift]
  · refine ⟨_, rfl, ?_⟩
    rw [parts, show before.length + chunk.length = before.length + 1 by omega]

/-- Behind the closed gap there is room for the summary item. -/
theorem placeSummary_numbered {before chunk : List ContextItem} (rest : List ContextItem)
    {startOrdinal endOrdinal : Int} (summaryId : SummaryId)
    (first : startOrdinal = before.length) (last : endOrdinal + 1 = before.length + chunk.length)
    (nonempty : chunk ≠ []) : ∃ shifted,
      closeGap ((OrderedTable.numbered (before ++ chunk ++ rest)).eraseRange startOrdinal endOrdinal)
        endOrdinal (endOrdinal - startOrdinal) = some shifted ∧
      shifted.insert? startOrdinal (.summary summaryId) =
        some (.numbered (before ++ .summary summaryId :: rest)) := by
  obtain ⟨gap, moved, parts⟩ := closeGap_numbered rest first last nonempty
  obtain ⟨next, insertion, entries⟩ := OrderedTable.insert?_between startOrdinal
    (.summary summaryId) parts (by
      intro entry inside
      have := OrderedTable.numberedFrom_bounds inside
      omega) (by
      intro entry inside
      have := OrderedTable.numberedFrom_bounds inside
      push_cast at this
      omega)
  have same : next = .numbered (before ++ .summary summaryId :: rest) := by
    apply OrderedTable.ext
    show next.entries = OrderedTable.numberedFrom 0 (before ++ .summary summaryId :: rest)
    rw [entries, first, OrderedTable.numberedFrom_append, Nat.zero_add]
    rfl
  exact ⟨gap, moved, same ▸ insertion⟩

/-- A segment of a numbered context is complete. -/
theorem rangeComplete_numbered {before chunk rest : List ContextItem} {startOrdinal endOrdinal : Int}
    (first : startOrdinal = before.length) (last : endOrdinal + 1 = before.length + chunk.length)
    (nonempty : chunk ≠ []) :
    rangeComplete (.numbered (before ++ chunk ++ rest)) startOrdinal endOrdinal = true := by
  have positive := List.length_pos_iff.mpr nonempty
  have present : before ++ chunk ++ rest ≠ [] := by simp [nonempty]
  have extremes := OrderedTable.numberedFrom_extremes 0 present
  have count : ((OrderedTable.numbered (before ++ chunk ++ rest)).keys.filter
      fun ordinal => startOrdinal ≤ ordinal && ordinal ≤ endOrdinal).length = chunk.length := by
    have rows := congrArg List.length (@OrderedTable.numbered_between _ before chunk rest _ _ first last)
    rw [← rows]
    simp only [OrderedTable.keys, OrderedTable.rows, OrderedTable.select, List.length_map,
      List.filter_map]
    rfl
  have total : (OrderedTable.numbered (before ++ chunk ++ rest)).keys.length =
      (before ++ chunk ++ rest).length := by
    rw [OrderedTable.numbered_keys, List.length_map, List.length_range]
  simp only [rangeComplete, Bool.and_eq_true, beq_iff_eq]
  rw [count, total]
  rw [show (OrderedTable.numbered (before ++ chunk ++ rest)).keys =
    (OrderedTable.numberedFrom 0 (before ++ chunk ++ rest)).map Prod.fst from rfl, extremes.1, extremes.2]
  refine ⟨⟨by omega, rfl⟩, ?_⟩
  simp

/-- A replacement that goes through puts the summary item in the place of a nonempty segment. -/
theorem replaceContextRange_cases {tables after : Tables} {rows : List ContextItem}
    {startOrdinal endOrdinal : Int} {summaryId : SummaryId}
    (context : tables.contextItems = .numbered rows)
    (replaced : replaceContextRangeWithSummary tables startOrdinal endOrdinal summaryId =
      some after) :
    rangeComplete tables.contextItems startOrdinal endOrdinal = true ∧
      ∃ before chunk rest, rows = before ++ chunk ++ rest ∧ startOrdinal = before.length ∧
        endOrdinal + 1 = before.length + chunk.length ∧ chunk ≠ [] ∧
        after = { tables with contextItems := .numbered (before ++ .summary summaryId :: rest) } := by
  simp only [replaceContextRangeWithSummary, Option.bind_eq_bind, Option.bind_eq_some_iff,
    Option.guard_eq_some', exists_const, Option.some.injEq] at replaced
  obtain ⟨_, natural, _, ordered, _, complete, shifted, closed, inserted, placed, rfl⟩ := replaced
  have covered := complete
  simp only [rangeComplete, context, Bool.and_eq_true, beq_iff_eq] at covered
  obtain ⟨before, chunk, rest, rfl, first, last, nonempty⟩ := OrderedTable.numbered_complete
    (by simp only [safeOrdinalInput, Bool.and_eq_true, decide_eq_true_eq] at natural; exact natural.1)
    ordered covered.1.1
  refine ⟨complete, before, chunk, rest, rfl, first, last, nonempty, ?_⟩
  obtain ⟨gap, moved, insertion⟩ := placeSummary_numbered rest summaryId first last nonempty
  rw [context, moved] at closed
  cases closed
  rw [insertion] at placed
  cases placed
  rfl

/-- A commit that goes through is not refused, adds its row and links, and replaces a segment. -/
theorem commitPass_cases {tables after : Tables} {pending : PendingCommit} {createdAt : Timestamp}
    {rows : List ContextItem} (context : tables.contextItems = .numbered rows)
    (committed : commitPass tables pending createdAt = some after) :
    refused tables pending = false ∧
      ∃ summaries, tables.summaries.insert? pending.input.summaryId
          (Tables.summaryRow pending.input createdAt) = some summaries ∧
        ∃ before chunk rest, rows = before ++ chunk ++ rest ∧
          pending.startOrdinal = before.length ∧
          pending.endOrdinal + 1 = before.length + chunk.length ∧ chunk ≠ [] ∧
          after = { Compaction.linkSources { tables with summaries := summaries }
            pending.input.summaryId pending.links with
              contextItems := .numbered (before ++ .summary pending.input.summaryId :: rest) } := by
  simp only [commitPass, insertSummary, Option.bind_eq_bind, Option.bind_eq_some_iff,
    Option.guard_eq_some', exists_const, Option.some.injEq] at committed
  obtain ⟨inserted, ⟨valid, summaries, row, rfl⟩, linked, links, replaced⟩ := committed
  have kept : linked.contextItems = tables.contextItems := by
    rw [linkSources_eq links]
    cases pending.links <;> rfl
  obtain ⟨complete, replacement⟩ := replaceContextRange_cases (kept.trans context) replaced
  have fresh := (KeyedTable.insert?_eq_some.mp row).1
  rw [kept] at complete
  rw [linkSources_eq links] at replacement
  exact ⟨by simp [refused, valid, fresh, complete], summaries, row, replacement⟩

end Lcm.PostgreSql
