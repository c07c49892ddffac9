import Lcm.Compaction.Coverage
import Lcm.Compaction.Sweep
import Mathlib.Algebra.BigOperators.Group.List.Basic

namespace Lcm.Compaction
open Text Store

/-- The rows that a context item may name. -/
def StoredItem (tables : Tables) (item : ContextItem) : Prop :=
  match item with
  | .message messageId => StoredMessage tables messageId
  | .summary summaryId => StoredSummary tables summaryId

/-- Every context item names a stored row. -/
def Referenced (tables : Tables) : Prop := ∀ item ∈ tables.contextItems.rows, StoredItem tables item

/-- The stored tokens of the items that a range replaces. -/
def replacedTokens (tables : Tables) (startOrdinal endOrdinal : Int) : Nat :=
  ((tables.getContextItems.filter fun entry => startOrdinal ≤ entry.1 ∧ entry.1 ≤ endOrdinal).map
    fun entry => storedTokens tables entry.2).sum

namespace Escalation

/-- The tokens of the fallback text: the truncated source, a line break and the marker. -/
def fallbackTokens (escalation : Escalation) (inputTokens : Nat) : Nat :=
  (min escalation.sourceText.length fallbackMaxChars + 25 + (decimal inputTokens).length + 3) / 4

/-- The tokens of the summary, by the level that the escalation reaches. -/
def tokens (escalation : Escalation) : Nat :=
  if escalation.sourceText = [] then 7 else
    let inputTokens := max 1 (estimateTokens escalation.sourceText)
    if estimateTokens escalation.normal < inputTokens then estimateTokens escalation.normal
    else if estimateTokens escalation.aggressive < inputTokens then estimateTokens escalation.aggressive
    else escalation.fallbackTokens inputTokens

end Escalation

/-- A pass saves when the summary costs no more than the stored counts of what it replaces. -/
def CommittedPass.Saves (pass : CommittedPass) : Prop :=
  pass.escalation.tokens ≤ replacedTokens pass.before pass.startOrdinal pass.endOrdinal

/-- The summary of an escalation costs what its level says. -/
theorem escalate_tokens (environment : Environment) (rawSource : JsString) (summarize : SummarizeFn)
    (options : SummarizeOptions) :
    estimateTokens (summarizeWithEscalation environment rawSource summarize options).1 =
      (escalate environment rawSource summarize options).tokens := by
  have marker : ∀ inputTokens, (truncationMarker inputTokens).length = 24 + (decimal inputTokens).length := by
    intro inputTokens
    have opening : (js "[Truncated from ").length = 16 := by decide
    have closing : (js " tokens]").length = 8 := by decide
    rw [truncationMarker, List.length_append, List.length_append, opening, closing]
    omega
  have line : (js "\n").length = 1 := by decide
  have digit : (decimal 0).length = 1 := by decide
  simp only [summarizeWithEscalation, Escalation.tokens, escalate]
  split
  · next empty =>
      simp only [empty, ↓reduceIte]
      rw [estimateTokens, marker, digit]
  · next present =>
      simp only [present, ↓reduceIte]
      split
      · next normal => simp only [normal, ↓reduceIte]
      · next long =>
          simp only [long, ↓reduceIte]
          split
          · next aggressive => simp only [aggressive, ↓reduceIte]
          · next longer =>
              simp only [longer, ↓reduceIte, Escalation.fallbackTokens]
              rw [estimateTokens, List.length_append, List.length_append,
                List.length_take, marker, line, Nat.min_comm]
              congr 1
              omega

theorem leafPass_tokens {environment : Environment} {items : List ContextItemRecord}
    {contents : List MessageContent} {summarize : SummarizeFn} {previousSummary : Option JsString}
    {now : Nat} {pending : PendingCommit}
    (made : leafPass environment items contents summarize previousSummary now = some pending) :
    pending.input.tokenCount = (escalate environment (leafSource environment contents) summarize
      ⟨previousSummary, false, none⟩).tokens := by
  simp only [leafPass, Option.bind_eq_bind, Option.bind_eq_some_iff, Option.some.injEq] at made
  obtain ⟨_, _, _, _, rfl⟩ := made
  exact escalate_tokens _ _ _ _

theorem condensedPass_tokens {environment : Environment} {items : List ContextItemRecord}
    {targetDepth : Nat} {records : List SummaryRecord} {summarize : SummarizeFn}
    {previousSummary : Option JsString} {now : Nat} {pending : PendingCommit}
    (made : condensedPass environment items targetDepth records summarize previousSummary now =
      some pending) :
    pending.input.tokenCount = (escalate environment (condensedSource environment records) summarize
      ⟨previousSummary, true, some (targetDepth + 1)⟩).tokens := by
  simp only [condensedPass, Option.bind_eq_bind, Option.bind_eq_some_iff, Option.some.injEq] at made
  obtain ⟨_, _, _, _, rfl⟩ := made
  exact escalate_tokens _ _ _ _

/-- Tables that keep the rows that items may name. -/
structure KeepsRows (before after : Tables) : Prop where
  messages : ∀ messageId message, before.messages.getMessageById messageId = some message →
    after.messages.getMessageById messageId = some message
  summaries : ∀ summaryId summary, before.getSummary summaryId = some summary →
    after.getSummary summaryId = some summary

section Tables

variable {tables after : Tables} {item : ContextItem}

theorem KeepsRows.storedItem (keeps : KeepsRows tables after) (stored : StoredItem tables item) :
    StoredItem after item ∧ storedTokens after item = storedTokens tables item := by
  cases item with
  | message messageId =>
      obtain ⟨message, found⟩ := stored
      have kept := keeps.messages _ _ found
      exact ⟨⟨message, kept⟩, by simp only [storedTokens, found, kept]⟩
  | summary summaryId =>
      obtain ⟨summary, found⟩ := stored
      have kept := keeps.summaries _ _ found
      exact ⟨⟨summary, kept⟩, by simp only [storedTokens, found, kept]⟩

theorem KeepsRows.tokens (keeps : KeepsRows tables after) {items : List ContextItem}
    (stored : ∀ item ∈ items, StoredItem tables item) :
    (items.map (storedTokens after)).sum = (items.map (storedTokens tables)).sum := by
  congr 1
  apply List.map_congr_left
  exact fun item inside => (keeps.storedItem (stored item inside)).2

/-- An event changes neither the context nor its tokens. -/
theorem appendEvent_keeps {conversationId : ConversationId} {inputs : List AppendMessageInput}
    {clock : MessageId → Timestamp} (referenced : Referenced tables)
    (appended : appendEvent tables conversationId inputs clock = some after) :
    Referenced after ∧ getContextTokenCount after = getContextTokenCount tables := by
  simp only [appendEvent, Option.bind_eq_bind, Option.bind_eq_some_iff, Prod.exists, Option.some.injEq]
    at appended
  obtain ⟨messages, records, extended, rfl⟩ := appended
  have keeps : KeepsRows tables { tables with messages := messages } :=
    ⟨MessageTable.extends_of_entries (MessageTable.appendMessages_entries extended), fun _ _ => id⟩
  exact ⟨fun item inside => (keeps.storedItem (referenced item inside)).1, keeps.tokens referenced⟩

/-- The context tokens are those of the range and those outside. -/
theorem getContextTokenCount_split (tables : Tables) (startOrdinal endOrdinal : Int) :
    getContextTokenCount tables = replacedTokens tables startOrdinal endOrdinal +
      ((tables.contextItems.eraseRange startOrdinal endOrdinal).rows.map (storedTokens tables)).sum := by
  have parts := List.filter_append_perm
    (fun entry : ContextItemRecord => decide (startOrdinal ≤ entry.1 ∧ entry.1 ≤ endOrdinal))
    tables.getContextItems
  have same := (parts.map fun entry => storedTokens tables entry.2).sum_eq
  rw [List.map_append, List.sum_append] at same
  simp only [getContextTokenCount, OrderedTable.rows, List.map_map]
  exact same.symm

/-- A commit replaces the tokens of its range by those of its summary. -/
theorem commitPass_tokens {pending : PendingCommit} {createdAt : Timestamp} (referenced : Referenced tables)
    (committed : commitPass tables pending createdAt = some after) :
    Referenced after ∧
      getContextTokenCount after + replacedTokens tables pending.startOrdinal pending.endOrdinal =
        getContextTokenCount tables + pending.input.tokenCount := by
  obtain ⟨inserted, first, second⟩ := Option.bind_eq_some_iff.mp committed
  simp only [Tables.insertSummary, Option.bind_eq_bind, Option.bind_eq_some_iff, Option.some.injEq] at first
  obtain ⟨summaries, row, _, _, rfl⟩ := first
  obtain ⟨linked, same⟩ : ∃ linked, linkSources { tables with summaries := summaries }
      pending.input.summaryId pending.links = linked := ⟨_, rfl⟩
  have unchanged : linked.contextItems = tables.contextItems ∧ linked.messages = tables.messages ∧
      linked.summaries = summaries := by
    rw [← same]
    cases pending.links <;> exact ⟨rfl, rfl, rfl⟩
  obtain ⟨context, messages, rows⟩ := unchanged
  simp only [same, Tables.replaceContextRangeWithSummary, context, Option.bind_eq_bind,
    Option.bind_eq_some_iff, Option.some.injEq] at second
  obtain ⟨placed, replaced, renumbered, numbered, rfl⟩ := second
  have keeps : KeepsRows tables { linked with contextItems := renumbered } := by
    constructor
    · intro messageId message found
      rw [← messages] at found
      exact found
    · intro summaryId summary found
      simp only [Tables.getSummary, rows]
      exact KeyedTable.get?_insert?_of_some row found
  have own : ({ linked with contextItems := renumbered } : Tables).getSummary pending.input.summaryId =
      some (Tables.summaryRow pending.input createdAt) := by
    rw [Tables.getSummary, rows, KeyedTable.get?_insert? row, if_pos rfl]
  have permuted : renumbered.rows.Perm (.summary pending.input.summaryId ::
      (tables.contextItems.eraseRange pending.startOrdinal pending.endOrdinal).rows) :=
    (OrderedTable.rows_renumber?_perm numbered).trans ((OrderedTable.insert?_perm replaced).map Prod.snd)
  have outside : ∀ item ∈ (tables.contextItems.eraseRange pending.startOrdinal pending.endOrdinal).rows,
      StoredItem tables item := by
    intro item inside
    obtain ⟨entry, kept, rfl⟩ := List.mem_map.mp inside
    exact referenced entry.2 (List.mem_map_of_mem (List.mem_filter.mp kept).1)
  constructor
  · intro item inside
    rcases List.mem_cons.mp (permuted.mem_iff.mp inside) with rfl | old
    · exact ⟨_, own⟩
    · exact (keeps.storedItem (outside item old)).1
  · have summary : storedTokens { linked with contextItems := renumbered }
        (.summary pending.input.summaryId) = pending.input.tokenCount := by
      simp only [storedTokens, own, Option.map_some, Option.getD_some]
      rfl
    have total := (permuted.map (storedTokens { linked with contextItems := renumbered })).sum_eq
    rw [List.map_cons, List.sum_cons, summary, keeps.tokens outside] at total
    have before := getContextTokenCount_split tables pending.startOrdinal pending.endOrdinal
    have after : getContextTokenCount { linked with contextItems := renumbered } = _ := total
    omega

end Tables

/-- A committed pass leaves no more tokens exactly when it saves. -/
theorem recordPass_saves_iff {tables after : Tables} {pending : PendingCommit} {createdAt : Timestamp}
    {escalation : Escalation} (referenced : Referenced tables)
    (committed : commitPass tables pending createdAt = some after)
    (cost : pending.input.tokenCount = escalation.tokens) (condensed : Bool) (recorded : Nat) :
    getContextTokenCount after ≤ getContextTokenCount tables ↔
      (recordPass condensed recorded escalation pending tables after).Saves := by
  have tokens := (commitPass_tokens referenced committed).2
  simp only [CommittedPass.Saves, recordPass]
  omega

end Lcm.Compaction
