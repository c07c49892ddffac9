import Lcm.Compaction.Lossless
import Mathlib.Algebra.BigOperators.Group.Finset.Basic
import Mathlib.Data.Finset.Max
import Mathlib.Logic.Relation

namespace Lcm.Compaction
open Text Store Folded

/-- A summary lies below another when a chain of parent links leads down to it. -/
def Below (tables : Tables) : SummaryId → SummaryId → Prop :=
  Relation.TransGen fun upper lower => lower ∈ tables.summaryParents.items upper

open Classical in
/-- The distinct stored summaries below a summary. -/
noncomputable def summariesBelow (tables : Tables) (summaryId : SummaryId) : Finset SummaryId :=
  tables.summaries.keys.toFinset.filter (Below tables summaryId)

/-- A summary covers the messages linked to it and to the summaries below it. -/
def Covers (tables : Tables) (summaryId : SummaryId) (messageId : MessageId) : Prop :=
  ∃ lower, (lower = summaryId ∨ Below tables summaryId lower) ∧
    messageId ∈ tables.getSummaryMessages lower

open Classical in
/-- The distinct stored messages that a summary covers. -/
noncomputable def coveredMessages (tables : Tables) (summaryId : SummaryId) : Finset MessageId :=
  tables.messages.rows.keys.toFinset.filter (Covers tables summaryId)

open Classical in
theorem covers_of_mem {tables : Tables} {summaryId : SummaryId} {messageId : MessageId}
    (inside : messageId ∈ coveredMessages tables summaryId) : Covers tables summaryId messageId := by
  unfold coveredMessages at inside
  exact (Finset.mem_filter.mp inside).2

/-- Exact metadata agrees with the links below the summary. -/
structure ExactMetadata (tables : Tables) (summary : SummaryRecord) : Prop where
  leafDepth : summary.kind = .leaf → summary.depth = 0
  condensedDepth : summary.kind = .condensed →
    tables.getSummaryParents summary.summaryId ≠ [] ∧
      ∀ parent ∈ tables.getSummaryParents summary.summaryId, summary.depth = 1 + parent.depth
  descendantCount :
    summary.descendantCount = (summariesBelow tables summary.summaryId).card
  descendantTokenCount : summary.descendantTokenCount =
    ∑ lower ∈ summariesBelow tables summary.summaryId, summaryTokens tables lower
  sourceMessageTokenCount : summary.sourceMessageTokenCount =
    ∑ messageId ∈ coveredMessages tables summary.summaryId, getMessageTokenCount tables messageId
  earliestAt : ∃ time, summary.earliestAt = some time ∧
    IsLeast ((messageTime tables) '' coveredMessages tables summary.summaryId) time
  latestAt : ∃ time, summary.latestAt = some time ∧
    IsGreatest ((messageTime tables) '' coveredMessages tables summary.summaryId) time

section Links

variable {tables : Tables} {summaryId : SummaryId} {children : List SummaryTree}

theorem mem_parents (stored : StoredFold tables summaryId children) {lower : SummaryId} :
    lower ∈ tables.summaryParents.items summaryId ↔ ∃ below, .fold lower below ∈ children := by
  have same : ContextItem.summary lower ∈ linkedItems tables summaryId ↔
      ContextItem.summary lower ∈ children.map shown := by rw [stored.links]
  simp only [linkedItems, List.mem_append, List.mem_map, reduceCtorEq, and_false, exists_false,
    false_or, ContextItem.summary.injEq, exists_eq_right] at same
  rw [same]
  constructor
  · intro shownAs
    obtain ⟨tree, inside, named⟩ := shownAs
    cases tree with
    | raw leaf => simp [shown] at named
    | fold node below =>
        have same : node = lower := by simpa [shown] using named
        exact ⟨below, same ▸ inside⟩
  · intro found
    obtain ⟨below, inside⟩ := found
    exact ⟨_, inside, rfl⟩

theorem mem_summaryMessages (stored : StoredFold tables summaryId children)
    {messageId : MessageId} :
    messageId ∈ tables.getSummaryMessages summaryId ↔ .raw messageId ∈ children := by
  have same : ContextItem.message messageId ∈ linkedItems tables summaryId ↔
      ContextItem.message messageId ∈ children.map shown := by rw [stored.links]
  simp only [linkedItems, List.mem_append, List.mem_map, reduceCtorEq, and_false, exists_false,
    or_false, ContextItem.message.injEq, exists_eq_right] at same
  rw [same]
  constructor
  · intro shownAs
    obtain ⟨tree, inside, named⟩ := shownAs
    cases tree with
    | raw leaf =>
        have same : leaf = messageId := by simpa [shown] using named
        exact same ▸ inside
    | fold node below => simp [shown] at named
  · intro inside
    exact ⟨_, inside, rfl⟩

theorem below_step {lower : SummaryId} : Below tables summaryId lower ↔
    ∃ middle ∈ tables.summaryParents.items summaryId, lower = middle ∨ Below tables middle lower := by
  unfold Below
  rw [Relation.TransGen.head'_iff]
  simp only [Relation.reflTransGen_iff_eq_or_transGen]

theorem covers_step {messageId : MessageId} : Covers tables summaryId messageId ↔
    messageId ∈ tables.getSummaryMessages summaryId ∨
      ∃ middle ∈ tables.summaryParents.items summaryId, Covers tables middle messageId := by
  constructor
  · intro covers
    obtain ⟨lower, rfl | below, linked⟩ := covers
    · exact .inl linked
    · obtain ⟨middle, parent, same⟩ := below_step.mp below
      exact .inr ⟨middle, parent, lower, same, linked⟩
  · intro covers
    rcases covers with linked | ⟨middle, parent, lower, same, linked⟩
    · exact ⟨summaryId, .inl rfl, linked⟩
    · exact ⟨lower, .inr (below_step.mpr ⟨middle, parent, same⟩), linked⟩

end Links

/-- The summaries below a stored fold are the nodes of its children. -/
theorem below_iff {tables : Tables} {tree : SummaryTree} (stored : Stored tables tree) :
    ∀ {summaryId : SummaryId} {children : List SummaryTree}, tree = .fold summaryId children →
      ∀ lower, Below tables summaryId lower ↔ lower ∈ allNodes children := by
  induction stored with
  | raw _ => intro _ _ same; cases same
  | @fold summaryId children here _ ih =>
      intro _ _ same lower
      cases same
      rw [below_step, allNodes, List.mem_flatMap]
      constructor
      · intro reached
        obtain ⟨middle, parent, same⟩ := reached
        obtain ⟨below, inside⟩ := (mem_parents here).mp parent
        refine ⟨_, inside, ?_⟩
        rw [nodes_fold, List.mem_cons]
        exact same.imp_right (ih _ inside rfl lower).mp
      · intro found
        obtain ⟨child, inside, member⟩ := found
        cases child with
        | raw leaf => simp at member
        | fold middle below =>
            rw [nodes_fold, List.mem_cons] at member
            exact ⟨middle, (mem_parents here).mpr ⟨below, inside⟩,
              member.imp_right (ih _ inside rfl lower).mpr⟩

/-- A stored fold covers exactly its frontier. -/
theorem covers_iff {tables : Tables} {tree : SummaryTree} (stored : Stored tables tree) :
    ∀ {summaryId : SummaryId} {children : List SummaryTree}, tree = .fold summaryId children →
      ∀ messageId, Covers tables summaryId messageId ↔ messageId ∈ frontiers children := by
  induction stored with
  | raw _ => intro _ _ same; cases same
  | @fold summaryId children here _ ih =>
      intro _ _ same messageId
      cases same
      rw [covers_step, frontiers, List.mem_flatMap]
      constructor
      · intro covers
        rcases covers with linked | ⟨middle, parent, covers⟩
        · exact ⟨_, (mem_summaryMessages here).mp linked, by simp⟩
        · obtain ⟨below, inside⟩ := (mem_parents here).mp parent
          refine ⟨_, inside, ?_⟩
          rw [frontier_fold]
          exact (ih _ inside rfl messageId).mp covers
      · intro found
        obtain ⟨child, inside, member⟩ := found
        cases child with
        | raw leaf =>
            have same : messageId = leaf := by simpa using member
            exact .inl ((mem_summaryMessages here).mpr (same ▸ inside))
        | fold middle below =>
            rw [frontier_fold] at member
            exact .inr ⟨middle, (mem_parents here).mpr ⟨below, inside⟩,
              (ih _ inside rfl messageId).mpr member⟩

section Exact

variable {tables : Tables} {summaryId : SummaryId} {children : List SummaryTree}

theorem summariesBelow_eq (stored : Stored tables (.fold summaryId children))
    (fold : StoredFold tables summaryId children) :
    summariesBelow tables summaryId = (allNodes children).toFinset := by
  ext lower
  simp only [summariesBelow, Finset.mem_filter, List.mem_toFinset, below_iff stored rfl]
  constructor
  · exact And.right
  · intro inside
    obtain ⟨summary, found⟩ := fold.summaries lower inside
    exact ⟨KeyedTable.mem_keys.mpr ⟨summary, KeyedTable.get?_eq_some.mp found⟩, inside⟩

theorem coveredMessages_eq (stored : Stored tables (.fold summaryId children))
    (fold : StoredFold tables summaryId children) :
    coveredMessages tables summaryId = (frontiers children).toFinset := by
  ext messageId
  simp only [coveredMessages, Finset.mem_filter, List.mem_toFinset, covers_iff stored rfl]
  constructor
  · exact And.right
  · intro inside
    obtain ⟨message, found⟩ := fold.messages messageId inside
    exact ⟨KeyedTable.mem_keys.mpr ⟨message, KeyedTable.get?_eq_some.mp found⟩, inside⟩

theorem Describes.below {summary : SummaryRecord} (described : Describes tables summary children)
    (upper : summary.depth ≠ 0) : ∃ level, summary.depth = level + 1 ∧ children ≠ [] ∧
      ∀ child ∈ children, Level level child := by
  have level := described.level
  generalize summary.depth = depth at level upper
  cases level with
  | leaves _ _ => exact absurd rfl upper
  | folds nonempty levels => exact ⟨_, rfl, nonempty, levels⟩

/-- The parents of a condensed summary exist and lie one level down. -/
theorem parents_level {summary : SummaryRecord} (fold : StoredFold tables summaryId children)
    (below : ∀ child ∈ children, Stored tables child) (described : Describes tables summary children)
    (upper : summary.depth ≠ 0) : tables.getSummaryParents summaryId ≠ [] ∧
      ∀ parent ∈ tables.getSummaryParents summaryId, summary.depth = 1 + parent.depth := by
  obtain ⟨level, depth, nonempty, levels⟩ := described.below upper
  constructor
  · intro empty
    obtain ⟨child, inside⟩ := List.exists_mem_of_ne_nil children nonempty
    cases below child inside with
    | raw _ => cases levels _ inside
    | @fold lower grandchildren here _ =>
        obtain ⟨row, stored, _⟩ := here.row
        have member : row ∈ tables.getSummaryParents summaryId :=
          List.mem_filterMap.mpr ⟨lower, (mem_parents fold).mpr ⟨grandchildren, inside⟩, stored⟩
        rw [empty] at member
        cases member
  · intro parent linked
    obtain ⟨lower, inside, found⟩ := List.mem_filterMap.mp linked
    obtain ⟨grandchildren, member⟩ := (mem_parents fold).mp inside
    cases below _ member with
    | fold here _ =>
        obtain ⟨row, stored, named, lowerDescribed⟩ := here.row
        rw [found] at stored
        cases stored
        have lowerLevel := lowerDescribed.level
        rw [named] at lowerLevel
        have same := (levels _ member).unique lowerLevel
        omega

theorem exact_of_stored (stored : Stored tables (.fold summaryId children))
    (nodes : (allNodes children).Nodup) (leaves : (frontiers children).Nodup)
    {summary : SummaryRecord} (found : tables.getSummary summaryId = some summary) :
    ExactMetadata tables summary := by
  cases stored with
  | fold fold below =>
      have stored : Stored tables (.fold summaryId children) := .fold fold below
      obtain ⟨row, located, named, described⟩ := fold.row
      rw [found] at located
      cases located
      subst named
      have times : coveredTimes tables children =
          (messageTime tables) '' coveredMessages tables summary.summaryId := by
        rw [coveredMessages_eq stored fold]
        ext time
        simp [coveredTimes]
      constructor
      · intro leaf
        by_contra upper
        rw [described.kind, if_neg upper] at leaf
        cases leaf
      · intro condensed
        have upper : summary.depth ≠ 0 := by
          intro lowest
          rw [described.kind, if_pos lowest] at condensed
          cases condensed
        exact parents_level fold below described upper
      · rw [summariesBelow_eq stored fold, List.toFinset_card_of_nodup nodes,
          described.descendantCount]
      · rw [summariesBelow_eq stored fold, List.sum_toFinset _ nodes,
          described.descendantTokenCount]
      · rw [coveredMessages_eq stored fold, List.sum_toFinset _ leaves,
          described.sourceMessageTokenCount]
      · rw [← times]
        exact described.earliestAt
      · rw [← times]
        exact described.latestAt

end Exact

/-- In every run each stored summary heads a stored fold without repetitions. -/
theorem reachable_fold {environment : Environment} {config : CompactionConfig}
    {conversationId : ConversationId} {run : Run}
    (reached : (compactionSystem environment config conversationId).Reachable run)
    {summaryId : SummaryId} {summary : SummaryRecord}
    (found : run.tables.getSummary summaryId = some summary) :
    ∃ children, Stored run.tables (.fold summaryId children) ∧
      (summaryId :: allNodes children).Nodup ∧ (frontiers children).Nodup := by
  obtain ⟨covering, lossless, related⟩ := reachable_related reached
  have node : summaryId ∈ allNodes covering.items :=
    (related.refines.summaries summaryId).mp
      (KeyedTable.mem_keys.mpr ⟨summary, KeyedTable.get?_eq_some.mp found⟩)
  obtain ⟨children, inside⟩ := exists_fold node
  obtain ⟨nodesPart, leavesPart⟩ := allFolds_sublist inside
  obtain ⟨tree, member, located⟩ := List.mem_flatMap.mp inside
  obtain ⟨fold, below⟩ := Everywhere.folds (related.refines.stored tree member) located
  have leaves : (frontiers covering.items).Nodup := by
    rw [lossless.frontier]
    exact lossless.leaves
  exact ⟨children, .fold fold below, lossless.nodes.sublist nodesPart, leaves.sublist leavesPart⟩

/-- A stored fold has a row under its own identifier that describes its children. -/
theorem Stored.row {tables : Tables} {summaryId : SummaryId} {children : List SummaryTree}
    (stored : Stored tables (.fold summaryId children)) {summary : SummaryRecord}
    (found : tables.getSummary summaryId = some summary) :
    summary.summaryId = summaryId ∧ Describes tables summary children := by
  cases stored with
  | fold fold _ =>
      obtain ⟨row, located, named, described⟩ := fold.row
      rw [found] at located
      cases located
      exact ⟨named, described⟩

/-- In every run each stored summary has exact metadata. -/
theorem summary_metadata_exact {environment : Environment} {config : CompactionConfig}
    {conversationId : ConversationId} {run : Run}
    (reached : (compactionSystem environment config conversationId).Reachable run)
    {summaryId : SummaryId} {summary : SummaryRecord}
    (found : run.tables.getSummary summaryId = some summary) :
    summary.summaryId = summaryId ∧ ExactMetadata run.tables summary := by
  obtain ⟨children, stored, nodes, leaves⟩ := reachable_fold reached found
  exact ⟨(stored.row found).1, exact_of_stored stored (List.nodup_cons.mp nodes).2 leaves found⟩

theorem summary_metadata_exact_sample : ∃ run summary, sampleRun = some run ∧
    run.tables.getSummary (js "sum_8a214cef6d474c9a") = some summary ∧
      ExactMetadata run.tables summary := by
  obtain ⟨summary, found⟩ := Option.isSome_iff_exists.mp (show (sampleRun.bind fun run =>
    run.tables.getSummary (js "sum_8a214cef6d474c9a")).isSome by decide)
  obtain ⟨run, ran, stored⟩ := Option.bind_eq_some_iff.mp found
  exact ⟨run, summary, ran, stored, (summary_metadata_exact (sampleRun_reachable ran) stored).2⟩

end Lcm.Compaction
