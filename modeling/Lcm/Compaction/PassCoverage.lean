import Lcm.Compaction.Coverage
import Mathlib.Algebra.BigOperators.Group.List.Basic

namespace Lcm.Compaction
open Text Store Folded

/-- The read messages are the leaves of the chunk with their tokens and times. -/
structure LeafContents (tables : Tables) (chunk : List SummaryTree)
    (contents : List MessageContent) : Prop where
  raws : chunk = (contents.map (·.messageId)).map .raw
  tokens : ∀ message ∈ contents, message.tokenCount = getMessageTokenCount tables message.messageId
  times : ∀ message ∈ contents, message.createdAt = messageTime tables message.messageId
  stored : ∀ message ∈ contents, StoredMessage tables message.messageId

/-- A read summary is the root of a stored fold at the target depth. -/
def CondensedRecord (tables : Tables) (targetDepth : Nat) (summary : SummaryRecord)
    (tree : SummaryTree) : Prop :=
  ∃ children, tree = .fold summary.summaryId children ∧ summary.depth = targetDepth ∧
    tables.getSummary summary.summaryId = some summary ∧ Describes tables summary children ∧
      ∀ child ∈ children, Stored tables child

theorem readMessage_stored {tables : Tables} {messageId : MessageId} (ordinal : Int)
    (stored : StoredMessage tables messageId) :
    ∃ message : MessageContent, readMessage tables (ordinal, .message messageId) = some message ∧
      message.messageId = messageId ∧
      message.tokenCount = getMessageTokenCount tables messageId ∧
      message.createdAt = messageTime tables messageId := by
  obtain ⟨record, found⟩ := stored
  refine ⟨_, by simp only [readMessage, found, Option.map_some]; rfl,
    MessageTable.getMessageById_id found, ?_, ?_⟩
  · simp only [getMessageTokenCount, found]
  · simp only [messageTime, found]

/-- A read of raw chunk items gives their contents. -/
theorem leafContents_read {tables : Tables} {chunk : List SummaryTree} (base : Nat)
    (raws : ∀ tree ∈ chunk, ∃ messageId, tree = .raw messageId)
    (stored : ∀ tree ∈ chunk, Stored tables tree) :
    LeafContents tables chunk
      ((OrderedTable.numberedFrom base (chunk.map shown)).filterMap (readMessage tables)) := by
  induction chunk generalizing base with
  | nil =>
      constructor
      · rfl
      · exact List.forall_mem_nil _
      · exact List.forall_mem_nil _
      · exact List.forall_mem_nil _
  | cons tree chunk ih =>
      obtain ⟨messageId, same⟩ := raws tree (List.mem_cons_self ..)
      subst same
      have here : StoredMessage tables messageId :=
        (stored _ (List.mem_cons_self ..)).messages messageId (by simp)
      obtain ⟨message, read, named, tokens, time⟩ := readMessage_stored base here
      have rest := ih (base + 1) (fun tree inside => raws tree (List.mem_cons_of_mem _ inside))
        (fun tree inside => stored tree (List.mem_cons_of_mem _ inside))
      simp only [List.map_cons, shown, OrderedTable.numberedFrom, List.filterMap_cons, read]
      constructor
      · rw [List.map_cons, List.map_cons, named, ← rest.raws]
      · exact List.forall_mem_cons.mpr ⟨by rw [named, tokens], rest.tokens⟩
      · exact List.forall_mem_cons.mpr ⟨by rw [named, time], rest.times⟩
      · exact List.forall_mem_cons.mpr ⟨named ▸ here, rest.stored⟩

/-- A read of chunk items at one depth gives the rows of their folds. -/
theorem condensedRecords_read {tables : Tables} {chunk : List SummaryTree} {targetDepth : Nat}
    (base : Nat) (atDepth : ∀ tree ∈ chunk, (summaryAtDepth tables targetDepth (shown tree)).isSome)
    (stored : ∀ tree ∈ chunk, Stored tables tree) :
    List.Forall₂ (CondensedRecord tables targetDepth)
      ((OrderedTable.numberedFrom base (chunk.map shown)).filterMap (readSummary tables)) chunk := by
  induction chunk generalizing base with
  | nil => exact .nil
  | cons tree chunk ih =>
      have depth := atDepth tree (List.mem_cons_self ..)
      have here := stored tree (List.mem_cons_self ..)
      have rest := ih (base + 1) (fun tree inside => atDepth tree (List.mem_cons_of_mem _ inside))
        (fun tree inside => stored tree (List.mem_cons_of_mem _ inside))
      cases here with
      | raw _ => simp [shown, summaryAtDepth] at depth
      | @fold summaryId children fold below =>
          obtain ⟨summary, found, named, described⟩ := fold.row
          simp only [shown, summaryAtDepth, found, Option.isSome_filter, Option.any_some,
            decide_eq_true_eq] at depth
          simp only [List.map_cons, shown, OrderedTable.numberedFrom, List.filterMap_cons,
            readSummary, found]
          exact .cons ⟨children, by rw [named], depth, by rw [named, found], described, below⟩ rest

theorem LeafContents.mono {before after : Tables} {chunk : List SummaryTree}
    {contents : List MessageContent} (leaf : LeafContents before chunk contents)
    (extended : Extends before after) : LeafContents after chunk contents where
  raws := leaf.raws
  tokens := by
    intro message inside
    rw [extended.messageTokens (leaf.stored message inside)]
    exact leaf.tokens message inside
  times := by
    intro message inside
    rw [extended.time (leaf.stored message inside)]
    exact leaf.times message inside
  stored := fun message inside => extended.storedMessage (leaf.stored message inside)

theorem CondensedRecord.mono {before after : Tables} {targetDepth : Nat} {summary : SummaryRecord}
    {tree : SummaryTree} (extended : Extends before after)
    (record : CondensedRecord before targetDepth summary tree) :
    CondensedRecord after targetDepth summary tree := by
  obtain ⟨children, same, depth, found, described, below⟩ := record
  refine ⟨children, same, depth, extended.summaries _ _ found, ?_,
    fun child inside => extended.stored (below child inside)⟩
  apply extended.describes _ _ described
  · intro messageId inside
    obtain ⟨child, member, covered⟩ := List.mem_flatMap.mp inside
    exact (below child member).messages messageId covered
  · intro node inside
    obtain ⟨child, member, covered⟩ := List.mem_flatMap.mp inside
    exact (below child member).summaries node covered

/-- The minimum of a nonempty list is the least of its values. -/
theorem min?_isLeast {times : List Timestamp} (nonempty : times ≠ []) :
    ∃ time, times.min? = some time ∧ IsLeast {value | value ∈ times} time := by
  cases found : times.min? with
  | none => exact absurd (List.min?_eq_none_iff.mp found) nonempty
  | some time =>
      have least := List.min?_eq_some_iff.mp found
      exact ⟨time, rfl, least.1, fun value inside => least.2 value inside⟩

/-- The maximum of a nonempty list is the greatest of its values. -/
theorem max?_isGreatest {times : List Timestamp} (nonempty : times ≠ []) :
    ∃ time, times.max? = some time ∧ IsGreatest {value | value ∈ times} time := by
  cases found : times.max? with
  | none => exact absurd (List.max?_eq_none_iff.mp found) nonempty
  | some time =>
      have greatest := List.max?_eq_some_iff.mp found
      exact ⟨time, rfl, greatest.1, fun value inside => greatest.2 value inside⟩

theorem LeafContents.coveredTimes {tables : Tables} {chunk : List SummaryTree}
    {contents : List MessageContent} (leaf : LeafContents tables chunk contents) :
    coveredTimes tables chunk = {time | time ∈ contents.map (·.createdAt)} := by
  ext time
  simp only [Compaction.coveredTimes, leaf.raws, frontiers_raws, List.mem_map, Set.mem_ofPred_eq]
  constructor
  · intro covered
    obtain ⟨messageId, ⟨message, inside, named⟩, same⟩ := covered
    exact ⟨message, inside, by rw [leaf.times message inside, named, same]⟩
  · intro covered
    obtain ⟨message, inside, same⟩ := covered
    exact ⟨message.messageId, ⟨message, inside, rfl⟩, by rw [← leaf.times message inside, same]⟩

/-- The row of a leaf pass describes the messages that it read. -/
theorem LeafContents.describes {tables : Tables} {chunk : List SummaryTree}
    {contents : List MessageContent} (leaf : LeafContents tables chunk contents)
    (nonempty : chunk ≠ []) (summaryId : SummaryId) (content : JsString) (createdAt : Timestamp) :
    Describes tables (Tables.summaryRow (leafInput contents summaryId content) createdAt) chunk where
  level := by
    apply Level.leaves nonempty
    intro tree inside
    rw [leaf.raws] at inside
    obtain ⟨messageId, _, same⟩ := List.mem_map.mp inside
    exact ⟨messageId, same.symm⟩
  kind := rfl
  descendantCount := by
    rw [leaf.raws, allNodes_raws]
    rfl
  descendantTokenCount := by
    rw [leaf.raws, allNodes_raws]
    rfl
  sourceMessageTokenCount := by
    rw [leaf.raws, frontiers_raws, List.map_map]
    exact congrArg List.sum (List.map_congr_left leaf.tokens)
  earliestAt := by
    rw [leaf.coveredTimes]
    apply min?_isLeast
    intro empty
    rw [List.map_eq_nil_iff] at empty
    exact nonempty (by rw [leaf.raws, empty]; rfl)
  latestAt := by
    rw [leaf.coveredTimes]
    apply max?_isGreatest
    intro empty
    rw [List.map_eq_nil_iff] at empty
    exact nonempty (by rw [leaf.raws, empty]; rfl)

section Condensed

variable {tables : Tables} {targetDepth : Nat} {records : List SummaryRecord}
  {chunk : List SummaryTree}

theorem condensed_descendantCount
    (read : List.Forall₂ (CondensedRecord tables targetDepth) records chunk) :
    (records.map fun summary => summary.descendantCount + 1).sum = (allNodes chunk).length := by
  induction read with
  | nil => rfl
  | cons record _ ih =>
      obtain ⟨children, same, _, _, described, _⟩ := record
      simp only [List.map_cons, List.sum_cons, ih, same, allNodes, List.flatMap_cons, nodes_fold,
        List.length_append, List.length_cons, described.descendantCount]

theorem condensed_descendantTokenCount
    (read : List.Forall₂ (CondensedRecord tables targetDepth) records chunk) :
    (records.map fun summary => summary.tokenCount + summary.descendantTokenCount).sum =
      ((allNodes chunk).map (summaryTokens tables)).sum := by
  induction read with
  | nil => rfl
  | @cons summary tree records chunk record _ ih =>
      obtain ⟨children, same, _, found, described, _⟩ := record
      have own : summaryTokens tables summary.summaryId = summary.tokenCount := by
        rw [summaryTokens, found]
      simp only [allNodes] at ih
      simp only [List.map_cons, List.sum_cons, ih, same, allNodes, List.flatMap_cons, nodes_fold,
        List.map_append, List.sum_append, own, described.descendantTokenCount]

theorem condensed_sourceMessageTokenCount
    (read : List.Forall₂ (CondensedRecord tables targetDepth) records chunk) :
    (records.map (·.sourceMessageTokenCount)).sum =
      ((frontiers chunk).map (getMessageTokenCount tables)).sum := by
  induction read with
  | nil => rfl
  | cons record _ ih =>
      obtain ⟨children, same, _, _, described, _⟩ := record
      simp only [frontiers] at ih
      simp only [List.map_cons, List.sum_cons, ih, same, frontiers, List.flatMap_cons,
        frontier_fold, List.map_append, List.sum_append, described.sourceMessageTokenCount]

theorem coveredTimes_cons (tree : SummaryTree) (chunk : List SummaryTree) :
    coveredTimes tables (tree :: chunk) = coveredTimes tables [tree] ∪ coveredTimes tables chunk := by
  ext time
  simp only [coveredTimes, frontiers, List.flatMap_cons, List.flatMap_nil, List.append_nil,
    List.mem_append, Set.mem_ofPred_eq, Set.mem_union]
  constructor
  · intro covered
    obtain ⟨messageId, inside | inside, same⟩ := covered
    · exact .inl ⟨messageId, inside, same⟩
    · exact .inr ⟨messageId, inside, same⟩
  · intro covered
    obtain ⟨messageId, inside, same⟩ | ⟨messageId, inside, same⟩ := covered
    · exact ⟨messageId, .inl inside, same⟩
    · exact ⟨messageId, .inr inside, same⟩

/-- The time range of a read row is the range of its own fold. -/
theorem CondensedRecord.range {summary : SummaryRecord} {tree : SummaryTree}
    (record : CondensedRecord tables targetDepth summary tree) :
    IsLeast (coveredTimes tables [tree]) (earliestOf summary) ∧
      IsGreatest (coveredTimes tables [tree]) (latestOf summary) := by
  obtain ⟨children, same, _, _, described, _⟩ := record
  have times : coveredTimes tables [tree] = coveredTimes tables children := by
    simp only [coveredTimes, frontiers, same, List.flatMap_cons, List.flatMap_nil, frontier_fold,
      List.append_nil]
  obtain ⟨earliest, earliestSome, least⟩ := described.earliestAt
  obtain ⟨latest, latestSome, greatest⟩ := described.latestAt
  rw [times, earliestOf, latestOf, earliestSome, latestSome]
  exact ⟨least, greatest⟩

theorem condensed_earliest
    (read : List.Forall₂ (CondensedRecord tables targetDepth) records chunk) {time : Timestamp}
    (least : IsLeast {value | value ∈ records.map earliestOf} time) :
    IsLeast (coveredTimes tables chunk) time := by
  constructor
  · obtain ⟨summary, inside, same⟩ := List.mem_map.mp least.1
    clear least
    induction read with
    | nil => cases inside
    | cons record _ ih =>
        rw [coveredTimes_cons]
        rcases List.mem_cons.mp inside with rfl | later
        · exact .inl (same ▸ record.range.1.1)
        · exact .inr (ih later)
  · have bound : ∀ value ∈ records.map earliestOf, time ≤ value := fun value inside => least.2 inside
    clear least
    induction read with
    | nil =>
        intro value covered
        obtain ⟨_, inside, _⟩ := covered
        cases inside
    | cons record _ ih =>
        rw [coveredTimes_cons]
        rw [List.map_cons, List.forall_mem_cons] at bound
        intro value covered
        rcases covered with here | later
        · exact le_trans bound.1 (record.range.1.2 here)
        · exact ih bound.2 later

theorem condensed_latest
    (read : List.Forall₂ (CondensedRecord tables targetDepth) records chunk) {time : Timestamp}
    (greatest : IsGreatest {value | value ∈ records.map latestOf} time) :
    IsGreatest (coveredTimes tables chunk) time := by
  constructor
  · obtain ⟨summary, inside, same⟩ := List.mem_map.mp greatest.1
    clear greatest
    induction read with
    | nil => cases inside
    | cons record _ ih =>
        rw [coveredTimes_cons]
        rcases List.mem_cons.mp inside with rfl | later
        · exact .inl (same ▸ record.range.2.1)
        · exact .inr (ih later)
  · have bound : ∀ value ∈ records.map latestOf, value ≤ time :=
      fun value inside => greatest.2 inside
    clear greatest
    induction read with
    | nil =>
        intro value covered
        obtain ⟨_, inside, _⟩ := covered
        cases inside
    | cons record _ ih =>
        rw [coveredTimes_cons]
        rw [List.map_cons, List.forall_mem_cons] at bound
        intro value covered
        rcases covered with here | later
        · exact le_trans (record.range.2.2 here) bound.1
        · exact ih bound.2 later

theorem condensed_levels
    (read : List.Forall₂ (CondensedRecord tables targetDepth) records chunk) :
    ∀ tree ∈ chunk, Level targetDepth tree := by
  induction read with
  | nil => exact List.forall_mem_nil _
  | cons record _ ih =>
      obtain ⟨children, same, depth, _, described, _⟩ := record
      have level := described.level
      rw [depth, ← same] at level
      exact List.forall_mem_cons.mpr ⟨level, ih⟩

/-- The row of a condensed pass describes the folds that it read. -/
theorem condensed_describes
    (read : List.Forall₂ (CondensedRecord tables targetDepth) records chunk)
    (nonempty : chunk ≠ []) (summaryId : SummaryId) (content : JsString) (createdAt : Timestamp) :
    Describes tables
      (Tables.summaryRow (condensedInput records targetDepth summaryId content) createdAt) chunk where
  level := by
    exact Level.folds nonempty (condensed_levels read)
  kind := rfl
  descendantCount := condensed_descendantCount read
  descendantTokenCount := condensed_descendantTokenCount read
  sourceMessageTokenCount := condensed_sourceMessageTokenCount read
  earliestAt := by
    have some : records.map earliestOf ≠ [] := by
      intro empty
      rw [List.map_eq_nil_iff] at empty
      subst empty
      cases read
      exact nonempty rfl
    obtain ⟨time, found, least⟩ := min?_isLeast some
    exact ⟨time, found, condensed_earliest read least⟩
  latestAt := by
    have some : records.map latestOf ≠ [] := by
      intro empty
      rw [List.map_eq_nil_iff] at empty
      subst empty
      cases read
      exact nonempty rfl
    obtain ⟨time, found, greatest⟩ := max?_isGreatest some
    exact ⟨time, found, condensed_latest read greatest⟩

theorem condensed_shown
    (read : List.Forall₂ (CondensedRecord tables targetDepth) records chunk) :
    chunk.map shown = (records.map (·.summaryId)).map .summary := by
  induction read with
  | nil => rfl
  | cons record _ ih =>
      obtain ⟨children, same, _⟩ := record
      simp only [List.map_cons, same, shown, ih]

end Condensed

end Lcm.Compaction
