import Lcm.Compaction.Metadata

namespace Lcm.Retrieval
open Text Store Folded Compaction

structure ExpandInput where
  summaryId : SummaryId
  depth : Option Nat
  includeMessages : Option Bool
  tokenCap : Option Nat

structure ExpandedChild where
  summaryId : SummaryId
  kind : SummaryKind
  content : JsString
  tokenCount : Nat
  deriving DecidableEq

structure ExpandedMessage where
  messageId : MessageId
  role : MessageRole
  content : JsString
  tokenCount : Nat
  deriving DecidableEq

structure ExpandResult where
  children : List ExpandedChild
  messages : List ExpandedMessage
  estimatedTokens : Nat
  truncated : Bool
  deriving DecidableEq

/-- A missing token cap stands for infinity. -/
def exceeds (tokenCap : Option Nat) (tokens : Nat) : Bool :=
  tokenCap.any fun cap => cap < tokens

def ExpandResult.addChild (result : ExpandResult) (child : SummaryRecord) : ExpandResult :=
  { result with
    children := result.children ++ [⟨child.summaryId, child.kind, child.content, child.tokenCount⟩]
    estimatedTokens := result.estimatedTokens + child.tokenCount }

/-- The message loop skips missing messages and stops at the token cap. -/
def expandMessages (tables : Tables) (tokenCap : Option Nat) :
    List MessageId → ExpandResult → ExpandResult
  | [], result => result
  | messageId :: rest, result =>
      match tables.messages.getMessageById messageId with
      | none => expandMessages tables tokenCap rest result
      | some message =>
          let tokenCount :=
            if message.tokenCount = 0 then estimateTokens message.content else message.tokenCount
          if exceeds tokenCap (result.estimatedTokens + tokenCount) then
            { result with truncated := true }
          else
            expandMessages tables tokenCap rest { result with
              messages := result.messages ++
                [⟨message.messageId, message.role, message.content, tokenCount⟩]
              estimatedTokens := result.estimatedTokens + tokenCount }

/-- The child loop stops when a result is truncated and recurses into each added child. -/
def expandChildren (tokenCap : Option Nat) (recurse : SummaryId → ExpandResult → ExpandResult) :
    List SummaryRecord → ExpandResult → ExpandResult
  | [], result => result
  | child :: rest, result =>
      if result.truncated then result
      else if exceeds tokenCap (result.estimatedTokens + child.tokenCount) then
        { result with truncated := true }
      else expandChildren tokenCap recurse rest (recurse child.summaryId (result.addChild child))

/-- A condensed summary expands to the summaries that name it as a parent. -/
def expandRecursive (tables : Tables) (includeMessages : Bool) (tokenCap : Option Nat) :
    Nat → SummaryId → ExpandResult → ExpandResult
  | 0, _, result => result
  | depth + 1, summaryId, result =>
      match tables.getSummary summaryId with
      | none => result
      | some summary =>
          match summary.kind with
          | .condensed =>
              expandChildren tokenCap
                (fun childId inner =>
                  if 0 < depth then
                    expandRecursive tables includeMessages tokenCap depth childId inner
                  else inner)
                (tables.getSummaryChildren summaryId) result
          | .leaf =>
              if includeMessages then
                expandMessages tables tokenCap (tables.getSummaryMessages summaryId) result
              else result

def expand (tables : Tables) (input : ExpandInput) : ExpandResult :=
  expandRecursive tables (input.includeMessages.getD false) input.tokenCap (input.depth.getD 1)
    input.summaryId ⟨[], [], 0, false⟩

/-- An expansion with messages and without a token cap. -/
def expandFully (tables : Tables) (summaryId : SummaryId) (depth : Nat) : ExpandResult :=
  expand tables ⟨summaryId, some depth, some true, none⟩

/-- The expansion returns exactly the covered messages. -/
def ReturnsCoveredMessages (tables : Tables) (summaryId : SummaryId) (depth : Nat) : Prop :=
  ∀ messageId, messageId ∈ (expandFully tables summaryId depth).messages.map (·.messageId) ↔
    Covers tables summaryId messageId

/-- The expansion returns exactly the summaries that the summary was condensed from. -/
def ReturnsCondensedSummaries (tables : Tables) (summaryId : SummaryId) (depth : Nat) : Prop :=
  ∀ lower, lower ∈ (expandFully tables summaryId depth).children.map (·.summaryId) ↔
    Below tables summaryId lower

/-- One level of expansion lists the linked sources. -/
def ListsSources (tables : Tables) (summaryId : SummaryId) : Prop :=
  ∀ lower, lower ∈ (expandFully tables summaryId 1).children.map (·.summaryId) ↔
    lower ∈ tables.summaryParents.items summaryId

/-- Parent links lead from condensed summaries only. -/
def CondensedOwners (tables : Tables) : Prop :=
  ∀ upper lower, lower ∈ tables.summaryParents.items upper →
    ∃ summary, tables.getSummary upper = some summary ∧ summary.summaryId = upper ∧
      summary.kind = .condensed

/-- Expanded summaries lie above the given one and bring no messages. -/
structure Upward (tables : Tables) (summaryId : SummaryId) (before after : ExpandResult) : Prop where
  messages : after.messages = before.messages
  children : ∀ child ∈ after.children, child ∈ before.children ∨
    Below tables child.summaryId summaryId

theorem Upward.refl (tables : Tables) (summaryId : SummaryId) (result : ExpandResult) :
    Upward tables summaryId result result :=
  ⟨rfl, fun _ inside => .inl inside⟩

theorem Upward.trans {tables : Tables} {summaryId : SummaryId} {first second third : ExpandResult}
    (one : Upward tables summaryId first second) (other : Upward tables summaryId second third) :
    Upward tables summaryId first third where
  messages := by rw [other.messages, one.messages]
  children := by
    intro child inside
    rcases other.children child inside with early | above
    · exact one.children child early
    · exact .inr above

/-- The expansion of a summary above stays above. -/
theorem Upward.weaken {tables : Tables} {upper summaryId : SummaryId} {before after : ExpandResult}
    (upward : Upward tables upper before after) (above : Below tables upper summaryId) :
    Upward tables summaryId before after where
  messages := upward.messages
  children := fun child inside => (upward.children child inside).imp_right fun higher =>
    higher.trans above

theorem expandChildren_upward {tables : Tables} {summaryId : SummaryId} {tokenCap : Option Nat}
    {recurse : SummaryId → ExpandResult → ExpandResult} {records : List SummaryRecord}
    (above : ∀ child ∈ records, Below tables child.summaryId summaryId)
    (inner : ∀ child ∈ records, ∀ result,
      Upward tables summaryId result (recurse child.summaryId result))
    (result : ExpandResult) :
    Upward tables summaryId result (expandChildren tokenCap recurse records result) := by
  induction records generalizing result with
  | nil => exact .refl tables summaryId result
  | cons child rest ih =>
      simp only [expandChildren]
      split
      · exact .refl tables summaryId result
      · split
        · exact ⟨rfl, fun _ inside => .inl inside⟩
        · have added : Upward tables summaryId result (result.addChild child) := by
            constructor
            · rfl
            · intro entry inside
              rcases List.mem_append.mp inside with old | new
              · exact .inl old
              · rw [List.mem_singleton.mp new]
                exact .inr (above child (List.mem_cons_self ..))
          exact (added.trans (inner child (List.mem_cons_self ..) _)).trans
            (ih (fun entry member => above entry (List.mem_cons_of_mem _ member))
              (fun entry member => inner entry (List.mem_cons_of_mem _ member)) _)

/-- The expansion of a condensed summary walks up the links at every depth. -/
theorem expandRecursive_upward {tables : Tables} (owners : CondensedOwners tables)
    (includeMessages : Bool) (tokenCap : Option Nat) (depth : Nat) {summaryId : SummaryId}
    {summary : SummaryRecord} (found : tables.getSummary summaryId = some summary)
    (condensed : summary.kind = .condensed) (result : ExpandResult) :
    Upward tables summaryId result
      (expandRecursive tables includeMessages tokenCap depth summaryId result) := by
  induction depth generalizing summaryId summary result with
  | zero => exact .refl tables summaryId result
  | succ depth ih =>
      have upper : ∀ child ∈ tables.getSummaryChildren summaryId,
          Below tables child.summaryId summaryId ∧
            tables.getSummary child.summaryId = some child ∧ child.kind = .condensed := by
        intro child inside
        obtain ⟨owner, linked, stored⟩ := List.mem_filterMap.mp inside
        have parent : summaryId ∈ tables.summaryParents.items owner :=
          LinkTable.mem_items.mpr (LinkTable.mem_owners.mp linked)
        obtain ⟨row, known, named, kind⟩ := owners owner summaryId parent
        rw [stored] at known
        cases known
        rw [named]
        exact ⟨.single parent, stored, kind⟩
      simp only [expandRecursive, found, condensed]
      apply expandChildren_upward
      · exact fun child inside => (upper child inside).1
      · intro child inside inner
        obtain ⟨above, stored, kind⟩ := upper child inside
        split
        · exact (ih stored kind inner).weaken above
        · exact .refl tables summaryId inner

section Runs

variable {environment : Environment} {config : CompactionConfig} {conversationId : ConversationId}
  {run : Run} (reached : (compactionSystem environment config conversationId).Reachable run)
include reached

/-- In every run parent links lead from condensed summaries. -/
theorem reachable_condensedOwners : CondensedOwners run.tables := by
  intro upper lower linked
  obtain ⟨covering, lossless, related⟩ := reachable_related reached
  have owner : upper ∈ run.tables.summaries.keys :=
    related.refines.parentOwners _ (LinkTable.mem_items.mp linked)
  obtain ⟨summary, entry⟩ := KeyedTable.mem_keys.mp owner
  have found : run.tables.getSummary upper = some summary := KeyedTable.get?_eq_some.mpr entry
  obtain ⟨children, stored, _⟩ := reachable_fold reached found
  obtain ⟨named, described⟩ := stored.row found
  refine ⟨summary, found, named, ?_⟩
  have upperLevel : summary.depth ≠ 0 := by
    intro lowest
    have level := described.level
    rw [lowest] at level
    cases stored with
    | fold fold _ =>
        obtain ⟨below, inside⟩ := (mem_parents fold).mp linked
        cases level with
        | leaves _ leaves =>
            obtain ⟨leaf, same⟩ := leaves _ inside
            cases same
  rw [described.kind, if_neg upperLevel]

/-- In every run no summary lies below itself. -/
theorem reachable_acyclic {summaryId : SummaryId} {summary : SummaryRecord}
    (found : run.tables.getSummary summaryId = some summary) :
    ¬ Below run.tables summaryId summaryId := by
  obtain ⟨children, stored, nodes, _⟩ := reachable_fold reached found
  rw [below_iff stored rfl]
  exact (List.nodup_cons.mp nodes).1

/-- In every run a condensed summary has a source below it and covers a message. -/
theorem reachable_sources {summaryId : SummaryId} {summary : SummaryRecord}
    (found : run.tables.getSummary summaryId = some summary) (condensed : summary.kind = .condensed) :
    (∃ lower, lower ∈ run.tables.summaryParents.items summaryId) ∧
      ∃ messageId, Covers run.tables summaryId messageId := by
  obtain ⟨children, stored, nodes, leaves⟩ := reachable_fold reached found
  have named := (stored.row found).1
  have metadata := exact_of_stored stored (List.nodup_cons.mp nodes).2 leaves found
  constructor
  · obtain ⟨parent, linked⟩ := List.exists_mem_of_ne_nil _ (metadata.condensedDepth condensed).1
    obtain ⟨lower, inside, _⟩ := List.mem_filterMap.mp linked
    exact ⟨lower, named ▸ inside⟩
  · obtain ⟨time, _, ⟨messageId, covered, _⟩, _⟩ := metadata.earliestAt
    exact ⟨messageId, named ▸ covers_of_mem (Finset.mem_coe.mp covered)⟩

/-- The expansion of a condensed summary brings no messages and only summaries above it. -/
theorem reachable_expandFully {summaryId : SummaryId} {summary : SummaryRecord}
    (found : run.tables.getSummary summaryId = some summary) (condensed : summary.kind = .condensed)
    (depth : Nat) : (expandFully run.tables summaryId depth).messages = [] ∧
      ∀ lower ∈ (expandFully run.tables summaryId depth).children.map (·.summaryId),
        ¬ Below run.tables summaryId lower := by
  have upward := expandRecursive_upward (reachable_condensedOwners reached) true none depth found
    condensed ⟨[], [], 0, false⟩
  refine ⟨upward.messages, ?_⟩
  intro lower inside below
  obtain ⟨child, member, rfl⟩ := List.mem_map.mp inside
  rcases upward.children child member with early | above
  · cases early
  · exact reachable_acyclic reached found (below.trans above)

/-- At every depth the expansion of a condensed summary misses what it was condensed from. -/
theorem expansion_misses_sources {summaryId : SummaryId} {summary : SummaryRecord}
    (found : run.tables.getSummary summaryId = some summary) (condensed : summary.kind = .condensed)
    (depth : Nat) : ¬ ReturnsCoveredMessages run.tables summaryId depth ∧
      ¬ ReturnsCondensedSummaries run.tables summaryId depth ∧
        ¬ ListsSources run.tables summaryId := by
  obtain ⟨⟨lower, linked⟩, messageId, covered⟩ := reachable_sources reached found condensed
  have below : Below run.tables summaryId lower := .single linked
  refine ⟨?_, ?_, ?_⟩
  · intro returns
    have listed := (returns messageId).mpr covered
    rw [(reachable_expandFully reached found condensed depth).1] at listed
    cases listed
  · intro returns
    exact (reachable_expandFully reached found condensed depth).2 lower
      ((returns lower).mpr below) below
  · intro lists
    exact (reachable_expandFully reached found condensed 1).2 lower
      ((lists lower).mpr linked) below

end Runs

theorem expansion_misses_sources_sample : ∃ run summary, Compaction.sampleRun = some run ∧
    run.tables.getSummary (js "sum_8a214cef6d474c9a") = some summary ∧ summary.depth < 2 ∧
      ¬ ReturnsCoveredMessages run.tables (js "sum_8a214cef6d474c9a") 2 ∧
        ¬ ReturnsCondensedSummaries run.tables (js "sum_8a214cef6d474c9a") 2 ∧
          ¬ ListsSources run.tables (js "sum_8a214cef6d474c9a") := by
  obtain ⟨summary, found⟩ := Option.isSome_iff_exists.mp (show ((Compaction.sampleRun.bind fun run =>
    run.tables.getSummary (js "sum_8a214cef6d474c9a")).filter fun summary =>
      summary.depth < 2 ∧ summary.kind = .condensed).isSome by decide)
  obtain ⟨located, facts⟩ := Option.filter_eq_some_iff.mp found
  obtain ⟨run, ran, stored⟩ := Option.bind_eq_some_iff.mp located
  have bounds : summary.depth < 2 ∧ summary.kind = .condensed := by simpa using facts
  exact ⟨run, summary, ran, stored, bounds.1,
    expansion_misses_sources (sampleRun_reachable ran) stored bounds.2 2⟩

/-- The expansion of the condensed sample summary is empty although it covers the first message. -/
theorem expansion_empty_sample : ∃ run, (compactionSystem sampleEnvironment sampleConfig 1).Reachable run ∧
    (∃ summary, run.tables.getSummary (js "sum_8a214cef6d474c9a") = some summary ∧
      summary.kind = .condensed ∧ summary.depth < 2) ∧
    expandFully run.tables (js "sum_8a214cef6d474c9a") 2 = ⟨[], [], 0, false⟩ ∧
      ¬ ReturnsCoveredMessages run.tables (js "sum_8a214cef6d474c9a") 2 := by
  obtain ⟨run, ran⟩ := Option.isSome_iff_exists.mp (show Compaction.sampleRun.isSome by decide)
  have evaluated : ∀ run ∈ Compaction.sampleRun,
      (∃ summary ∈ run.tables.getSummary (js "sum_8a214cef6d474c9a"),
        summary.kind = .condensed ∧ summary.depth < 2) ∧
      expandFully run.tables (js "sum_8a214cef6d474c9a") 2 = ⟨[], [], 0, false⟩ ∧
      js "sum_16a36e86f6fed5d4" ∈ run.tables.summaryParents.items (js "sum_8a214cef6d474c9a") ∧
        1 ∈ run.tables.getSummaryMessages (js "sum_16a36e86f6fed5d4") := by decide
  obtain ⟨⟨summary, found, kind⟩, empty, linked, covered⟩ := evaluated run ran
  refine ⟨run, sampleRun_reachable ran, ⟨summary, found, kind⟩, empty, ?_⟩
  intro returns
  have listed := (returns 1).mpr ⟨_, .inr (.single linked), covered⟩
  rw [empty] at listed
  cases listed

end Lcm.Retrieval
