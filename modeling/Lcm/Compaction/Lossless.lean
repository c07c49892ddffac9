import Lcm.Compaction.Simulation
import Mathlib.Data.List.Perm.Subperm

namespace Lcm.Compaction
open Text Store Folded

/-- A summary item expands to the items that its links name, as deep as the fuel allows. -/
def expandItem (tables : Tables) : Nat → ContextItem → Option (List MessageId)
  | _, .message messageId => some [messageId]
  | 0, .summary _ => none
  | fuel + 1, .summary summaryId => do
      let parts ← (linkedItems tables summaryId).mapM (expandItem tables fuel)
      some parts.flatten

/-- The messages of a context, with one unit of fuel for each stored summary. -/
def expandContext (tables : Tables) : Option (List MessageId) := do
  let parts ← tables.contextItems.rows.mapM (expandItem tables tables.summaries.keys.length)
  some parts.flatten

/-- A row of trees expands when each of its trees does. -/
theorem mapM_expandItem {tables : Tables} {fuel : Nat} {trees : List SummaryTree}
    (expands : ∀ tree ∈ trees, expandItem tables fuel (shown tree) = some tree.frontier) :
    (trees.map shown).mapM (expandItem tables fuel) = some (trees.map frontier) := by
  induction trees with
  | nil => rfl
  | cons tree trees ih =>
      have rest := ih fun tree inside => expands tree (List.mem_cons_of_mem _ inside)
      rw [List.map_cons, List.mapM_cons, expands tree (List.mem_cons_self ..), rest]
      rfl

/-- A stored tree expands to its frontier once the fuel covers its nodes. -/
theorem expandItem_frontier {tables : Tables} {tree : SummaryTree} (stored : Stored tables tree)
    {fuel : Nat} (enough : tree.nodes.length ≤ fuel) :
    expandItem tables fuel (shown tree) = some tree.frontier := by
  induction stored generalizing fuel with
  | raw here =>
      rw [shown, expandItem, frontier_raw]
  | @fold summaryId children here _ ih =>
      rw [nodes_fold, List.length_cons] at enough
      cases fuel with
      | zero => exact absurd enough (Nat.not_succ_le_zero _)
      | succ fuel =>
          have each : ∀ child ∈ children,
              expandItem tables fuel (shown child) = some child.frontier := by
            intro child inside
            apply ih child inside
            have part : child.nodes.Sublist (children.flatMap nodes) :=
              List.sublist_flatten_of_mem (List.mem_map_of_mem inside)
            have := part.length_le
            omega
          simp only [shown, expandItem, here.links, mapM_expandItem each, Option.bind_eq_bind,
            Option.bind_some, frontier_fold, List.flatMap]

/-- The nodes of a forest are at most the stored summaries. -/
theorem nodes_le_summaries {tables : Tables} {forest : List SummaryTree}
    (refines : Refines tables forest) (nodes : (allNodes forest).Nodup) {tree : SummaryTree}
    (inside : tree ∈ forest) : tree.nodes.length ≤ tables.summaries.keys.length := by
  have part : tree.nodes.Sublist (allNodes forest) :=
    List.sublist_flatten_of_mem (List.mem_map_of_mem inside)
  have all : (allNodes forest).length ≤ tables.summaries.keys.length :=
    (nodes.subperm fun node member => (refines.summaries node).mpr member).length_le
  exact part.length_le.trans all

/-- The context of a refined forest expands to the frontier of the forest. -/
theorem expandContext_frontiers {tables : Tables} {forest : List SummaryTree}
    (refines : Refines tables forest) (nodes : (allNodes forest).Nodup) :
    expandContext tables = some (frontiers forest) := by
  have each : ∀ tree ∈ forest,
      expandItem tables tables.summaries.keys.length (shown tree) = some tree.frontier :=
    fun tree inside => expandItem_frontier (refines.stored tree inside)
      (nodes_le_summaries refines nodes inside)
  rw [expandContext, refines.context, OrderedTable.numbered_rows, mapM_expandItem each]
  rfl

/-- In every run the context is contiguous and expands to each ingested message once, in order. -/
theorem context_lossless {environment : Environment} {config : CompactionConfig}
    {conversationId : ConversationId} {run : Run}
    (reached : (compactionSystem environment config conversationId).Reachable run) :
    run.tables.contextItems.keys =
        (List.range run.tables.contextItems.rows.length).map Int.ofNat ∧
      expandContext run.tables = some run.ingested ∧ run.ingested.Nodup := by
  obtain ⟨covering, lossless, related⟩ := reachable_related reached
  refine ⟨?_, ?_, ?_⟩
  · rw [related.refines.context, OrderedTable.numbered_keys, OrderedTable.numbered_rows]
  · rw [expandContext_frontiers related.refines lossless.nodes, lossless.frontier,
      related.ingested]
  · rw [related.ingested]
    exact lossless.leaves

/-- A runtime that knows the digests of the summaries in the sample run. -/
def sampleEnvironment : Environment where
  formatTimestamp _ := js "1970-01-01 00:00 UTC"
  scrub text := text
  sha256Hex text :=
    if text = js "A1" then js "16a36e86f6fed5d465ff332511a0ce1a863b55d364b25a7cdaa25db19abf9648"
    else if text = js "B2" then js "abdbc2b5cc2c7a519b72bf7a164c58ebf892ab0c2df6468213705cc2f0da8561"
    else js "8a214cef6d474c9ad7249b3267218f8f0b7a5ad3a0f3ff09c692251fe9b827ca"

def sampleConfig : CompactionConfig where
  freshTailCount := 1
  leafMinFanout := 2
  condensedMinFanout := 2
  condensedMinFanoutHard := 2
  leafChunkTokens := some 2
  condensedTargetTokens := 2

def sampleInput (content : String) : AppendMessageInput := ⟨.user, js content, 2⟩

/-- Two leaf passes and a condensed pass run between ingests and an event. -/
def sampleActions : List Action :=
  [.ingest [sampleInput "first", sampleInput "second", sampleInput "third"] fun _ => 0,
    .advance .chooseLeaf, .advance .read, .advance (.summarize (fun _ _ _ => js "A") none 1),
    .commit 0,
    .event 1 [sampleInput "event"] fun _ => 0,
    .advance .chooseLeaf, .advance .read, .ingest [sampleInput "fourth"] fun _ => 0,
    .advance (.summarize (fun _ _ _ => js "B") none 2), .commit 0,
    .advance (.chooseCondensed 0 none true), .advance .read,
    .advance (.summarize (fun _ _ _ => js "C") none 3), .commit 0]

def sampleRun : Option Run :=
  sampleActions.foldlM (act sampleEnvironment sampleConfig 1) ⟨.empty, .idle, []⟩

theorem sampleRun_reachable {run : Run} (ran : sampleRun = some run) :
    (compactionSystem sampleEnvironment sampleConfig 1).Reachable run :=
  StepSystem.Reachable.run (fun _ _ _ step => step) (.start rfl) ran

theorem context_lossless_sample : ∃ run, sampleRun = some run ∧
    run.tables.contextItems.keys = (List.range run.tables.contextItems.rows.length).map Int.ofNat ∧
      expandContext run.tables = some run.ingested ∧ run.ingested.Nodup := by
  obtain ⟨run, ran⟩ := Option.isSome_iff_exists.mp (show sampleRun.isSome by decide)
  exact ⟨run, ran, context_lossless (sampleRun_reachable ran)⟩

end Lcm.Compaction
