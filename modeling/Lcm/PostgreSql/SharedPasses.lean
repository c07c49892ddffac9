import Lcm.Compaction.Lossless
import Lcm.PostgreSql.SummaryContext

namespace Lcm.PostgreSql
open Text Store Compaction Folded Segments

/-- Daemons share the tables, and each of them runs its own pass on the conversation. -/
structure SharedRun (Daemon : Type) where
  tables : Tables
  passes : Daemon → PassState
  ingested : List MessageId
  /-- The ranges that other daemons replaced since a daemon chose its chunk. -/
  replaced : Daemon → List (Int × Int)

/-- The actions of the daemons interleave in any order. -/
inductive SharedAction (Daemon : Type) where
  | ingest (inputs : List AppendMessageInput) (clock : MessageId → Timestamp)
  | event (conversationId : ConversationId) (inputs : List AppendMessageInput)
      (clock : MessageId → Timestamp)
  | advance (daemon : Daemon) (action : PassAction)
  | commit (daemon : Daemon) (createdAt : Timestamp)

/-- Messages are appended to the table and to the context in one transaction. -/
def ingest (conversationId : ConversationId) (tables : Tables) (inputs : List AppendMessageInput)
    (clock : MessageId → Timestamp) : Option (Tables × List MessageId) := do
  let (messages, records) ← appendMessages tables.messages conversationId inputs clock
  let messageIds := records.map (·.messageId)
  let appended ← appendContextMessages { tables with messages := messages } messageIds
  some (appended, messageIds)

/-- A compaction event is a message without a context item. -/
def appendEvent (tables : Tables) (conversationId : ConversationId)
    (inputs : List AppendMessageInput) (clock : MessageId → Timestamp) : Option Tables := do
  let (messages, _) ← appendMessages tables.messages conversationId inputs clock
  some { tables with messages := messages }

variable {Daemon : Type} [DecidableEq Daemon]

/-- A commit ends its pass, and the other passes learn the replaced range. -/
def SharedRun.committed (run : SharedRun Daemon) (daemon : Daemon) (pending : PendingCommit)
    (tables : Tables) : SharedRun Daemon where
  tables := tables
  passes := Function.update run.passes daemon .idle
  ingested := run.ingested
  replaced other := (pending.startOrdinal, pending.endOrdinal) :: run.replaced other

/-- One action of a daemon; a failed commit rolls back and ends its pass. -/
def act (environment : Environment) (config : CompactionConfig) (conversationId : ConversationId)
    (run : SharedRun Daemon) : SharedAction Daemon → Option (SharedRun Daemon)
  | .ingest inputs clock => do
      let (tables, messageIds) ← ingest conversationId run.tables inputs clock
      some { run with tables := tables, ingested := run.ingested ++ messageIds }
  | .event other inputs clock => do
      some { run with tables := ← appendEvent run.tables other inputs clock }
  | .advance daemon action => do
      let pass ← advance environment config run.tables (run.passes daemon) action
      some { run with
        passes := Function.update run.passes daemon pass
        replaced := if run.passes daemon = .idle then Function.update run.replaced daemon []
          else run.replaced }
  | .commit daemon createdAt =>
      match run.passes daemon with
      | .ready pending =>
          match commitPass run.tables pending createdAt with
          | some tables => some (run.committed daemon pending tables)
          | none => some { run with passes := Function.update run.passes daemon .idle }
      | _ => none

/-- The daemons start with empty tables and idle passes. -/
def sharedSystem (Daemon : Type) [DecidableEq Daemon] (environment : Environment)
    (config : CompactionConfig) (conversationId : ConversationId) :
    StepSystem (SharedRun Daemon) (SharedAction Daemon) where
  start run := run = ⟨.empty, fun _ => .idle, [], fun _ => []⟩
  step before action after := act environment config conversationId before action = some after

/-- A commit removes exactly the items that its pass summarized and linked. -/
def RemovesExactly (before after : Tables) (pending : PendingCommit) : Prop :=
  ∃ first last, before.contextItems.rows = first ++ pending.links.items ++ last ∧
    after.contextItems.rows = first ++ .summary pending.input.summaryId :: last

/-- No replaced range starts at or before the end of a chunk, save single items before it. -/
def Clear (replaced : List (Int × Int)) (startOrdinal endOrdinal : Int) : Prop :=
  ∀ range ∈ replaced, range.1 ≤ endOrdinal → range.1 = range.2 ∧ range.2 < startOrdinal

instance (replaced : List (Int × Int)) (startOrdinal endOrdinal : Int) :
    Decidable (Clear replaced startOrdinal endOrdinal) :=
  inferInstanceAs (Decidable (∀ range ∈ replaced, _))

/-- A pass may commit when it is clear of the replaced ranges or is refused. -/
def MayCommit (tables : Tables) (replaced : List (Int × Int)) : PassState → Prop
  | .ready pending =>
      Clear replaced pending.startOrdinal pending.endOrdinal ∨ refused tables pending = true
  | _ => True

instance (tables : Tables) (replaced : List (Int × Int)) :
    DecidablePred (MayCommit tables replaced)
  | .ready _ => inferInstanceAs (Decidable (_ ∨ _))
  | .idle => inferInstanceAs (Decidable True)
  | .leafChosen _ => inferInstanceAs (Decidable True)
  | .leafRead _ _ => inferInstanceAs (Decidable True)
  | .condensedChosen _ _ => inferInstanceAs (Decidable True)
  | .condensedRead _ _ _ => inferInstanceAs (Decidable True)

/-- Only commits need a permission. -/
def Permitted (run : SharedRun Daemon) : SharedAction Daemon → Prop
  | .commit daemon _ => MayCommit run.tables (run.replaced daemon) (run.passes daemon)
  | _ => True

instance (run : SharedRun Daemon) : DecidablePred (Permitted run)
  | .commit _ _ => inferInstanceAs (Decidable (MayCommit _ _ _))
  | .ingest _ _ => inferInstanceAs (Decidable True)
  | .event _ _ _ => inferInstanceAs (Decidable True)
  | .advance _ _ => inferInstanceAs (Decidable True)

theorem Clear.cons {replaced : List (Int × Int)} {range : Int × Int} {startOrdinal endOrdinal : Int} :
    Clear (range :: replaced) startOrdinal endOrdinal ↔
      (range.1 ≤ endOrdinal → range.1 = range.2 ∧ range.2 < startOrdinal) ∧
        Clear replaced startOrdinal endOrdinal := List.forall_mem_cons

/-- A PostgreSQL ingest that goes through is an ingest of the other store. -/
theorem ingest_eq {conversationId : ConversationId} {tables after : Tables}
    {inputs : List AppendMessageInput} {clock : MessageId → Timestamp}
    {messageIds : List MessageId}
    (ingested : ingest conversationId tables inputs clock = some (after, messageIds)) :
    Compaction.ingest conversationId tables inputs clock = some (after, messageIds) := by
  simp only [ingest, appendMessages, Option.bind_eq_bind, Option.bind_eq_some_iff, Prod.exists,
    Option.guard_eq_some', exists_const, Option.some.injEq, Prod.mk.injEq] at ingested
  obtain ⟨messages, records, ⟨_, appended⟩, extended, placed, rfl, rfl⟩ := ingested
  unfold appendContextMessages at placed
  split at placed
  · next empty =>
      cases placed
      simp [Compaction.ingest, appended, empty, Tables.appendContextMessages,
        Tables.insertContextMessages]
  · simp only [Option.bind_eq_bind, Option.bind_eq_some_iff, Option.guard_eq_some', exists_const,
      Option.some.injEq] at placed
    obtain ⟨_, _, _, _, _, contextItems, inserted, rfl⟩ := placed
    simp [Compaction.ingest, appended, Tables.appendContextMessages, inserted]

theorem appendEvent_eq {conversationId : ConversationId} {tables after : Tables}
    {inputs : List AppendMessageInput} {clock : MessageId → Timestamp}
    (appended : appendEvent tables conversationId inputs clock = some after) :
    Compaction.appendEvent tables conversationId inputs clock = some after := by
  simp only [appendEvent, appendMessages, Option.bind_eq_bind, Option.bind_eq_some_iff, Prod.exists,
    Option.guard_eq_some', exists_const, Option.some.injEq] at appended
  obtain ⟨messages, records, ⟨_, added⟩, rfl⟩ := appended
  simp [Compaction.appendEvent, added]

/-- The items of a forest without repeated leaves and nodes are distinct. -/
theorem shown_nodup {forest : List SummaryTree} (leaves : (frontiers forest).Nodup)
    (nodes : (allNodes forest).Nodup) : (forest.map shown).Nodup := by
  rw [frontiers, List.nodup_flatMap] at leaves
  rw [allNodes, List.nodup_flatMap] at nodes
  apply List.pairwise_map.mpr
  apply (leaves.2.and nodes.2).imp
  intro first second apart same
  obtain ⟨messages, summaries⟩ := apart
  cases first with
  | raw leaf =>
      cases second with
      | raw other =>
          have equal : leaf = other := by simpa [shown] using same
          exact messages (by simp) (by simp [equal] : leaf ∈ (Folded.raw other).frontier)
      | fold node children => simp [shown] at same
  | fold node children =>
      cases second with
      | raw other => simp [shown] at same
      | fold other others =>
          have equal : node = other := by simpa [shown] using same
          exact summaries (by simp) (by simp [equal] : node ∈ (Folded.fold other others).nodes)

/-- The last ordinal of a chunk. -/
def lastOrdinal (base : Nat) (chunk : List SummaryTree) : Int := (base : Int) + chunk.length - 1

/-- A pass knows its chunk, which is in its place as long as the pass is clear. -/
def PassTracked (tables : Tables) (forest : List SummaryTree) (replaced : List (Int × Int))
    (pass : PassState) : Prop :=
  pass = .idle ∨ ∃ base chunk, Busy tables base chunk pass ∧
    (Clear replaced base (lastOrdinal base chunk) → Located forest base chunk) ∧
    (¬ Clear replaced base (lastOrdinal base chunk) →
      Stale (forest.map shown) base (chunk.map shown))

/-- The items of a busy pass name stored rows. -/
theorem shown_stored {tables : Tables} {chunk : List SummaryTree}
    (stored : ∀ tree ∈ chunk, Stored tables tree) {item : ContextItem}
    (inside : item ∈ chunk.map shown) :
    (∃ messageId, item = .message messageId ∧ StoredMessage tables messageId) ∨
      ∃ summaryId, item = .summary summaryId ∧ StoredSummary tables summaryId := by
  obtain ⟨tree, member, rfl⟩ := List.mem_map.mp inside
  cases tree with
  | raw messageId =>
      exact .inl ⟨messageId, rfl, (stored _ member).messages messageId (by simp)⟩
  | fold summaryId children =>
      exact .inr ⟨summaryId, rfl, (stored _ member).summaries summaryId (by simp)⟩

/-- A pass stays tracked when the tables grow and fresh messages are appended. -/
theorem PassTracked.grow {before after : Tables} {forest : List SummaryTree}
    {replaced : List (Int × Int)} {pass : PassState}
    (tracked : PassTracked before forest replaced pass) (extended : Extends before after)
    {messageIds : List MessageId} (fresh : ∀ messageId ∈ messageIds, ¬ StoredMessage before messageId) :
    PassTracked after (forest ++ messageIds.map .raw) replaced pass := by
  rcases tracked with idle | ⟨base, chunk, busy, clear, disturbed⟩
  · exact .inl idle
  · refine .inr ⟨base, chunk, busy.mono extended, ?_, ?_⟩
    · intro undisturbed
      exact (clear undisturbed).append _
    · intro moved
      rw [List.map_append]
      apply (disturbed moved).append
      intro item inside added
      obtain ⟨tree, member, same⟩ := List.mem_map.mp added
      obtain ⟨messageId, new, rfl⟩ := List.mem_map.mp member
      rcases shown_stored busy.stored inside with ⟨other, rfl, stored⟩ | ⟨other, rfl, _⟩
      · have equal : messageId = other := by simpa [shown] using same
        exact fresh messageId new (equal ▸ stored)
      · simp [shown] at same

/-- A pass stays tracked when it moves before its commit. -/
theorem PassTracked.advance {environment : Environment} {config : CompactionConfig}
    {tables : Tables} {forest : List SummaryTree} {replaced : List (Int × Int)}
    {pass next : PassState} {action : PassAction}
    (tracked : PassTracked tables forest replaced pass) (refines : Refines tables forest)
    (advanced : advance environment config tables pass action = some next) :
    PassTracked tables forest (if pass = .idle then [] else replaced) next := by
  have clear : ∀ first last, Clear [] first last := fun _ _ => List.forall_mem_nil _
  rcases advance_cases refines advanced with rfl | ⟨rfl, base, chunk, located, busy⟩ |
    ⟨working, kept⟩
  · exact .inl rfl
  · exact .inr ⟨base, chunk, busy, fun _ => located, fun moved => absurd (clear _ _) moved⟩
  · rcases tracked with idle | ⟨base, chunk, busy, tracked⟩
    · exact absurd idle working
    · rw [if_neg working]
      exact .inr ⟨base, chunk, kept base chunk busy, tracked⟩

/-- A pass stays tracked when the fold of another pass replaces a segment. -/
theorem PassTracked.fold {tables after : Tables} {before folded rest : List SummaryTree}
    {summaryId : SummaryId} {replaced : List (Int × Int)} {pass : PassState}
    {startOrdinal endOrdinal : Int}
    (tracked : PassTracked tables (before ++ folded ++ rest) replaced pass)
    (extended : Extends tables after)
    (distinct : ((before ++ folded ++ rest).map shown).Nodup) (nonempty : folded ≠ [])
    (first : startOrdinal = before.length)
    (last : endOrdinal + 1 = before.length + folded.length)
    (fresh : ¬ StoredSummary tables summaryId) :
    PassTracked after (before ++ .fold summaryId folded :: rest)
      ((startOrdinal, endOrdinal) :: replaced) pass := by
  rcases tracked with idle | ⟨base, chunk, busy, clear, disturbed⟩
  · exact .inl idle
  · have unknown : shown (.fold summaryId folded) ∉ chunk.map shown := by
      intro inside
      rcases shown_stored busy.stored inside with ⟨_, same, _⟩ | ⟨other, same, stored⟩
      · simp [shown] at same
      · have equal : summaryId = other := by simpa [shown] using same
        exact fresh (equal ▸ stored)
    have inhabited := List.length_pos_iff.mpr busy.nonempty
    have positive := List.length_pos_iff.mpr nonempty
    refine .inr ⟨base, chunk, busy.mono extended, ?_, ?_⟩
    · intro undisturbed
      obtain ⟨apart, earlier⟩ := Clear.cons.mp undisturbed
      have located := clear earlier
      by_cases starts : before.length < base + chunk.length
      · -- A replacement that starts this early replaced one item before the chunk.
        have single := apart (by simp only [lastOrdinal]; omega)
        simp only at single
        have one : folded.length = 1 := by omega
        obtain ⟨tree, rfl⟩ := List.length_eq_one_iff.mp one
        exact located.splice_single _ (by omega)
      · exact located.splice_behind _ (by omega)
    · intro moved
      rw [List.map_append, List.map_cons]
      by_cases earlier : Clear replaced base (lastOrdinal base chunk)
      · have located := (clear earlier).map shown
        rw [List.map_append, List.map_append] at located distinct
        have disturbs : ¬ (startOrdinal ≤ lastOrdinal base chunk →
            startOrdinal = endOrdinal ∧ endOrdinal < (base : Int)) :=
          fun apart => moved (Clear.cons.mpr ⟨apart, earlier⟩)
        simp only [lastOrdinal, Classical.not_imp] at disturbs
        apply located.stale distinct
        · exact fun empty => nonempty (List.map_eq_nil_iff.mp empty)
        · exact unknown
        · exact fun empty => busy.nonempty (List.map_eq_nil_iff.mp empty)
        · simp only [List.length_map]
          omega
        · simp only [List.length_map]
          omega
      · have stale := disturbed earlier
        rw [List.map_append, List.map_append] at stale
        exact stale.splice (fun empty => nonempty (List.map_eq_nil_iff.mp empty)) unknown

/-- A shared run is related to the covering that its tables store. -/
structure SharedRelated (run : SharedRun Daemon) (covering : Covering SummaryId MessageId) :
    Prop where
  refines : Refines run.tables covering.items
  passes : ∀ daemon, PassTracked run.tables covering.items (run.replaced daemon) (run.passes daemon)
  ingested : run.ingested = covering.log

/-- A commit of a located pass folds the segment that the pass summarized. -/
theorem commitPass_refines {tables after : Tables} {pending : PendingCommit} {createdAt : Timestamp}
    {forest chunk before rest : List SummaryTree} (refines : Refines tables forest)
    (leaves : (frontiers forest).Nodup) (nodes : (allNodes forest).Nodup)
    (parts : forest = before ++ chunk ++ rest)
    (first : pending.startOrdinal = before.length)
    (last : pending.endOrdinal + 1 = before.length + chunk.length)
    (pendingFold : PendingFold tables pending chunk)
    (committed : commitPass tables pending createdAt = some after) :
    pending.input.summaryId ∉ allNodes forest ∧ Extends tables after ∧
      Refines after (before ++ .fold pending.input.summaryId chunk :: rest) := by
  subst parts
  have distinct : pending.links.Distinct := by
    apply pendingFold.distinct
    · rw [frontiers_append, frontiers_append] at leaves
      exact (leaves.of_append_left).of_append_right
    · rw [allNodes_append, allNodes_append] at nodes
      exact (nodes.of_append_left).of_append_right
  obtain ⟨_, summaries, row, first', chunk', rest', split, start, stop, _, rfl⟩ :=
    commitPass_cases refines.context committed
  have linked := linkSources_linked refines distinct row
  rw [List.map_append, List.map_append, List.append_assoc, List.append_assoc] at split
  obtain ⟨rfl, others⟩ := List.append_inj split (by rw [List.length_map]; omega)
  obtain ⟨rfl, rfl⟩ := List.append_inj others (by rw [List.length_map]; omega)
  refine ⟨fun inside => linked.fresh ((refines.summaries _).mpr inside), ?_⟩
  apply linked.refines refines pendingFold rfl
  rw [List.map_append, List.map_cons]
  rfl

/-- The chunk of a ready pass lies between the ordinals of its commit. -/
theorem PassTracked.ready {tables : Tables} {forest : List SummaryTree}
    {replaced : List (Int × Int)} {pending : PendingCommit}
    (tracked : PassTracked tables forest replaced (.ready pending)) :
    ∃ (base : Nat) (chunk : List SummaryTree), chunk ≠ [] ∧ pending.startOrdinal = base ∧
      pending.endOrdinal + 1 = base + chunk.length ∧ PendingFold tables pending chunk ∧
      (Clear replaced pending.startOrdinal pending.endOrdinal → Located forest base chunk) ∧
      (¬ Clear replaced pending.startOrdinal pending.endOrdinal →
        Stale (forest.map shown) base (chunk.map shown)) := by
  rcases tracked with idle | ⟨base, chunk, busy, clear, disturbed⟩
  · cases idle
  · cases busy.phase with
    | ready first last pendingFold =>
        have stop : pending.endOrdinal = lastOrdinal base chunk := by
          unfold lastOrdinal
          omega
        rw [← first, ← stop] at clear disturbed
        exact ⟨base, chunk, busy.nonempty, first, last, pendingFold, clear, disturbed⟩

/-- The identifier of a commit that goes through is new to the context. -/
theorem fresh_item {tables : Tables} {forest : List SummaryTree} {summaryId : SummaryId}
    (refines : Refines tables forest) (fresh : summaryId ∉ tables.summaries.keys) :
    ContextItem.summary summaryId ∉ forest.map shown := by
  intro inside
  rcases shown_stored refines.stored inside with ⟨_, same, _⟩ | ⟨other, same, summary, stored⟩
  · cases same
  · cases same
    exact fresh (KeyedTable.mem_keys.mpr ⟨summary, KeyedTable.get?_eq_some.mp stored⟩)

/-- A commit that goes through removes the items of its pass exactly when the pass is clear. -/
theorem removesExactly_iff {tables after : Tables} {forest : List SummaryTree}
    {replaced : List (Int × Int)} {pending : PendingCommit} {createdAt : Timestamp}
    (refines : Refines tables forest)
    (tracked : PassTracked tables forest replaced (.ready pending))
    (committed : commitPass tables pending createdAt = some after) :
    RemovesExactly tables after pending ↔
      Clear replaced pending.startOrdinal pending.endOrdinal := by
  obtain ⟨base, chunk, _, start, stop, pendingFold, clear, disturbed⟩ := tracked.ready
  obtain ⟨_, summaries, row, before, removed, rest, split, first, last, _, rfl⟩ :=
    commitPass_cases refines.context committed
  have context : tables.contextItems.rows = forest.map shown := by
    rw [refines.context, OrderedTable.numbered_rows]
  unfold RemovesExactly
  rw [context, OrderedTable.numbered_rows, ← pendingFold.links]
  constructor
  · intro exact
    obtain ⟨front, back, whole, replacedBy⟩ := exact
    have unused := fresh_item refines (KeyedTable.insert?_eq_some.mp row).1
    rw [split, List.mem_append, List.mem_append, not_or, not_or] at unused
    obtain ⟨rfl, _, rfl⟩ := (List.append_cons_inj_of_notMem unused.1.1 unused.2).mp replacedBy
    by_contra moved
    exact (disturbed moved).not_located ⟨before, rest, whole, by omega⟩
  · intro undisturbed
    obtain ⟨front, back, parts, length⟩ := (clear undisturbed).map shown
    refine ⟨before, rest, ?_, rfl⟩
    have lengths := congrArg List.length (split.symm.trans parts)
    simp only [List.length_append, List.length_map] at lengths
    rw [split, List.append_assoc, List.append_assoc] at parts
    obtain ⟨rfl, others⟩ := List.append_inj parts (by omega)
    obtain ⟨rfl, _⟩ := List.append_inj others (by rw [List.length_map]; omega)
    exact split

/-- Every permitted action of the daemons is at most one move of the covering. -/
theorem act_shared_related {environment : Environment} {config : CompactionConfig}
    {conversationId : ConversationId} {run next : SharedRun Daemon} {action : SharedAction Daemon}
    {covering : Covering SummaryId MessageId} (lossless : Lossless covering)
    (related : SharedRelated run covering) (permitted : Permitted run action)
    (step : act environment config conversationId run action = some next) :
    ∃ covering', SharedRelated next covering' ∧ (covering' = covering ∨
      ∃ move, (coveringSystem SummaryId MessageId).step covering move covering') := by
  cases action with
  | ingest inputs clock =>
      simp only [act, Option.bind_eq_bind, Option.bind_eq_some_iff, Prod.exists,
        Option.some.injEq] at step
      obtain ⟨tables, messageIds, ingested, rfl⟩ := step
      obtain ⟨growth, refines, distinct, fresh⟩ :=
        ingest_refines related.refines (ingest_eq ingested)
      exact ⟨⟨covering.items ++ messageIds.map .raw, covering.log ++ messageIds⟩,
        ⟨refines, fun daemon => (related.passes daemon).grow growth fresh,
          by rw [related.ingested]⟩, .inr
        ⟨.append messageIds, log_append lossless related.refines distinct fresh, rfl⟩⟩
  | event other inputs clock =>
      simp only [act, Option.bind_eq_bind, Option.bind_eq_some_iff, Option.some.injEq] at step
      obtain ⟨tables, appended, rfl⟩ := step
      obtain ⟨growth, refines⟩ := appendEvent_refines related.refines (appendEvent_eq appended)
      refine ⟨covering, ⟨refines, fun daemon => ?_, related.ingested⟩, .inl rfl⟩
      have grown := (related.passes daemon).grow growth (List.forall_mem_nil _)
      rw [List.map_nil, List.append_nil] at grown
      exact grown
  | advance daemon action =>
      simp only [act, Option.bind_eq_bind, Option.bind_eq_some_iff, Option.some.injEq] at step
      obtain ⟨pass, advanced, rfl⟩ := step
      refine ⟨covering, ⟨related.refines, fun other => ?_, related.ingested⟩, .inl rfl⟩
      by_cases same : other = daemon
      · subst same
        have moved := (related.passes other).advance related.refines advanced
        simp only [Function.update_self]
        split at moved <;> simp_all
      · have kept := related.passes other
        simp only [Function.update_of_ne same]
        split
        · rw [Function.update_of_ne same]
          exact kept
        · exact kept
  | commit daemon createdAt =>
      simp only [act] at step
      split at step
      · next pending ready =>
          split at step
          · next tables committed =>
              cases step
              have tracked := related.passes daemon
              rw [ready] at tracked
              have accepted := (commitPass_cases related.refines.context committed).1
              rw [Permitted, ready, MayCommit] at permitted
              have undisturbed := permitted.resolve_right (by simp [accepted])
              obtain ⟨base, chunk, nonempty, start, stop, pendingFold, clear, _⟩ := tracked.ready
              obtain ⟨before, rest, parts, length⟩ := clear undisturbed
              rw [← length] at start stop
              have leaves : (frontiers covering.items).Nodup := by
                rw [lossless.frontier]
                exact lossless.leaves
              obtain ⟨fresh, growth, refines⟩ := commitPass_refines related.refines leaves
                lossless.nodes parts start stop pendingFold committed
              have unknown : ¬ StoredSummary run.tables pending.input.summaryId := by
                intro stored
                obtain ⟨summary, found⟩ := stored
                exact fresh ((related.refines.summaries _).mp
                  (KeyedTable.mem_keys.mpr ⟨summary, KeyedTable.get?_eq_some.mp found⟩))
              have items := shown_nodup leaves lossless.nodes
              refine ⟨⟨before ++ .fold pending.input.summaryId chunk :: rest, covering.log⟩,
                ⟨refines, fun other => ?_, related.ingested⟩,
                .inr ⟨.fold pending.input.summaryId before chunk rest, fresh, parts, rfl⟩⟩
              by_cases same : other = daemon
              · subst same
                exact .inl (Function.update_self ..)
              · have kept := related.passes other
                rw [parts] at kept items
                simp only [SharedRun.committed, Function.update_of_ne same]
                exact kept.fold growth items nonempty start stop unknown
          · cases step
            refine ⟨covering, ⟨related.refines, fun other => ?_, related.ingested⟩, .inl rfl⟩
            by_cases same : other = daemon
            · subst same
              exact .inl (Function.update_self ..)
            · simp only [Function.update_of_ne same]
              exact related.passes other
      · cases step

/-- The permitted runs of the daemons simulate folds of a growing forest. -/
theorem shared_simulation (environment : Environment) (config : CompactionConfig)
    (conversationId : ConversationId) :
    StepSystem.Simulation ((sharedSystem Daemon environment config conversationId).restrict Permitted)
      (coveringSystem SummaryId MessageId) SharedRelated where
  start := by
    intro run start
    rw [show run = ⟨.empty, fun _ => .idle, [], fun _ => []⟩ from start]
    exact ⟨⟨[], []⟩, rfl, refines_empty, fun _ => .inl rfl, rfl⟩
  step := by
    intro run action next covering _ reached related step
    exact act_shared_related (coveringSystem_lossless reached) related step.1 step.2

/-- While only permitted commits run, the context stays lossless, every permitted commit that goes
through removes exactly its items, and every other commit that goes through does not. -/
theorem shared_commit_exact {environment : Environment} {config : CompactionConfig}
    {conversationId : ConversationId} {run : SharedRun Daemon}
    (reached : ((sharedSystem Daemon environment config conversationId).restrict
      Permitted).Reachable run) :
    expandContext run.tables = some run.ingested ∧
      ∀ daemon pending createdAt after, run.passes daemon = .ready pending →
        commitPass run.tables pending createdAt = some after →
          (RemovesExactly run.tables after pending ↔ Permitted run (.commit daemon createdAt)) := by
  obtain ⟨covering, coveringReached, related⟩ :=
    (shared_simulation environment config conversationId).reachable reached
  have lossless := coveringSystem_lossless coveringReached
  constructor
  · rw [expandContext_frontiers related.refines lossless.nodes, lossless.frontier,
      related.ingested]
  · intro daemon pending createdAt after ready committed
    have tracked := related.passes daemon
    rw [ready] at tracked
    rw [removesExactly_iff related.refines tracked committed]
    have accepted := (commitPass_cases related.refines.context committed).1
    simp [Permitted, MayCommit, ready, accepted]

/-- Chunks of two messages. -/
def sharedConfig : CompactionConfig := { sampleConfig with leafChunkTokens := some 4 }

/-- Two daemons choose and summarize the same two messages, and one of them commits. -/
def sharedActions : List (SharedAction Bool) :=
  [.ingest [sampleInput "first", sampleInput "second", sampleInput "third", sampleInput "fourth"]
      fun _ => 0,
    .advance false .chooseLeaf, .advance true .chooseLeaf, .advance false .read,
    .advance true .read, .advance false (.summarize (fun _ _ _ => js "A") none 1),
    .advance true (.summarize (fun _ _ _ => js "B") none 2), .commit false 0]

def sharedSampleRun : Option (SharedRun Bool) :=
  sharedActions.foldlM
    (fun run action => if Permitted run action then act sampleEnvironment sharedConfig 1 run action
      else none) ⟨.empty, fun _ => .idle, [], fun _ => []⟩

theorem sharedSampleRun_reachable {run : SharedRun Bool} (ran : sharedSampleRun = some run) :
    ((sharedSystem Bool sampleEnvironment sharedConfig 1).restrict Permitted).Reachable run :=
  StepSystem.Reachable.run_restrict (fun _ _ _ step => step) (.start rfl) ran

/-- The commit of the other daemon after the sample run. -/
def lateCommit (run : SharedRun Bool) : Option (PendingCommit × Tables) :=
  match run.passes true with
  | .ready pending => (commitPass run.tables pending 0).map fun after => (pending, after)
  | _ => none

theorem lateCommit_spec {run : SharedRun Bool} {pending : PendingCommit} {after : Tables}
    (late : lateCommit run = some (pending, after)) :
    run.passes true = .ready pending ∧ commitPass run.tables pending 0 = some after := by
  unfold lateCommit at late
  split at late
  · next ready =>
      simp only [Option.map_eq_some_iff, Prod.mk.injEq] at late
      obtain ⟨tables, committed, rfl, rfl⟩ := late
      exact ⟨ready, committed⟩
  · cases late

/-- Both daemons summarize the first two messages, and the second commit drops the third one. -/
theorem shared_commit_stale : ∃ run,
    (sharedSystem Bool sampleEnvironment sharedConfig 1).Reachable run ∧
      ∃ pending after, run.passes true = .ready pending ∧
        commitPass run.tables pending 0 = some after ∧
        ¬ RemovesExactly run.tables after pending ∧
        expandContext run.tables = some [1, 2, 3, 4] ∧ expandContext after = some [1, 2, 4] := by
  have facts : sharedSampleRun.any (fun run => (lateCommit run).any fun commit =>
      decide (ContextItem.message 1 ∈ commit.1.links.items) &&
      decide (ContextItem.message 1 ∉ run.tables.contextItems.rows) &&
      decide (expandContext run.tables = some [1, 2, 3, 4]) &&
      decide (expandContext commit.2 = some [1, 2, 4])) = true := by
    decide
  simp only [Option.any_eq_true_iff_get, Bool.and_eq_true, decide_eq_true_eq] at facts
  obtain ⟨ran, late, ⟨⟨linked, gone⟩, before⟩, after⟩ := facts
  have reached := sharedSampleRun_reachable (Option.some_get ran).symm
  obtain ⟨ready, committed⟩ := lateCommit_spec (Option.some_get late).symm
  refine ⟨_, reached.of_restrict, _, _, ready, committed, ?_, before, after⟩
  intro exact
  obtain ⟨first, last, rows, _⟩ := exact
  rw [rows] at gone
  exact gone (List.mem_append_left _ (List.mem_append_right _ linked))

theorem shared_commit_exact_sample : ∃ run, sharedSampleRun = some run ∧
    expandContext run.tables = some run.ingested ∧
      ∀ daemon pending createdAt after, run.passes daemon = .ready pending →
        commitPass run.tables pending createdAt = some after →
          (RemovesExactly run.tables after pending ↔ Permitted run (.commit daemon createdAt)) := by
  obtain ⟨run, ran⟩ := Option.isSome_iff_exists.mp (show sharedSampleRun.isSome by decide)
  exact ⟨run, ran, shared_commit_exact (sharedSampleRun_reachable ran)⟩

end Lcm.PostgreSql
