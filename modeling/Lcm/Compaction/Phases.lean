import Lcm.Compaction.Refinement
import Lcm.Library.Segments

namespace Lcm.Compaction
open Text Store Folded Segments

/-- A pass covers a chunk of stored trees from a base ordinal in each of its phases. -/
inductive Phase (tables : Tables) (base : Nat) (chunk : List SummaryTree) : PassState → Prop
  | leafChosen {items : List ContextItemRecord}
      (entries : items = OrderedTable.numberedFrom base (chunk.map shown))
      (raws : ∀ tree ∈ chunk, ∃ messageId, tree = .raw messageId) :
      Phase tables base chunk (.leafChosen items)
  | leafRead {items : List ContextItemRecord} {contents : List MessageContent}
      (entries : items = OrderedTable.numberedFrom base (chunk.map shown))
      (read : LeafContents tables chunk contents) :
      Phase tables base chunk (.leafRead items contents)
  | condensedChosen {items : List ContextItemRecord} {targetDepth : Nat}
      (entries : items = OrderedTable.numberedFrom base (chunk.map shown))
      (atDepth : ∀ tree ∈ chunk, (summaryAtDepth tables targetDepth (shown tree)).isSome) :
      Phase tables base chunk (.condensedChosen items targetDepth)
  | condensedRead {items : List ContextItemRecord} {targetDepth : Nat}
      {records : List SummaryRecord}
      (entries : items = OrderedTable.numberedFrom base (chunk.map shown))
      (read : List.Forall₂ (CondensedRecord tables targetDepth) records chunk) :
      Phase tables base chunk (.condensedRead items targetDepth records)
  | ready {pending : PendingCommit} (first : pending.startOrdinal = base)
      (last : pending.endOrdinal + 1 = base + chunk.length)
      (pendingFold : PendingFold tables pending chunk) :
      Phase tables base chunk (.ready pending)

/-- A busy pass is in a phase over a nonempty chunk of stored trees. -/
structure Busy (tables : Tables) (base : Nat) (chunk : List SummaryTree) (pass : PassState) :
    Prop where
  nonempty : chunk ≠ []
  stored : ∀ tree ∈ chunk, Stored tables tree
  phase : Phase tables base chunk pass

theorem summaryAtDepth_mono {before after : Tables} {targetDepth : Nat} {item : ContextItem}
    (extended : Extends before after) (found : (summaryAtDepth before targetDepth item).isSome) :
    (summaryAtDepth after targetDepth item).isSome := by
  cases item with
  | message messageId => cases found
  | summary summaryId =>
      simp only [summaryAtDepth, Option.isSome_filter, Option.any_eq_true_iff_get] at found ⊢
      obtain ⟨known, depth⟩ := found
      obtain ⟨summary, stored⟩ := Option.isSome_iff_exists.mp known
      have later := extended.summaries _ _ stored
      refine ⟨by rw [later]; rfl, ?_⟩
      simp only [later, stored, Option.get_some] at depth ⊢
      exact depth

/-- A busy pass keeps its phase when the tables grow. -/
theorem Busy.mono {before after : Tables} {base : Nat} {chunk : List SummaryTree}
    {pass : PassState} (busy : Busy before base chunk pass) (extended : Extends before after) :
    Busy after base chunk pass where
  nonempty := busy.nonempty
  stored := fun tree inside => extended.stored (busy.stored tree inside)
  phase := by
    cases busy.phase with
    | leafChosen entries raws => exact .leafChosen entries raws
    | leafRead entries read => exact .leafRead entries (read.mono extended)
    | condensedChosen entries atDepth =>
        exact .condensedChosen entries fun tree inside =>
          summaryAtDepth_mono extended (atDepth tree inside)
    | condensedRead entries read =>
        exact .condensedRead entries (read.imp fun _ _ => CondensedRecord.mono extended)
    | ready first last pendingFold =>
        exact .ready first last (pendingFold.mono extended busy.stored)

/-- A contiguous part of the context is a segment of the forest. -/
theorem segment_of_entries {tables : Tables} {forest : List SummaryTree}
    {items first last : List ContextItemRecord} (refines : Refines tables forest)
    (parts : tables.getContextItems = first ++ items ++ last) :
    ∃ before chunk rest, forest = before ++ chunk ++ rest ∧
      items = OrderedTable.numberedFrom before.length (chunk.map shown) := by
  rw [Tables.getContextItems, refines.context, OrderedTable.numbered, List.append_assoc] at parts
  obtain ⟨shownBefore, others, split, head, tail⟩ := OrderedTable.numberedFrom_split parts
  obtain ⟨shownChunk, shownRest, split', middle, _⟩ := OrderedTable.numberedFrom_split tail.symm
  subst split'
  obtain ⟨before, remaining, forestParts, rfl, others⟩ := List.map_eq_append_iff.mp split
  obtain ⟨chunk, rest, remainingParts, rfl, _⟩ := List.map_eq_append_iff.mp others
  refine ⟨before, chunk, rest, ?_, ?_⟩
  · rw [forestParts, remainingParts, List.append_assoc]
  · rw [middle, List.length_map, Nat.zero_add]

/-- Every tree of a segment is shown by one of its entries. -/
theorem entry_of_tree {base : Nat} {chunk : List SummaryTree} {tree : SummaryTree}
    (inside : tree ∈ chunk) : ∃ ordinal,
      (ordinal, shown tree) ∈ OrderedTable.numberedFrom base (chunk.map shown) := by
  obtain ⟨index, located⟩ := List.mem_iff_getElem?.mp inside
  refine ⟨(base : Int) + index, OrderedTable.numberedFrom_mem.mpr ⟨index, rfl, ?_⟩⟩
  rw [List.getElem?_map, located]
  rfl

theorem chunk_stored {tables : Tables} {forest before chunk rest : List SummaryTree}
    (refines : Refines tables forest) (parts : forest = before ++ chunk ++ rest) :
    ∀ tree ∈ chunk, Stored tables tree := by
  intro tree inside
  apply refines.stored
  rw [parts]
  exact List.mem_append_left _ (List.mem_append_right _ inside)

theorem chooseLeaf_busy {config : CompactionConfig} {tables : Tables} {forest : List SummaryTree}
    {pass : PassState} (refines : Refines tables forest)
    (chose : chooseLeaf config tables = some pass) :
    ∃ base chunk, Located forest base chunk ∧ Busy tables base chunk pass := by
  unfold chooseLeaf at chose
  simp only at chose
  split at chose
  · cases chose
  · next nonempty =>
      cases chose
      obtain ⟨⟨first, last, split⟩, messages⟩ := selectOldestLeafChunk_segment config tables
      obtain ⟨before, chunk, rest, parts, entries⟩ := segment_of_entries refines split
      refine ⟨before.length, chunk, ⟨before, rest, parts, rfl⟩, ?_, chunk_stored refines parts,
        .leafChosen entries ?_⟩
      · intro empty
        rw [entries, empty] at nonempty
        exact nonempty rfl
      · intro tree inside
        obtain ⟨ordinal, entry⟩ := entry_of_tree inside
        rw [← entries] at entry
        obtain ⟨messageId, message⟩ := messages _ entry
        cases tree with
        | raw leaf => exact ⟨leaf, rfl⟩
        | fold node children => cases message

theorem chooseCondensed_busy {config : CompactionConfig} {tables : Tables}
    {forest : List SummaryTree} {pass : PassState} {targetDepth : Nat}
    {freshTailOrdinalOverride : Option FreshTail} {hardTrigger : Bool}
    (refines : Refines tables forest)
    (chose : chooseCondensed config tables targetDepth freshTailOrdinalOverride hardTrigger =
      some pass) : ∃ base chunk, Located forest base chunk ∧ Busy tables base chunk pass := by
  simp only [chooseCondensed, Option.bind_eq_bind, Option.bind_eq_some_iff,
    Option.some.injEq] at chose
  obtain ⟨items, eligible, rfl⟩ := chose
  obtain ⟨nonempty, ⟨first, last, split⟩, atDepth⟩ := eligibleChunkAtDepth_segment eligible
  obtain ⟨before, chunk, rest, parts, entries⟩ := segment_of_entries refines split
  refine ⟨before.length, chunk, ⟨before, rest, parts, rfl⟩, ?_, chunk_stored refines parts,
    .condensedChosen entries ?_⟩
  · intro empty
    rw [entries, empty] at nonempty
    exact nonempty rfl
  · intro tree inside
    obtain ⟨ordinal, entry⟩ := entry_of_tree inside
    rw [← entries] at entry
    exact atDepth _ entry

theorem readChunk_busy {tables : Tables} {base : Nat} {chunk : List SummaryTree}
    {pass next : PassState} (busy : Busy tables base chunk pass)
    (read : readChunk tables pass = some next) : Busy tables base chunk next where
  nonempty := busy.nonempty
  stored := busy.stored
  phase := by
    cases busy.phase with
    | leafChosen entries raws =>
        cases read
        apply Phase.leafRead entries
        rw [entries]
        exact leafContents_read base raws busy.stored
    | condensedChosen entries atDepth =>
        cases read
        apply Phase.condensedRead entries
        rw [entries]
        exact condensedRecords_read base atDepth busy.stored
    | leafRead _ _ => cases read
    | condensedRead _ _ => cases read
    | ready _ _ _ => cases read

theorem LeafContents.shown {tables : Tables} {chunk : List SummaryTree}
    {contents : List MessageContent} (leaf : LeafContents tables chunk contents) :
    chunk.map shown = (contents.map (·.messageId)).map .message := by
  rw [leaf.raws]
  simp only [List.map_map]
  rfl

/-- The ordinals of the entries of a chunk start at its base and end with its last tree. -/
theorem chunk_extremes (base : Nat) {chunk : List SummaryTree} (nonempty : chunk ≠ []) :
    ((OrderedTable.numberedFrom base (chunk.map shown)).map Prod.fst).min? = some (base : Int) ∧
      ((OrderedTable.numberedFrom base (chunk.map shown)).map Prod.fst).max? =
        some ((base : Int) + chunk.length - 1) := by
  have extremes := OrderedTable.numberedFrom_extremes base
    (fun empty => nonempty (List.map_eq_nil_iff.mp empty) : chunk.map shown ≠ [])
  rw [List.length_map] at extremes
  exact extremes

theorem summarizeChunk_busy {environment : Environment} {summarize : SummarizeFn}
    {previousSummary : Option JsString} {now : Nat} {tables : Tables} {base : Nat}
    {chunk : List SummaryTree} {pass next : PassState} (busy : Busy tables base chunk pass)
    (summarized : summarizeChunk environment summarize previousSummary now pass = some next) :
    Busy tables base chunk next where
  nonempty := busy.nonempty
  stored := busy.stored
  phase := by
    obtain ⟨least, greatest⟩ := chunk_extremes base busy.nonempty
    cases busy.phase with
    | leafRead entries read =>
        rw [← entries] at least greatest
        simp only [summarizeChunk, leafPass, least, greatest, Option.bind_eq_bind,
          Option.bind_some, Option.some.injEq] at summarized
        rw [← summarized]
        exact .ready rfl (Int.sub_add_cancel _ _)
          ⟨read.shown, read.describes busy.nonempty _ _⟩
    | condensedRead entries read =>
        rw [← entries] at least greatest
        simp only [summarizeChunk, condensedPass, least, greatest, Option.bind_eq_bind,
          Option.bind_some, Option.some.injEq] at summarized
        rw [← summarized]
        exact .ready rfl (Int.sub_add_cancel _ _)
          ⟨condensed_shown read, condensed_describes read busy.nonempty _ _⟩
    | leafChosen _ _ => cases summarized
    | condensedChosen _ _ => cases summarized
    | ready _ _ _ => cases summarized

/-- A move before the commit starts a pass on a segment, keeps its chunk, or ends it. -/
theorem advance_cases {environment : Environment} {config : CompactionConfig} {tables : Tables}
    {forest : List SummaryTree} {pass next : PassState} {action : PassAction}
    (refines : Refines tables forest)
    (advanced : advance environment config tables pass action = some next) :
    next = .idle ∨
      (pass = .idle ∧ ∃ base chunk, Located forest base chunk ∧ Busy tables base chunk next) ∨
      (pass ≠ .idle ∧ ∀ base chunk, Busy tables base chunk pass → Busy tables base chunk next) := by
  cases action with
  | chooseLeaf =>
      simp only [advance] at advanced
      split at advanced
      · next idle => exact .inr (.inl ⟨idle, chooseLeaf_busy refines advanced⟩)
      · cases advanced
  | chooseCondensed targetDepth freshTailOrdinalOverride hardTrigger =>
      simp only [advance] at advanced
      split at advanced
      · next idle => exact .inr (.inl ⟨idle, chooseCondensed_busy refines advanced⟩)
      · cases advanced
  | read =>
      refine .inr (.inr ⟨?_, fun _ _ busy => readChunk_busy busy advanced⟩)
      rintro rfl
      cases advanced
  | summarize summarize previousSummary now =>
      refine .inr (.inr ⟨?_, fun _ _ busy => summarizeChunk_busy busy advanced⟩)
      rintro rfl
      cases advanced
  | abandon =>
      cases advanced
      exact .inl rfl

end Lcm.Compaction
