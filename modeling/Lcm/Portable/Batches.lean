import Lcm.Portable.Scans

namespace Lcm.Portable
open Text Migration

section Lists

variable {records : List PortableRecord} {record : PortableRecord}

@[simp] theorem framedBytes_nil : framedBytes [] = 0 := rfl

@[simp] theorem framedBytes_concat :
    framedBytes (records ++ [record]) = framedBytes records + record.bytes.length := by
  simp [framedBytes]

theorem framedBytes_append {first second : List PortableRecord} :
    framedBytes (first ++ second) = framedBytes first + framedBytes second := by
  simp [framedBytes]

end Lists

section Selection

variable {Number : Type} (platform : PortablePlatform Number) (start : Hash) (maxRecords maxBytes : Nat)

/-- The digest of a prefix with more records. -/
def appendRecords (records : List PortableRecord) : Hash :=
  records.foldl (fun digest record => appendLengthPrefixed platform digest record.bytes) start

/-- What of a page is selected: its first records within the limits, and one at least unless the first
one alone is too large. -/
structure Selects (done : List PortableRecord) (scan : BatchScan) : Prop where
  count_le : scan.selectedCount ≤ done.length
  opened : scan.selectionOpen = true →
    scan.selectedCount = done.length ∧ scan.callerLimitOrdinal = none
  closed : scan.selectionOpen = false → done ≠ []
  bytes : scan.selectedBytes = framedBytes (done.take scan.selectedCount)
  digest : scan.prefixSha256 = appendRecords platform start (done.take scan.selectedCount)
  few : scan.selectedCount ≤ maxRecords
  small : scan.selectedBytes ≤ maxBytes
  moves : scan.callerLimitOrdinal = none → done ≠ [] → 0 < scan.selectedCount
  limit : scan.callerLimitOrdinal ≠ none → ∃ first ∈ done.head?, maxBytes < first.bytes.length

variable {platform start maxRecords maxBytes} {done : List PortableRecord} {scan : BatchScan}
  {record : PortableRecord}

theorem Selects.skip (selects : Selects platform start maxRecords maxBytes done scan)
    (moved : scan.callerLimitOrdinal = none → 0 < scan.selectedCount) :
    Selects platform start maxRecords maxBytes (done ++ [record]) { scan with selectionOpen := false } := by
  have same : (done ++ [record]).take scan.selectedCount = done.take scan.selectedCount :=
    List.take_append_of_le_length selects.count_le
  constructor
  · have length := selects.count_le
    simp only [List.length_append, List.length_singleton]
    omega
  · simp
  · simp
  · rw [same]
    exact selects.bytes
  · rw [same]
    exact selects.digest
  · exact selects.few
  · exact selects.small
  · exact fun none _ => moved none
  · intro limited
    obtain ⟨first, found, large⟩ := selects.limit limited
    refine ⟨first, ?_, large⟩
    rw [List.head?_append, Option.mem_def.mp found]
    rfl

theorem Selects.select (selects : Selects platform start maxRecords maxBytes done scan)
    (positive : 0 < maxRecords) :
    Selects platform start maxRecords maxBytes (done ++ [record])
      (scan.select platform maxRecords maxBytes record) := by
  have length : (done ++ [record]).length = done.length + 1 := by simp
  rw [BatchScan.select]
  by_cases opened : scan.selectionOpen = true
  · obtain ⟨counted, unlimited⟩ := selects.opened opened
    rw [opened]
    have whole : done.take scan.selectedCount = done := by rw [counted, List.take_length]
    by_cases large : scan.selectedCount = 0 ∧ maxBytes < record.bytes.length
    · have first : done = [] := List.eq_nil_of_length_eq_zero (counted ▸ large.1)
      subst first
      simp only [Bool.not_true, Bool.false_eq_true, if_false, if_pos large]
      have bytes := selects.bytes
      have digest := selects.digest
      rw [whole] at bytes digest
      constructor <;> simp [large.1, bytes, digest, large.2]
    · by_cases fits : scan.selectedCount < maxRecords ∧
          scan.selectedBytes + record.bytes.length ≤ maxBytes
      · simp only [Bool.not_true, Bool.false_eq_true, if_false, if_neg large, if_pos fits]
        have all : (done ++ [record]).take (scan.selectedCount + 1) = done ++ [record] := by
          rw [counted, ← length, List.take_length]
        have bytes := selects.bytes
        have digest := selects.digest
        rw [whole] at bytes digest
        constructor
        · simp [counted]
        · simp [counted, unlimited]
        · simp
        · rw [all, framedBytes_concat, bytes]
        · rw [all, appendRecords, List.foldl_concat, ← appendRecords, ← digest]
        · exact fits.1
        · exact fits.2
        · simp
        · exact fun limited => absurd unlimited limited
      · simp only [Bool.not_true, Bool.false_eq_true, if_false, if_neg large, if_neg fits]
        apply selects.skip
        intro _
        by_contra none
        have zero : scan.selectedCount = 0 := by omega
        have bytes := selects.bytes
        rw [zero, List.take_zero, framedBytes_nil] at bytes
        exact fits ⟨by omega, by omega⟩
  · have closed : scan.selectionOpen = false := by simpa using opened
    have same : { scan with selectionOpen := false } = scan := by rw [← closed]
    have skipped : Selects platform start maxRecords maxBytes (done ++ [record])
        { scan with selectionOpen := false } :=
      selects.skip fun unlimited => selects.moves unlimited (selects.closed closed)
    rw [same] at skipped
    simp only [closed, Bool.not_false, if_true]
    exact skipped

end Selection

section Pages

variable {Number : Type} {platform : PortablePlatform Number} {domain : PortableDomain}
  {sequence page : List PortableRecord} {first maxRecords maxBytes : Nat} {start : Hash}

theorem failWhen_of_not {condition : Prop} [Decidable condition] {error : PortableStreamError}
    (fails : ¬ condition) : failWhen condition error = .ok () := if_neg fails

theorem failWhen_of {condition : Prop} [Decidable condition] {error : PortableStreamError}
    (holds : condition) : failWhen condition error = .error error := if_pos holds

/-- A page of a scanned sequence so far. -/
structure ScansPage (platform : PortablePlatform Number) (start : Hash) (maxRecords maxBytes : Nat)
    (before done : List PortableRecord) (scan : BatchScan) : Prop where
  selects : Selects platform start maxRecords maxBytes done scan
  framed : scan.framedBytes = framedBytes done
  previous : scan.previous = (before ++ done).getLast?
  identities : ∀ identity ∈ scan.identities, ∃ record ∈ before ++ done, record.identitySha256 = identity

theorem scanRecord_ok {scan next : BatchScan} {record : PortableRecord} {before done : List PortableRecord}
    (scans : ScansPage platform start maxRecords maxBytes before done scan) (positive : 0 < maxRecords)
    (ok : scanRecord platform domain maxRecords maxBytes scan record = .ok next) :
    ScansPage platform start maxRecords maxBytes before (done ++ [record]) next := by
  rw [scanRecord] at ok
  simp only [Except.bind_eq_ok, Except.pure_eq_ok] at ok
  obtain ⟨_, _, _, _, _, _, _, _, _, _, rfl⟩ := ok
  have selects : Selects platform start maxRecords maxBytes (done ++ [record])
      (scan.select platform maxRecords maxBytes record) := scans.selects.select positive
  constructor
  · exact ⟨selects.count_le, selects.opened, selects.closed, selects.bytes, selects.digest, selects.few,
      selects.small, selects.moves, selects.limit⟩
  · rw [framedBytes_concat, scans.framed]
  · rw [← List.append_assoc, List.getLast?_concat]
  · intro identity inside
    rcases List.mem_cons.mp inside with rfl | old
    · exact ⟨record, by simp, rfl⟩
    · obtain ⟨found, place, same⟩ := scans.identities identity old
      refine ⟨found, ?_, same⟩
      rw [← List.append_assoc]
      exact List.mem_append_left _ place

/-- A record of a scanned sequence is refused only when its identity is there before. -/
theorem scanRecord_error {scan : BatchScan} {record : PortableRecord} {before done : List PortableRecord}
    {error : PortableStreamError} (scans : ScansPage platform start maxRecords maxBytes before done scan)
    (inside : record.domain = domain) (contract : validateDependencyContract record domain = .ok ())
    (small : framedBytes (done ++ [record]) ≤ maxBatchBytes)
    (next : ∀ previous ∈ (before ++ done).getLast?, Follows platform previous record)
    (failed : scanRecord platform domain maxRecords maxBytes scan record = .error error) :
    error.code = .duplicateIdentity ∧ ∃ earlier ∈ before ++ done,
      earlier.identitySha256 = record.identitySha256 := by
  rw [framedBytes_concat] at small
  have ordered : checkOrder platform domain scan.previous record = .ok () := by
    rw [scans.previous]
    cases last : (before ++ done).getLast? with
    | none => rfl
    | some previous =>
        rw [checkOrder, (next previous last).2]
        rfl
  simp only [scanRecord, Except.bind_eq_error, failWhen_eq_error, contract, ordered] at failed
  rcases failed with ⟨⟨⟩⟩ | ⟨_, _, ⟨other, _⟩ | ⟨_, _, ⟨large, _⟩ | ⟨_, _, ⟨duplicate, rfl⟩ | rest⟩⟩⟩
  · exact absurd inside other
  · rw [scans.framed] at large
    omega
  · exact ⟨rfl, scans.identities _ duplicate⟩
  · rcases rest with ⟨_, _, ⟨⟨⟩⟩ | ⟨_, _, ⟨⟩⟩⟩

theorem page_prefix {count : Nat} {done rest : List PortableRecord}
    (page : (sequence.drop first).take count = done ++ rest) :
    sequence.take first ++ done = sequence.take (first + done.length) := by
  have start : done <+: sequence.drop first :=
    (page ▸ List.prefix_append done rest : done <+: _).trans (List.take_prefix ..)
  rw [List.take_add, ← List.prefix_iff_eq_take.mp start]

/-- A page of a scanned sequence is scanned to its end unless an identity is there twice. -/
theorem scanPage (scanned : Scanned platform domain sequence) {count : Nat}
    (small : framedBytes ((sequence.drop first).take count) ≤ maxBatchBytes) (positive : 0 < maxRecords)
    {begin : BatchScan} (begins : ScansPage platform start maxRecords maxBytes (sequence.take first) [] begin) :
    let scan := ((sequence.drop first).take count).foldlM (scanRecord platform domain maxRecords maxBytes) begin
    (∀ last, scan = .ok last →
      Selects platform start maxRecords maxBytes ((sequence.drop first).take count) last) ∧
    ∀ error, scan = .error error →
      error.code = .duplicateIdentity ∧ ¬ (sequence.map (·.identitySha256)).Nodup := by
  intro scan
  have run := @Except.foldlM_kept _ _ _ (scanRecord platform domain maxRecords maxBytes)
    ((sequence.drop first).take count) begin
    (ScansPage platform start maxRecords maxBytes (sequence.take first)) begins
    (fun done record rest before after split scans step => scanRecord_ok scans positive step)
  refine ⟨fun last ran => (run.1 last ran).selects, ?_⟩
  intro error failed
  obtain ⟨done, record, rest, before, split, scans, refused⟩ := run.2 error failed
  have found := page_item split
  have member : record ∈ sequence := List.mem_of_getElem? found
  have whole := page_prefix split
  have next : ∀ previous ∈ (sequence.take first ++ done).getLast?, Follows platform previous record := by
    intro previous last
    have inside : first + done.length < sequence.length := (List.getElem?_eq_some_iff.mp found).1
    rw [whole, take_getLast? inside.le] at last
    split at last
    · next later =>
        apply scanned.follows (first + done.length - 1) previous record last
        rw [Nat.sub_add_cancel later]
        exact found
    · cases last
  have fits : framedBytes (done ++ [record]) ≤ maxBatchBytes := by
    have split' : (sequence.drop first).take count = (done ++ [record]) ++ rest := by simp [split]
    rw [split', framedBytes_append] at small
    omega
  obtain ⟨code, earlier, place, same⟩ := scanRecord_error scans (scanned.domain_eq record member)
    (scanned.contract record member) fits next refused
  refine ⟨code, fun nodup => ?_⟩
  rw [whole] at place
  obtain ⟨inside, here⟩ := List.getElem?_eq_some_iff.mp found
  rw [← List.take_append_drop (first + done.length) sequence, List.map_append,
    List.drop_eq_getElem_cons inside, here] at nodup
  apply List.disjoint_of_nodup_append nodup (List.mem_map_of_mem place)
  rw [same]
  exact List.mem_cons_self ..

end Pages

namespace PortableRecordStream

variable {Number : Type} {platform : PortablePlatform Number} (stream : PortableRecordStream platform)

/-- A checkpoint is at its ordinal of the sequence of its domain. -/
structure At (checkpoint : PortableCheckpoint) : Prop where
  manifest : checkpoint.manifestSha256 = stream.manifest.manifestSha256
  counted : checkpoint.recordCount = checkpoint.nextOrdinal
  inside : checkpoint.nextOrdinal ≤ (stream.source.records checkpoint.domain).length
  complete : checkpoint.complete = true ↔
    checkpoint.nextOrdinal = (stream.source.records checkpoint.domain).length
  prefix_eq : checkpoint.prefixSha256 = prefixSha256 platform checkpoint.domain
    ((stream.source.records checkpoint.domain).take checkpoint.nextOrdinal)
  identity : checkpoint.lastRecordIdentitySha256 =
    ((stream.source.records checkpoint.domain).take checkpoint.nextOrdinal).getLast?.map (·.identitySha256)
  record : checkpoint.lastRecordSha256 =
    ((stream.source.records checkpoint.domain).take checkpoint.nextOrdinal).getLast?.map (·.recordSha256)
  first : checkpoint.nextOrdinal = 0 → checkpoint.previousCheckpointSha256 = none
  digest : checkpoint.checkpointSha256 = canonicalSha256 platform (checkpoint.body platform)

variable {stream} {checkpoint : PortableCheckpoint} {domain : PortableDomain}

theorem At.hasEnds (reached : stream.At checkpoint) : checkpoint.hasEnds = true := by
  rw [PortableCheckpoint.hasEnds, reached.identity, reached.record, take_getLast? reached.inside]
  by_cases zero : checkpoint.nextOrdinal = 0
  · simp [zero, reached.first zero]
  · have inside := reached.inside
    have last : (stream.source.records checkpoint.domain)[checkpoint.nextOrdinal - 1]?.isSome := by
      rw [List.getElem?_eq_getElem (by omega)]
      rfl
    simp [zero, Nat.pos_of_ne_zero zero, last]

/-- A checkpoint at its ordinal is one that the manifest admits. -/
theorem At.verified (reached : stream.At checkpoint) :
    verifyPortableCheckpoint platform checkpoint stream.manifest = .ok () := by
  have described := stream.described checkpoint.domain
  have safe := stream.length_safe checkpoint.domain
  have inside := reached.inside
  have complete := reached.complete
  simp only [verifyPortableCheckpoint, validateCheckpoint, Except.bind_eq_ok, failWhen_eq_ok]
  refine ⟨(), ⟨(), ?_, (), ?_, ?_⟩, (), ?_, (), ?_, ?_⟩
  · have counted := reached.counted
    omega
  · simp [reached.hasEnds]
  · simpa using reached.digest
  · simpa using reached.manifest
  · rw [described.recordCount, described.prefix_eq, reached.prefix_eq]
    rintro (large | ⟨done, other⟩ | ⟨open', small⟩)
    · exact absurd inside (Nat.not_le.mpr large)
    · rw [complete.mp done, List.take_length] at other
      simp at other
    · have ends : checkpoint.nextOrdinal = (stream.source.records checkpoint.domain).length := by omega
      rw [complete.mpr ends] at open'
      cases open'
  · rintro ⟨zero, other⟩
    rw [reached.prefix_eq, zero] at other
    exact other rfl

/-- A source verifies a checkpoint at its ordinal. -/
theorem At.verify (reached : stream.At checkpoint) : stream.verify checkpoint = .ok {
    manifestSha256 := checkpoint.manifestSha256
    domain := checkpoint.domain
    checkpointSha256 := checkpoint.checkpointSha256
    nextOrdinal := checkpoint.nextOrdinal
    recordCount := checkpoint.recordCount
    prefixSha256 := checkpoint.prefixSha256
    complete := checkpoint.complete
    matchesManifestBoundary := checkpoint.complete } := by
  have unchanged : stream.source.verifySource platform (boundaryOf checkpoint) = .unchanged := by
    have inside : ¬ (stream.source.records (boundaryOf checkpoint).domain).length <
        (boundaryOf checkpoint).nextOrdinal := Nat.not_lt.mpr reached.inside
    simp only [FaithfulSource.verifySource]
    rw [if_neg inside, if_neg]
    rintro (other | other | other)
    · exact other reached.prefix_eq.symm
    · exact other reached.record.symm
    · exact other reached.identity.symm
  rw [PortableRecordStream.verify, reached.verified, unchanged, reached.manifest]
  rfl

variable (stream domain) in
/-- Where a batch starts: at the beginning, or after a checkpoint of the domain. -/
structure Starts (after : Option PortableCheckpoint) (ordinal : Nat) : Prop where
  ordinal_eq : ordinal = after.elim 0 (·.nextOrdinal)
  reached : ∀ prior ∈ after, stream.At prior ∧ prior.domain = domain

variable {after : Option PortableCheckpoint} {ordinal : Nat}

theorem Starts.inside (starts : stream.Starts domain after ordinal) :
    ordinal ≤ (stream.source.records domain).length := by
  rw [starts.ordinal_eq]
  cases after with
  | none => exact Nat.zero_le _
  | some prior =>
      obtain ⟨reached, rfl⟩ := starts.reached prior rfl
      exact reached.inside

theorem Starts.verified (starts : stream.Starts domain after ordinal) :
    verifyPrior platform stream.manifest domain after = .ok () := by
  cases after with
  | none => rfl
  | some prior =>
      obtain ⟨reached, rfl⟩ := starts.reached prior rfl
      rw [verifyPrior, reached.verified]
      exact failWhen_of_not (not_not.mpr rfl)

theorem Starts.prefix_eq (starts : stream.Starts domain after ordinal) :
    after.elim (initialDomainPrefix platform domain) (·.prefixSha256) =
      prefixSha256 platform domain ((stream.source.records domain).take ordinal) := by
  rw [starts.ordinal_eq]
  cases after with
  | none => rfl
  | some prior =>
      obtain ⟨reached, rfl⟩ := starts.reached prior rfl
      exact reached.prefix_eq

/-- The page that is read after a checkpoint is the one of its source. -/
theorem Starts.readPage (starts : stream.Starts domain after ordinal) :
    stream.readPage domain after = {
      predecessor := ((stream.source.records domain).take ordinal).getLast?
      records := ((stream.source.records domain).drop ordinal).take (stream.source.pageLength domain ordinal)
      complete := (stream.source.records domain).length ≤ ordinal + stream.source.pageLength domain ordinal } := by
  have inside := starts.inside
  rw [PortableRecordStream.readPage]
  split
  · next evidence covered =>
      rw [stream.source_eq] at covered
      have none := stream.source.empty domain evidence covered
      simp [none]
  · rw [FaithfulSource.readDomainPage, take_getLast? inside, ← starts.ordinal_eq]
    congr 1
    cases after with
    | none =>
        have zero : ordinal = 0 := starts.ordinal_eq
        simp [zero]
    | some prior => simp

theorem Starts.scansPage (starts : stream.Starts domain after ordinal) {maxRecords maxBytes : Nat} :
    ScansPage platform (prefixSha256 platform domain ((stream.source.records domain).take ordinal)) maxRecords
      maxBytes ((stream.source.records domain).take ordinal) []
      ⟨0, (((stream.source.records domain).take ordinal).getLast?.map (·.identitySha256)).toList,
        ((stream.source.records domain).take ordinal).getLast?, true, 0, 0, none,
        after.elim (initialDomainPrefix platform domain) (·.prefixSha256)⟩ := by
  constructor
  · constructor <;> simp [appendRecords, starts.prefix_eq]
  · rfl
  · simp
  · intro identity inside
    obtain ⟨last, found, same⟩ := Option.map_eq_some_iff.mp (Option.mem_toList.mp inside)
    refine ⟨last, ?_, same⟩
    rw [List.append_nil]
    exact List.mem_of_getLast? found

variable (stream domain after ordinal) in
/-- A batch takes the sequence on from its ordinal within its limits. -/
structure Continues (maxRecords maxBytes : Nat) (batch : PortableBatch) : Prop where
  records : batch.records = ((stream.source.records domain).drop ordinal).take batch.records.length
  few : batch.records.length ≤ maxRecords
  framed : batch.framedBytes = framedBytes batch.records
  small : batch.framedBytes ≤ maxBytes
  reached : stream.At batch.checkpoint
  next : batch.checkpoint.nextOrdinal = ordinal + batch.records.length
  manifest : batch.manifestSha256 = stream.manifest.manifestSha256
  domain_eq : batch.domain = domain
  checkpoint_domain : batch.checkpoint.domain = domain
  prior : batch.priorCheckpointSha256 = after.map (·.checkpointSha256)
  previous : batch.checkpoint.previousCheckpointSha256 = after.map (·.checkpointSha256)
  complete : batch.complete = batch.checkpoint.complete
  moves : batch.records = [] → batch.complete = true

variable {maxRecords maxBytes : Nat} {batch : PortableBatch}

/-- The last record before a batch or in it. -/
theorem getLast?_selected {records : List PortableRecord} {first count : Nat} :
    (((records.drop first).take count).getLast?).or (records.take first).getLast? =
      (records.take (first + count)).getLast? := by
  rw [← take_append_page, List.getLast?_append]

theorem appendRecords_prefixSha256 {first second : List PortableRecord} :
    appendRecords platform (prefixSha256 platform domain first) second =
      prefixSha256 platform domain (first ++ second) :=
  List.foldl_append.symm

/-- The checkpoint of a batch is at the ordinal that the batch comes to. -/
theorem batchCheckpoint_at {next : Nat} {complete : Bool} {last : Option PortableRecord} {digest : Hash}
    (inside : next ≤ (stream.source.records domain).length)
    (ends : complete = true ↔ next = (stream.source.records domain).length)
    (found : last = ((stream.source.records domain).take next).getLast?)
    (reached : digest = prefixSha256 platform domain ((stream.source.records domain).take next))
    (first : next = 0 → after = none) :
    stream.At (batchCheckpoint platform stream.manifest domain after last next digest complete) := by
  constructor
  · rfl
  · rfl
  · exact inside
  · exact ends
  · exact reached
  · rw [found]
    rfl
  · rw [found]
    rfl
  · intro zero
    rw [first zero]
    rfl
  · rfl

/-- The batch that is read after a checkpoint goes on from there. -/
theorem readBatch_ok (starts : stream.Starts domain after ordinal)
    (ok : stream.readBatch domain after maxRecords maxBytes = .ok batch) :
    stream.Continues domain after ordinal maxRecords maxBytes batch := by
  rw [readBatch, starts.readPage] at ok
  simp only [Except.bind_eq_ok, createPortableBatch, Except.pure_eq_ok, failWhen_eq_ok,
    validateBatchRequest] at ok
  obtain ⟨_, request, _, _, _, _, _, _, _, _, _, follows, _, whole, scan, ran, _, _, _, _, _, unlimited,
    _, _, _, _, rfl⟩ := ok
  have positive : 0 < maxRecords := by omega
  have selects := (scanPage (stream.described domain).scanned (stream.source.small domain ordinal) positive
    starts.scansPage).1 scan ran
  have inside := starts.inside
  have counted := selects.count_le
  rw [List.length_take, List.length_drop] at counted
  have selected : (((stream.source.records domain).drop ordinal).take
      (stream.source.pageLength domain ordinal)).take scan.selectedCount =
        ((stream.source.records domain).drop ordinal).take scan.selectedCount := by
    rw [List.take_take, Nat.min_eq_left (by omega)]
  have length : (((stream.source.records domain).drop ordinal).take scan.selectedCount).length =
      scan.selectedCount := by
    rw [List.length_take, List.length_drop]
    omega
  have start : after.elim 0 (·.nextOrdinal) = ordinal := starts.ordinal_eq.symm
  simp only [selected, length, List.length_take, List.length_drop, start]
  constructor
  · simp [length]
  · rw [length]
    exact selects.few
  · rw [← selected]
    exact selects.bytes
  · exact selects.small
  · apply batchCheckpoint_at
    · omega
    · simp only [Bool.and_eq_true, decide_eq_true_eq, beq_iff_eq]
      omega
    · exact getLast?_selected
    · rw [selects.digest, selected, appendRecords_prefixSha256, take_append_page]
    · intro zero
      cases after with
      | none => rfl
      | some prior =>
          have none : ordinal = 0 := by omega
          simp [none, isPredecessor] at follows
  · simp [batchCheckpoint, makeCheckpoint, length]
  · rfl
  · rfl
  · rfl
  · rfl
  · rfl
  · rfl
  · intro empty
    have none : scan.selectedCount = 0 := by
      rw [← length]
      exact congrArg List.length empty
    have page : ((stream.source.records domain).drop ordinal).take
        (stream.source.pageLength domain ordinal) = [] := by
      by_contra some
      have moved := selects.moves (by simpa using unlimited) some
      omega
    have size := congrArg List.length page
    rw [List.length_take, List.length_drop, List.length_nil] at size
    have complete : (stream.source.records domain).length ≤
        ordinal + stream.source.pageLength domain ordinal := by
      simpa [page] using whole
    simp only [Bool.and_eq_true, decide_eq_true_eq, beq_iff_eq]
    omega

theorem misplaced_page {first count : Nat} {records : List PortableRecord}
    (scanned : Scanned platform domain records) : misplaced first ((records.drop first).take count) = none := by
  rw [misplaced, Option.map_eq_none_iff, List.find?_eq_none]
  intro entry inside
  obtain ⟨record, index⟩ := entry
  obtain ⟨lower, found⟩ := List.mem_zipIdx_iff_le_and_getElem?_sub.mp inside
  rw [List.getElem?_take] at found
  split at found
  · rw [List.getElem?_drop, Nat.add_sub_cancel' lower] at found
    simp [scanned.placed index record found]
  · cases found

theorem Starts.follows (starts : stream.Starts domain after ordinal) (later : after.isSome → 0 < ordinal) :
    isPredecessor domain after ((stream.source.records domain).take ordinal).getLast? = true := by
  have inside := starts.inside
  cases after with
  | none =>
      have zero : ordinal = 0 := starts.ordinal_eq
      simp [zero, isPredecessor]
  | some prior =>
      obtain ⟨reached, rfl⟩ := starts.reached prior rfl
      have same : ordinal = prior.nextOrdinal := starts.ordinal_eq
      have identity := reached.identity
      have digest := reached.record
      have positive := later rfl
      have before : ordinal - 1 < (stream.source.records prior.domain).length := by omega
      have place := List.getElem?_eq_getElem before
      have found : ((stream.source.records prior.domain).take ordinal).getLast? =
          some (stream.source.records prior.domain)[ordinal - 1] := by
        rw [take_getLast? inside, if_pos positive, place]
      rw [← same, found] at identity digest
      have scanned := (stream.described prior.domain).scanned
      rw [found]
      simp only [isPredecessor, identity, digest, decide_eq_true_eq]
      refine ⟨scanned.domain_eq _ (List.getElem_mem _), ?_, rfl, rfl⟩
      rw [scanned.placed _ _ place, ← same]
      exact Nat.sub_add_cancel positive

/-- A batch fails only when its next record alone is too large, when the source has an identity twice, or
when nothing can be before it. -/
theorem readBatch_error (starts : stream.Starts domain after ordinal) {error : PortableStreamError}
    (request : validateBatchRequest domain maxRecords maxBytes = .ok ())
    (failed : stream.readBatch domain after maxRecords maxBytes = .error error) :
    (error.code = .batchLimitExceeded ∧
      ∃ record, (stream.source.records domain)[ordinal]? = some record ∧ maxBytes < record.bytes.length) ∨
    (error.code = .duplicateIdentity ∧
      ¬ ((stream.source.records domain).map (·.identitySha256)).Nodup) ∨
    (after.isSome ∧ ordinal = 0) := by
  have described := stream.described domain
  have inside := starts.inside
  have positive : 0 < maxRecords := by
    rw [validateBatchRequest, failWhen_eq_ok] at request
    omega
  have few := stream.source.few domain ordinal
  have scans : ScansPage platform _ maxRecords maxBytes _ [] _ := starts.scansPage
  have page := scanPage described.scanned (stream.source.small domain ordinal) positive scans
  have start : after.elim 0 (·.nextOrdinal) = ordinal := starts.ordinal_eq.symm
  simp only [readBatch, starts.readPage, request, starts.verified, createPortableBatch, Except.bind_eq_error,
    failWhen_eq_error, start, misplaced_page described.scanned, reduceCtorEq, false_or, true_and, exists_const] at failed
  have size : (((stream.source.records domain).drop ordinal).take
      (stream.source.pageLength domain ordinal)).length =
        min (stream.source.pageLength domain ordinal) ((stream.source.records domain).length - ordinal) := by
    rw [List.length_take, List.length_drop]
  rcases failed with ⟨many, _⟩ | ⟨_, _, ⟨other, _⟩ | ⟨_, _, ⟨empty, _⟩ | ⟨_, _, refused | ⟨scan, ran, rest⟩⟩⟩⟩
  · omega
  · right
    right
    by_contra later
    rw [not_and] at later
    exact other (starts.follows fun some => Nat.pos_of_ne_zero (later some))
  · have none := congrArg List.length empty.1
    have complete := of_decide_eq_false empty.2
    have advances := stream.source.advances domain ordinal
    rw [size, List.length_nil] at none
    omega
  · exact .inr (.inl (page.2 error refused))
  · have selects := page.1 scan ran
    have counted := selects.count_le
    rw [size] at counted
    rcases rest with ⟨misplaced, _⟩ | ⟨_, _, ⟨long, _⟩ | ⟨_, _, ⟨limited, rfl⟩ | ⟨_, _, rest⟩⟩⟩
    · cases misplaced
    · rw [described.recordCount] at long
      omega
    · left
      obtain ⟨first, found, large⟩ := selects.limit (Option.isSome_iff_ne_none.mp limited)
      obtain ⟨others, page⟩ := List.head?_eq_some_iff.mp (Option.mem_def.mp found)
      have done : (stream.source.records domain)[ordinal + ([] : List PortableRecord).length]? = some first :=
        page_item (page.trans (List.nil_append _).symm)
      exact ⟨rfl, first, done, large⟩
    · rw [described.recordCount, described.prefix_eq] at rest
      rcases rest with ⟨⟨open', short⟩, _⟩ | ⟨_, _, ⟨⟨complete, other⟩, _⟩ | ⟨_, _, ⟨⟩⟩⟩
      · have open' := of_decide_eq_false open'
        rw [List.length_take] at short
        omega
      · simp only [Bool.and_eq_true, decide_eq_true_eq, beq_iff_eq] at complete
        rw [complete.2, size] at other
        rcases other with other | other
        · omega
        · exfalso
          apply other
          have whole : scan.selectedCount = (((stream.source.records domain).drop ordinal).take
              (stream.source.pageLength domain ordinal)).length := by
            have ends := complete.2
            rw [List.length_take] at ends
            omega
          rw [selects.digest, whole, List.take_length, appendRecords_prefixSha256, take_append_page,
            List.take_of_length_le complete.1]

variable (stream domain) in
/-- What is read of a domain when each batch starts after the checkpoint of the one before. -/
inductive Reads : List PortableRecord → Option PortableCheckpoint → Prop where
  | start : Reads [] none
  | next {records : List PortableRecord} {after : Option PortableCheckpoint} {batch : PortableBatch}
      (maxRecords maxBytes : Nat) (reads : Reads records after)
      (read : stream.readBatch domain after maxRecords maxBytes = .ok batch) :
      Reads (records ++ batch.records) (some batch.checkpoint)

variable {records : List PortableRecord}

/-- What a batch adds to the records before it is the next part of the sequence. -/
theorem Continues.prefix (continues : stream.Continues domain after ordinal maxRecords maxBytes batch)
    (start : records = (stream.source.records domain).take ordinal) :
    records ++ batch.records = (stream.source.records domain).take (ordinal + batch.records.length) := by
  rw [continues.records, start, take_append_page, ← continues.records]

/-- The records read are the first ones of the sequence, and the checkpoint is after them. -/
theorem Reads.starts (reads : stream.Reads domain records after) :
    stream.Starts domain after records.length ∧
      records = (stream.source.records domain).take records.length := by
  induction reads with
  | start => exact ⟨⟨rfl, fun _ outside => (Option.not_mem_none _ outside).elim⟩, rfl⟩
  | next maxRecords maxBytes _ read ih =>
      have continues := readBatch_ok ih.1 read
      have whole := continues.prefix ih.2
      refine ⟨⟨?_, fun prior given => ?_⟩, ?_⟩
      · exact List.length_append.trans continues.next.symm
      · cases given
        exact ⟨continues.reached, continues.checkpoint_domain⟩
      · rw [List.length_append]
        exact whole

end PortableRecordStream

section Sample

/-- A platform whose digests are all the same. -/
def samplePlatform : PortablePlatform Nat where
  numbers := naturalNumbers
  sha256Bytes _ := ⟨List.replicate 64 97, by decide⟩
  utf8 text := text.map fun unit => UInt8.ofNat unit.toNat
  portableRecordSchemaSha256 := ⟨List.replicate 64 98, by decide⟩

def sampleHash : Hash := ⟨List.replicate 64 99, by decide⟩

def sampleRecord : PortableRecord :=
  ⟨.project, 0, [.text (js "project")], sampleHash, [], sampleHash, [1, 2, 3]⟩

/-- The records of a source that has a project only. -/
def sampleRecords : PortableDomain → List PortableRecord
  | .project => [sampleRecord]
  | _ => []

def sampleSource : FaithfulSource where
  description := ⟨js "2026-08-12T12:00:00.000000Z", sampleHash, sampleHash, fun _ => .available sampleHash⟩
  records := sampleRecords
  empty _ _ covered := nomatch covered
  pageLength _ _ := 1
  few _ _ := by decide
  small domain after := by
    cases domain <;> rcases after with _ | after <;> simp [sampleRecords, sampleRecord, framedBytes, maxBatchBytes]
  advances _ _ _ := Nat.one_pos

theorem sampleSource_built : (buildManifest samplePlatform 1 sampleSource).toOption.isSome = true := by
  decide

def sampleStream : PortableRecordStream samplePlatform where
  source := sampleSource
  manifest := (buildManifest samplePlatform 1 sampleSource).toOption.get sampleSource_built
  created := ⟨1, Except.eq_ok_get sampleSource_built⟩

end Sample

end Lcm.Portable
