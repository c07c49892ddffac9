import Lcm.Codex.ReferencedHistory

namespace Lcm.Codex
open Text

section Search

variable {Path : Type} {id : JsString}

/-- A plain file for a rollout id in a directory or in its date directories. -/
inductive Listed (id : JsString) : List (JsString → Bool) → List (DirectoryEntry Path) → Path → Prop
  | file {dates entries name path} (inside : .file name path ∈ entries)
      (named : rolloutIdOfFileName name = some id) : Listed id dates entries path
  | within {date dates entries name inner fails path} (inside : .directory name inner fails ∈ entries)
      (dated : date name = true) (listed : Listed id dates inner path) : Listed id (date :: dates) entries path

/-- A step of the search adds matches of a set only. When the search goes on, it lost none and found them all. -/
structure Finds (before after : RolloutSearch Path) (paths : Path → Prop) : Prop where
  added : ∀ path ∈ after.found, path ∈ before.found ∨ paths path
  complete : after.stopped = false → before.stopped = false ∧ (∀ path ∈ before.found, path ∈ after.found) ∧
    ∀ path, paths path → path ∈ after.found

theorem stopped_eq_false {search : RolloutSearch Path} :
    search.stopped = false ↔ search.found.length ≤ 1 ∧ search.exhausted = false := by
  simp [RolloutSearch.stopped]

/-- A step that does nothing finds nothing. -/
theorem Finds.refl (search : RolloutSearch Path) : Finds search search fun _ => False :=
  ⟨fun _ => .inl, fun goes => ⟨goes, fun _ inside => inside, nofun⟩⟩

theorem Finds.congr {before after : RolloutSearch Path} {paths others : Path → Prop}
    (finds : Finds before after paths) (same : ∀ path, paths path ↔ others path) : Finds before after others :=
  ⟨fun path inside => (finds.added path inside).imp_right (same path).mp, fun goes =>
    ⟨(finds.complete goes).1, (finds.complete goes).2.1, fun path own =>
      (finds.complete goes).2.2 path ((same path).mpr own)⟩⟩

/-- The matches that an entry stands for, with those of its subdirectory given. -/
def EntryHolds (isDate : JsString → Bool) (listed : List (DirectoryEntry Path) → Path → Prop) (id : JsString) :
    DirectoryEntry Path → Path → Prop
  | .directory name inner _, path => isDate name = true ∧ listed inner path
  | .file name held, path => rolloutIdOfFileName name = some id ∧ path = held
  | .other, _ => False

theorem visitEntry_finds {isDate : JsString → Bool}
    {walk : List (DirectoryEntry Path) → Bool → RolloutSearch Path → RolloutSearch Path}
    {listed : List (DirectoryEntry Path) → Path → Prop}
    (walks : ∀ entries fails search, Finds search (walk entries fails search) (listed entries))
    (search : RolloutSearch Path) (entry : DirectoryEntry Path) :
    Finds search (visitEntry isDate walk id search entry) (EntryHolds isDate listed id entry) := by
  unfold visitEntry
  split
  · next stopped => exact ⟨fun _ => .inl, fun goes => by simp [stopped] at goes⟩
  · next running =>
      have fresh : search.stopped = false := by simpa using running
      split
      · exact ⟨fun _ => .inl, fun goes => by simp [RolloutSearch.stopped] at goes⟩
      · cases entry with
        | other => exact ⟨fun _ => .inl, fun _ => ⟨fresh, fun _ inside => inside, nofun⟩⟩
        | file name held =>
            dsimp only
            split
            · next named =>
                refine ⟨fun path inside => ?_, fun _ => ⟨fresh, ?_, ?_⟩⟩
                · rcases List.mem_append.mp inside with old | new
                  · exact .inl old
                  · exact .inr ⟨named, List.mem_singleton.mp new⟩
                · exact fun path inside => List.mem_append_left _ inside
                · exact fun path own => List.mem_append_right _ (List.mem_singleton.mpr own.2)
            · next unnamed =>
                exact ⟨fun _ => .inl, fun _ => ⟨fresh, fun _ inside => inside, fun _ own => absurd own.1 unnamed⟩⟩
        | directory name entries fails =>
            dsimp only
            split
            · next dated =>
                have inner := walks entries fails { search with remaining := search.remaining - 1 }
                refine ⟨fun path inside => (inner.added path inside).imp_right fun own => ⟨dated, own⟩, ?_⟩
                intro goes
                obtain ⟨_, kept, found⟩ := inner.complete goes
                exact ⟨fresh, kept, fun path own => found path own.2⟩
            · next undated =>
                exact ⟨fun _ => .inl, fun _ => ⟨fresh, fun _ inside => inside, fun _ own => absurd own.1 undated⟩⟩

theorem foldl_finds {Entry : Type} {step : RolloutSearch Path → Entry → RolloutSearch Path}
    {holds : Entry → Path → Prop} (each : ∀ search entry, Finds search (step search entry) (holds entry))
    (entries : List Entry) (search : RolloutSearch Path) :
    Finds search (entries.foldl step search) fun path => ∃ entry ∈ entries, holds entry path := by
  induction entries generalizing search with
  | nil => exact (Finds.refl search).congr (by simp)
  | cons entry rest ih =>
      have later := ih (step search entry)
      have first := each search entry
      constructor
      · intro path inside
        rcases later.added path inside with middle | ⟨listed, own, holds⟩
        · rcases first.added path middle with old | new
          · exact .inl old
          · exact .inr ⟨entry, List.mem_cons_self .., new⟩
        · exact .inr ⟨listed, List.mem_cons_of_mem _ own, holds⟩
      · intro goes
        obtain ⟨middle, keptRest, foundRest⟩ := later.complete goes
        obtain ⟨start, kept, found⟩ := first.complete middle
        refine ⟨start, fun path inside => keptRest path (kept path inside), ?_⟩
        rintro path ⟨listed, inside, own⟩
        rcases List.mem_cons.mp inside with rfl | later
        · exact keptRest path (found path own)
        · exact foundRest path ⟨listed, later, own⟩

/-- A directory that could not be read to its end exhausts the search. -/
theorem Finds.fails {before after : RolloutSearch Path} {paths : Path → Prop} (finds : Finds before after paths)
    (fails : Bool) : Finds before { after with exhausted := after.exhausted || fails } paths := by
  refine ⟨finds.added, fun goes => ?_⟩
  rw [stopped_eq_false] at goes
  apply finds.complete
  rw [stopped_eq_false]
  exact ⟨goes.1, (Bool.or_eq_false_iff.mp goes.2).1⟩

/-- A search finds files for the rollout id only, and all of them unless it stopped. -/
theorem searchRolloutDirectory_finds (id : JsString) (dates : List (JsString → Bool))
    (entries : List (DirectoryEntry Path)) (fails : Bool) (search : RolloutSearch Path) :
    Finds search (searchRolloutDirectory id dates entries fails search) (Listed id dates entries) := by
  induction dates generalizing entries fails search with
  | nil =>
      rw [searchRolloutDirectory]
      apply Finds.fails
      have each := @visitEntry_finds Path id (fun _ => false) (fun _ _ search => search) (fun _ _ => False)
        fun _ _ => Finds.refl
      refine (foldl_finds each entries search).congr fun path => ⟨?_, ?_⟩
      · rintro ⟨entry, inside, holds⟩
        cases entry with
        | directory => exact absurd holds.1 nofun
        | file name held => exact holds.2 ▸ .file inside holds.1
        | other => exact holds.elim
      · intro listed
        cases listed with
        | file inside named => exact ⟨_, inside, named, rfl⟩
  | cons date dates ih =>
      rw [searchRolloutDirectory]
      apply Finds.fails
      refine (foldl_finds (visitEntry_finds ih) entries search).congr fun path => ⟨?_, ?_⟩
      · rintro ⟨entry, inside, holds⟩
        cases entry with
        | directory => exact .within inside holds.1 holds.2
        | file name held => exact holds.2 ▸ .file inside holds.1
        | other => exact holds.elim
      · intro listed
        cases listed with
        | file inside named => exact ⟨_, inside, named, rfl⟩
        | within inside dated own => exact ⟨_, inside, dated, own⟩

/-- The located file is the only one for the rollout id. -/
theorem locateRollout_unique {store : RolloutStore Path} {budget : Nat} {path : Path}
    (located : (locateRollout store id budget).1 = some path) :
    (∃ root ∈ store.roots, Listed id rolloutDateDirectories root.1 path) ∧
      ∀ root ∈ store.roots, ∀ another, Listed id rolloutDateDirectories root.1 another → another = path := by
  rw [locateRollout] at located
  have finds := foldl_finds (fun search root =>
    searchRolloutDirectory_finds id rolloutDateDirectories root.1 root.2 search) store.roots
      (⟨budget, false, []⟩ : RolloutSearch Path)
  dsimp only at located
  split at located
  · next single running =>
      cases located
      constructor
      · rcases finds.added path (by rw [single]; exact List.mem_singleton_self _) with none | listed
        · cases none
        · exact listed
      · have goes := stopped_eq_false.mpr ⟨by rw [single]; exact Nat.le_refl _, running⟩
        intro root inside another listed
        have own := (finds.complete goes).2.2 another ⟨root, inside, listed⟩
        rw [single] at own
        exact List.mem_singleton.mp own
  · cases located

end Search

section Segments

variable {Number : Type} {numbers : JsNumbers Number}

/-- The lines of a file before an end. -/
def Rollout.linesBefore (file : Rollout) (endByte : Nat) : List JsString :=
  lines (decodeUtf8 (file.bytes.take endByte))

/-- The lines of a segment, as if it started with the file. -/
def HistorySegment.fullLines (segment : HistorySegment) : List JsString :=
  segment.file.linesBefore segment.endByte

theorem decodeUtf8_no_feed {bytes : List UInt8} (plain : 10 ∉ bytes) : 10 ∉ decodeUtf8 bytes := by
  intro inside
  obtain ⟨byte, listed, same⟩ := decodeUtf8_ascii (by decide) inside
  have feed : byte = 10 := UInt8.toNat_inj.mp same.symm
  exact plain (feed ▸ listed)

/-- Dropping the partial first line of a clipped segment keeps whole lines of the file. -/
theorem scan_clipped (segment : HistorySegment) (live : Bool) :
    ∃ start, scanLines numbers live segment.fullLines =
      scanLiveCodexRestoration numbers (readSegmentText segment) start := by
  rw [readSegmentText]
  split
  · next start =>
      refine ⟨live, ?_⟩
      rw [start]
      rfl
  · have parts := List.take_append_drop segment.start (segment.file.bytes.take segment.endByte)
    simp only [HistorySegment.fullLines, Rollout.linesBefore, scanLiveCodexRestoration]
    generalize (segment.file.bytes.take segment.endByte).drop segment.start = kept at parts
    by_cases feeds : 10 ∈ kept
    · obtain ⟨partial', rest, rfl, plain⟩ := List.eq_append_cons_of_mem feeds
      have text : (decodeUtf8 (partial' ++ 10 :: rest)).dropWhile (fun unit => decide (unit ≠ 10)) =
          10 :: decodeUtf8 rest := by
        rw [decodeUtf8_append_ascii partial' rest (by decide), List.dropWhile_append_of_pos]
        · rfl
        · intro unit inside
          exact decide_eq_true fun same => decodeUtf8_no_feed plain (same ▸ inside)
      rw [text, ← parts, ← List.append_assoc, decodeUtf8_append_ascii _ rest (by decide)]
      refine ⟨scanLines numbers live (lines (decodeUtf8
        ((segment.file.bytes.take segment.endByte).take segment.start ++ partial'))), ?_⟩
      rw [← scanLines_append]
      exact congrArg _ (List.splitOn_append_cons_self _ _)
    · have text : (decodeUtf8 kept).dropWhile (fun unit => decide (unit ≠ 10)) = [] :=
        List.dropWhile_eq_nil_iff.mpr fun unit inside =>
          decide_eq_true fun same => decodeUtf8_no_feed feeds (same ▸ inside)
      rw [text]
      exact ⟨_, rfl⟩

/-- A segment that starts with its file has all lines of it. -/
theorem scan_whole {segment : HistorySegment} (start : segment.start = 0) (live : Bool) :
    scanLines numbers live segment.fullLines =
      scanLiveCodexRestoration numbers (readSegmentText segment) live := by
  rw [readSegmentText, if_pos start, start]
  rfl

/-- The texts of segments that can all be read and that start with their files. -/
theorem scan_readable {segments : List HistorySegment} (whole : ∀ segment ∈ segments, segment.start = 0)
    (readable : segments.any (·.file.segmentFails) = false) (live : Bool) :
    scanLines numbers live (segments.flatMap HistorySegment.fullLines) =
      (readTexts segments).foldl (fun live text => scanLiveCodexRestoration numbers text live) live := by
  induction segments generalizing live with
  | nil => rfl
  | cons segment newer ih =>
      obtain ⟨start, rest⟩ := List.forall_mem_cons.mp whole
      rw [List.any_cons, Bool.or_eq_false_iff] at readable
      rw [readTexts, if_neg (by simp [readable]), List.flatMap_cons, scanLines_append, List.foldl_cons,
        ← scan_whole start, ih rest readable.2]

/-- The texts that are read give the end of a scan over all lines. -/
theorem scan_readTexts {segments : List HistorySegment} (whole : ∀ segment ∈ segments.tail, segment.start = 0)
    (live : Bool) : ∃ start, scanLines numbers live (segments.flatMap HistorySegment.fullLines) =
      (readTexts segments).foldl (fun live text => scanLiveCodexRestoration numbers text live) start := by
  induction segments generalizing live with
  | nil => exact ⟨live, rfl⟩
  | cons segment newer ih =>
      rw [readTexts, List.flatMap_cons, scanLines_append]
      split
      · exact ih (fun other inside => whole other (List.mem_of_mem_tail inside)) _
      · next readable =>
          rw [not_or, Bool.not_eq_true] at readable
          have unclipped : ∀ other ∈ newer, other.start = 0 := whole
          obtain ⟨start, own⟩ := @scan_clipped _ numbers segment live
          exact ⟨start, by rw [List.foldl_cons, ← own, scan_readable unclipped readable.1]⟩

/-- What the texts prove from nothing they prove from any state. -/
theorem scan_texts_mono {texts : List JsString} (live : Bool)
    (proven : texts.foldl (fun live text => scanLiveCodexRestoration numbers text live) false = true) :
    texts.foldl (fun live text => scanLiveCodexRestoration numbers text live) live = true := by
  have flat : ∀ (texts : List JsString) (live : Bool),
      texts.foldl (fun live text => scanLiveCodexRestoration numbers text live) live =
        scanLines numbers live (texts.flatMap lines) := by
    intro texts
    induction texts with
    | nil => exact fun _ => rfl
    | cons text rest ih =>
        intro live
        rw [List.foldl_cons, ih, List.flatMap_cons, scanLines_append]
        rfl
  rw [flat] at proven ⊢
  exact @scanLines_mono _ numbers _ false live nofun proven

end Segments

section Walk

variable {Number : Type} (numbers : JsNumbers Number) {Path : Type} (store : RolloutStore Path)

/-- A rollout that a file for an id opens to. -/
def Named (id : JsString) (rollout : Rollout) : Prop :=
  ∃ root ∈ store.roots, ∃ path, Listed id rolloutDateDirectories root.1 path ∧
    store.openRollout path = some rollout

/-- The history of a file before an end, with the ancestors that at most so many links lead to. Nothing is said
about what is older than the last link, or behind a link that leads to no file. -/
inductive HistoryOf : Nat → Rollout → Nat → List JsString → Prop
  | unfollowed {file endByte} (older : List JsString) :
      HistoryOf 0 file endByte (older ++ file.linesBefore endByte)
  | oldest {links file endByte}
      (rootless : ∀ id endOrdinal cutoff, readHistoryBase numbers file ≠ .base id endOrdinal cutoff) :
      HistoryOf links file endByte (file.linesBefore endByte)
  | lost {links file endByte id endOrdinal cutoff}
      (referenced : readHistoryBase numbers file = .base id endOrdinal cutoff)
      (missing : ∀ parent, ¬ Named store id parent) (older : List JsString) :
      HistoryOf links file endByte (older ++ file.linesBefore endByte)
  | link {links file endByte id endOrdinal cutoff parent older}
      (referenced : readHistoryBase numbers file = .base id endOrdinal cutoff) (named : Named store id parent)
      (before : HistoryOf links parent cutoff older) :
      HistoryOf (links + 1) file endByte (older ++ file.linesBefore endByte)

variable {numbers store}

/-- The history of a file ends with the lines of the file. -/
theorem HistoryOf.ends {links : Nat} {file : Rollout} {endByte : Nat} {history : List JsString}
    (whole : HistoryOf numbers store links file endByte history) :
    ∃ older, history = older ++ file.linesBefore endByte := by
  cases whole with
  | unfollowed older => exact ⟨older, rfl⟩
  | oldest => exact ⟨[], rfl⟩
  | lost _ _ older => exact ⟨older, rfl⟩
  | link => exact ⟨_, rfl⟩

/-- What the walk has kept: whole files except the oldest, whose history comes before the newer lines. -/
structure Kept (numbers : JsNumbers Number) (store : RolloutStore Path) (links : Nat) (full : List JsString)
    (walk : HistoryWalk) (oldest : HistorySegment) (newer : List HistorySegment) : Prop where
  segments : walk.segments = oldest :: newer
  whole : ∀ segment ∈ newer, segment.start = 0
  unclipped : walk.remaining ≠ 0 → oldest.start = 0
  history : ∃ left older, left + newer.length = links ∧
    HistoryOf numbers store left oldest.file oldest.endByte older ∧
      full = older ++ newer.flatMap HistorySegment.fullLines
  read : walk.read = readHistoryBase numbers oldest.file

/-- What a link does when it is followed. -/
structure Followed (numbers : JsNumbers Number) (store : RolloutStore Path) (walk after : HistoryWalk)
    (id : JsString) (endOrdinal endByte : Nat) (path : Path) (parent : Rollout) : Prop where
  referenced : walk.read = .base id endOrdinal endByte
  remaining : walk.remaining ≠ 0
  room : walk.segments.length < maxReferencedHistoryFiles
  located : (locateRollout store id walk.budget).1 = some path
  opened : store.openRollout path = some parent
  segments : after.segments = ⟨parent, endByte - min endByte walk.remaining, endByte⟩ :: walk.segments
  left : after.remaining = walk.remaining - min endByte walk.remaining
  read : after.read = readHistoryBase numbers parent

theorem validateAncestor_read {parent : Rollout} {endByte endOrdinal : Nat} {repeated : Bool} {read : HistoryBase}
    (valid : validateAncestor numbers parent endByte endOrdinal repeated = some read) :
    read = readHistoryBase numbers parent := by
  unfold validateAncestor at valid
  split at valid
  · cases valid
  · split at valid
    · cases valid
    · dsimp only at valid
      split at valid
      · cases valid
      · split at valid
        · exact (Option.some.inj valid).symm
        · cases valid

theorem followLink_followed {walk after : HistoryWalk} (followed : followLink numbers store walk = some after) :
    ∃ id endOrdinal endByte path parent, Followed numbers store walk after id endOrdinal endByte path parent := by
  unfold followLink at followed
  split at followed
  · next id endOrdinal endByte referenced =>
      split at followed
      · cases followed
      · next open' =>
          simp only [not_or, not_le] at open'
          simp only [Option.bind_eq_bind, Option.bind_eq_some_iff, Option.some.injEq] at followed
          obtain ⟨parent, ⟨path, located, opened⟩, read, valid, rfl⟩ := followed
          exact ⟨id, endOrdinal, endByte, path, parent, referenced, open'.1, open'.2.1, located, opened, rfl, rfl,
            validateAncestor_read valid⟩
  · cases followed

/-- A link that is followed leads to the ancestor of the history. -/
theorem Kept.next {links : Nat} {full : List JsString} {walk after : HistoryWalk} {oldest : HistorySegment}
    {newer : List HistorySegment} (enough : maxReferencedHistoryFiles ≤ links + 1)
    (kept : Kept numbers store links full walk oldest newer) (followed : followLink numbers store walk = some after) :
    ∃ parent, Kept numbers store links full after parent (oldest :: newer) := by
  obtain ⟨id, endOrdinal, endByte, path, parent, link⟩ := followLink_followed followed
  have referenced := kept.read.symm.trans link.referenced
  obtain ⟨⟨root, inside, listed⟩, located⟩ := locateRollout_unique link.located
  have only : ∀ other, Named store id other → other = parent := by
    rintro other ⟨root, inside, own, listed, opened⟩
    rw [located root inside own listed, link.opened] at opened
    exact (Option.some.inj opened).symm
  have start := kept.unclipped link.remaining
  obtain ⟨left, older, count, history, full'⟩ := kept.history
  have ancestor : ∃ before rest, before + (newer.length + 1) = links ∧
      HistoryOf numbers store before parent endByte rest ∧
        older = rest ++ oldest.file.linesBefore oldest.endByte := by
    cases history with
    | unfollowed =>
        -- the walk has as many files as it may keep
        have room := link.room
        rw [kept.segments, List.length_cons] at room
        omega
    | oldest rootless => exact absurd referenced (rootless _ _ _)
    | lost base missing =>
        rw [referenced] at base
        cases base
        exact absurd ⟨root, inside, path, listed, link.opened⟩ (missing parent)
    | link base named before =>
        rw [referenced] at base
        cases base
        rw [only _ named] at before
        exact ⟨_, _, by omega, before, rfl⟩
  obtain ⟨before, rest, count', ancestor, split⟩ := ancestor
  refine ⟨⟨parent, endByte - min endByte walk.remaining, endByte⟩, ?_, ?_, ?_, ?_, link.read⟩
  · rw [link.segments, kept.segments]
  · intro segment inside
    rcases List.mem_cons.mp inside with rfl | inside
    · exact start
    · exact kept.whole segment inside
  · intro some'
    rw [link.left] at some'
    dsimp only
    omega
  · refine ⟨before, rest, count', ancestor, ?_⟩
    rw [full', split, List.flatMap_cons, List.append_assoc]
    rfl

theorem followLinks_kept {links fuel : Nat} {full : List JsString} {walk : HistoryWalk} {oldest : HistorySegment}
    {newer : List HistorySegment} (enough : maxReferencedHistoryFiles ≤ links + 1)
    (kept : Kept numbers store links full walk oldest newer) :
    ∃ oldest newer, Kept numbers store links full (followLinks numbers store fuel walk).1 oldest newer := by
  induction fuel generalizing walk oldest newer with
  | zero => exact ⟨oldest, newer, kept⟩
  | succ fuel ih =>
      rw [followLinks]
      cases followed : followLink numbers store walk with
      | none => exact ⟨oldest, newer, kept⟩
      | some after =>
          obtain ⟨parent, later⟩ := kept.next enough followed
          exact ih later

/-- Each link adds a segment, and there are at most so many segments. -/
theorem followLinks_ended {fuel : Nat} {walk : HistoryWalk}
    (enough : maxReferencedHistoryFiles < walk.segments.length + fuel) (positive : 0 < fuel) :
    (followLinks numbers store fuel walk).2 = true := by
  induction fuel generalizing walk with
  | zero => omega
  | succ fuel ih =>
      rw [followLinks]
      cases followed : followLink numbers store walk with
      | none => rfl
      | some after =>
          obtain ⟨_, _, _, _, _, link⟩ := followLink_followed followed
          have room := link.room
          apply ih
          · rw [link.segments, List.length_cons]
            omega
          · omega

/-- A walk over any store ends. When the segments that it keeps prove a live restoration, the whole history
does, whatever is older than the links that the walk may follow. -/
theorem scanHistorySegments_sound (numbers : JsNumbers Number) (store : RolloutStore Path) (own : Rollout)
    (maxBytes maxDirectoryEntries : Nat) :
    (followLinks numbers store (maxReferencedHistoryFiles + 1)
      (initialWalk numbers own maxBytes maxDirectoryEntries)).2 = true ∧
    ∀ segments, resolveHistorySegments numbers store own maxBytes maxDirectoryEntries = some segments →
      scanHistorySegments numbers segments = some true →
        ∀ links full, maxReferencedHistoryFiles ≤ links + 1 →
          HistoryOf numbers store links own own.bytes.length full → scanLines numbers false full = true := by
  constructor
  · apply followLinks_ended
    · simp only [initialWalk, HistoryWalk.keep, List.length_singleton]
      omega
    · decide
  · intro segments resolved proven links full enough history
    rw [resolveHistorySegments] at resolved
    split at resolved
    · cases resolved
    · have start : Kept numbers store links full (initialWalk numbers own maxBytes maxDirectoryEntries)
          ⟨own, own.bytes.length - min own.bytes.length maxBytes, own.bytes.length⟩ [] := by
        refine ⟨rfl, nofun, ?_, ⟨links, full, rfl, history, by simp⟩, rfl⟩
        intro some'
        simp only [initialWalk, HistoryWalk.keep] at some' ⊢
        omega
      obtain ⟨oldest, newer, kept⟩ := @followLinks_kept _ numbers _ store links (maxReferencedHistoryFiles + 1) full
        _ _ _ enough start
      have parts := (Option.some.inj resolved).symm.trans kept.segments
      obtain ⟨left, older, _, ending, rfl⟩ := kept.history
      obtain ⟨before, rfl⟩ := ending.ends
      obtain ⟨start, own⟩ := @scan_readTexts _ numbers (oldest :: newer) kept.whole
        (scanLines numbers false before)
      rw [scanHistorySegments, parts] at proven
      split at proven
      · cases proven
      · split at proven
        · cases proven
        · rw [List.append_assoc, scanLines_append]
          exact own.trans (scan_texts_mono start (Option.some.inj proven))

end Walk

section Sample

def sampleId : JsString := js "00000000-0000-4000-8000-000000000001"

/-- A session_meta, with the history it references. -/
def sampleMeta (base : Json Nat) : JsString :=
  Json.print naturalFormat (.object [(js "type", .string (js "session_meta")), (js "ordinal", .number 0),
    (js "payload", .object [(js "history_base", base)])]) ++ [10]

/-- A rollout with a restoration. -/
def sampleParent : Rollout where
  identity := (0, 1)
  bytes := (sampleMeta .null ++ Json.print naturalFormat (.object [(js "type", .string (js "response_item")),
    (js "ordinal", .number 1), (js "payload", .object [(js "type", .string (js "message")),
      (js "role", .string (js "developer")), (js "content", .array [.object [(js "text",
        .string restorationMarker)]])])]) ++ [10]).map UInt16.toUInt8
  headFails := false
  cutoffFails := false
  segmentFails := false

/-- A fork that references it. -/
def sampleFork : Rollout where
  identity := (0, 2)
  bytes := (sampleMeta (.object [(js "thread_id", .string sampleId), (js "end_ordinal_exclusive", .number 2),
    (js "end_byte_offset", .number sampleParent.bytes.length)])).map UInt16.toUInt8
  headFails := false
  cutoffFails := false
  segmentFails := false

def sampleStore : RolloutStore Unit where
  roots := [([.file (js "rollout-2026-01-01T00-00-00-" ++ sampleId ++ js ".jsonl") ()], false)]
  openRollout _ := some sampleParent

/-- The segments of the fork prove a restoration, so its whole history does. -/
theorem scanHistorySegments_sound_sample :
    scanLines naturalNumbers false (sampleParent.linesBefore sampleParent.bytes.length ++
      sampleFork.linesBefore sampleFork.bytes.length) = true := by
  have sound := (scanHistorySegments_sound naturalNumbers sampleStore sampleFork 100000 10).2
    [⟨sampleParent, 0, sampleParent.bytes.length⟩, ⟨sampleFork, 0, sampleFork.bytes.length⟩]
    (by decide +kernel) (by decide +kernel) 3 (sampleParent.linesBefore sampleParent.bytes.length ++
      sampleFork.linesBefore sampleFork.bytes.length) (by decide)
  apply sound
  have named : Named sampleStore sampleId sampleParent :=
    ⟨_, List.mem_singleton_self _, (), .file (List.mem_singleton_self _) (by decide +kernel), rfl⟩
  have referenced : readHistoryBase naturalNumbers sampleFork =
      .base sampleId 2 sampleParent.bytes.length := by decide +kernel
  have rootless : readHistoryBase naturalNumbers sampleParent = .none := by decide +kernel
  exact .link referenced named (.oldest fun _ _ _ => by rw [rootless]; exact nofun)

end Sample

end Lcm.Codex
