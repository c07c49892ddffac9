import Lcm.Library.SortedBy
import Lcm.Promotion.Convergence
import Lcm.Text.Uuid
import Mathlib.Data.List.Lex

namespace Lcm.PostgreSql
open Text Promotion

/-- A text that a column can hold. -/
abbrev PgText := { text : JsString // isPostgreSqlText text = true }

/-- The id of a memory. -/
abbrev MemoryId := { text : JsString // isUuid text = true }

/-- A finite number from zero to one. -/
def isConfidence {Number : Type} (numbers : JsNumbers Number) (value : Number) : Bool :=
  numbers.isFinite value && !numbers.less value (numbers.ofNat 0) && !numbers.less (numbers.ofNat 1) value

/-- A confidence that the column can hold. -/
abbrev Confidence {Number : Type} (numbers : JsNumbers Number) :=
  { value : Number // isConfidence numbers value = true }

/-- A memory with its tags in the order of their ordinals. The project is the owner. -/
structure MemoryRow {Number : Type} (numbers : JsNumbers Number) where
  projectId : PgText
  content : PgText
  tags : List PgText
  metadata : Json Number
  sourceProjectId : Option PgText
  sessionId : Option PgText
  depth : Int
  confidence : Confidence numbers
  createdAt : Int
  archivedAt : Option Int

abbrev MemoryTable {Number : Type} (numbers : JsNumbers Number) := KeyedTable MemoryId (MemoryRow numbers)

/-- A row with its id. -/
abbrev MemoryEntry {Number : Type} (numbers : JsNumbers Number) := MemoryId × MemoryRow numbers

/-- What full-text search and its fallback bring to a search: the rows that they match, and in which
order, and the queries that normalize to nothing. -/
structure MemorySearch {Number : Type} (numbers : JsNumbers Number) where
  matchesText : JsString → MemoryEntry numbers → Bool
  textBefore : JsString → MemoryEntry numbers → MemoryEntry numbers → Bool
  matchesFallback : JsString → MemoryEntry numbers → Bool
  fallbackBefore : JsString → MemoryEntry numbers → MemoryEntry numbers → Bool
  normalizesToEmpty : JsString → Bool

def maxSearchLimit : Int := 1000

/-- A refused field. -/
def dataError : PromotionFailure := .storage "STORAGE_OPERATION_FAILED"

/-- A text without NUL and lone surrogates. -/
def string (text : JsString) : Except PromotionFailure PgText :=
  if valid : isPostgreSqlText text = true then .ok ⟨text, valid⟩ else .error dataError

def optionalMemoryUuid (value : JsString) : Option MemoryId :=
  if valid : isUuid (lowerAscii value) = true then some ⟨lowerAscii value, valid⟩ else none

/-- The rows of the first phase, then those of the second that are new, up to a limit. -/
def appendDeduplicated {Row Id : Type} [DecidableEq Id] (id : Row → Id) (primary fallback : List Row)
    (limit : Nat) : List Row :=
  let result := primary.take limit
  if limit ≤ result.length then result
  else fallback.foldl (fun result candidate =>
    if limit ≤ result.length ∨ id candidate ∈ result.map id then result
    else result ++ [candidate]) result

section Repositories

variable {Number : Type}

/-- A limit from zero to the greatest one. -/
def searchLimit (numbers : JsNumbers Number) (limit : Number) : Except PromotionFailure Nat :=
  match numbers.toSafeInteger limit with
  | some bound => if 0 ≤ bound ∧ bound ≤ maxSearchLimit then .ok bound.toNat else .error dataError
  | none => .error dataError

def checkConfidence (numbers : JsNumbers Number) (confidence : Number) :
    Except PromotionFailure (Confidence numbers) :=
  if valid : isConfidence numbers confidence = true then .ok ⟨confidence, valid⟩ else .error dataError

def nonemptyString (text : JsString) : Except PromotionFailure PgText :=
  (string text).bind fun stored => if stored.1.isEmpty then .error dataError else .ok stored

def nonnegativeInteger (numbers : JsNumbers Number) (value : Number) : Except PromotionFailure Int :=
  match numbers.toSafeInteger value with
  | some integer => if 0 ≤ integer then .ok integer else .error dataError
  | none => .error dataError

variable {numbers : JsNumbers Number} (engine : MemorySearch numbers) (owner : PgText)

/-- The active memories of the owner, from one source project if it is given. -/
def eligible (sourceProjectId : Option PgText) (table : MemoryTable numbers) : List (MemoryEntry numbers) :=
  table.entries.filter fun entry => entry.2.projectId = owner && entry.2.archivedAt.isNone &&
    sourceProjectId.all fun source => entry.2.sourceProjectId = some source

def searchPromoted (query : JsString) (limit : Number) (sourceProjectId : Option JsString)
    (table : MemoryTable numbers) : Except PromotionFailure (List (MemoryEntry numbers)) := do
  let _ ← string query
  let limit ← searchLimit numbers limit
  let source ← sourceProjectId.mapM string
  if limit = 0 ∨ (trim query).isEmpty ∨ engine.normalizesToEmpty query then pure []
  else
    let rows := eligible owner source table
    let primary := ((rows.filter (engine.matchesText query)).insertionSort fun first second =>
      engine.textBefore query first second).take limit
    let fallback := ((rows.filter fun entry =>
      entry.1 ∉ primary.map Prod.fst && engine.matchesFallback query entry).insertionSort
        fun first second => engine.fallbackBefore query first second).take (limit - primary.length)
    pure (appendDeduplicated Prod.fst primary fallback limit)

def findExactContent (content : JsString) (sourceProjectId : Option JsString)
    (table : MemoryTable numbers) : Except PromotionFailure (Option (MemoryEntry numbers)) := do
  let content ← string content
  let source ← sourceProjectId.mapM string
  let rows := (eligible owner source table).filter fun entry => entry.2.content = content
  pure (sortedBy (fun entry : MemoryEntry numbers =>
    toLex (entry.2.createdAt, entry.1.1.map UInt16.toNat)) rows).getLast?

/-- A memory under the id that the database gives it. -/
def insert (id : MemoryId) (now : Int) (memory : PromotedInsert Number) (table : MemoryTable numbers) :
    Except PromotionFailure (JsString × MemoryTable numbers) := do
  let content ← nonemptyString memory.content
  let tags ← memory.tags.mapM string
  let sourceProjectId ← memory.sourceProjectId.elim (.ok owner) string
  let sessionId ← memory.sessionId.mapM string
  let depth ← nonnegativeInteger numbers memory.depth
  let confidence ← checkConfidence numbers memory.confidence
  match table.insert? id ⟨owner, content, tags, .object [], some sourceProjectId, sessionId, depth,
      confidence, now, none⟩ with
  | some later => .ok (id.1, later)
  | none => .error dataError

/-- A change of the memory of the owner with an id. -/
def updateMemory (id : MemoryId) (change : MemoryRow numbers → MemoryRow numbers)
    (table : MemoryTable numbers) : MemoryTable numbers :=
  table.update id fun row => if row.projectId = owner then change row else row

def update (id : JsString) (confidence : Number) (tags : List JsString) (table : MemoryTable numbers) :
    Except PromotionFailure (Unit × MemoryTable numbers) :=
  match optionalMemoryUuid id with
  | none => pure ((), table)
  | some id => do
      let confidence ← checkConfidence numbers confidence
      let tags ← tags.mapM string
      pure ((), updateMemory owner id (fun row => { row with confidence, tags }) table)

def archive (id : JsString) (now : Int) (table : MemoryTable numbers) : MemoryTable numbers :=
  match optionalMemoryUuid id with
  | none => table
  | some id => updateMemory owner id (fun row =>
      { row with archivedAt := some (max now row.createdAt) }) table

def deleteById (id : JsString) (table : MemoryTable numbers) : MemoryTable numbers :=
  match optionalMemoryUuid id with
  | none => table
  | some id => table.retain fun entry => ¬ (entry.1 = id ∧ entry.2.projectId = owner)

def toCandidate (entry : MemoryEntry numbers) : PromotedCandidate Number :=
  ⟨entry.1.1, entry.2.content.1, entry.2.tags.map Subtype.val, entry.2.confidence.1⟩

/-- The repositories of a transaction of an owner, with the next id and the time. -/
def postgreSqlRepositories (id : MemoryId) (now : Int) :
    PromotedRepositories (MemoryTable numbers) Number where
  serializeDecision _ := .ok ()
  searchPromoted query limit sourceProjectId table :=
    (searchPromoted engine owner query limit sourceProjectId table).map (·.map toCandidate)
  findExactContent content sourceProjectId table :=
    (findExactContent owner content sourceProjectId table).map (·.map toCandidate)
  insert memory table := insert owner id now memory table
  update id confidence tags table := update owner id confidence tags table
  archive id table := .ok ((), archive owner id now table)

/-- A memory belongs to its owner. -/
def ownerMemories : MemoryRows (MemoryEntry numbers) Number PgText where
  candidate := toCandidate
  isActive entry := entry.2.archivedAt.isNone
  scope entry := entry.2.projectId

end Repositories

section Uuids

/-- A UUID in lower case stays as it is. -/
theorem lowerAscii_uuid {text : JsString} (valid : isUuid text = true) : lowerAscii text = text := by
  have each : ∀ unit ∈ text, toLowerAscii unit = unit := by
    intro unit inside
    rw [isUuid, Bool.and_eq_true, List.all_eq_true] at valid
    obtain ⟨index, found⟩ := List.getElem?_of_mem inside
    have unitValid := valid.2 (unit, index) (List.mem_iff_getElem?.mpr ⟨index, by simp [found]⟩)
    have small : unit = 45 ∨ isHexDigit unit = true := by
      dsimp only at unitValid
      split at unitValid
      · exact .inl (eq_of_beq unitValid)
      · exact .inr unitValid
    rw [toLowerAscii, if_neg]
    rcases small with rfl | digit
    · decide
    · simp [isHexDigit, UInt16.le_iff_toNat_le] at digit ⊢
      omega
  rw [lowerAscii, List.map_congr_left each]
  exact List.map_id' text

theorem optionalMemoryUuid_self (id : MemoryId) : optionalMemoryUuid id.1 = some id := by
  have same := lowerAscii_uuid id.2
  rw [optionalMemoryUuid, dif_pos (by rw [same]; exact id.2)]
  exact congrArg some (Subtype.ext same)

end Uuids

section Page

variable {Row Id : Type} [DecidableEq Id] {id : Row → Id}

/-- The rows of a page come from its phases, each once. -/
theorem appendDeduplicated_spec {primary : List Row} (once : (primary.map id).Nodup)
    (fallback : List Row) (limit : Nat) :
    ((appendDeduplicated id primary fallback limit).map id).Nodup ∧
      ∀ row ∈ appendDeduplicated id primary fallback limit, row ∈ primary ∨ row ∈ fallback := by
  have whole : ∀ (rest result : List Row), (result.map id).Nodup →
      let final := rest.foldl (fun result candidate =>
        if limit ≤ result.length ∨ id candidate ∈ result.map id then result
        else result ++ [candidate]) result
      (final.map id).Nodup ∧ ∀ row ∈ final, row ∈ result ∨ row ∈ rest := by
    intro rest
    induction rest with
    | nil => exact fun result distinct => ⟨distinct, fun row inside => .inl inside⟩
    | cons candidate rest ih =>
        intro result distinct
        rw [List.foldl_cons]
        split
        · obtain ⟨kept, members⟩ := ih result distinct
          exact ⟨kept, fun row inside => (members row inside).imp_right (List.mem_cons_of_mem _)⟩
        · next fresh =>
            have longer : ((result ++ [candidate]).map id).Nodup := by
              rw [List.map_append, List.nodup_append]
              refine ⟨distinct, List.nodup_singleton _, ?_⟩
              intro value old other new same
              rw [List.map_singleton, List.mem_singleton] at new
              exact fresh (.inr (new ▸ same ▸ old))
            obtain ⟨kept, members⟩ := ih _ longer
            refine ⟨kept, fun row inside => ?_⟩
            rcases members row inside with early | later
            · rcases List.mem_append.mp early with old | new
              · exact .inl old
              · exact .inr (List.mem_singleton.mp new ▸ List.mem_cons_self ..)
            · exact .inr (List.mem_cons_of_mem _ later)
  have first : ((primary.take limit).map id).Nodup := once.sublist ((List.take_sublist ..).map _)
  rw [appendDeduplicated]
  split
  · exact ⟨first, fun row inside => .inl (List.mem_of_mem_take inside)⟩
  · obtain ⟨kept, members⟩ := whole fallback _ first
    exact ⟨kept, fun row inside => (members row inside).imp_left List.mem_of_mem_take⟩

end Page

section Serves

variable {Number : Type} {numbers : JsNumbers Number} {owner : PgText} {table : MemoryTable numbers}

theorem string_valid {text : JsString} (valid : isPostgreSqlText text = true) :
    string text = .ok ⟨text, valid⟩ := dif_pos valid

theorem mapM_string {texts : List JsString} (valid : ∀ text ∈ texts, isPostgreSqlText text = true) :
    ∃ stored : List PgText, texts.mapM string = .ok stored ∧ stored.map Subtype.val = texts := by
  induction texts with
  | nil => exact ⟨[], rfl, rfl⟩
  | cons text texts ih =>
      obtain ⟨rest, stored, same⟩ := ih fun other inside => valid other (List.mem_cons_of_mem _ inside)
      refine ⟨⟨text, valid text (List.mem_cons_self ..)⟩ :: rest, ?_, congrArg (text :: ·) same⟩
      rw [List.mapM_cons, string_valid, stored]
      rfl

theorem mem_eligible {entry : MemoryEntry numbers} : entry ∈ eligible owner none table ↔
    entry ∈ table.entries ∧ entry.2.projectId = owner ∧ entry.2.archivedAt = none := by
  simp [eligible]

variable (owner table) in
/-- A page holds active memories of the owner, each of them once. -/
theorem searchPromoted_page (engine : MemorySearch numbers) {query : JsString}
    (valid : isPostgreSqlText query = true) {limit : Number} {bound : Nat}
    (accepted : searchLimit numbers limit = .ok bound) :
    ∃ page, searchPromoted engine owner query limit none table = .ok page ∧ (page.map Prod.fst).Nodup ∧
      ∀ entry ∈ page, entry ∈ eligible owner none table := by
  rw [searchPromoted, string_valid valid, accepted]
  let rows := eligible owner none table
  let primary := ((rows.filter (engine.matchesText query)).insertionSort fun first second =>
    engine.textBefore query first second).take bound
  let fallback := ((rows.filter fun entry =>
    entry.1 ∉ primary.map Prod.fst && engine.matchesFallback query entry).insertionSort
      fun first second => engine.fallbackBefore query first second).take (bound - primary.length)
  have looked : ∀ result, result = (if bound = 0 ∨ (trim query).isEmpty ∨ engine.normalizesToEmpty query
      then Except.ok [] else .ok (appendDeduplicated Prod.fst primary fallback bound) :
        Except PromotionFailure (List (MemoryEntry numbers))) →
      ∃ page, result = .ok page ∧ (page.map Prod.fst).Nodup ∧ ∀ entry ∈ page, entry ∈ rows := by
    rintro _ rfl
    split
    · exact ⟨[], rfl, List.nodup_nil, fun _ outside => (List.not_mem_nil outside).elim⟩
    · have primaryOnce : (primary.map Prod.fst).Nodup := by
        have kept : ((rows.filter (engine.matchesText query)).map Prod.fst).Nodup :=
          table.distinct.sublist ((List.filter_sublist.trans List.filter_sublist).map _)
        have ordered := ((List.perm_insertionSort (fun first second =>
          engine.textBefore query first second = true) (rows.filter (engine.matchesText query))).map
            Prod.fst).nodup_iff.mpr kept
        exact ordered.sublist ((List.take_sublist ..).map _)
      obtain ⟨once, members⟩ := appendDeduplicated_spec primaryOnce fallback bound
      refine ⟨_, rfl, once, fun entry inside => ?_⟩
      rcases members entry inside with early | late
      · exact List.mem_of_mem_filter ((List.perm_insertionSort _ _).mem_iff.mp (List.mem_of_mem_take early))
      · exact List.mem_of_mem_filter ((List.perm_insertionSort _ _).mem_iff.mp (List.mem_of_mem_take late))
  apply looked
  show (if _ then _ else _) = _
  split <;> rfl

variable (owner table) in
/-- The exact look-up finds an active memory of the owner when there is one. -/
theorem findExactContent_found {content : JsString} (valid : isPostgreSqlText content = true) :
    ∃ found, findExactContent owner content none table = .ok found ∧
      (∀ entry, found = some entry → entry ∈ eligible owner none table ∧ entry.2.content.1 = content) ∧
      (found = none → ∀ entry ∈ eligible owner none table, entry.2.content.1 ≠ content) := by
  let key : MemoryEntry numbers → _ := fun entry => toLex (entry.2.createdAt, entry.1.1.map UInt16.toNat)
  let rows := (eligible owner none table).filter fun entry => entry.2.content = ⟨content, valid⟩
  have ordered : (sortedBy key rows).Perm rows := SortedBy.perm rows
  have rows_iff : ∀ entry, entry ∈ rows ↔
      entry ∈ eligible owner none table ∧ entry.2.content.1 = content := by
    intro entry
    simp only [rows, List.mem_filter, decide_eq_true_eq, Subtype.ext_iff]
  refine ⟨(sortedBy key rows).getLast?, ?_, ?_, ?_⟩
  · rw [findExactContent, string_valid valid]
    rfl
  · intro entry last
    exact (rows_iff entry).mp (ordered.mem_iff.mp (List.mem_of_getLast? last))
  · intro none entry inside same
    rw [List.getLast?_eq_none_iff] at none
    have member := ordered.mem_iff.mpr ((rows_iff entry).mpr ⟨inside, same⟩)
    rw [none] at member
    exact List.not_mem_nil member

/-- An insertion that succeeds adds one active memory of the owner with the content. -/
theorem insert_added {id : MemoryId} {now : Int} {memory : PromotedInsert Number} {inserted : JsString}
    {later : MemoryTable numbers} (done : insert owner id now memory table = .ok (inserted, later)) :
    ∃ row, later.entries = table.entries ++ [(id, row)] ∧ row.projectId = owner ∧
      row.content.1 = memory.content ∧ row.archivedAt = none := by
  rw [insert] at done
  obtain ⟨content, checked, done⟩ := Except.bind_eq_ok.mp done
  obtain ⟨tags, _, done⟩ := Except.bind_eq_ok.mp done
  obtain ⟨source, _, done⟩ := Except.bind_eq_ok.mp done
  obtain ⟨session, _, done⟩ := Except.bind_eq_ok.mp done
  obtain ⟨depth, _, done⟩ := Except.bind_eq_ok.mp done
  obtain ⟨confidence, _, done⟩ := Except.bind_eq_ok.mp done
  obtain ⟨stored, valid, nonempty⟩ := Except.bind_eq_ok.mp checked
  have same : content.1 = memory.content := by
    rw [string] at valid
    split at valid
    · cases valid
      split at nonempty
      · cases nonempty
      · cases nonempty
        rfl
    · cases valid
  split at done
  · next after added =>
      cases done
      exact ⟨_, (KeyedTable.insert?_eq_some.mp added).2, rfl, same, rfl⟩
  · cases done

variable {engine : MemorySearch numbers} {input : DedupInsertInput Number} {id : MemoryId} {now : Int}

/-- An input whose merge the repositories accept. -/
structure Accepts (numbers : JsNumbers Number) (input : DedupInsertInput Number) : Prop where
  limit : ∃ bound, searchLimit numbers input.dedupCandidateLimit = .ok bound
  tags : ∀ tag ∈ input.tags, isPostgreSqlText tag = true
  confidence : isConfidence numbers input.confidence = true

/-- The repositories serve a decision for an owner. -/
theorem postgreSql_serves (backend : input.backend = .postgresql) (scope : input.candidateScope = .owner)
    (valid : isPostgreSqlText input.content = true) (accepts : Accepts numbers input) :
    Serves numbers (postgreSqlRepositories engine owner id now) ownerMemories KeyedTable.entries input owner
      table := by
  have source : candidateSource input = none := by
    rw [candidateSource, if_pos ⟨scope, backend⟩]
  constructor
  · rfl
  · obtain ⟨bound, accepted⟩ := accepts.limit
    obtain ⟨page, searched, once, members⟩ := searchPromoted_page owner table engine valid accepted
    refine ⟨page, ?_, ?_, ?_⟩
    · rw [source]
      show (searchPromoted engine owner input.content input.dedupCandidateLimit none table).map _ = _
      rw [searched]
      rfl
    · have texts := once.map Subtype.val_injective
      rw [List.map_map] at texts
      exact texts
    · intro entry listed
      obtain ⟨inside, owned, active⟩ := mem_eligible.mp (members entry listed)
      exact ⟨inside, fun content => ⟨Option.isNone_iff_eq_none.mpr active, owned, content⟩⟩
  · obtain ⟨found, looked, exact, missing⟩ := findExactContent_found owner table valid
    refine ⟨found, ?_, ?_, ?_⟩
    · rw [source]
      show (findExactContent owner input.content none table).map _ = _
      rw [looked]
      rfl
    · intro entry known
      obtain ⟨eligible, content⟩ := exact entry known
      obtain ⟨inside, owned, active⟩ := mem_eligible.mp eligible
      exact ⟨inside, Option.isNone_iff_eq_none.mpr active, owned, content⟩
    · intro none entry inside holds
      exact missing none entry (mem_eligible.mpr
        ⟨inside, holds.scope, Option.isNone_iff_eq_none.mp holds.active⟩) holds.content
  · intro entry inside holds
    let memory : PromotedCandidate Number := toCandidate entry
    have confident : isConfidence numbers (mergedConfidence numbers input memory) = true := by
      rw [mergedConfidence, maxNumber]
      split
      · exact entry.2.confidence.2
      · exact accepts.confidence
    have storable : ∀ tag ∈ mergedTags input memory, isPostgreSqlText tag = true := by
      intro tag listed
      rw [mergedTags, (dedupeOrdered_spec _).2, List.mem_append] at listed
      rcases listed with old | new
      · obtain ⟨stored, _, rfl⟩ := List.mem_map.mp old
        exact stored.2
      · exact accepts.tags tag new
    obtain ⟨tags, stored, same⟩ := mapM_string storable
    let change : MemoryRow numbers → MemoryRow numbers := fun row => { row with
      confidence := ⟨mergedConfidence numbers input memory, confident⟩
      tags }
    refine ⟨updateMemory owner entry.1 change table, (entry.1, change entry.2), ?_, ?_, ?_, rfl, rfl⟩
    · show update owner entry.1.1 _ _ table = _
      rw [update, optionalMemoryUuid_self]
      have checked : checkConfidence numbers (mergedConfidence numbers input memory) =
          .ok ⟨mergedConfidence numbers input memory, confident⟩ := dif_pos confident
      show (checkConfidence numbers (mergedConfidence numbers input memory) >>= fun confidence =>
        (mergedTags input memory).mapM string >>= fun tags => _) = _
      rw [checked]
      show ((mergedTags input memory).mapM string >>= fun tags => _) = _
      rw [stored]
      rfl
    · apply List.map_congr_left
      intro other member
      by_cases here : other.1 = entry.1
      · cases List.inj_on_of_nodup_map table.distinct member inside here
        have owned : entry.2.projectId = owner := holds.scope
        show (entry.1, if entry.1 = entry.1 then (if entry.2.projectId = owner then change entry.2
          else entry.2) else entry.2) = _
        rw [if_pos rfl, if_pos owned]
        exact (if_pos rfl).symm
      · show (other.1, if other.1 = entry.1 then _ else other.2) = _
        rw [if_neg here]
        exact (if_neg fun same => here (Subtype.ext same)).symm
    · exact congrArg (fun tags => ({ memory with
        tags, confidence := mergedConfidence numbers input memory } : PromotedCandidate Number)) same

end Serves

end Lcm.PostgreSql
