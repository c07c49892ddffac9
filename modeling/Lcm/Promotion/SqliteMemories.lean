import Lcm.Promotion.Convergence
import Lcm.Store.PromotedEffects

namespace Lcm.Promotion
open Text Store Savepoints

section Repositories

variable {Number : Type} (numbers : JsNumbers Number) (engine : PromotedEngine Number)
  (serializePromotedMetadata : Json Number → Except PromotedFailure JsString) (fts5Available : Bool)

/-- What becomes of a failure in an operation of a repository. -/
def storageFailure {Failure Value : Type} (result : Except Failure Value) :
    Except PromotionFailure Value :=
  result.mapError fun _ => .storage "STORAGE_OPERATION_FAILED"

def toCandidate (result : SearchResult Number) : PromotedCandidate Number :=
  ⟨result.id, result.content, result.tags, result.confidence⟩

/-- The repositories of a transaction of a project, with the next random id and the time. -/
def sqliteRepositories (projectId id : JsString) (now : Timestamp) :
    PromotedRepositories (PromotedTables Number) Number where
  serializeDecision _ := .ok ()
  searchPromoted query limit sourceProjectId tables :=
    (storageFailure (search numbers engine fts5Available query limit sourceProjectId tables)).map
      (·.map toCandidate)
  findExactContent content sourceProjectId tables :=
    (storageFailure (findExactContent numbers content (sourceProjectId.getD projectId) tables)).map
      (·.map toCandidate)
  insert memory tables :=
    storageFailure (undisturbed (Store.insert numbers serializePromotedMetadata fts5Available id now
      { content := memory.content
        tags := some memory.tags
        metadata := none
        sourceSummaryId := none
        projectId := memory.sourceProjectId.getD projectId
        sessionId := memory.sessionId
        depth := some memory.depth
        confidence := some memory.confidence }) tables)
  update id confidence tags tables :=
    storageFailure (undisturbed (Store.update numbers serializePromotedMetadata fts5Available id
      ⟨none, some confidence, some tags, none⟩) tables)
  archive id tables := storageFailure (undisturbed (Store.archive fts5Available id now) tables)

/-- A memory belongs to its source project. -/
def sqliteMemories : MemoryRows (PromotedRow Number) Number JsString where
  candidate row := ⟨row.id, toWellFormed row.content, parsePromotedTags numbers row.tags, row.confidence⟩
  isActive row := row.archivedAt.isNone
  scope row := toWellFormed row.projectId

end Repositories

section Serves

variable {Number : Type} {numbers : JsNumbers Number} {engine : PromotedEngine Number}
  {serializePromotedMetadata : Json Number → Except PromotedFailure JsString} {fts5Available : Bool}
  {projectId id : JsString} {now : Timestamp} {tables : PromotedTables Number}
  {input : DedupInsertInput Number}

/-- Text without a lone surrogate is stored as it is. -/
theorem toWellFormed_eq {text : JsString} (formed : containsMalformedUtf16 text = false) :
    toWellFormed text = text := by
  induction text using toWellFormed.induct with
  | case1 => rfl
  | case2 unit surrogate =>
      rw [containsMalformedUtf16] at formed
      rw [formed] at surrogate
      cases surrogate
  | case3 unit plain => rw [toWellFormed, if_neg plain]
  | case4 unit following rest high low ih =>
      rw [containsMalformedUtf16, if_pos high, low, Bool.not_true, Bool.false_or] at formed
      rw [toWellFormed, if_pos high, if_pos low, ih formed]
  | case5 unit following rest high other ih =>
      rw [containsMalformedUtf16, if_pos high, Bool.eq_false_iff.mpr other] at formed
      cases formed
  | case6 unit following rest other low ih =>
      rw [containsMalformedUtf16, if_neg other, low] at formed
      cases formed
  | case7 unit following rest high low ih =>
      rw [containsMalformedUtf16, if_neg high, Bool.eq_false_iff.mpr low, Bool.false_or] at formed
      rw [toWellFormed, if_neg high, if_neg low, ih formed]

theorem updateRow_rows (tables : PromotedTables Number) (id : JsString)
    (change : PromotedRow Number → PromotedRow Number) (named : ∀ row, (change row).id = row.id) :
    (tables.updateRow id change).promoted.rows =
      tables.promoted.rows.map fun row => if row.id = id then change row else row := by
  simp only [KeyedTable.rows, PromotedTables.updateRow, KeyedTable.mapRows, List.map_map]
  apply List.map_congr_left
  intro entry _
  by_cases here : entry.2.id = id
  · have same : ({ change entry.2 with id } : PromotedRow Number) = change entry.2 := by
      rw [← here, ← named]
    simp [here, same]
  · simp [here]

/-- The project whose memories a decision is about. -/
def sourceScope (projectId : JsString) (sourceProjectId : Option JsString) : JsString :=
  toWellFormed (sourceProjectId.getD projectId)

/-- No memory of another project with the content passes the filter of the search. -/
def FiltersScope (projectId : JsString) (sourceProjectId : Option JsString) (content : JsString)
    (tables : PromotedTables Number) : Prop :=
  (∃ source, sourceProjectId = some source ∧ source ≠ []) ∨
    ∀ row ∈ tables.promoted.rows, row.archivedAt = none → toWellFormed row.content = content →
      toWellFormed row.projectId = sourceScope projectId sourceProjectId

theorem FiltersScope.scope (filters : FiltersScope projectId input.sourceProjectId input.content tables)
    {row : PromotedRow Number} (inside : row ∈ tables.promoted.rows) (active : row.archivedAt = none)
    (content : toWellFormed row.content = input.content)
    (passes : passesProjectFilter input.sourceProjectId row = true) :
    toWellFormed row.projectId = sourceScope projectId input.sourceProjectId := by
  rcases filters with ⟨source, given, named⟩ | others
  · rw [given] at passes ⊢
    have same : source.isEmpty = false := by
      cases source with
      | nil => exact (named rfl).elim
      | cons => rfl
    rw [passesProjectFilter, Option.all_some, same, Bool.false_or] at passes
    exact of_decide_eq_true passes
  · exact others row inside active content

/-- The repositories serve a decision whose content is stored as it is and whose search is held to its
scope. -/
theorem sqlite_serves (readable : tables.IsReadable) (backend : input.backend = .sqlite)
    (accepted : AcceptsLimit numbers fts5Available input.dedupCandidateLimit)
    (formed : containsMalformedUtf16 input.content = false)
    (filters : FiltersScope projectId input.sourceProjectId input.content tables) :
    Serves numbers
      (sqliteRepositories numbers engine serializePromotedMetadata fts5Available projectId id now)
      (sqliteMemories numbers) (·.promoted.rows) input (sourceScope projectId input.sourceProjectId)
      tables := by
  have source : candidateSource input = input.sourceProjectId := by
    rw [candidateSource, backend, if_neg fun both => Backend.noConfusion both.2]
  have plain := toWellFormed_eq formed
  constructor
  · rfl
  · obtain ⟨page, searched, once, members⟩ := search_readable engine readable input.content accepted
      input.sourceProjectId
    refine ⟨page, ?_, once, ?_⟩
    · rw [source]
      show (storageFailure (search numbers engine fts5Available input.content input.dedupCandidateLimit
        input.sourceProjectId tables)).map _ = _
      rw [searched]
      exact congrArg Except.ok List.map_map
    · intro row listed
      obtain ⟨inside, active, passes⟩ := members row listed
      refine ⟨inside, fun content => ⟨Option.isNone_iff_eq_none.mpr active, ?_, content⟩⟩
      exact filters.scope inside active content passes
  · obtain ⟨found, looked, exact, missing⟩ := findExactContent_readable numbers readable input.content
      (input.sourceProjectId.getD projectId)
    refine ⟨found, ?_, ?_, ?_⟩
    · rw [source]
      show (storageFailure (findExactContent numbers input.content
        (input.sourceProjectId.getD projectId) tables)).map _ = _
      rw [looked]
      cases found <;> rfl
    · intro row known
      obtain ⟨inside, active, content, scope⟩ := exact row known
      exact ⟨inside, Option.isNone_iff_eq_none.mpr active, of_decide_eq_true scope, content.trans plain⟩
    · intro none row inside holds
      exact missing none row inside ⟨Option.isNone_iff_eq_none.mp holds.active,
        Eq.trans holds.content plain.symm, decide_eq_true holds.scope⟩
  · intro row inside holds
    obtain ⟨⟨rowid, stored⟩, entry, rfl⟩ := List.mem_map.mp inside
    have found : tables.find? stored.id = some (rowid, stored) :=
      PromotedTables.find?_eq_some.mpr ⟨KeyedTable.get?_eq_some.mpr entry, rfl⟩
    obtain ⟨later, updated, changed⟩ := update_effect numbers serializePromotedMetadata fts5Available found
      (readable stored inside)
      (mergedConfidence numbers input ((sqliteMemories numbers).candidate stored))
      (mergedTags input ((sqliteMemories numbers).candidate stored))
    let change : PromotedRow Number → PromotedRow Number := fun row => { row with
      confidence := mergedConfidence numbers input ((sqliteMemories numbers).candidate stored)
      tags := stringifyTags numbers (mergedTags input ((sqliteMemories numbers).candidate stored)) }
    refine ⟨later, change stored, congrArg storageFailure updated, ?_, ?_, rfl, rfl⟩
    · have rows : later.promoted.rows = tables.promoted.rows.map fun row =>
          if row.id = stored.id then change row else row :=
        (congrArg KeyedTable.rows changed).trans (updateRow_rows tables stored.id change fun _ => rfl)
      refine rows.trans ?_
      apply List.map_congr_left
      intro other member
      by_cases same : other.id = stored.id
      · cases List.inj_on_of_nodup_map tables.unique member inside same
        rfl
      · rw [if_neg same]
        exact (if_neg same).symm
    · exact congrArg (fun tags => ({ (sqliteMemories numbers).candidate stored with
        tags, confidence := (change stored).confidence } : PromotedCandidate Number))
          (parsePromotedTags_stringifyTags numbers _)

end Serves

end Lcm.Promotion
