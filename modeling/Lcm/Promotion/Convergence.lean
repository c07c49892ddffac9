import Lcm.Library.Except
import Lcm.Library.KeyedTable
import Lcm.Promotion.Deduplication

namespace Lcm.Promotion
open Text

/-- How the memories of a store are read. In one scope a content is to be active once. -/
structure MemoryRows (Row Number Scope : Type) where
  candidate : Row → PromotedCandidate Number
  isActive : Row → Bool
  scope : Row → Scope

namespace MemoryRows

variable {Row Number Scope : Type} (view : MemoryRows Row Number Scope)

def id (row : Row) : JsString := (view.candidate row).id

/-- An active memory of a content in a scope. -/
structure Holds (scope : Scope) (content : JsString) (row : Row) : Prop where
  active : view.isActive row = true
  scope : view.scope row = scope
  content : (view.candidate row).content = content

/-- The ids are distinct, and no content is active twice in a scope. -/
structure AtMostOne (rows : List Row) : Prop where
  distinct : (rows.map view.id).Nodup
  once : ∀ first ∈ rows, ∀ second ∈ rows, ∀ scope content,
    view.Holds scope content first → view.Holds scope content second → view.id first = view.id second

/-- The rows with one in the place of the memory that has its id. -/
def replaceRow (revised : Row) (rows : List Row) : List Row :=
  rows.map fun row => if view.id row = view.id revised then revised else row

end MemoryRows

namespace MemoryRows.AtMostOne

variable {Row Number Scope : Type} {view : MemoryRows Row Number Scope} {rows : List Row}

theorem same (one : view.AtMostOne rows) {first second : Row} (firstIn : first ∈ rows)
    (secondIn : second ∈ rows) {scope : Scope} {content : JsString} (holds : view.Holds scope content first)
    (also : view.Holds scope content second) : first = second :=
  List.inj_on_of_nodup_map one.distinct firstIn secondIn (one.once _ firstIn _ secondIn _ _ holds also)

theorem sublist (one : view.AtMostOne rows) {kept : List Row} (part : kept.Sublist rows) :
    view.AtMostOne kept :=
  ⟨one.distinct.sublist (part.map _), fun first firstIn second secondIn =>
    one.once first (part.subset firstIn) second (part.subset secondIn)⟩

/-- A change that makes no other memory active leaves each content active once at most. -/
theorem map (one : view.AtMostOne rows) {change : Row → Row}
    (named : ∀ row ∈ rows, view.id (change row) = view.id row)
    (held : ∀ row ∈ rows, ∀ scope content, view.Holds scope content (change row) →
      view.Holds scope content row) : view.AtMostOne (rows.map change) := by
  constructor
  · have same : rows.map (view.id ∘ change) = rows.map view.id := List.map_congr_left named
    rw [List.map_map, same]
    exact one.distinct
  · intro first firstIn second secondIn scope content holds also
    obtain ⟨first, firstStored, rfl⟩ := List.mem_map.mp firstIn
    obtain ⟨second, secondStored, rfl⟩ := List.mem_map.mp secondIn
    rw [named first firstStored, named second secondStored]
    exact one.once first firstStored second secondStored scope content
      (held _ firstStored _ _ holds) (held _ secondStored _ _ also)

/-- A memory that is replaced may be revised, but not be made active with another content. -/
theorem replaceRow (one : view.AtMostOne rows) {row revised : Row} (inside : row ∈ rows)
    (named : view.id revised = view.id row)
    (held : ∀ scope content, view.Holds scope content revised → view.Holds scope content row) :
    view.AtMostOne (view.replaceRow revised rows) := by
  apply one.map
  · intro other _
    split
    · next same => exact same.symm
    · rfl
  · intro other stored scope content holds
    split at holds
    · next same =>
        rw [List.inj_on_of_nodup_map one.distinct stored inside (same.trans named)]
        exact held scope content holds
    · exact holds

/-- A new memory of a content that is not active leaves each content active once at most. -/
theorem append (one : view.AtMostOne rows) {row : Row} (fresh : ((rows ++ [row]).map view.id).Nodup)
    (new : ∀ scope content, view.Holds scope content row → ∀ other ∈ rows, ¬ view.Holds scope content other) :
    view.AtMostOne (rows ++ [row]) := by
  refine ⟨fresh, ?_⟩
  intro first firstIn second secondIn scope content holds also
  rcases List.mem_append.mp firstIn with firstOld | firstNew
  · rcases List.mem_append.mp secondIn with secondOld | secondNew
    · exact one.once first firstOld second secondOld scope content holds also
    · rw [List.mem_singleton.mp secondNew] at also
      exact (new scope content also first firstOld holds).elim
  · rcases List.mem_append.mp secondIn with secondOld | secondNew
    · rw [List.mem_singleton.mp firstNew] at holds
      exact (new scope content holds second secondOld also).elim
    · rw [List.mem_singleton.mp firstNew, List.mem_singleton.mp secondNew]

end MemoryRows.AtMostOne

/-- The source project that both look-ups of a decision name. -/
def candidateSource {Number : Type} (input : DedupInsertInput Number) : Option JsString :=
  if input.candidateScope = .owner ∧ input.backend = .postgresql then none else input.sourceProjectId

section Decision

variable {Store Row Number Scope : Type} {numbers : JsNumbers Number}
  {repositories : PromotedRepositories Store Number} {view : MemoryRows Row Number Scope}

/-- What a merge leaves of a memory: the greater confidence, and all tags once, those of the memory first. -/
def mergedConfidence (numbers : JsNumbers Number) (input : DedupInsertInput Number)
    (memory : PromotedCandidate Number) : Number := maxNumber numbers input.confidence memory.confidence

def mergedTags (input : DedupInsertInput Number) (memory : PromotedCandidate Number) : List JsString :=
  dedupeOrdered (memory.tags ++ input.tags)

/-- A memory that a decision merges into keeps its place, and takes the tags and the confidence. -/
structure Merges (numbers : JsNumbers Number) (view : MemoryRows Row Number Scope)
    (input : DedupInsertInput Number) (row revised : Row) : Prop where
  candidate : view.candidate revised = { view.candidate row with
    tags := mergedTags input (view.candidate row)
    confidence := mergedConfidence numbers input (view.candidate row) }
  active : view.isActive revised = view.isActive row
  scope : view.scope revised = view.scope row

/-- What the repositories do for a decision on a store: the page and the exact look-up find memories of
the content in the scope only, the look-up finds one if there is one, and its update is performed. -/
structure Serves (numbers : JsNumbers Number) (repositories : PromotedRepositories Store Number)
    (view : MemoryRows Row Number Scope) (rows : Store → List Row) (input : DedupInsertInput Number)
    (scope : Scope) (store : Store) : Prop where
  serializes : repositories.serializeDecision store = .ok ()
  page : ∃ page : List Row,
    repositories.searchPromoted input.content input.dedupCandidateLimit (candidateSource input) store =
        .ok (page.map view.candidate) ∧ (page.map view.id).Nodup ∧
      ∀ row ∈ page, row ∈ rows store ∧
        ((view.candidate row).content = input.content → view.Holds scope input.content row)
  exact : ∃ found : Option Row,
    repositories.findExactContent input.content (candidateSource input) store =
        .ok (found.map view.candidate) ∧
      (∀ row, found = some row → row ∈ rows store ∧ view.Holds scope input.content row) ∧
      (found = none → ∀ row ∈ rows store, ¬ view.Holds scope input.content row)
  update : ∀ row ∈ rows store, view.Holds scope input.content row →
    ∃ later revised, repositories.update (view.id row) (mergedConfidence numbers input (view.candidate row))
        (mergedTags input (view.candidate row)) store = .ok ((), later) ∧
      rows later = view.replaceRow revised (rows store) ∧ Merges numbers view input row revised

variable {rows : Store → List Row} {input : DedupInsertInput Number} {scope : Scope} {store : Store}

/-- What the two look-ups find together. -/
def combinedCandidates (view : MemoryRows Row Number Scope) (found : Option Row) (page : List Row) :
    List (PromotedCandidate Number) :=
  (found.map view.candidate).toList.filter (fun candidate =>
    candidate.id ∉ (page.map view.candidate).map (·.id)) ++ page.map view.candidate

/-- The candidates of the content are the one active memory of it, wherever it was found. -/
theorem duplicates_single (one : view.AtMostOne (rows store)) {row : Row} (inside : row ∈ rows store)
    (holds : view.Holds scope input.content row) {page : List Row} (once : (page.map view.id).Nodup)
    (found : ∀ row ∈ page, row ∈ rows store ∧
      ((view.candidate row).content = input.content → view.Holds scope input.content row)) :
    (combinedCandidates view (some row) page).filter (isDuplicateCandidate input.content) =
      [view.candidate row] := by
  have only : ∀ other ∈ page, (view.candidate other).content = input.content → other = row := by
    intro other listed same
    obtain ⟨stored, also⟩ := found other listed
    exact one.same stored inside (also same) holds
  have ids : (page.map view.candidate).map (·.id) = page.map view.id := List.map_map
  rw [combinedCandidates, ids, List.filter_append, List.filter_map]
  by_cases listed : row ∈ page
  · have same : page.filter (isDuplicateCandidate input.content ∘ view.candidate) =
        page.filter (fun other => view.id other = view.id row) := by
      apply List.filter_congr
      intro other member
      simp only [Function.comp_apply, isDuplicateCandidate, decide_eq_decide]
      constructor
      · intro content
        rw [only other member content]
      · intro named
        rw [List.inj_on_of_nodup_map once member listed named, holds.content]
    have known : view.id row ∈ page.map view.id := List.mem_map_of_mem listed
    have again : (Option.map view.candidate (some row)).toList.filter
        (fun candidate => candidate.id ∉ page.map view.id) = [] := by
      rw [List.filter_eq_nil_iff]
      intro candidate member
      rw [Option.map_some, Option.toList_some, List.mem_singleton] at member
      rw [member]
      exact fun fresh => of_decide_eq_true fresh known
    rw [again, same, filter_distinct_keys once listed]
    rfl
  · have none : page.filter (isDuplicateCandidate input.content ∘ view.candidate) = [] := by
      rw [List.filter_eq_nil_iff]
      intro other member same
      exact listed (only other member (of_decide_eq_true same) ▸ member)
    have unknown : view.id row ∉ page.map view.id := by
      intro known
      obtain ⟨other, member, named⟩ := List.mem_map.mp known
      exact listed (List.inj_on_of_nodup_map one.distinct (found other member).1 inside named ▸ member)
    have kept : (Option.map view.candidate (some row)).toList.filter
        (fun candidate => candidate.id ∉ page.map view.id) = [view.candidate row] :=
      List.filter_cons_of_pos (decide_eq_true unknown)
    rw [kept, none]
    simp [isDuplicateCandidate, holds.content]

/-- Without an active memory of the content the look-ups find none. -/
theorem duplicates_none {page : List Row}
    (found : ∀ row ∈ page, row ∈ rows store ∧
      ((view.candidate row).content = input.content → view.Holds scope input.content row))
    (missing : ∀ row ∈ rows store, ¬ view.Holds scope input.content row) :
    (combinedCandidates view none page).filter (isDuplicateCandidate input.content) = [] := by
  rw [List.filter_eq_nil_iff]
  intro candidate listed same
  obtain ⟨row, member, rfl⟩ := List.mem_map.mp listed
  obtain ⟨stored, holds⟩ := found row member
  exact missing row stored (holds (of_decide_eq_true same))

theorem StateT.bind_of_ok {State Error First Second : Type} {first : StateT State (Except Error) First}
    {next : First → StateT State (Except Error) Second} {state later : State} {value : First}
    (done : first state = .ok (value, later)) : (first >>= next) state = next value later := by
  show (first state >>= fun reached => next reached.1 reached.2) = _
  rw [done]
  rfl

/-- A decision after its two look-ups. -/
theorem decision_looked (serves : Serves numbers repositories view rows input scope store)
    (owner : input.candidateScope = .owner) (existingOnly : Bool) :
    ∃ (found : Option Row) (page : List Row),
      (page.map view.id).Nodup ∧
      (∀ row ∈ page, row ∈ rows store ∧
        ((view.candidate row).content = input.content → view.Holds scope input.content row)) ∧
      (∀ row, found = some row → row ∈ rows store ∧ view.Holds scope input.content row) ∧
      (found = none → ∀ row ∈ rows store, ¬ view.Holds scope input.content row) ∧
      deduplicateAndInsertInRepositories numbers repositories input existingOnly store =
        match (combinedCandidates view found page).filter (isDuplicateCandidate input.content) with
        | [] =>
            if existingOnly then .ok (none, store)
            else (repositories.insert ⟨input.content, input.tags, input.sourceProjectId, input.sessionId,
              input.depth, input.newEntryConfidence.getD input.confidence⟩ store).map
                fun (id, later) => (some id, later)
        | canonical :: others =>
            (do
              repositories.update canonical.id
                ((canonical :: others).foldl (fun most duplicate =>
                  maxNumber numbers most duplicate.confidence) input.confidence)
                (dedupeOrdered (canonical.tags ++ others.flatMap (·.tags) ++ input.tags))
              others.forM fun duplicate => repositories.archive duplicate.id
              pure (some canonical.id) : StateT Store (Except PromotionFailure) (Option JsString)) store := by
  obtain ⟨page, searched, once, members⟩ := serves.page
  obtain ⟨found, looked, holds, missing⟩ := serves.exact
  refine ⟨found, page, once, members, holds, missing, ?_⟩
  have serialized : reading repositories.serializeDecision store = .ok ((), store) := by
    rw [reading, serves.serializes]
    rfl
  have paged : reading (repositories.searchPromoted input.content input.dedupCandidateLimit
      (candidateSource input)) store = .ok (page.map view.candidate, store) := by
    rw [reading, searched]
    rfl
  have known : reading (repositories.findExactContent input.content (candidateSource input)) store =
      .ok (found.map view.candidate, store) := by
    rw [reading, looked]
    rfl
  have source : (if CandidateScope.owner = .owner ∧ input.backend = .postgresql then none
      else input.sourceProjectId) = candidateSource input := by
    rw [candidateSource, owner]
  rw [deduplicateAndInsertInRepositories, owner]
  dsimp only
  rw [source, StateT.bind_of_ok serialized, StateT.bind_of_ok paged, StateT.bind_of_ok known]
  have combined : (found.map view.candidate).toList.filter (fun candidate =>
      candidate.id ∉ (page.map view.candidate).map (·.id)) ++ page.map view.candidate =
        combinedCandidates view found page := rfl
  rw [combined]
  cases (combinedCandidates view found page).filter (isDuplicateCandidate input.content) with
  | nil =>
      dsimp only
      split
      · rfl
      · show (repositories.insert _ store >>= fun reached => pure (some reached.1, reached.2)) = _
        cases repositories.insert _ store <;> rfl
  | cons canonical others => rfl

/-- A decision on the content of an active memory merges into that memory. -/
theorem decision_merges (serves : Serves numbers repositories view rows input scope store)
    (one : view.AtMostOne (rows store)) (owner : input.candidateScope = .owner) (existingOnly : Bool)
    {row : Row} (inside : row ∈ rows store) (holds : view.Holds scope input.content row) :
    ∃ later revised, deduplicateAndInsertInRepositories numbers repositories input existingOnly store =
        .ok (some (view.id row), later) ∧
      rows later = view.replaceRow revised (rows store) ∧ Merges numbers view input row revised := by
  obtain ⟨found, page, once, members, exact, missing, decided⟩ :=
    decision_looked serves owner existingOnly
  cases found with
  | none => exact (missing rfl row inside holds).elim
  | some other =>
      obtain ⟨stored, also⟩ := exact other rfl
      cases one.same stored inside also holds
      rw [duplicates_single one inside holds once members] at decided
      obtain ⟨later, revised, updated, replaced, merges⟩ := serves.update row inside holds
      refine ⟨later, revised, decided.trans ?_, replaced, merges⟩
      have tags : dedupeOrdered ((view.candidate row).tags ++
          ([] : List (PromotedCandidate Number)).flatMap (·.tags) ++ input.tags) =
            mergedTags input (view.candidate row) := by
        rw [List.flatMap_nil, List.append_nil, mergedTags]
      dsimp only
      rw [tags]
      exact StateT.bind_of_ok updated

/-- A decision on a content without an active memory inserts one at most. -/
theorem decision_misses (serves : Serves numbers repositories view rows input scope store)
    (owner : input.candidateScope = .owner) (existingOnly : Bool)
    (missing : ∀ row ∈ rows store, ¬ view.Holds scope input.content row) :
    deduplicateAndInsertInRepositories numbers repositories input existingOnly store =
      if existingOnly then .ok (none, store)
      else (repositories.insert ⟨input.content, input.tags, input.sourceProjectId, input.sessionId,
        input.depth, input.newEntryConfidence.getD input.confidence⟩ store).map
          fun (id, later) => (some id, later) := by
  obtain ⟨found, page, _, members, exact, _, decided⟩ := decision_looked serves owner existingOnly
  cases found with
  | some row => exact (missing row (exact row rfl).1 (exact row rfl).2).elim
  | none =>
      rw [duplicates_none members missing] at decided
      exact decided

end Decision

/-- Deduplication leaves each value once. -/
theorem dedupeOrdered_spec {Value : Type} [BEq Value] [LawfulBEq Value] (values : List Value) :
    (dedupeOrdered values).Nodup ∧ ∀ value, value ∈ dedupeOrdered values ↔ value ∈ values := by
  have whole : ∀ (rest ordered : List Value), ordered.Nodup →
      (rest.foldl (fun ordered value => if ordered.contains value then ordered else ordered ++ [value])
        ordered).Nodup ∧
      ∀ value, value ∈ rest.foldl (fun ordered value =>
        if ordered.contains value then ordered else ordered ++ [value]) ordered ↔
          value ∈ ordered ∨ value ∈ rest := by
    intro rest
    induction rest with
    | nil => exact fun ordered once => ⟨once, fun value => by simp⟩
    | cons first rest ih =>
        intro ordered once
        rw [List.foldl_cons]
        split
        · next known =>
            have known := List.contains_iff_mem.mp known
            refine ⟨(ih ordered once).1, fun value => ?_⟩
            rw [(ih ordered once).2, List.mem_cons]
            constructor
            · exact Or.imp_right .inr
            · rintro (old | rfl | later)
              · exact .inl old
              · exact .inl known
              · exact .inr later
        · next fresh =>
            have longer : (ordered ++ [first]).Nodup := by
              rw [List.nodup_append]
              refine ⟨once, List.nodup_singleton _, ?_⟩
              intro value old other new same
              rw [List.mem_singleton.mp new] at same
              exact fresh (List.contains_iff_mem.mpr (same ▸ old))
            refine ⟨(ih _ longer).1, fun value => ?_⟩
            rw [(ih _ longer).2, List.mem_append, List.mem_singleton, List.mem_cons]
            exact or_assoc
  obtain ⟨once, members⟩ := whole values [] List.nodup_nil
  refine ⟨once, fun value => ?_⟩
  rw [dedupeOrdered, members]
  simp

end Lcm.Promotion
