import Lcm.Library.StepSystem
import Lcm.PostgreSql.PromotedMemories
import Lcm.Promotion.SqliteMemories

namespace Lcm.Promotion
open Text Store Savepoints

/-- What a caller gives for a decision in the scope of the owner. -/
structure OwnerDecision (Number : Type) where
  content : JsString
  tags : List JsString
  sourceProjectId : Option JsString
  sessionId : Option JsString
  depth : Number
  confidence : Number
  newEntryConfidence : Option Number
  dedupCandidateLimit : Number
  existingOnly : Bool

def OwnerDecision.input {Number : Type} (decision : OwnerDecision Number) (backend : Backend) :
    DedupInsertInput Number where
  content := decision.content
  tags := decision.tags
  sourceProjectId := decision.sourceProjectId
  candidateScope := .owner
  backend
  sessionId := decision.sessionId
  depth := decision.depth
  confidence := decision.confidence
  newEntryConfidence := decision.newEntryConfidence
  dedupCandidateLimit := decision.dedupCandidateLimit

/-- A request to a store of memories, with the time, and with the id that an insertion takes. -/
inductive MemoryRequest (Number Id : Type) where
  | decide (decision : OwnerDecision Number) (id : Id) (now : Int)
  | archive (id : JsString) (now : Int)
  | deleteById (id : JsString)

section Decide

variable {Store Row Number Scope : Type}

/-- A decision in its own transaction, which is rolled back when the decision fails. -/
def decideMemory (numbers : JsNumbers Number) (repositories : PromotedRepositories Store Number)
    (input : DedupInsertInput Number) (existingOnly : Bool) (store : Store) :
    Except PromotionFailure (Option JsString) × Store :=
  match deduplicateAndInsertInRepositories numbers repositories input existingOnly store with
  | .ok (answer, later) => (.ok answer, later)
  | .error failure => (.error failure, store)

/-- What a decision is to do: on the content of an active memory it returns its id, raises its confidence
to the greater one and adds the tags that it lacks, and leaves the other memories; without one it changes
nothing if it may only confirm. -/
structure Decides (numbers : JsNumbers Number) (view : MemoryRows Row Number Scope)
    (rows : Store → List Row) (scope : Scope) (input : DedupInsertInput Number) (existingOnly : Bool)
    (before : Store) (answer : Except PromotionFailure (Option JsString)) (after : Store) : Prop where
  hit : ∀ row ∈ rows before, view.Holds scope input.content row →
    answer = .ok (some (view.id row)) ∧ ∃ revised, rows after = view.replaceRow revised (rows before) ∧
      view.id revised = view.id row ∧ view.Holds scope input.content revised ∧
      (view.candidate revised).tags.Nodup ∧
      (∀ tag, tag ∈ (view.candidate revised).tags ↔ tag ∈ (view.candidate row).tags ∨ tag ∈ input.tags) ∧
      (view.candidate revised).confidence =
        maxNumber numbers input.confidence (view.candidate row).confidence
  miss : existingOnly = true → (∀ row ∈ rows before, ¬ view.Holds scope input.content row) →
    after = before

variable {numbers : JsNumbers Number} {repositories : PromotedRepositories Store Number}
  {view : MemoryRows Row Number Scope} {rows : Store → List Row} {input : DedupInsertInput Number}
  {scope : Scope} {store : Store}

theorem Merges.held {row revised : Row} (merges : Merges numbers view input row revised) (scope : Scope)
    (content : JsString) : view.Holds scope content revised ↔ view.Holds scope content row := by
  constructor
  · rintro ⟨active, inScope, same⟩
    rw [merges.active] at active
    rw [merges.scope] at inScope
    rw [merges.candidate] at same
    exact ⟨active, inScope, same⟩
  · rintro ⟨active, inScope, same⟩
    refine ⟨merges.active.trans active, merges.scope.trans inScope, ?_⟩
    rw [merges.candidate]
    exact same

theorem Merges.id {row revised : Row} (merges : Merges numbers view input row revised) :
    view.id revised = view.id row := by
  rw [MemoryRows.id, merges.candidate]
  rfl

/-- A decision that the repositories serve does what it is to do, and an insertion is of a content that is
not active. -/
theorem decide_decides (serves : Serves numbers repositories view rows input scope store)
    (one : view.AtMostOne (rows store)) (owner : input.candidateScope = .owner) (existingOnly : Bool)
    {answer : Except PromotionFailure (Option JsString)} {after : Store}
    (decided : decideMemory numbers repositories input existingOnly store = (answer, after)) :
    Decides numbers view rows scope input existingOnly store answer after ∧
      (after = store ∨
        (∃ row ∈ rows store, ∃ revised, rows after = view.replaceRow revised (rows store) ∧
          Merges numbers view input row revised) ∨
        ((∀ row ∈ rows store, ¬ view.Holds scope input.content row) ∧
          ∃ id, repositories.insert ⟨input.content, input.tags, input.sourceProjectId, input.sessionId,
            input.depth, input.newEntryConfidence.getD input.confidence⟩ store = .ok (id, after))) := by
  by_cases active : ∃ row ∈ rows store, view.Holds scope input.content row
  · obtain ⟨row, inside, holds⟩ := active
    obtain ⟨later, revised, merged, replaced, merges⟩ :=
      decision_merges serves one owner existingOnly inside holds
    rw [decideMemory, merged] at decided
    cases decided
    refine ⟨⟨?_, fun _ missing => (missing row inside holds).elim⟩,
      .inr (.inl ⟨row, inside, revised, replaced, merges⟩)⟩
    intro other stored also
    cases one.same stored inside also holds
    refine ⟨rfl, revised, replaced, merges.id, (merges.held _ _).mpr holds, ?_⟩
    obtain ⟨once, members⟩ := dedupeOrdered_spec ((view.candidate row).tags ++ input.tags)
    rw [merges.candidate]
    exact ⟨once, fun tag => (members tag).trans List.mem_append, rfl⟩
  · have missing : ∀ row ∈ rows store, ¬ view.Holds scope input.content row :=
      fun row inside holds => active ⟨row, inside, holds⟩
    have missed := decision_misses serves owner existingOnly missing
    have same : existingOnly = true → after = store := by
      rintro rfl
      rw [decideMemory, missed] at decided
      cases decided
      rfl
    refine ⟨⟨fun row inside holds => (missing row inside holds).elim, fun only _ => same only⟩, ?_⟩
    cases existingOnly with
    | true => exact .inl (same rfl)
    | false =>
        rw [decideMemory, missed, if_neg Bool.false_ne_true] at decided
        cases inserted : repositories.insert ⟨input.content, input.tags, input.sourceProjectId,
            input.sessionId, input.depth, input.newEntryConfidence.getD input.confidence⟩ store with
        | error failure =>
            rw [inserted] at decided
            cases decided
            exact .inl rfl
        | ok result =>
            rw [inserted] at decided
            cases decided
            exact .inr (.inr ⟨missing, result.1, rfl⟩)

/-- A decision whose page fails fails. -/
theorem decide_refused (serialized : repositories.serializeDecision store = .ok ())
    {failure : PromotionFailure} (failed : repositories.searchPromoted input.content
      input.dedupCandidateLimit (candidateSource input) store = .error failure) (existingOnly : Bool) :
    decideMemory numbers repositories input existingOnly store = (.error failure, store) := by
  have refused : deduplicateAndInsertInRepositories numbers repositories input existingOnly store =
      .error failure := by
    have started : reading repositories.serializeDecision store = .ok ((), store) := by
      rw [reading, serialized]
      rfl
    rw [deduplicateAndInsertInRepositories, StateT.bind_of_ok started]
    show (reading (repositories.searchPromoted input.content input.dedupCandidateLimit
      (candidateSource input)) store >>= _) = _
    rw [reading, failed]
    rfl
  rw [decideMemory, refused]

end Decide

/-- A project with its database in a file. -/
structure SqliteProject (Number : Type) where
  numbers : JsNumbers Number
  engine : PromotedEngine Number
  serializePromotedMetadata : Json Number → Except PromotedFailure JsString
  fts5Available : Bool
  projectId : JsString

namespace SqliteProject

variable {Number : Type} (project : SqliteProject Number)

def decide (decision : OwnerDecision Number) (id : JsString) (now : Int) (tables : PromotedTables Number) :
    Except PromotionFailure (Option JsString) × PromotedTables Number :=
  decideMemory project.numbers (sqliteRepositories project.numbers project.engine
    project.serializePromotedMetadata project.fts5Available project.projectId id now)
    (decision.input .sqlite) decision.existingOnly tables

/-- The tables after an operation, which are those before it when it fails. -/
def perform (operation : PromotedSession Number Unit) (tables : PromotedTables Number) :
    PromotedTables Number :=
  match undisturbed operation tables with
  | .ok (_, later) => later
  | .error _ => tables

def step (tables : PromotedTables Number) : MemoryRequest Number JsString → PromotedTables Number
  | .decide decision id now => (project.decide decision id now tables).2
  | .archive id now => perform (archive project.fts5Available id now) tables
  | .deleteById id => perform (deleteById project.fts5Available id) tables

/-- A store in which every content can be read and is active in a project once at most. -/
structure Sound (tables : PromotedTables Number) : Prop where
  one : (sqliteMemories project.numbers).AtMostOne tables.promoted.rows
  readable : tables.IsReadable

/-- The runs from any store that is sound. -/
def system : StepSystem (PromotedTables Number) (MemoryRequest Number JsString) where
  start := project.Sound
  step before request after := after = project.step before request

/-- A decision is on text without lone surrogates, with a limit that the statement takes, and it names its
source project unless no other project has the content. -/
def Converges (tables : PromotedTables Number) : MemoryRequest Number JsString → Prop
  | .decide decision _ _ =>
      containsMalformedUtf16 decision.content = false ∧
        AcceptsLimit project.numbers project.fts5Available decision.dedupCandidateLimit ∧
        FiltersScope project.projectId decision.sourceProjectId decision.content tables
  | _ => True

end SqliteProject

section Sqlite

variable {Number : Type} {project : SqliteProject Number} {tables : PromotedTables Number}

/-- A NUL is stored as it is. -/
theorem zero_mem_toWellFormed {text : JsString} (inside : 0 ∈ text) : 0 ∈ toWellFormed text := by
  have plain : ¬ (Json.isHighSurrogate 0 || Json.isLowSurrogate 0) = true := by decide
  induction text using toWellFormed.induct with
  | case1 => exact inside
  | case2 unit surrogate =>
      rw [← List.mem_singleton.mp inside] at surrogate
      exact (plain surrogate).elim
  | case3 unit other =>
      rw [toWellFormed, if_neg other]
      exact inside
  | case4 unit following rest high low ih =>
      rw [toWellFormed, if_pos high, if_pos low]
      simp only [List.mem_cons] at inside ⊢
      exact inside.imp_right (Or.imp_right ih)
  | case5 unit following rest high other ih =>
      rw [toWellFormed, if_pos high, if_neg other]
      rcases List.mem_cons.mp inside with rfl | later
      · exact (plain (by rw [high]; rfl)).elim
      · exact List.mem_cons_of_mem _ (ih later)
  | case6 unit following rest other low ih =>
      rw [toWellFormed, if_neg other, if_pos low]
      rcases List.mem_cons.mp inside with rfl | later
      · exact (plain (by rw [low, Bool.or_true])).elim
      · exact List.mem_cons_of_mem _ (ih later)
  | case7 unit following rest high low ih =>
      rw [toWellFormed, if_neg high, if_neg low]
      rcases List.mem_cons.mp inside with rfl | later
      · exact List.mem_cons_self ..
      · exact List.mem_cons_of_mem _ (ih later)

/-- A content can be read when the same text is stored for one that can. -/
theorem readable_of_stored {first second : JsString} (same : toWellFormed first = toWellFormed second)
    (clean : includesNul second = false) : includesNul first = false := by
  simp only [includesNul, List.contains_eq_mem, decide_eq_false_iff_not] at clean ⊢
  intro inside
  have stored := zero_mem_toWellFormed inside
  rw [same] at stored
  rcases mem_toWellFormed stored with replaced | old
  · exact absurd replaced (by decide)
  · exact clean old

theorem sqlite_archive (id : JsString) (now : Int) (sound : project.Sound tables) :
    project.Sound (project.step tables (.archive id now)) := by
  obtain ⟨later, archived, marked⟩ := archive_effect project.fts5Available id now tables
  have same : project.step tables (.archive id now) = later := by
    rw [SqliteProject.step, SqliteProject.perform, archived]
  have rows : later.promoted.rows = tables.promoted.rows.map fun row =>
      if row.id = id then { row with archivedAt := some now } else row :=
    (congrArg KeyedTable.rows marked).trans
      (updateRow_rows tables id (fun row => { row with archivedAt := some now }) fun _ => rfl)
  rw [same]
  constructor
  · rw [rows]
    apply sound.one.map
    · intro row _
      split <;> rfl
    · intro row _ scope content holds
      split at holds
      · cases holds.active
      · exact holds
  · intro row inside
    rw [rows] at inside
    obtain ⟨old, stored, rfl⟩ := List.mem_map.mp inside
    have readable := sound.readable old stored
    split
    · exact readable
    · exact readable

theorem sqlite_deleteById (id : JsString) (sound : project.Sound tables) :
    project.Sound (project.step tables (.deleteById id)) := by
  obtain ⟨later, deleted, removed⟩ := deleteById_effect project.fts5Available id tables
  have same : project.step tables (.deleteById id) = later := by
    rw [SqliteProject.step, SqliteProject.perform, deleted]
  have rows : later.promoted.rows.Sublist tables.promoted.rows := by
    rw [removed]
    exact List.filter_sublist.map _
  rw [same]
  exact ⟨sound.one.sublist rows, fun row inside => sound.readable row (rows.subset inside)⟩

theorem storageFailure_eq_ok {Failure Value : Type} {result : Except Failure Value} {value : Value}
    (done : storageFailure result = .ok value) : result = .ok value := by
  cases result with
  | error failure => cases done
  | ok other =>
      cases done
      rfl

theorem sqlite_decide {decision : OwnerDecision Number} {id : JsString} {now : Int}
    (sound : project.Sound tables) (converges : project.Converges tables (.decide decision id now)) :
    Decides project.numbers (sqliteMemories project.numbers) (·.promoted.rows)
        (sourceScope project.projectId decision.sourceProjectId) (decision.input .sqlite)
        decision.existingOnly tables (project.decide decision id now tables).1
        (project.decide decision id now tables).2 ∧
      project.Sound (project.step tables (.decide decision id now)) := by
  obtain ⟨formed, accepted, filters⟩ := converges
  have serves : Serves project.numbers (sqliteRepositories project.numbers project.engine
      project.serializePromotedMetadata project.fts5Available project.projectId id now)
      (sqliteMemories project.numbers) (·.promoted.rows) (decision.input .sqlite)
      (sourceScope project.projectId decision.sourceProjectId) tables :=
    sqlite_serves sound.readable rfl accepted formed filters
  obtain ⟨decides, outcome⟩ := decide_decides serves sound.one rfl decision.existingOnly
    (show _ = ((project.decide decision id now tables).1, (project.decide decision id now tables).2)
      from rfl)
  refine ⟨decides, ?_⟩
  show project.Sound (project.decide decision id now tables).2
  revert outcome
  generalize (project.decide decision id now tables).2 = after
  rintro (rfl | ⟨row, inside, revised, replaced, merges⟩ | ⟨missing, inserted, done⟩)
  · exact sound
  · have replaced : after.promoted.rows =
        (sqliteMemories project.numbers).replaceRow revised tables.promoted.rows := replaced
    constructor
    · rw [replaced]
      exact sound.one.replaceRow inside merges.id fun scope content => (merges.held scope content).mp
    · intro other stored
      rw [replaced] at stored
      obtain ⟨old, member, rfl⟩ := List.mem_map.mp stored
      split
      · exact readable_of_stored (congrArg PromotedCandidate.content merges.candidate)
          (sound.readable row inside)
      · exact sound.readable old member
  · obtain ⟨_, readable, metadata, rows⟩ := insert_effect (storageFailure_eq_ok done)
    constructor
    · rw [rows]
      apply sound.one.append
      · rw [← rows]
        exact after.unique
      · intro scope content holds row stored also
        have content : content = decision.content := by
          rw [← toWellFormed_eq formed]
          exact holds.content.symm
        rw [content] at also
        rw [← holds.scope] at also
        exact missing row stored also
    · intro row stored
      rw [rows] at stored
      rcases List.mem_append.mp stored with old | new
      · exact sound.readable row old
      · rw [List.mem_singleton.mp new]
        exact readable

end Sqlite

/-- The memories of an owner in a shared database. -/
structure PostgreSqlOwner (Number : Type) where
  numbers : JsNumbers Number
  engine : PostgreSql.MemorySearch numbers
  owner : PostgreSql.PgText

namespace PostgreSqlOwner

open PostgreSql

variable {Number : Type} (owner : PostgreSqlOwner Number)

def decide (decision : OwnerDecision Number) (id : MemoryId) (now : Int)
    (table : MemoryTable owner.numbers) :
    Except PromotionFailure (Option JsString) × MemoryTable owner.numbers :=
  decideMemory owner.numbers (postgreSqlRepositories owner.engine owner.owner id now)
    (decision.input .postgresql) decision.existingOnly table

def step (table : MemoryTable owner.numbers) : MemoryRequest Number MemoryId → MemoryTable owner.numbers
  | .decide decision id now => (owner.decide decision id now table).2
  | .archive id now => PostgreSql.archive owner.owner id now table
  | .deleteById id => PostgreSql.deleteById owner.owner id table

/-- The runs from any table in which a content is active for an owner once at most. -/
def system : StepSystem (MemoryTable owner.numbers) (MemoryRequest Number MemoryId) where
  start table := ownerMemories.AtMostOne table.entries
  step before request after := after = owner.step before request

/-- A decision has a limit that the search takes, and tags and a confidence that the columns can hold. -/
def Converges : MemoryRequest Number MemoryId → Prop
  | .decide decision _ _ => Accepts owner.numbers (decision.input .postgresql)
  | _ => True

end PostgreSqlOwner

section PostgreSql

open PostgreSql

variable {Number : Type} {owner : PostgreSqlOwner Number} {table : MemoryTable owner.numbers}

theorem postgreSql_archive (id : JsString) (now : Int) (one : ownerMemories.AtMostOne table.entries) :
    ownerMemories.AtMostOne (owner.step table (.archive id now)).entries := by
  rw [PostgreSqlOwner.step, PostgreSql.archive]
  split
  · exact one
  · next found known =>
      apply one.map
      · exact fun _ _ => rfl
      · intro entry _ scope content holds
        have held : ownerMemories.Holds scope content (entry.1, if entry.1 = found then
            (if entry.2.projectId = owner.owner then
              { entry.2 with archivedAt := some (max now entry.2.createdAt) } else entry.2)
            else entry.2) := holds
        split at held
        · split at held
          · cases held.active
          · exact held
        · exact held

theorem postgreSql_deleteById (id : JsString) (one : ownerMemories.AtMostOne table.entries) :
    ownerMemories.AtMostOne (owner.step table (.deleteById id)).entries := by
  rw [PostgreSqlOwner.step, PostgreSql.deleteById]
  split
  · exact one
  · exact one.sublist List.filter_sublist

theorem postgreSql_decide {decision : OwnerDecision Number} {id : MemoryId} {now : Int}
    (one : ownerMemories.AtMostOne table.entries)
    (converges : owner.Converges (.decide decision id now)) :
    Decides owner.numbers ownerMemories KeyedTable.entries owner.owner (decision.input .postgresql)
        decision.existingOnly table (owner.decide decision id now table).1
        (owner.decide decision id now table).2 ∧
      ownerMemories.AtMostOne (owner.step table (.decide decision id now)).entries := by
  by_cases valid : isPostgreSqlText decision.content = true
  · have serves : Serves owner.numbers (postgreSqlRepositories owner.engine owner.owner id now)
        ownerMemories KeyedTable.entries (decision.input .postgresql) owner.owner table :=
      postgreSql_serves rfl rfl valid converges
    obtain ⟨decides, outcome⟩ := decide_decides serves one rfl decision.existingOnly
      (show _ = ((owner.decide decision id now table).1, (owner.decide decision id now table).2) from rfl)
    refine ⟨decides, ?_⟩
    show ownerMemories.AtMostOne (owner.decide decision id now table).2.entries
    revert outcome
    generalize (owner.decide decision id now table).2 = after
    rintro (rfl | ⟨entry, inside, revised, replaced, merges⟩ | ⟨missing, inserted, done⟩)
    · exact one
    · rw [replaced]
      exact one.replaceRow inside merges.id fun scope content => (merges.held scope content).mp
    · obtain ⟨row, added, owned, content, _⟩ := insert_added done
      rw [added]
      apply one.append
      · rw [← added]
        have texts := after.distinct.map Subtype.val_injective
        rw [List.map_map] at texts
        exact texts
      · intro scope text holds entry stored also
        have inScope : scope = owner.owner := holds.scope.symm.trans owned
        have same : text = decision.content := holds.content.symm.trans content
        rw [inScope, same] at also
        exact missing entry stored also
  · have failed : (postgreSqlRepositories owner.engine owner.owner id now).searchPromoted decision.content
        decision.dedupCandidateLimit (candidateSource (decision.input .postgresql)) table =
          .error dataError := by
      have refused : string decision.content = .error dataError := dif_neg valid
      show (searchPromoted owner.engine owner.owner decision.content decision.dedupCandidateLimit _
        table).map _ = _
      rw [searchPromoted, refused]
      rfl
    have same : owner.decide decision id now table = (.error dataError, table) :=
      decide_refused rfl failed decision.existingOnly
    rw [PostgreSqlOwner.step, same]
    refine ⟨⟨fun entry _ holds => ?_, fun _ _ => rfl⟩, one⟩
    have stored : entry.2.content.1 = decision.content := holds.content
    exact (valid (stored ▸ entry.2.content.2)).elim

end PostgreSql

section Sample

/-- A search for any of the terms, the oldest memory first. -/
def sampleEngine : PromotedEngine Nat where
  matchesIndex terms indexed := terms.any fun term => term ∈ searchTerms indexed.content
  matchesRow terms row := terms.any fun term => term ∈ searchTerms row.content
  before _ _ first second := first.createdAt ≤ second.createdAt
  sliceCount limit := limit

def sampleProject : SqliteProject Nat := ⟨naturalNumbers, sampleEngine, fun _ => .ok [123, 125], true, js "p"⟩

def sampleDecision (content : JsString) (sourceProjectId : Option JsString) : OwnerDecision Nat :=
  ⟨content, [js "tag"], sourceProjectId, none, 0, 1, none, 100, false⟩

def sampleRequests (content : JsString) : List (MemoryRequest Nat JsString) :=
  [.decide (sampleDecision content (some (js "q"))) (js "first") 1,
    .decide (sampleDecision content (some (js "p"))) (js "second") 2]

def sampleTables (requests : List (MemoryRequest Nat JsString)) : PromotedTables Nat :=
  requests.foldl sampleProject.step .empty

theorem sampleProject_starts : sampleProject.Sound .empty :=
  ⟨⟨List.nodup_nil, fun _ outside => (List.not_mem_nil outside).elim⟩,
    fun _ outside => (List.not_mem_nil outside).elim⟩

theorem sampleTables_reachable (requests : List (MemoryRequest Nat JsString)) :
    sampleProject.system.Reachable (sampleTables requests) :=
  .fold (fun _ _ => rfl) requests (.start sampleProject_starts)

theorem sampleDecision_converges (source : JsString) (named : source ≠ []) (id : JsString) (now : Int)
    (tables : PromotedTables Nat) : sampleProject.Converges tables
      (.decide (sampleDecision (js "use the lock") (some source)) id now) := by
  refine ⟨?_, fun _ => ⟨100, rfl⟩, .inl ⟨source, rfl, named⟩⟩
  show containsMalformedUtf16 (js "use the lock") = false
  decide

end Sample

end Lcm.Promotion
