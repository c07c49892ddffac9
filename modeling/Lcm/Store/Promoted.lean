import Lcm.Library.KeyedTable
import Lcm.Library.Savepoints
import Lcm.Library.StepSystem
import Lcm.Store.Messages
import Lcm.Text.JsNumber

namespace Lcm.Store
open Text Savepoints Interruptible

/-- A promoted memory. -/
structure PromotedRow (Number : Type) where
  id : JsString
  content : JsString
  tags : JsString
  metadata : JsString
  sourceSummaryId : Option JsString
  projectId : JsString
  sessionId : Option JsString
  depth : Number
  confidence : Number
  createdAt : Timestamp
  archivedAt : Option Timestamp

structure PromotedFtsRow where
  content : JsString
  tags : JsString
  deriving DecidableEq

inductive PromotedFailure where
  | typeError (message : String)
  | error (message : String)
  | statement

/-- The memories and their search index, both under row ids. -/
structure PromotedTables (Number : Type) where
  promoted : KeyedTable Nat (PromotedRow Number)
  promotedFts : KeyedTable Nat PromotedFtsRow
  unique : (promoted.rows.map (·.id)).Nodup

namespace PromotedTables

variable {Number : Type}

def empty : PromotedTables Number := ⟨.empty, .empty, List.nodup_nil⟩

/-- The memory of an id with its row id. -/
def find? (tables : PromotedTables Number) (id : JsString) : Option (Nat × PromotedRow Number) :=
  tables.promoted.entries.find? fun entry => entry.2.id = id

/-- A new row comes after the greatest row id. -/
def nextRowid (tables : PromotedTables Number) : Nat := tables.promoted.keys.foldr max 0 + 1

def insertRow (row : PromotedRow Number) (tables : PromotedTables Number) :
    Except PromotedFailure (Unit × PromotedTables Number) :=
  if fresh : tables.nextRowid ∉ tables.promoted.keys ∧ row.id ∉ tables.promoted.rows.map (·.id) then
    .ok ((), { tables with
      promoted := tables.promoted.insertOrIgnore tables.nextRowid row
      unique := by
        rw [KeyedTable.rows, KeyedTable.insertOrIgnore_fresh row fresh.1]
        simp only [List.map_append, List.map_cons, List.map_nil]
        exact List.nodup_append.mpr ⟨tables.unique, List.nodup_singleton _, fun first inside second last =>
          List.mem_singleton.mp last ▸ fun same => fresh.2 (same ▸ inside)⟩ })
  else .error .statement

/-- An update of the memory of an id, which it keeps. -/
def updateRow (id : JsString) (change : PromotedRow Number → PromotedRow Number)
    (tables : PromotedTables Number) : PromotedTables Number where
  promoted := tables.promoted.mapRows fun _ row => if row.id = id then { change row with id } else row
  promotedFts := tables.promotedFts
  unique := by
    have same : ∀ rows : List (Nat × PromotedRow Number),
        (rows.map fun entry => (if entry.2.id = id then { change entry.2 with id } else entry.2).id) =
          rows.map fun entry => entry.2.id := by
      intro rows
      apply List.map_congr_left
      intro entry inside
      split
      · next found => exact found.symm
      · rfl
    have unique := tables.unique
    simp only [KeyedTable.rows, KeyedTable.mapRows, List.map_map, Function.comp_def] at unique ⊢
    rw [same]
    exact unique

def deleteRow (id : JsString) (tables : PromotedTables Number) : PromotedTables Number where
  promoted := tables.promoted.retain fun entry => entry.2.id ≠ id
  promotedFts := tables.promotedFts
  unique := by
    have unique := tables.unique
    rw [KeyedTable.rows, List.map_map] at unique ⊢
    exact unique.sublist (List.filter_sublist.map _)

def deleteFts (rowid : Nat) (tables : PromotedTables Number) : PromotedTables Number :=
  { tables with promotedFts := tables.promotedFts.erase rowid }

def insertFts (rowid : Nat) (row : PromotedFtsRow) (tables : PromotedTables Number) :
    Except PromotedFailure (Unit × PromotedTables Number) :=
  match tables.promotedFts.insert? rowid row with
  | some promotedFts => .ok ((), { tables with promotedFts })
  | none => .error .statement

end PromotedTables

structure InsertParams (Number : Type) where
  content : JsString
  tags : Option (List JsString)
  metadata : Option (Json Number)
  sourceSummaryId : Option JsString
  projectId : JsString
  sessionId : Option JsString
  depth : Option Number
  confidence : Option Number

structure PromotedFields (Number : Type) where
  content : Option JsString
  confidence : Option Number
  tags : Option (List JsString)
  metadata : Option (Json Number)

abbrev PromotedSession (Number : Type) := Session JsString (PromotedTables Number) PromotedFailure

section Operations

variable {Number : Type}

def query {Value : Type} (read : PromotedTables Number → Value) : PromotedSession Number Value :=
  statement .statement fun tables => pure (read tables, tables)

def modify (change : PromotedTables Number → PromotedTables Number) : PromotedSession Number Unit :=
  statement .statement fun tables => pure ((), change tables)

def withFtsSavepoint {Value : Type} (operation : PromotedSession Number Value) :
    PromotedSession Number Value :=
  withSavepoint .statement (js "promoted_fts_sync") operation

def checkContent (content : JsString) : Except PromotedFailure Unit :=
  if includesNul content then .error (.typeError "promoted content contains an unsupported string")
  else .ok ()

def readPromotedContent (row : PromotedRow Number) : Except PromotedFailure JsString :=
  if includesNul row.content then .error (.typeError "stored promoted content is unsupported")
  else .ok row.content

/-- The mirror of a row is replaced. -/
def replaceFts (rowid : Nat) (content tags : JsString) : PromotedSession Number Unit := do
  modify (·.deleteFts rowid)
  statement .statement (PromotedTables.insertFts rowid ⟨content, tags⟩)

/-- What is done for a field that is given. -/
def whenGiven {Value : Type} (value : Option Value) (act : Value → PromotedSession Number Unit) :
    PromotedSession Number Unit :=
  match value with
  | none => pure ()
  | some value => act value

variable (numbers : JsNumbers Number)
  (serializePromotedMetadata : Json Number → Except PromotedFailure JsString) (fts5Available : Bool)

def stringifyTags (tags : List JsString) : JsString := Json.print numbers.format (.array (tags.map .string))

def insert (id : JsString) (now : Timestamp) (params : InsertParams Number) :
    PromotedSession Number JsString := do
  lift (checkContent params.content)
  let tags := stringifyTags numbers (params.tags.getD [])
  let metadata ← lift (serializePromotedMetadata (params.metadata.getD (.object [])))
  let insertRow : PromotedSession Number Unit := statement .statement (PromotedTables.insertRow
    { id, content := params.content, tags, metadata
      sourceSummaryId := params.sourceSummaryId
      projectId := params.projectId
      sessionId := params.sessionId
      depth := params.depth.getD (numbers.ofNat 0)
      confidence := params.confidence.getD (numbers.ofNat 1)
      createdAt := now
      archivedAt := none })
  if fts5Available then
    withFtsSavepoint do
      insertRow
      match ← query (·.find? id) with
      | none => fault (.error "inserted promoted row is unavailable")
      | some (rowid, _) => statement .statement (PromotedTables.insertFts rowid ⟨params.content, tags⟩)
  else insertRow
  pure id

def archive (id : JsString) (now : Timestamp) : PromotedSession Number Unit :=
  let archiveRow := modify (·.updateRow id fun row => { row with archivedAt := some now })
  if fts5Available then
    withFtsSavepoint do
      let found ← query (·.find? id)
      archiveRow
      match found with
      | none => pure ()
      | some (rowid, _) => modify (·.deleteFts rowid)
  else archiveRow

def deleteById (id : JsString) : PromotedSession Number Unit :=
  if fts5Available then
    withFtsSavepoint do
      match ← query (·.find? id) with
      | none => pure ()
      | some (rowid, _) => modify (·.deleteFts rowid)
      modify (·.deleteRow id)
  else modify (·.deleteRow id)

def updateTags (id : JsString) (rowid : Nat) (row : PromotedRow Number) (tags : List JsString) :
    PromotedSession Number Unit := do
  let newTags := stringifyTags numbers tags
  let content ← lift (if fts5Available then readPromotedContent row else .ok row.content)
  modify (·.updateRow id fun row => { row with tags := newTags })
  if fts5Available then replaceFts rowid content newTags

/-- The fields that are given are written, with the content in one statement. -/
def updateFields (id : JsString) (fields : PromotedFields Number) (metadata : Option JsString)
    (rowid : Nat) (row : PromotedRow Number) : PromotedSession Number Unit :=
  match fields.content with
  | some content => do
      let newTags := (fields.tags.map (stringifyTags numbers)).getD row.tags
      modify (·.updateRow id fun row => { row with
        content
        confidence := fields.confidence.getD row.confidence
        tags := newTags
        metadata := metadata.getD row.metadata })
      if fts5Available then replaceFts rowid content newTags
  | none => do
      whenGiven fields.confidence fun confidence =>
        modify (·.updateRow id fun row => { row with confidence })
      whenGiven fields.tags (updateTags numbers fts5Available id rowid row)
      whenGiven metadata fun metadata =>
        modify (·.updateRow id fun row => { row with metadata })

def update (id : JsString) (fields : PromotedFields Number) : PromotedSession Number Unit := do
  lift (fields.content.elim (.ok ()) checkContent)
  let metadata ← lift (fields.metadata.mapM serializePromotedMetadata)
  match ← query (·.find? id) with
  | none => pure ()
  | some (rowid, row) => withFtsSavepoint (updateFields numbers fts5Available id fields metadata rowid row)

def revive (id : JsString) : PromotedSession Number Unit := do
  let reviveRow := modify (·.updateRow id fun row => { row with archivedAt := none })
  match ← query (·.find? id) with
  | none => pure ()
  | some (rowid, row) =>
      if fts5Available then
        withFtsSavepoint do
          let content ← lift (readPromotedContent row)
          reviveRow
          replaceFts rowid content row.tags
      else reviveRow

end Operations

/-- An operation of the store, or a statement of the transaction around it. -/
inductive PromotedRequest (Number : Type) where
  | insert (id : JsString) (now : Timestamp) (params : InsertParams Number)
  | update (id : JsString) (fields : PromotedFields Number)
  | archive (id : JsString) (now : Timestamp)
  | deleteById (id : JsString)
  | revive (id : JsString)
  | begin
  | commit
  | rollback
  | savepoint (name : JsString)
  | release (name : JsString)
  | rollbackTo (name : JsString)

/-- A request with the fates of its statements, which may crash before one of them. -/
structure PromotedCall (Number : Type) where
  request : PromotedRequest Number
  fates : List Fate
  budget : Option Nat

section Runs

variable {Number : Type} (numbers : JsNumbers Number)
  (serializePromotedMetadata : Json Number → Except PromotedFailure JsString) (fts5Available : Bool)

def PromotedRequest.run : PromotedRequest Number → PromotedSession Number Unit
  | .insert id now params => do
      let _ ← Store.insert numbers serializePromotedMetadata fts5Available id now params
  | .update id fields => Store.update numbers serializePromotedMetadata fts5Available id fields
  | .archive id now => Store.archive fts5Available id now
  | .deleteById id => Store.deleteById fts5Available id
  | .revive id => Store.revive fts5Available id
  | .begin => Savepoints.begin .statement
  | .commit => Savepoints.commit .statement
  | .rollback => Savepoints.rollback .statement
  | .savepoint name => Savepoints.savepoint .statement name
  | .release name => Savepoints.release .statement name
  | .rollbackTo name => Savepoints.rollbackTo .statement name

def PromotedCall.apply (connection : Connection JsString (PromotedTables Number))
    (call : PromotedCall Number) : Connection JsString (PromotedTables Number) :=
  connection.call (call.request.run numbers serializePromotedMetadata fts5Available) call.fates call.budget

/-- The runs of a store that starts empty. -/
def promotedSystem :
    StepSystem (Connection JsString (PromotedTables Number)) (PromotedCall Number) where
  start connection := connection.tables = .empty ∧ connection.savepoints = []
  step connection call after :=
    after = call.apply numbers serializePromotedMetadata fts5Available connection

end Runs

end Lcm.Store
