import Lcm.Store.PromotedSearch

namespace Lcm.Store
open Text Savepoints Interruptible PromotedTables

variable {Number : Type} {numbers : JsNumbers Number}
  {serializePromotedMetadata : Json Number → Except PromotedFailure JsString} {fts5Available : Bool}

theorem query_acts {Value : Type} (read : PromotedTables Number → Value) :
    Acts (query read) fun tables => .ok (read tables, tables) :=
  acts_statement _

theorem modify_acts (change : PromotedTables Number → PromotedTables Number) :
    Acts (modify change) fun tables => .ok ((), change tables) :=
  acts_statement _

/-- An undisturbed session that changes the index only. -/
def ChangesIndex (session : PromotedSession Number Unit) : Prop :=
  ∃ change : PromotedTables Number → PromotedTables Number,
    Acts session (fun tables => .ok ((), change tables)) ∧
      ∀ tables, (change tables).promoted = tables.promoted

theorem unindex_changes (found : Option (Nat × PromotedRow Number)) :
    @ChangesIndex Number (match found with
      | none => pure ()
      | some (rowid, _) => modify (·.deleteFts rowid)) := by
  cases found with
  | none => exact ⟨id, acts_pure (), fun _ => rfl⟩
  | some entry => exact ⟨(·.deleteFts entry.1), modify_acts _, fun _ => rfl⟩

theorem insertFts_deleted (tables : PromotedTables Number) (rowid : Nat) (indexed : PromotedFtsRow) :
    ∃ later, (tables.deleteFts rowid).insertFts rowid indexed = .ok ((), later) ∧
      later.promoted = tables.promoted := by
  have free : rowid ∉ (tables.deleteFts rowid).promotedFts.keys := by
    rw [← KeyedTable.get?_eq_none, get?_deleteFts, if_pos rfl]
  rw [insertFts, KeyedTable.insert?, dif_neg free]
  exact ⟨_, rfl, rfl⟩

theorem replaceFts_changes (rowid : Nat) (content tags : JsString) :
    ChangesIndex (replaceFts rowid content tags : PromotedSession Number Unit) := by
  choose change inserted kept using fun tables : PromotedTables Number =>
    insertFts_deleted tables rowid ⟨content, tags⟩
  exact ⟨change, ((modify_acts (·.deleteFts rowid)).bind fun _ => acts_statement _).congr inserted, kept⟩

variable (fts5Available) in
/-- An undisturbed archiving marks the row of its id. -/
theorem archive_effect (id : JsString) (now : Timestamp) (tables : PromotedTables Number) :
    ∃ later, undisturbed (archive fts5Available id now) tables = .ok ((), later) ∧
      later.promoted =
        (tables.updateRow id fun row => { row with archivedAt := some now }).promoted := by
  cases fts5Available with
  | false => exact ⟨_, (modify_acts _).undisturbed tables, rfl⟩
  | true =>
      choose change acts kept using @unindex_changes Number
      exact ⟨_, (Acts.withSavepoint <| (query_acts (·.find? id)).bind fun found =>
        (modify_acts _).bind fun _ => acts found).undisturbed tables, kept _ _⟩

variable (fts5Available) in
/-- An undisturbed deletion removes the row of its id. -/
theorem deleteById_effect (id : JsString) (tables : PromotedTables Number) :
    ∃ later, undisturbed (deleteById fts5Available id) tables = .ok ((), later) ∧
      later.promoted = (tables.deleteRow id).promoted := by
  cases fts5Available with
  | false => exact ⟨_, (modify_acts _).undisturbed tables, rfl⟩
  | true =>
      have acts : ∀ found : Option (Nat × PromotedRow Number), ∃ change : PromotedTables Number → PromotedTables Number,
          Acts (match found with
            | none => do pure (); modify (·.deleteRow id)
            | some (rowid, _) => do modify (·.deleteFts rowid); modify (·.deleteRow id))
            (fun tables => .ok ((), change tables)) ∧
          ∀ tables, (change tables).promoted = (tables.deleteRow id).promoted := by
        intro found
        cases found with
        | none => exact ⟨_, (acts_pure ()).bind fun _ => modify_acts _, fun _ => rfl⟩
        | some entry => exact ⟨_, (modify_acts _).bind fun _ => modify_acts _, fun _ => rfl⟩
      choose change acts kept using acts
      exact ⟨_, (Acts.withSavepoint <| (query_acts (·.find? id)).bind acts).undisturbed tables, kept _ _⟩

theorem updateRow_twice (tables : PromotedTables Number) (id : JsString)
    (first second : PromotedRow Number → PromotedRow Number) (named : ∀ row, (first row).id = row.id) :
    ((tables.updateRow id first).updateRow id second).promoted =
      (tables.updateRow id fun row => second (first row)).promoted := by
  apply KeyedTable.ext
  simp only [updateRow, KeyedTable.mapRows, List.map_map]
  apply List.map_congr_left
  intro entry _
  by_cases here : entry.2.id = id
  · have same : ({ first entry.2 with id } : PromotedRow Number) = first entry.2 := by
      rw [← here, ← named]
    simp [here, same, named]
  · simp [here]

variable (numbers fts5Available) in
theorem updateFields_acts {row : PromotedRow Number} (readable : includesNul row.content = false)
    (id : JsString) (rowid : Nat) (confidence : Number) (tags : List JsString) :
    ∃ change : PromotedTables Number → PromotedTables Number,
      Acts (updateFields numbers fts5Available id ⟨none, some confidence, some tags, none⟩ none rowid row)
        (fun tables => .ok ((), change tables)) ∧
      ∀ tables, (change tables).promoted = (tables.updateRow id fun row =>
        { row with confidence, tags := stringifyTags numbers tags }).promoted := by
  have twice := fun tables : PromotedTables Number => updateRow_twice tables id
    (fun row => { row with confidence }) (fun row => { row with tags := stringifyTags numbers tags })
    fun _ => rfl
  have content : (if fts5Available then readPromotedContent row else .ok row.content) = .ok row.content := by
    rw [readPromotedContent, readable]
    cases fts5Available <;> rfl
  have written : ∃ change : PromotedTables Number → PromotedTables Number,
      Acts (updateTags numbers fts5Available id rowid row tags) (fun tables => .ok ((), change tables)) ∧
        ∀ tables, (change tables).promoted =
          (tables.updateRow id fun row => { row with tags := stringifyTags numbers tags }).promoted := by
    rw [updateTags, content]
    cases fts5Available with
    | false => exact ⟨_, (acts_lift _).bind fun _ => (modify_acts _).bind fun _ => acts_pure (), fun _ => rfl⟩
    | true =>
        choose change acts kept using fun content =>
          @replaceFts_changes Number rowid content (stringifyTags numbers tags)
        exact ⟨_, (acts_lift _).bind fun content => (modify_acts _).bind fun _ => acts content,
          fun _ => kept row.content _⟩
  obtain ⟨change, acts, kept⟩ := written
  refine ⟨_, (modify_acts _).bind fun _ => acts.bind fun _ => acts_pure (), fun tables => ?_⟩
  rw [← twice]
  exact kept _

variable (numbers serializePromotedMetadata fts5Available) in
/-- The update of a memory that a decision makes. -/
theorem update_effect {tables : PromotedTables Number} {id : JsString} {rowid : Nat}
    {row : PromotedRow Number} (found : tables.find? id = some (rowid, row))
    (readable : includesNul row.content = false) (confidence : Number) (tags : List JsString) :
    ∃ later, undisturbed (update numbers serializePromotedMetadata fts5Available id
        ⟨none, some confidence, some tags, none⟩) tables = .ok ((), later) ∧
      later.promoted = (tables.updateRow id fun row =>
        { row with confidence, tags := stringifyTags numbers tags }).promoted := by
  obtain ⟨change, acts, changed⟩ := updateFields_acts numbers fts5Available readable id rowid
    confidence tags
  refine ⟨change tables, ?_, changed tables⟩
  have ran : update numbers serializePromotedMetadata fts5Available id
      ⟨none, some confidence, some tags, none⟩ ⟨tables, [(none, tables)], []⟩ none =
        withFtsSavepoint (updateFields numbers fts5Available id ⟨none, some confidence, some tags, none⟩
          none rowid row) ⟨tables, [(none, tables)], []⟩ none := by
    show (match tables.find? id with
      | none => pure ()
      | some (rowid, row) => withFtsSavepoint (updateFields numbers fts5Available id
          ⟨none, some confidence, some tags, none⟩ none rowid row)) _ none = _
    rw [found]
  rw [undisturbed, ran]
  exact acts.withSavepoint.undisturbed tables

/-- The row of an insertion. -/
def insertedRow (numbers : JsNumbers Number) (id : JsString) (now : Timestamp)
    (params : InsertParams Number) (metadata : JsString) : PromotedRow Number where
  id
  content := params.content
  tags := stringifyTags numbers (params.tags.getD [])
  metadata
  sourceSummaryId := params.sourceSummaryId
  projectId := params.projectId
  sessionId := params.sessionId
  depth := params.depth.getD (numbers.ofNat 0)
  confidence := params.confidence.getD (numbers.ofNat 1)
  createdAt := now
  archivedAt := none

theorem insertRow_rows {tables later : PromotedTables Number} {row : PromotedRow Number} {done : Unit}
    (inserted : tables.insertRow row = .ok (done, later)) :
    later.promoted.rows = tables.promoted.rows ++ [row] := by
  rw [PromotedTables.insertRow] at inserted
  split at inserted
  · next fresh =>
      cases inserted
      rw [KeyedTable.rows, KeyedTable.insertOrIgnore_fresh row fresh.1, List.map_append]
      rfl
  · cases inserted

/-- A row is inserted with its mirror or not at all. -/
theorem insertWithMirror_acts (row : PromotedRow Number) (indexed : PromotedFtsRow) :
    ∃ act : StateT (PromotedTables Number) (Except PromotedFailure) Unit,
      Acts (if fts5Available then
          withFtsSavepoint do
            statement .statement (PromotedTables.insertRow row)
            match ← query (·.find? row.id) with
            | none => fault (.error "inserted promoted row is unavailable")
            | some (rowid, _) => statement .statement (PromotedTables.insertFts rowid indexed)
        else statement .statement (PromotedTables.insertRow row)) act ∧
      ∀ tables later, act tables = .ok ((), later) →
        later.promoted.rows = tables.promoted.rows ++ [row] := by
  cases fts5Available with
  | false => exact ⟨_, acts_statement _, fun _ _ inserted => insertRow_rows inserted⟩
  | true =>
      have mirrored : ∀ found : Option (Nat × PromotedRow Number),
          ∃ act : StateT (PromotedTables Number) (Except PromotedFailure) Unit,
            @Acts JsString _ _ _ (match found with
              | none => fault (.error "inserted promoted row is unavailable")
              | some (rowid, _) => statement .statement (PromotedTables.insertFts rowid indexed)) act ∧
            ∀ tables later, act tables = .ok ((), later) → later.promoted = tables.promoted := by
        intro found
        cases found with
        | none => exact ⟨_, acts_fault _, fun _ _ failed => nomatch failed⟩
        | some entry => exact ⟨_, acts_statement _, fun _ _ inserted => (insertFts_eq_ok inserted).1⟩
      choose act acts kept using mirrored
      refine ⟨_, Acts.withSavepoint ((acts_statement _).bind fun _ => (query_acts _).bind acts), ?_⟩
      intro tables later done
      obtain ⟨_, middle, inserted, rest⟩ := StateT.bind_eq_ok.mp done
      obtain ⟨_, same, looked, last⟩ := StateT.bind_eq_ok.mp rest
      cases looked
      rw [KeyedTable.rows, kept _ _ _ last]
      exact insertRow_rows inserted

/-- An insertion that succeeds adds one row with a new id and a content that can be read. -/
theorem insert_effect {tables later : PromotedTables Number} {id inserted : JsString} {now : Timestamp}
    {params : InsertParams Number}
    (done : undisturbed (insert numbers serializePromotedMetadata fts5Available id now params) tables =
      .ok (inserted, later)) :
    inserted = id ∧ includesNul params.content = false ∧ ∃ metadata,
      later.promoted.rows = tables.promoted.rows ++ [insertedRow numbers id now params metadata] := by
  choose act acts added using fun metadata => @insertWithMirror_acts Number fts5Available
    (insertedRow numbers id now params metadata)
    ⟨params.content, stringifyTags numbers (params.tags.getD [])⟩
  let serialized := serializePromotedMetadata (params.metadata.getD (.object []))
  have whole : Acts (insert numbers serializePromotedMetadata fts5Available id now params)
      ((fun tables => (checkContent params.content).map (·, tables)) >>= fun _ =>
        (fun tables => serialized.map (·, tables)) >>= fun metadata => act metadata >>= fun _ => pure id) := by
    refine (acts_lift _).bind fun _ => (acts_lift _).bind fun metadata => ?_
    have stored := (acts metadata).bind fun _ => acts_pure id
    cases fts5Available with
    | false => exact stored
    | true => exact stored
  rw [whole.undisturbed] at done
  cases ended : ((fun tables => (checkContent params.content).map (·, tables)) >>= fun _ =>
      (fun tables => serialized.map (·, tables)) >>= fun metadata => act metadata >>= fun _ => pure id :
        StateT (PromotedTables Number) (Except PromotedFailure) JsString) tables with
  | error failure =>
      rw [ended] at done
      cases done
  | ok answer =>
      rw [ended] at done
      cases done
      obtain ⟨_, first, checked, rest⟩ := StateT.bind_eq_ok.mp ended
      obtain ⟨metadata, second, printed, rest⟩ := StateT.bind_eq_ok.mp rest
      obtain ⟨_, third, stored, same⟩ := StateT.bind_eq_ok.mp rest
      obtain ⟨_, clean, sameFirst⟩ := Except.map_eq_ok.mp checked
      obtain ⟨_, _, sameSecond⟩ := Except.map_eq_ok.mp printed
      cases sameFirst
      cases sameSecond
      cases same
      refine ⟨rfl, ?_, metadata, added metadata _ _ stored⟩
      rw [checkContent] at clean
      split at clean
      · cases clean
      · next plain => exact Bool.eq_false_iff.mpr plain

end Lcm.Store
