import Lcm.Store.Promoted

namespace Lcm.Store
open Text Savepoints Interruptible

namespace PromotedTables

variable {Number : Type} {tables later : PromotedTables Number} {id : JsString} {rowid : Nat}
  {row : PromotedRow Number}

/-- What the index has for a row. -/
def mirror (row : PromotedRow Number) : Option PromotedFtsRow :=
  if row.archivedAt.isNone then some ⟨row.content, row.tags⟩ else none

/-- The index has exactly the rows that are not archived, as they are. -/
def IsMirrored (tables : PromotedTables Number) : Prop :=
  ∀ rowid, tables.promotedFts.get? rowid = (tables.promoted.get? rowid).bind mirror

/-- Only the row of a row id may differ from its mirror. -/
def IsMirroredBut (rowid : Nat) (tables : PromotedTables Number) : Prop :=
  ∀ other, other ≠ rowid → tables.promotedFts.get? other = (tables.promoted.get? other).bind mirror

theorem find?_eq_some : tables.find? id = some (rowid, row) ↔
    tables.promoted.get? rowid = some row ∧ row.id = id := by
  rw [KeyedTable.get?_eq_some]
  constructor
  · intro found
    rw [find?] at found
    exact ⟨List.mem_of_find?_eq_some found, by simpa using List.find?_some found⟩
  · rintro ⟨inside, rfl⟩
    cases found : tables.find? row.id with
    | none =>
        have other := List.find?_eq_none.mp found _ inside
        exact (other (decide_eq_true rfl)).elim
    | some entry =>
        rw [find?] at found
        have member := List.mem_of_find?_eq_some found
        have same : entry.2.id = row.id := by simpa using List.find?_some found
        have unique := tables.unique
        rw [KeyedTable.rows, List.map_map] at unique
        rw [List.inj_on_of_nodup_map unique member inside same]

theorem find?_eq_none : tables.find? id = none ↔
    ∀ rowid row, tables.promoted.get? rowid = some row → row.id ≠ id := by
  rw [find?, List.find?_eq_none]
  constructor
  · intro missing rowid row found same
    exact missing _ (KeyedTable.get?_eq_some.mp found) (decide_eq_true same)
  · intro missing entry inside same
    exact missing entry.1 entry.2 (KeyedTable.get?_eq_some.mpr inside) (of_decide_eq_true same)

/-- No other row has the id of a row that is found. -/
theorem find?_unique (found : tables.find? id = some (rowid, row)) {other : Nat}
    {another : PromotedRow Number} (stored : tables.promoted.get? other = some another)
    (elsewhere : other ≠ rowid) : another.id ≠ id := by
  intro same
  have twice := find?_eq_some.mpr ⟨stored, same⟩
  rw [found] at twice
  exact elsewhere (Prod.mk.inj (Option.some.inj twice)).1.symm

theorem get?_updateRow {change : PromotedRow Number → PromotedRow Number} (other : Nat) :
    (tables.updateRow id change).promoted.get? other = (tables.promoted.get? other).map fun row =>
      if row.id = id then { change row with id } else row :=
  KeyedTable.get?_mapRows ..

/-- An update of a missing row changes no row. -/
theorem updateRow_missing {change : PromotedRow Number → PromotedRow Number}
    (missing : tables.find? id = none) (other : Nat) :
    (tables.updateRow id change).promoted.get? other = tables.promoted.get? other := by
  rw [get?_updateRow]
  cases found : tables.promoted.get? other with
  | none => rfl
  | some row => simp [find?_eq_none.mp missing other row found]

/-- An update changes only the row that it finds. -/
theorem updateRow_found {change : PromotedRow Number → PromotedRow Number}
    (found : tables.find? id = some (rowid, row)) (other : Nat) :
    (tables.updateRow id change).promoted.get? other =
      if other = rowid then some { change row with id } else tables.promoted.get? other := by
  obtain ⟨stored, named⟩ := find?_eq_some.mp found
  rw [get?_updateRow]
  split
  · next here =>
      rw [here, stored]
      simp [named]
  · next elsewhere =>
      cases known : tables.promoted.get? other with
      | none => rfl
      | some another => simp [find?_unique found known elsewhere]

/-- An update keeps what is found under its id. -/
theorem find?_updateRow {change : PromotedRow Number → PromotedRow Number}
    (found : tables.find? id = some (rowid, row)) :
    (tables.updateRow id change).find? id = some (rowid, { change row with id }) := by
  rw [find?_eq_some, updateRow_found found]
  simp

theorem IsMirrored.but (mirrored : tables.IsMirrored) (rowid : Nat) : tables.IsMirroredBut rowid :=
  fun other _ => mirrored other

/-- An update that leaves what the index has of a row keeps the index. -/
theorem IsMirrored.updateRow (mirrored : tables.IsMirrored) (id : JsString)
    {change : PromotedRow Number → PromotedRow Number}
    (keeps : ∀ row, mirror { change row with id } = mirror row) :
    (tables.updateRow id change).IsMirrored := by
  intro other
  have stored : tables.promotedFts.get? other = (tables.promoted.get? other).bind mirror := mirrored other
  rw [get?_updateRow]
  refine stored.trans ?_
  cases tables.promoted.get? other with
  | none => rfl
  | some row =>
      simp only [Option.map_some, Option.bind_some]
      split
      · exact (keeps row).symm
      · rfl

/-- An update may make a difference only to the row that it finds. -/
theorem IsMirrored.updateFound (mirrored : tables.IsMirrored)
    {change : PromotedRow Number → PromotedRow Number} (found : tables.find? id = some (rowid, row)) :
    (tables.updateRow id change).IsMirroredBut rowid := by
  intro other elsewhere
  rw [updateRow_found found, if_neg elsewhere]
  exact mirrored other

theorem IsMirrored.updateMissing (mirrored : tables.IsMirrored)
    {change : PromotedRow Number → PromotedRow Number} (missing : tables.find? id = none) :
    (tables.updateRow id change).IsMirrored := by
  intro other
  rw [updateRow_missing missing]
  exact mirrored other

theorem get?_deleteFts (other : Nat) : (tables.deleteFts rowid).promotedFts.get? other =
    if other = rowid then none else tables.promotedFts.get? other :=
  KeyedTable.get?_erase ..

theorem IsMirroredBut.deleteFts (mirrored : tables.IsMirroredBut rowid) :
    (tables.deleteFts rowid).IsMirroredBut rowid := by
  intro other elsewhere
  rw [get?_deleteFts, if_neg elsewhere]
  exact mirrored other elsewhere

/-- Without its index row a row is mirrored when it has no mirror. -/
theorem IsMirroredBut.unindexed (mirrored : tables.IsMirroredBut rowid)
    (hidden : (tables.promoted.get? rowid).bind mirror = none) :
    (tables.deleteFts rowid).IsMirrored := by
  intro other
  rw [get?_deleteFts]
  split
  · next here =>
      rw [here]
      exact hidden.symm
  · next elsewhere => exact mirrored other elsewhere

theorem insertFts_eq_ok {indexed : PromotedFtsRow} {done : Unit}
    (inserted : tables.insertFts rowid indexed = .ok (done, later)) :
    later.promoted = tables.promoted ∧ ∀ other, later.promotedFts.get? other =
      if other = rowid then some indexed else tables.promotedFts.get? other := by
  rw [insertFts] at inserted
  split at inserted
  · next promotedFts known =>
      cases inserted
      exact ⟨rfl, KeyedTable.get?_insert? known⟩
  · cases inserted

/-- With the index row that mirrors it a row is mirrored. -/
theorem IsMirroredBut.indexed (mirrored : tables.IsMirroredBut rowid) {indexed : PromotedFtsRow}
    {done : Unit} (inserted : tables.insertFts rowid indexed = .ok (done, later))
    (shown : (tables.promoted.get? rowid).bind mirror = some indexed) : later.IsMirrored := by
  obtain ⟨promoted, promotedFts⟩ := insertFts_eq_ok inserted
  intro other
  rw [promotedFts, promoted]
  split
  · next here =>
      rw [here]
      exact shown.symm
  · next elsewhere => exact mirrored other elsewhere

/-- A new row is found under its id, and may differ from its mirror. -/
theorem IsMirrored.insertRow (mirrored : tables.IsMirrored) {done : Unit}
    (inserted : tables.insertRow row = .ok (done, later)) :
    later.find? row.id = some (tables.nextRowid, row) ∧ later.IsMirroredBut tables.nextRowid := by
  rw [PromotedTables.insertRow] at inserted
  split at inserted
  · next fresh =>
      cases inserted
      have known : tables.promoted.insert? tables.nextRowid row =
          some (tables.promoted.insertOrIgnore tables.nextRowid row) := by
        simp [KeyedTable.insertOrIgnore, KeyedTable.insert?, fresh.1]
      refine ⟨find?_eq_some.mpr ⟨?_, rfl⟩, ?_⟩
      · exact (KeyedTable.get?_insert? known _).trans (if_pos rfl)
      · intro other elsewhere
        have kept := KeyedTable.get?_insert? known other
        rw [if_neg elsewhere] at kept
        dsimp only
        rw [kept]
        exact mirrored other
  · cases inserted

theorem get?_deleteRow {other : Nat} : (tables.deleteRow id).promoted.get? other =
    (tables.promoted.get? other).filter fun row => row.id ≠ id := by
  ext row
  rw [PromotedTables.deleteRow, KeyedTable.get?_retain, Option.filter_eq_some_iff]

/-- A deletion leaves the other rows. -/
theorem deleteRow_found (found : tables.find? id = some (rowid, row)) (other : Nat) :
    (tables.deleteRow id).promoted.get? other =
      if other = rowid then none else tables.promoted.get? other := by
  obtain ⟨stored, named⟩ := find?_eq_some.mp found
  rw [get?_deleteRow]
  split
  · next here =>
      rw [here, stored]
      simp [named]
  · next elsewhere =>
      cases known : tables.promoted.get? other with
      | none => rfl
      | some another => simp [find?_unique found known elsewhere]

theorem deleteRow_missing (missing : tables.find? id = none) (other : Nat) :
    (tables.deleteRow id).promoted.get? other = tables.promoted.get? other := by
  rw [get?_deleteRow]
  cases found : tables.promoted.get? other with
  | none => rfl
  | some row => simp [find?_eq_none.mp missing other row found]

end PromotedTables

section Operations

open PromotedTables

variable {Number : Type} {connection : Connection JsString (PromotedTables Number)}

/-- The name of the savepoint of the store. -/
abbrev ftsSavepoint : JsString := js "promoted_fts_sync"

/-- An operation in the savepoint of the store, with the tables that it leaves. -/
abbrev Mirrors {Value : Type} (operation : PromotedSession Number Value)
    (inner : Connection JsString (PromotedTables Number)) (after : PromotedTables Number → Prop) : Prop :=
  Meets operation inner (fun _ later => later.Inside IsMirrored ftsSavepoint ∧ after later.tables)
    (Recovering IsMirrored ftsSavepoint)

theorem modify_mirrors {change : PromotedTables Number → PromotedTables Number}
    (inside : connection.Inside IsMirrored ftsSavepoint) {after : PromotedTables Number → Prop}
    (done : after (change connection.tables)) : Mirrors (modify change) connection after := by
  apply statement_meets inside
  intro _ later acted inside
  have same : change connection.tables = later.tables := (Prod.mk.inj (Except.ok.inj acted)).2
  exact ⟨inside, same ▸ done⟩

/-- An operation in sequence starts from the tables of the one before it. -/
theorem Mirrors.bind {Value Next : Type} {operation : PromotedSession Number Value}
    {next : Value → PromotedSession Number Next} {before after : PromotedTables Number → Prop}
    (first : Mirrors operation connection before)
    (rest : ∀ value later, later.Inside IsMirrored ftsSavepoint → before later.tables →
      Mirrors (next value) later after) : Mirrors (operation >>= next) connection after :=
  Meets.bind first fun value later reached => rest value later reached.1 reached.2

theorem query_mirrors {Value Next : Type} {read : PromotedTables Number → Value}
    {next : Value → PromotedSession Number Next} {after : PromotedTables Number → Prop}
    (inside : connection.Inside IsMirrored ftsSavepoint)
    (rest : ∀ later, later.Inside IsMirrored ftsSavepoint → later.tables = connection.tables →
      Mirrors (next (read connection.tables)) later after) :
    Mirrors (query read >>= next) connection after := by
  apply meets_bind
  apply statement_meets inside
  intro value later acted inside
  obtain ⟨rfl, same⟩ := Prod.mk.inj (Except.ok.inj acted)
  exact rest later inside same.symm

/-- The mirror of a row that is not archived is brought up to date. -/
theorem replaceFts_mirrors {rowid : Nat} {row : PromotedRow Number}
    (inside : connection.Inside IsMirrored ftsSavepoint)
    (mirrored : connection.tables.IsMirroredBut rowid)
    (stored : connection.tables.promoted.get? rowid = some row) (active : row.archivedAt = none) :
    Mirrors (replaceFts rowid row.content row.tags) connection fun tables =>
      tables.IsMirrored ∧ tables.promoted = connection.tables.promoted := by
  have deleted : Mirrors (modify (·.deleteFts rowid)) connection fun tables =>
      tables.IsMirroredBut rowid ∧ tables.promoted = connection.tables.promoted :=
    modify_mirrors inside ⟨mirrored.deleteFts, rfl⟩
  apply deleted.bind
  rintro _ later inside ⟨mirrored, same⟩
  apply statement_meets inside
  intro _ last inserted inside
  refine ⟨inside, mirrored.indexed inserted ?_, (insertFts_eq_ok inserted).1.trans same⟩
  rw [same, stored, Option.bind_some, mirror, active]
  rfl

/-- An operation of the store keeps the index, wherever it stops. -/
abbrev KeepsMirror {Value : Type} (operation : PromotedSession Number Value)
    (connection : Connection JsString (PromotedTables Number)) : Prop :=
  Meets operation connection (fun _ later => later.Holds IsMirrored) (Stopped IsMirrored)

variable {numbers : JsNumbers Number}
  {serializePromotedMetadata : Json Number → Except PromotedFailure JsString} {id : JsString}
  {now : Timestamp}

theorem withFtsSavepoint_keeps {Value : Type} {operation : PromotedSession Number Value}
    (kept : connection.Holds IsMirrored)
    (mirrors : ∀ inner, inner.Inside IsMirrored ftsSavepoint → inner.tables = connection.tables →
      Mirrors operation inner IsMirrored) : KeepsMirror (withFtsSavepoint operation) connection :=
  withSavepoint_holds kept fun inner same inside => mirrors inner inside same

theorem lift_keeps {Value Next : Type} {check : Except PromotedFailure Value}
    {next : Value → PromotedSession Number Next} (kept : connection.Holds IsMirrored)
    (keeps : ∀ value, KeepsMirror (next value) connection) :
    KeepsMirror (lift check >>= next) connection := by
  apply meets_bind
  apply meets_lift
  · exact fun value _ => keeps value
  · exact fun _ _ => kept

theorem query_keeps {Value Next : Type} {read : PromotedTables Number → Value}
    {next : Value → PromotedSession Number Next} (kept : connection.Holds IsMirrored)
    (keeps : ∀ later, later.Holds IsMirrored → later.tables = connection.tables →
      KeepsMirror (next (read connection.tables)) later) :
    KeepsMirror (query read >>= next) connection := by
  apply (statement_holds kept _).bind
  · rintro value later ⟨kept, acted, _⟩
    obtain ⟨rfl, same⟩ := Prod.mk.inj (Except.ok.inj acted)
    exact keeps later kept same.symm
  · intro _ tables acted
    rw [← (Prod.mk.inj (Except.ok.inj acted)).2]
    exact kept.tables

theorem insert_keeps (params : InsertParams Number) (kept : connection.Holds IsMirrored) :
    KeepsMirror (insert numbers serializePromotedMetadata true id now params) connection := by
  apply lift_keeps kept
  intro _
  apply lift_keeps kept
  intro metadata
  show KeepsMirror (withFtsSavepoint _ >>= fun _ => pure id) connection
  refine Meets.bind (withFtsSavepoint_keeps kept ?_) fun _ _ kept => meets_pure kept
  intro inner inside same
  apply meets_bind
  apply statement_meets inside
  intro _ later inserted inside
  have mirrored : inner.tables.IsMirrored := same ▸ kept.tables
  obtain ⟨found, mirrored⟩ := mirrored.insertRow inserted
  apply query_mirrors inside
  intro last inside same
  rw [found]
  apply statement_meets inside
  intro _ final indexed inside
  rw [same] at indexed
  refine ⟨inside, mirrored.indexed indexed ?_⟩
  rw [(find?_eq_some.mp found).1]
  rfl

theorem archive_keeps (kept : connection.Holds IsMirrored) :
    KeepsMirror (archive true id now : PromotedSession Number Unit) connection := by
  apply withFtsSavepoint_keeps kept
  intro inner inside same
  have mirrored : inner.tables.IsMirrored := same ▸ kept.tables
  apply query_mirrors inside
  intro later inside same
  rw [← same] at mirrored ⊢
  cases found : later.tables.find? id with
  | none =>
      refine (modify_mirrors inside (mirrored.updateMissing found)).bind ?_
      exact fun _ _ inside mirrored => meets_pure ⟨inside, mirrored⟩
  | some entry =>
      have archived : Mirrors (modify (·.updateRow id fun row => { row with archivedAt := some now }))
          later fun tables => tables.IsMirroredBut entry.1 ∧
            (tables.promoted.get? entry.1).bind mirror = none := by
        apply modify_mirrors inside
        refine ⟨mirrored.updateFound found, ?_⟩
        rw [updateRow_found found, if_pos rfl]
        rfl
      apply archived.bind
      rintro _ last inside ⟨mirrored, hidden⟩
      exact modify_mirrors inside (mirrored.unindexed hidden)

theorem deleteById_keeps (kept : connection.Holds IsMirrored) :
    KeepsMirror (deleteById true id : PromotedSession Number Unit) connection := by
  apply withFtsSavepoint_keeps kept
  intro inner inside same
  have mirrored : inner.tables.IsMirrored := same ▸ kept.tables
  apply query_mirrors inside
  intro later inside same
  rw [← same] at mirrored ⊢
  cases found : later.tables.find? id with
  | none =>
      apply modify_mirrors inside
      intro other
      rw [deleteRow_missing found]
      exact mirrored other
  | some entry =>
      have deleted : Mirrors (modify (·.deleteFts entry.1)) later (· = later.tables.deleteFts entry.1) :=
        modify_mirrors inside rfl
      apply deleted.bind
      intro _ last inside same
      apply modify_mirrors inside
      rw [same]
      have found : (later.tables.deleteFts entry.1).find? id = some (entry.1, entry.2) := found
      intro other
      rw [deleteRow_found found]
      split
      · next here => simp [PromotedTables.deleteRow, get?_deleteFts, here]
      · next elsewhere => exact (mirrored.but entry.1).deleteFts other elsewhere

/-- What an update needs to know of the row that it found before its savepoint. -/
structure IsFound (id : JsString) (rowid : Nat) (row : PromotedRow Number) (fields : PromotedFields Number)
    (tables : PromotedTables Number) : Prop where
  mirrored : tables.IsMirrored
  found : ∃ current, tables.find? id = some (rowid, current) ∧ current.content = row.content ∧
    (fields.tags ≠ none → current.archivedAt = none)

/-- A statement for one of the fields that the index does not have. -/
theorem unindexed_mirrors {Value : Type} {rowid : Nat} {row : PromotedRow Number}
    {fields : PromotedFields Number} {value : Option Value}
    {change : Value → PromotedRow Number → PromotedRow Number}
    (keeps : ∀ value row, (change value row).content = row.content ∧
      (change value row).tags = row.tags ∧ (change value row).archivedAt = row.archivedAt)
    (inside : connection.Inside IsMirrored ftsSavepoint)
    (is : IsFound id rowid row fields connection.tables) :
    Mirrors (whenGiven value fun value => modify (·.updateRow id (change value))) connection
      (IsFound id rowid row fields) := by
  cases value with
  | none => exact meets_pure ⟨inside, is⟩
  | some value =>
      apply modify_mirrors inside
      obtain ⟨current, found, content, active⟩ := is.found
      obtain ⟨sameContent, sameTags, sameArchive⟩ := keeps value current
      refine ⟨is.mirrored.updateRow id ?_, _, find?_updateRow found, sameContent.trans content, ?_⟩
      · intro other
        obtain ⟨content, tags, archivedAt⟩ := keeps value other
        simp only [mirror, content, tags, archivedAt]
      · exact fun tagged => sameArchive.trans (active tagged)

/-- The row that was found is read before its tags are written, and mirrored after. -/
theorem updateTags_mirrors {rowid : Nat} {row : PromotedRow Number} {fields : PromotedFields Number}
    {tags : List JsString} (given : fields.tags = some tags)
    (inside : connection.Inside IsMirrored ftsSavepoint)
    (is : IsFound id rowid row fields connection.tables) :
    Mirrors (updateTags numbers true id rowid row tags) connection (IsFound id rowid row fields) := by
  obtain ⟨current, found, content, active⟩ := is.found
  have active : current.archivedAt = none := active (given ▸ nofun)
  apply meets_bind
  apply meets_lift
  · intro read checked
    have same : read = current.content := by
      rw [if_pos rfl, readPromotedContent] at checked
      split at checked
      · cases checked
      · cases checked
        exact content.symm
    rw [same]
    let updated := { current with tags := stringifyTags numbers tags }
    have tagged : Mirrors (modify (·.updateRow id fun row =>
        { row with tags := stringifyTags numbers tags })) connection fun tables =>
          tables.IsMirroredBut rowid ∧ tables.find? id = some (rowid, { updated with id }) :=
      modify_mirrors inside ⟨is.mirrored.updateFound found, find?_updateRow found⟩
    apply tagged.bind
    rintro _ later inside ⟨mirrored, found⟩
    apply (replaceFts_mirrors inside mirrored (find?_eq_some.mp found).1 active).mono
    · rintro _ last ⟨inside, mirrored, promoted⟩
      refine ⟨inside, mirrored, { updated with id }, ?_, content, fun _ => active⟩
      rw [PromotedTables.find?, promoted]
      exact found
    · exact fun _ _ stopped => stopped
  · exact fun failure _ => inside.recovers

theorem updateFields_mirrors {rowid : Nat} {row : PromotedRow Number} {fields : PromotedFields Number}
    {metadata : Option JsString} (inside : connection.Inside IsMirrored ftsSavepoint)
    (mirrored : connection.tables.IsMirrored) (found : connection.tables.find? id = some (rowid, row))
    (active : fields.content ≠ none ∨ fields.tags ≠ none → row.archivedAt = none) :
    Mirrors (updateFields numbers true id fields metadata rowid row) connection IsMirrored := by
  rw [updateFields]
  cases given : fields.content with
  | some content =>
      have active : row.archivedAt = none := active (.inl (given ▸ nofun))
      let updated := { row with
        content
        confidence := fields.confidence.getD row.confidence
        tags := (fields.tags.map (stringifyTags numbers)).getD row.tags
        metadata := metadata.getD row.metadata }
      have written : Mirrors (modify (·.updateRow id fun current => { current with
          content
          confidence := fields.confidence.getD current.confidence
          tags := (fields.tags.map (stringifyTags numbers)).getD row.tags
          metadata := metadata.getD current.metadata })) connection fun tables =>
            tables.IsMirroredBut rowid ∧ tables.find? id = some (rowid, { updated with id }) :=
        modify_mirrors inside ⟨mirrored.updateFound found, find?_updateRow found⟩
      apply written.bind
      rintro _ later inside ⟨mirrored, found⟩
      apply (replaceFts_mirrors inside mirrored (find?_eq_some.mp found).1 active).mono
      · exact fun _ _ ended => ⟨ended.1, ended.2.1⟩
      · exact fun _ _ stopped => stopped
  | none =>
      have is : IsFound id rowid row fields connection.tables :=
        ⟨mirrored, row, found, rfl, fun tagged => active (.inr tagged)⟩
      refine Mirrors.bind (unindexed_mirrors ?_ inside is) ?_
      · exact fun _ _ => ⟨rfl, rfl, rfl⟩
      intro _ later inside is
      have tagged : Mirrors (whenGiven fields.tags (updateTags numbers true id rowid row)) later
          (IsFound id rowid row fields) := by
        cases given : fields.tags with
        | none => exact meets_pure ⟨inside, is⟩
        | some tags => exact updateTags_mirrors given inside is
      refine tagged.bind ?_
      intro _ last inside is
      apply (unindexed_mirrors _ inside is).mono
      · exact fun _ _ ended => ⟨ended.1, ended.2.mirrored⟩
      · exact fun _ _ stopped => stopped
      · exact fun _ _ => ⟨rfl, rfl, rfl⟩

theorem update_keeps {fields : PromotedFields Number} (kept : connection.Holds IsMirrored)
    (active : fields.content ≠ none ∨ fields.tags ≠ none → ∀ rowid row,
      connection.tables.find? id = some (rowid, row) → row.archivedAt = none) :
    KeepsMirror (update numbers serializePromotedMetadata true id fields) connection := by
  apply lift_keeps kept
  intro _
  apply lift_keeps kept
  intro metadata
  apply query_keeps kept
  intro later kept same
  cases found : connection.tables.find? id with
  | none => exact meets_pure kept
  | some entry =>
      apply withFtsSavepoint_keeps kept
      intro inner inside opened
      rw [same] at opened
      refine updateFields_mirrors inside ?_ (opened ▸ found) fun indexed => active indexed _ _ found
      rw [opened, ← same]
      exact kept.tables

theorem revive_keeps (kept : connection.Holds IsMirrored) :
    KeepsMirror (revive true id : PromotedSession Number Unit) connection := by
  apply query_keeps kept
  intro later kept same
  cases found : connection.tables.find? id with
  | none => exact meets_pure kept
  | some entry =>
      apply withFtsSavepoint_keeps kept
      intro inner inside opened
      have mirrored : inner.tables.IsMirrored := opened ▸ kept.tables
      rw [same] at opened
      rw [← opened] at found
      apply meets_bind
      apply meets_lift
      · intro content checked
        have read : content = entry.2.content := by
          rw [readPromotedContent] at checked
          split at checked
          · cases checked
          · exact (Except.ok.inj checked).symm
        let revived := { entry.2 with archivedAt := none }
        have written : Mirrors (modify (·.updateRow id fun row => { row with archivedAt := none })) inner
            fun tables => tables.IsMirroredBut entry.1 ∧
              tables.find? id = some (entry.1, { revived with id }) :=
          modify_mirrors inside ⟨mirrored.updateFound found, find?_updateRow found⟩
        rw [read]
        apply written.bind
        rintro _ last inside ⟨mirrored, found⟩
        apply (replaceFts_mirrors inside mirrored (find?_eq_some.mp found).1 rfl).mono
        · exact fun _ _ ended => ⟨ended.1, ended.2.1⟩
        · exact fun _ _ stopped => stopped
      · exact fun failure _ => inside.recovers

end Operations

section Runs

open PromotedTables

variable {Number : Type} {numbers : JsNumbers Number}
  {serializePromotedMetadata : Json Number → Except PromotedFailure JsString}
  {connection : Connection JsString (PromotedTables Number)}

/-- No content and no tags are written to an archived memory. -/
def SparesArchived (connection : Connection JsString (PromotedTables Number))
    (call : PromotedCall Number) : Prop :=
  ∀ id fields, call.request = .update id fields → fields.content ≠ none ∨ fields.tags ≠ none →
    ∀ rowid row, connection.tables.find? id = some (rowid, row) → row.archivedAt = none

/-- A request keeps the index, wherever it stops. -/
theorem request_keeps {request : PromotedRequest Number} (kept : connection.Holds IsMirrored)
    (spares : ∀ id fields, request = .update id fields → fields.content ≠ none ∨ fields.tags ≠ none →
      ∀ rowid row, connection.tables.find? id = some (rowid, row) → row.archivedAt = none) :
    KeepsMirror (request.run numbers serializePromotedMetadata true) connection := by
  cases request with
  | insert id now params => exact (insert_keeps params kept).bind fun _ _ kept => meets_pure kept
  | update id fields => exact update_keeps kept (spares id fields rfl)
  | archive id now => exact archive_keeps kept
  | deleteById id => exact deleteById_keeps kept
  | revive id => exact revive_keeps kept
  | begin => exact begin_holds kept
  | commit => exact commit_holds kept
  | rollback => exact rollback_holds kept
  | savepoint name => exact savepoint_holds kept
  | release name => exact release_holds kept
  | rollbackTo name => exact rollbackTo_holds kept.recovers

/-- In every run that writes no content and no tags to an archived memory, the index has exactly the
memories that are not archived, as they are; and so has every savepoint. -/
theorem promoted_fts_mirrors
    (reached : ((promotedSystem numbers serializePromotedMetadata true).restrict
      SparesArchived).Reachable connection) : connection.Holds IsMirrored := by
  apply reached.invariant
  · rintro connection ⟨tables, savepoints⟩
    refine ⟨?_, ?_⟩
    · rw [tables]
      exact fun _ => rfl
    · rw [savepoints]
      exact fun _ outside => (List.not_mem_nil outside).elim
  · rintro before call after _ kept ⟨spares, rfl⟩
    have kept : Connection.Holds IsMirrored { before with fates := call.fates } :=
      ⟨kept.tables, kept.savepoints⟩
    exact Connection.Holds.call (request_keeps kept spares) call.budget

end Runs

section Sample

def sampleStore : Connection JsString (PromotedTables Nat) := ⟨.empty, [], []⟩

def sampleInsert : PromotedRequest Nat :=
  .insert (js "m1") 0 ⟨js "old", some [js "tag"], none, none, js "p1", none, none, none⟩

def sampleUpdate : PromotedRequest Nat :=
  .update (js "m1") ⟨some (js "new"), none, none, none⟩

def sampleMetadata : Json Nat → Except PromotedFailure JsString := fun _ => .ok []

/-- The store after some requests, each with the fates of its statements. -/
def sampleRun (calls : List (PromotedRequest Nat × List Fate)) : Connection JsString (PromotedTables Nat) :=
  (calls.map fun call => ⟨call.1, call.2, none⟩).foldl
    (PromotedCall.apply naturalNumbers sampleMetadata true) sampleStore

/-- Two insertions, of which the index refuses the second, and an archive. -/
theorem promoted_fts_mirrors_sample :
    (sampleRun [(sampleInsert, []), (.insert (js "m2") 0 ⟨js "x", none, none, none, js "p1", none, none, none⟩,
      [.executed, .executed, .executed, .failed]), (.archive (js "m1") 1, [])]).Holds
        PromotedTables.IsMirrored := by
  apply promoted_fts_mirrors
  apply StepSystem.Reachable.fold_restrict
  · exact fun _ _ => rfl
  · intro call inside connection id fields same
    simp only [List.map_cons, List.map_nil, List.mem_cons, List.not_mem_nil, or_false] at inside
    rcases inside with rfl | rfl | rfl <;> cases same
  · exact .start ⟨rfl, rfl⟩

/-- An update of an archived memory brings it into the index. -/
theorem archived_update_indexed :
    (promotedSystem naturalNumbers sampleMetadata true).Reachable
      (sampleRun [(sampleInsert, []), (.archive (js "m1") 1, []), (sampleUpdate, [])]) ∧
      ¬ (sampleRun [(sampleInsert, []), (.archive (js "m1") 1, []),
        (sampleUpdate, [])]).tables.IsMirrored := by
  refine ⟨.fold (fun _ _ => rfl) _ (.start ⟨rfl, rfl⟩), ?_⟩
  intro mirrored
  have indexed := mirrored 1
  revert indexed
  decide

end Sample

end Lcm.Store
