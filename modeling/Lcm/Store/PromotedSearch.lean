import Lcm.Library.SortedBy
import Lcm.Library.UndisturbedSessions
import Lcm.Store.PromotedMirror
import Lcm.Text.SqliteText
import Lcm.Text.Utf8
import Mathlib.Data.List.Lex

namespace Lcm.Store
open Text Savepoints Interruptible

/-- What the search engine brings to a search: which rows match some terms, with the index and without
it, the order of the page, and how many rows a slice takes. -/
structure PromotedEngine (Number : Type) where
  matchesIndex : List JsString → PromotedFtsRow → Bool
  matchesRow : List JsString → PromotedRow Number → Bool
  before : List JsString → PromotedTables Number → PromotedRow Number → PromotedRow Number → Bool
  sliceCount : Number → Nat

structure SearchResult (Number : Type) where
  id : JsString
  content : JsString
  tags : List JsString
  projectId : JsString
  sessionId : Option JsString
  confidence : Number
  createdAt : Timestamp

/-- The words of a query. -/
def searchTerms (query : JsString) : List JsString :=
  let words := query.map fun unit => if isWordCharacter unit || isWhiteSpace unit then unit else 32
  (words.splitOnP isWhiteSpace).filter fun term => !term.isEmpty

section Reads

variable {Number : Type} (numbers : JsNumbers Number) (engine : PromotedEngine Number)
  (fts5Available : Bool)

def stringOf : Json Number → Option JsString
  | .string text => some text
  | _ => none

def parsePromotedTags (serialized : JsString) : List JsString :=
  match Json.parse numbers.format serialized with
  | some (.array elements) => (elements.mapM stringOf).getD []
  | _ => []

/-- The text of a row as a query gives it, unless it has a NUL. -/
def publicContent (row : PromotedRow Number) : Except PromotedFailure JsString :=
  (readPromotedContent row).map toWellFormed

def toSearchResult (row : PromotedRow Number) : Except PromotedFailure (SearchResult Number) :=
  (publicContent row).map fun content =>
    ⟨row.id, content, parsePromotedTags numbers row.tags, toWellFormed row.projectId,
      row.sessionId.map toWellFormed, row.confidence, row.createdAt⟩

/-- The stored project is the one that a query names. -/
def isOfProject (projectId : JsString) (row : PromotedRow Number) : Bool :=
  toWellFormed row.projectId = toWellFormed projectId

def findExactContent (content projectId : JsString) (tables : PromotedTables Number) :
    Except PromotedFailure (Option (SearchResult Number)) :=
  let rows := tables.promoted.rows.filter fun row =>
    row.archivedAt.isNone && toWellFormed row.content = toWellFormed content && isOfProject projectId row
  let newest := (sortedBy (fun row : PromotedRow Number =>
    toLex (row.createdAt, (encodeUtf8 row.id).map UInt8.toNat)) rows).getLast?
  newest.mapM (toSearchResult numbers)

/-- No project and an empty one are no filter. -/
def passesProjectFilter (projectId : Option JsString) (row : PromotedRow Number) : Bool :=
  projectId.all fun projectId => projectId.isEmpty || isOfProject projectId row

def matchingRows (terms : List JsString) (tables : PromotedTables Number) : List (PromotedRow Number) :=
  if fts5Available then
    tables.promotedFts.entries.filterMap fun (rowid, indexed) =>
      if engine.matchesIndex terms indexed then tables.promoted.get? rowid else none
  else tables.promoted.rows.filter (engine.matchesRow terms)

/-- A negative limit is none. The statement with the index takes only whole numbers. -/
def limitRows (limit : Number) (rows : List (PromotedRow Number)) :
    Except PromotedFailure (List (PromotedRow Number)) :=
  if fts5Available then
    match numbers.toInteger limit with
    | none => .error .statement
    | some bound => .ok (if bound < 0 then rows else rows.take bound.toNat)
  else .ok (if numbers.less limit (numbers.ofNat 0) then rows else rows.take (engine.sliceCount limit))

def search (query : JsString) (limit : Number) (projectId : Option JsString)
    (tables : PromotedTables Number) : Except PromotedFailure (List (SearchResult Number)) :=
  let terms := searchTerms query
  if terms.isEmpty then .ok []
  else do
    let eligible := (matchingRows engine fts5Available terms tables).filter fun row =>
      row.archivedAt.isNone && passesProjectFilter projectId row
    let rows ← limitRows numbers engine fts5Available limit
      (eligible.insertionSort fun first second => engine.before terms tables first second)
    rows.mapM (toSearchResult numbers)

end Reads

section Specification

variable {Number : Type} {numbers : JsNumbers Number} {engine : PromotedEngine Number}
  {fts5Available : Bool} {tables : PromotedTables Number}

theorem mapM_stringOf (texts : List JsString) :
    (texts.map Json.string).mapM (@stringOf Number) = some texts := by
  induction texts with
  | nil => rfl
  | cons text texts ih =>
      rw [List.map_cons, List.mapM_cons, ih]
      rfl

variable (numbers) in
/-- Tags are read as they were written. -/
theorem parsePromotedTags_stringifyTags (tags : List JsString) :
    parsePromotedTags numbers (stringifyTags numbers tags) = tags := by
  have printable : Json.Printable numbers.format (.array (tags.map .string)) := by
    refine .array fun element inside => ?_
    obtain ⟨tag, _, rfl⟩ := List.mem_map.mp inside
    exact .string tag
  rw [parsePromotedTags, stringifyTags, Json.parse_print printable]
  simp only [mapM_stringOf, Option.getD_some]

/-- The result of a row that can be read. -/
def resultOf (numbers : JsNumbers Number) (row : PromotedRow Number) : SearchResult Number :=
  ⟨row.id, toWellFormed row.content, parsePromotedTags numbers row.tags, toWellFormed row.projectId,
    row.sessionId.map toWellFormed, row.confidence, row.createdAt⟩

theorem toSearchResult_readable {row : PromotedRow Number} (readable : includesNul row.content = false) :
    toSearchResult numbers row = .ok (resultOf numbers row) := by
  rw [toSearchResult, publicContent, readPromotedContent, readable]
  rfl

/-- No content has a NUL. -/
def PromotedTables.IsReadable (tables : PromotedTables Number) : Prop :=
  ∀ row ∈ tables.promoted.rows, includesNul row.content = false

/-- A row that the exact look-up may find. -/
structure HasExactContent (content projectId : JsString) (row : PromotedRow Number) : Prop where
  active : row.archivedAt = none
  content : toWellFormed row.content = toWellFormed content
  projectId : isOfProject projectId row = true

variable (numbers) in
/-- The exact look-up finds a row when there is one. -/
theorem findExactContent_readable (readable : tables.IsReadable) (content projectId : JsString) :
    ∃ found, findExactContent numbers content projectId tables = .ok (found.map (resultOf numbers)) ∧
      (∀ row, found = some row → row ∈ tables.promoted.rows ∧ HasExactContent content projectId row) ∧
      (found = none → ∀ row ∈ tables.promoted.rows, ¬ HasExactContent content projectId row) := by
  let key : PromotedRow Number → _ := fun row => toLex (row.createdAt, (encodeUtf8 row.id).map UInt8.toNat)
  let rows := tables.promoted.rows.filter fun row =>
    row.archivedAt.isNone && toWellFormed row.content = toWellFormed content && isOfProject projectId row
  have ordered : (sortedBy key rows).Perm rows := SortedBy.perm rows
  have rows_iff : ∀ row, row ∈ rows ↔
      row ∈ tables.promoted.rows ∧ HasExactContent content projectId row := by
    intro row
    simp only [rows, List.mem_filter, Bool.and_eq_true, Option.isNone_iff_eq_none, decide_eq_true_eq]
    refine and_congr_right fun _ => ?_
    exact ⟨fun met => ⟨met.1.1, met.1.2, met.2⟩, fun met => ⟨⟨met.active, met.content⟩, met.projectId⟩⟩
  refine ⟨(sortedBy key rows).getLast?, ?_, ?_, ?_⟩
  · show ((sortedBy key rows).getLast?).mapM (toSearchResult numbers) = _
    cases last : (sortedBy key rows).getLast? with
    | none => rfl
    | some row =>
        have inside := ((rows_iff row).mp (ordered.mem_iff.mp (List.mem_of_getLast? last))).1
        rw [Option.mapM_some, toSearchResult_readable (readable row inside)]
        rfl
  · intro row last
    exact (rows_iff row).mp (ordered.mem_iff.mp (List.mem_of_getLast? last))
  · intro none row inside matching
    rw [List.getLast?_eq_none_iff] at none
    have member := ordered.mem_iff.mpr ((rows_iff row).mpr ⟨inside, matching⟩)
    rw [none] at member
    exact List.not_mem_nil member

/-- The statement takes the limit. -/
def AcceptsLimit (numbers : JsNumbers Number) (fts5Available : Bool) (limit : Number) : Prop :=
  fts5Available = true → ∃ bound, numbers.toInteger limit = some bound

variable (engine) in
theorem limitRows_accepted {limit : Number} (accepted : AcceptsLimit numbers fts5Available limit)
    (rows : List (PromotedRow Number)) :
    ∃ page, limitRows numbers engine fts5Available limit rows = .ok page ∧ page.Sublist rows := by
  rw [limitRows]
  cases fts5Available with
  | false =>
      refine ⟨_, rfl, ?_⟩
      split
      · exact .refl _
      · exact List.take_sublist ..
  | true =>
      obtain ⟨bound, whole⟩ := accepted rfl
      rw [whole]
      refine ⟨_, rfl, ?_⟩
      split
      · exact .refl _
      · exact List.take_sublist ..

variable (engine fts5Available tables) in
/-- The rows that match are stored rows, each of them once. -/
theorem matchingRows_stored (terms : List JsString) :
    (∀ row ∈ matchingRows engine fts5Available terms tables, row ∈ tables.promoted.rows) ∧
      ((matchingRows engine fts5Available terms tables).map (·.id)).Nodup := by
  rw [matchingRows]
  cases fts5Available with
  | false => exact ⟨fun row inside => (List.mem_filter.mp inside).1,
      tables.unique.sublist (List.filter_sublist.map _)⟩
  | true =>
      have stored : ∀ (entry : Nat × PromotedFtsRow) (row : PromotedRow Number),
          (if engine.matchesIndex terms entry.2 then tables.promoted.get? entry.1 else none) = some row →
            tables.promoted.get? entry.1 = some row := by
        intro entry row found
        split at found
        · exact found
        · cases found
      constructor
      · intro row inside
        obtain ⟨entry, _, found⟩ := List.mem_filterMap.mp inside
        exact List.mem_map.mpr ⟨_, KeyedTable.get?_eq_some.mp (stored entry row found), rfl⟩
      · have keys := List.pairwise_map.mp tables.promotedFts.distinct
        rw [if_pos rfl, List.Nodup, List.pairwise_map]
        apply keys.filterMap
        intro first second distinct row found other otherFound same
        have firstFound := PromotedTables.find?_eq_some.mpr ⟨stored first row found, rfl⟩
        exact PromotedTables.find?_unique firstFound (stored second other otherFound) (Ne.symm distinct)
          same.symm

variable (engine) in
/-- A page holds active rows that pass the filter, each of them once. -/
theorem search_readable (readable : tables.IsReadable) (query : JsString) {limit : Number}
    (accepted : AcceptsLimit numbers fts5Available limit) (projectId : Option JsString) :
    ∃ page : List (PromotedRow Number),
      search numbers engine fts5Available query limit projectId tables =
          .ok (page.map (resultOf numbers)) ∧ (page.map (·.id)).Nodup ∧
        ∀ row ∈ page, row ∈ tables.promoted.rows ∧ row.archivedAt = none ∧
          passesProjectFilter projectId row = true := by
  rw [search]
  split
  · exact ⟨[], rfl, List.nodup_nil, fun _ outside => (List.not_mem_nil outside).elim⟩
  · let eligible := (matchingRows engine fts5Available (searchTerms query) tables).filter fun row =>
      row.archivedAt.isNone && passesProjectFilter projectId row
    let ordered := eligible.insertionSort fun first second =>
      engine.before (searchTerms query) tables first second
    have same : ordered.Perm eligible := List.perm_insertionSort _ _
    obtain ⟨stored, once⟩ := matchingRows_stored engine fts5Available tables (searchTerms query)
    obtain ⟨page, limited, within⟩ := limitRows_accepted engine accepted ordered
    have members : ∀ row ∈ page, row ∈ tables.promoted.rows ∧ row.archivedAt = none ∧
        passesProjectFilter projectId row = true := by
      intro row inside
      obtain ⟨found, passes⟩ := List.mem_filter.mp (same.mem_iff.mp (within.subset inside))
      rw [Bool.and_eq_true, Option.isNone_iff_eq_none] at passes
      exact ⟨stored row found, passes.1, passes.2⟩
    refine ⟨page, ?_, ?_, members⟩
    · show (limitRows numbers engine fts5Available limit ordered).bind (·.mapM (toSearchResult numbers)) = _
      rw [limited]
      apply Except.mapM_eq_ok.mpr
      rw [List.forall₂_map_right_iff, List.forall₂_same]
      exact fun row inside => toSearchResult_readable (readable row (members row inside).1)
    · have distinct : (ordered.map (·.id)).Nodup :=
        (same.map _).nodup_iff.mpr (once.sublist (List.filter_sublist.map _))
      exact distinct.sublist (within.map _)

end Specification

end Lcm.Store
