import Mathlib.Data.List.Nodup
import Mathlib.Tactic.Common

/-- Under distinct keys the rows of one key are the one row that has it. -/
theorem filter_distinct_keys {Key Row : Type*} [DecidableEq Key] {key : Row → Key} {rows : List Row}
    (distinct : (rows.map key).Nodup) {row : Row} (inside : row ∈ rows) :
    rows.filter (fun other => key other = key row) = [row] := by
  induction rows with
  | nil => cases inside
  | cons first rest ih =>
      obtain ⟨fresh, others⟩ := List.nodup_cons.mp distinct
      rcases List.mem_cons.mp inside with rfl | later
      · rw [List.filter_cons_of_pos (by simp), List.filter_eq_nil_iff.mpr]
        intro other member same
        exact fresh (List.mem_map.mpr ⟨other, member, of_decide_eq_true same⟩)
      · rw [List.filter_cons_of_neg, ih others later]
        intro same
        exact fresh (of_decide_eq_true same ▸ List.mem_map_of_mem later)

/-- A keyed table keeps its rows in insertion order under unique keys. -/
structure KeyedTable (Key Row : Type*) where
  entries : List (Key × Row)
  distinct : (entries.map Prod.fst).Nodup

namespace KeyedTable

variable {Key Row : Type*}

/-- Two tables with the same entries are the same table. -/
@[ext] theorem ext {first second : KeyedTable Key Row}
    (same : first.entries = second.entries) : first = second := by
  cases first
  cases second
  cases same
  rfl

/-- The empty table has no rows. -/
def empty : KeyedTable Key Row := ⟨[], List.nodup_nil⟩

/-- The keys in use, in insertion order. -/
def keys (table : KeyedTable Key Row) : List Key := table.entries.map Prod.fst

/-- The rows in insertion order. -/
def rows (table : KeyedTable Key Row) : List Row := table.entries.map Prod.snd

@[simp] theorem empty_keys : (empty : KeyedTable Key Row).keys = [] := rfl

theorem keys_nodup (table : KeyedTable Key Row) : table.keys.Nodup := table.distinct

theorem entry_unique {table : KeyedTable Key Row} {key : Key} {first second : Row}
    (firstIn : (key, first) ∈ table.entries) (secondIn : (key, second) ∈ table.entries) :
    first = second :=
  (Prod.mk.inj (List.inj_on_of_nodup_map table.distinct firstIn secondIn rfl)).2

theorem entries_nodup (table : KeyedTable Key Row) : table.entries.Nodup := table.distinct.of_map _

theorem mem_keys {table : KeyedTable Key Row} {key : Key} :
    key ∈ table.keys ↔ ∃ row, (key, row) ∈ table.entries := by
  simp [keys]

variable [DecidableEq Key]

instance [DecidableEq Row] : DecidableEq (KeyedTable Key Row) := fun first second =>
  decidable_of_iff (first.entries = second.entries) ⟨ext, congrArg entries⟩

/-- The row stored under a key. -/
def get? (table : KeyedTable Key Row) (key : Key) : Option Row :=
  (table.entries.find? fun entry => entry.1 = key).map Prod.snd

/-- An insertion appends one row and refuses a key that is in use. -/
def insert? (table : KeyedTable Key Row) (key : Key) (row : Row) : Option (KeyedTable Key Row) :=
  if used : key ∈ table.keys then none else
    some ⟨table.entries ++ [(key, row)], by
      rw [List.map_append, List.nodup_append]
      refine ⟨table.distinct, List.nodup_singleton _, ?_⟩
      intro first firstIn second secondIn same
      have atKey : second = key := by simpa using secondIn
      exact used (atKey ▸ same ▸ firstIn)⟩

/-- An insertion that ignores a conflict leaves the stored row in place. -/
def insertOrIgnore (table : KeyedTable Key Row) (key : Key) (row : Row) : KeyedTable Key Row :=
  (table.insert? key row).getD table

/-- The table with the entries that a test keeps. -/
def retain (table : KeyedTable Key Row) (keep : Key × Row → Bool) : KeyedTable Key Row :=
  ⟨table.entries.filter keep, table.distinct.sublist (List.filter_sublist.map _)⟩

/-- The table without a key. -/
def erase (table : KeyedTable Key Row) (key : Key) : KeyedTable Key Row :=
  table.retain fun entry => entry.1 ≠ key

/-- A row takes the place of the stored row of its key, or comes last under a new key. -/
def put (table : KeyedTable Key Row) (key : Key) (row : Row) : KeyedTable Key Row :=
  if key ∈ table.keys then
    ⟨table.entries.map fun entry => (entry.1, if entry.1 = key then row else entry.2), by
      rw [List.map_map]
      exact table.distinct⟩
  else table.insertOrIgnore key row

/-- The table with every row changed in place. -/
def mapRows (table : KeyedTable Key Row) (change : Key → Row → Row) : KeyedTable Key Row :=
  ⟨table.entries.map fun entry => (entry.1, change entry.1 entry.2), by
    rw [List.map_map]
    exact table.distinct⟩

/-- The table with the row of one key changed in place. -/
def update (table : KeyedTable Key Row) (key : Key) (change : Row → Row) : KeyedTable Key Row :=
  table.mapRows fun name row => if name = key then change row else row

/-- The table with the rows of some keys changed one after another. -/
def updateAll (table : KeyedTable Key Row) (changes : List (Key × (Row → Row))) : KeyedTable Key Row :=
  changes.foldl (fun table change => table.update change.1 change.2) table

/-- The table without its oldest entries. -/
def dropOldest (table : KeyedTable Key Row) (count : Nat) : KeyedTable Key Row :=
  ⟨table.entries.drop count, table.distinct.sublist ((List.drop_sublist _ _).map _)⟩

theorem get?_eq_some {table : KeyedTable Key Row} {key : Key} {row : Row} :
    table.get? key = some row ↔ (key, row) ∈ table.entries := by
  constructor
  · intro found
    obtain ⟨entry, first, rfl⟩ := Option.map_eq_some_iff.mp found
    have sameKey : entry.1 = key := by simpa using List.find?_some first
    have inside := List.mem_of_find?_eq_some first
    rw [← sameKey]
    exact inside
  · intro inside
    cases search : table.entries.find? fun entry => entry.1 = key with
    | none =>
        have missing := List.find?_eq_none.mp search (key, row) inside
        simp at missing
    | some entry =>
        have sameKey : entry.1 = key := by simpa using List.find?_some search
        have found : (key, entry.2) ∈ table.entries := by
          rw [← sameKey]
          exact List.mem_of_find?_eq_some search
        simp [get?, search, entry_unique found inside]

theorem get?_eq_none {table : KeyedTable Key Row} {key : Key} :
    table.get? key = none ↔ key ∉ table.keys := by
  rw [mem_keys, Option.eq_none_iff_forall_ne_some]
  simp only [ne_eq, get?_eq_some, not_exists]

/-- A successful insertion used a fresh key and appended its row. -/
theorem insert?_eq_some {table after : KeyedTable Key Row} {key : Key} {row : Row} :
    table.insert? key row = some after ↔
      key ∉ table.keys ∧ after.entries = table.entries ++ [(key, row)] := by
  rw [insert?]
  split
  · next used => simp [used]
  · next fresh =>
      simp only [Option.some.injEq, fresh, not_false_eq_true, true_and]
      exact ⟨fun same => same ▸ rfl, fun same => ext same.symm⟩

theorem keys_insert? {table after : KeyedTable Key Row} {key : Key} {row : Row}
    (inserted : table.insert? key row = some after) : after.keys = table.keys ++ [key] := by
  simp [keys, (insert?_eq_some.mp inserted).2]

theorem get?_insert? {table after : KeyedTable Key Row} {key : Key} {row : Row}
    (inserted : table.insert? key row = some after) (other : Key) :
    after.get? other = if other = key then some row else table.get? other := by
  obtain ⟨fresh, entries⟩ := insert?_eq_some.mp inserted
  ext found
  rw [get?_eq_some, entries]
  by_cases same : other = key
  · subst same
    have absent : (other, found) ∉ table.entries := fun inside => fresh (mem_keys.mpr ⟨_, inside⟩)
    simp [absent, eq_comm]
  · simp [same, get?_eq_some]

/-- An insertion keeps the rows that were stored before. -/
theorem get?_insert?_of_some {table after : KeyedTable Key Row} {key other : Key} {row found : Row}
    (inserted : table.insert? key row = some after) (stored : table.get? other = some found) :
    after.get? other = some found := by
  rw [get?_insert? inserted, if_neg, stored]
  rintro rfl
  exact (insert?_eq_some.mp inserted).1 (mem_keys.mpr ⟨_, get?_eq_some.mp stored⟩)

theorem insertOrIgnore_fresh {table : KeyedTable Key Row} {key : Key} (row : Row)
    (fresh : key ∉ table.keys) :
    (table.insertOrIgnore key row).entries = table.entries ++ [(key, row)] := by
  simp [insertOrIgnore, insert?, fresh]

theorem insertOrIgnore_used {table : KeyedTable Key Row} {key : Key} {row : Row}
    (used : key ∈ table.keys) : table.insertOrIgnore key row = table := by
  simp [insertOrIgnore, insert?, used]

theorem get?_insertOrIgnore_eq_some {table : KeyedTable Key Row} {key other : Key} {row found : Row} :
    (table.insertOrIgnore key row).get? other = some found ↔
      table.get? other = some found ∨ key ∉ table.keys ∧ other = key ∧ found = row := by
  by_cases used : key ∈ table.keys
  · rw [insertOrIgnore_used used]
    simp [used]
  · rw [get?_eq_some, insertOrIgnore_fresh row used, get?_eq_some]
    simp [used]

@[simp] theorem mem_keys_insertOrIgnore {table : KeyedTable Key Row} {key other : Key} {row : Row} :
    other ∈ (table.insertOrIgnore key row).keys ↔ other ∈ table.keys ∨ other = key := by
  by_cases used : key ∈ table.keys
  · rw [insertOrIgnore_used used]
    exact ⟨.inl, fun inside => inside.elim id fun same => same ▸ used⟩
  · rw [keys, insertOrIgnore_fresh row used]
    simp [keys]

theorem get?_retain {table : KeyedTable Key Row} {keep : Key × Row → Bool} {key : Key} {row : Row} :
    (table.retain keep).get? key = some row ↔ table.get? key = some row ∧ keep (key, row) = true := by
  rw [get?_eq_some, get?_eq_some]
  exact List.mem_filter

theorem get?_erase (table : KeyedTable Key Row) (key other : Key) :
    (table.erase key).get? other = if other = key then none else table.get? other := by
  ext row
  rw [erase, get?_retain]
  by_cases same : other = key
  · simp [same]
  · simp [same]

theorem get?_put (table : KeyedTable Key Row) (key other : Key) (row : Row) :
    (table.put key row).get? other = if other = key then some row else table.get? other := by
  by_cases used : key ∈ table.keys
  · obtain ⟨stored, inside⟩ := mem_keys.mp used
    ext found
    rw [get?_eq_some, put, if_pos used]
    constructor
    · intro member
      obtain ⟨⟨name, old⟩, entry, same⟩ := List.mem_map.mp member
      obtain ⟨rfl, rfl⟩ := Prod.mk.inj same
      by_cases atKey : name = key
      · simp [atKey]
      · rw [if_neg atKey, if_neg atKey, get?_eq_some]
        exact entry
    · intro found'
      by_cases atKey : other = key
      · subst atKey
        rw [if_pos rfl] at found'
        exact List.mem_map.mpr ⟨(other, stored), inside, by simpa using found'⟩
      · rw [if_neg atKey, get?_eq_some] at found'
        exact List.mem_map.mpr ⟨(other, found), found', by simp [atKey]⟩
  · have inserted : table.insert? key row = some (table.put key row) := by
      simp [put, used, insertOrIgnore, insert?]
    exact get?_insert? inserted other

theorem get?_mapRows (table : KeyedTable Key Row) (change : Key → Row → Row) (key : Key) :
    (table.mapRows change).get? key = (table.get? key).map (change key) := by
  ext row
  rw [get?_eq_some, Option.map_eq_some_iff]
  constructor
  · intro inside
    obtain ⟨⟨name, old⟩, entry, same⟩ := List.mem_map.mp inside
    obtain ⟨rfl, rfl⟩ := Prod.mk.inj same
    exact ⟨old, get?_eq_some.mpr entry, rfl⟩
  · rintro ⟨old, found, rfl⟩
    exact List.mem_map.mpr ⟨(key, old), get?_eq_some.mp found, rfl⟩

omit [DecidableEq Key] in
@[simp] theorem keys_mapRows (table : KeyedTable Key Row) (change : Key → Row → Row) :
    (table.mapRows change).keys = table.keys := by
  simp [keys, mapRows]

@[simp] theorem keys_update (table : KeyedTable Key Row) (key : Key) (change : Row → Row) :
    (table.update key change).keys = table.keys := keys_mapRows ..

theorem get?_update (table : KeyedTable Key Row) (key other : Key) (change : Row → Row) :
    (table.update key change).get? other =
      (table.get? other).map fun row => if other = key then change row else row :=
  get?_mapRows ..

theorem keys_updateAll (table : KeyedTable Key Row) (changes : List (Key × (Row → Row))) :
    (table.updateAll changes).keys = table.keys := by
  induction changes generalizing table with
  | nil => rfl
  | cons change changes ih => rw [updateAll, List.foldl_cons, ← updateAll, ih, keys_update]

theorem get?_updateAll_of_notMem {key : Key} {changes : List (Key × (Row → Row))}
    (outside : key ∉ changes.map Prod.fst) (table : KeyedTable Key Row) :
    (table.updateAll changes).get? key = table.get? key := by
  induction changes generalizing table with
  | nil => rfl
  | cons change changes ih =>
      rw [List.map_cons, List.mem_cons, not_or] at outside
      rw [updateAll, List.foldl_cons, ← updateAll, ih outside.2, get?_update]
      simp [outside.1]

/-- Under distinct keys each change reaches the row of its key. -/
theorem get?_updateAll {key : Key} {change : Row → Row} {changes : List (Key × (Row → Row))}
    (distinct : (changes.map Prod.fst).Nodup) (inside : (key, change) ∈ changes)
    (table : KeyedTable Key Row) :
    (table.updateAll changes).get? key = (table.get? key).map change := by
  induction changes generalizing table with
  | nil => cases inside
  | cons first changes ih =>
      obtain ⟨fresh, others⟩ := List.nodup_cons.mp distinct
      rw [updateAll, List.foldl_cons, ← updateAll]
      rcases List.mem_cons.mp inside with rfl | later
      · rw [get?_updateAll_of_notMem fresh, get?_update]
        simp
      · rw [ih others later, get?_update]
        have other : key ≠ first.1 := fun same => fresh (same ▸ List.mem_map_of_mem later)
        simp [other]

theorem get?_dropOldest {table : KeyedTable Key Row} {count : Nat} {key : Key} {row : Row}
    (found : (table.dropOldest count).get? key = some row) : table.get? key = some row := by
  rw [get?_eq_some] at found ⊢
  exact List.mem_of_mem_drop found

end KeyedTable
