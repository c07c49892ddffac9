import Mathlib.Data.List.Sort
import Mathlib.Order.Defs.LinearOrder
import Mathlib.Tactic.Common

/-- An ordered table keeps its rows sorted by a unique key. -/
structure OrderedTable (Key Row : Type*) [LinearOrder Key] where
  entries : List (Key × Row)
  sorted : entries.Pairwise fun first second => first.1 < second.1

namespace OrderedTable

variable {Key Row : Type*} [LinearOrder Key]

/-- Two tables with the same rows in the same places are the same table. -/
@[ext] theorem ext {first second : OrderedTable Key Row}
    (same : first.entries = second.entries) : first = second := by
  cases first
  cases second
  cases same
  rfl

instance [DecidableEq Row] : DecidableEq (OrderedTable Key Row) := fun first second =>
  decidable_of_iff (first.entries = second.entries) ⟨ext, congrArg entries⟩

/-- The empty table has no rows. -/
def empty : OrderedTable Key Row := ⟨[], List.Pairwise.nil⟩

/-- The keys in use, in ascending order. -/
def keys (table : OrderedTable Key Row) : List Key := table.entries.map Prod.fst

/-- The rows in ascending order of their keys. -/
def rows (table : OrderedTable Key Row) : List Row := table.entries.map Prod.snd

/-- The row stored under a key. -/
def get? (table : OrderedTable Key Row) (key : Key) : Option Row :=
  (table.entries.find? fun entry => entry.1 = key).map Prod.snd

theorem mem_keys {table : OrderedTable Key Row} {key : Key} :
    key ∈ table.keys ↔ ∃ row, (key, row) ∈ table.entries := by
  simp [keys]

theorem keys_nodup (table : OrderedTable Key Row) : table.keys.Nodup :=
  List.pairwise_map.mpr (table.sorted.imp fun before => ne_of_lt before)

theorem entry_unique {table : OrderedTable Key Row} {key : Key} {first second : Row}
    (firstIn : (key, first) ∈ table.entries) (secondIn : (key, second) ∈ table.entries) :
    first = second := by
  have same := List.inj_on_of_nodup_map table.keys_nodup firstIn secondIn rfl
  exact (Prod.mk.inj same).2

/-- A lookup answers exactly the stored entry. -/
theorem get?_eq_some {table : OrderedTable Key Row} {key : Key} {row : Row} :
    table.get? key = some row ↔ (key, row) ∈ table.entries := by
  constructor
  · intro found
    obtain ⟨entry, first, rfl⟩ := Option.map_eq_some_iff.mp found
    have sameKey : entry.1 = key := by simpa using List.find?_some first
    have inside := List.mem_of_find?_eq_some first
    rw [← sameKey]
    exact inside
  · intro inside
    cases search : table.entries.find? fun entry => entry.1 = key with
    | none =>
        have missing := List.find?_eq_none.mp search (key, row) inside
        simp at missing
    | some entry =>
        have sameKey : entry.1 = key := by simpa using List.find?_some search
        have found : (key, entry.2) ∈ table.entries := by
          rw [← sameKey]
          exact List.mem_of_find?_eq_some search
        simp [get?, search, entry_unique found inside]

theorem get?_eq_none {table : OrderedTable Key Row} {key : Key} :
    table.get? key = none ↔ key ∉ table.keys := by
  rw [mem_keys, Option.eq_none_iff_forall_ne_some]
  simp only [ne_eq, get?_eq_some, not_exists]

/-- Tables that answer every lookup alike are equal. -/
theorem ext_get? {first second : OrderedTable Key Row}
    (same : ∀ key, first.get? key = second.get? key) : first = second := by
  have members : ∀ entry : Key × Row, entry ∈ first.entries ↔ entry ∈ second.entries := by
    rintro ⟨key, row⟩
    rw [← get?_eq_some, ← get?_eq_some, same]
  have distinct : ∀ table : OrderedTable Key Row, table.entries.Nodup := fun table =>
    table.sorted.imp fun before equal => absurd (congrArg Prod.fst equal) (ne_of_lt before)
  refine ext (List.Perm.eq_of_pairwise ?_ first.sorted second.sorted
    ((List.perm_ext_iff_of_nodup (distinct first) (distinct second)).mpr members))
  intro one two _ _ before after
  exact absurd before (lt_asymm after)

/-- An insertion keeps the order and refuses a key that is in use. -/
def insert? (table : OrderedTable Key Row) (key : Key) (row : Row) :
    Option (OrderedTable Key Row) :=
  if fresh : key ∈ table.keys then none else
    some {
      entries := table.entries.filter (fun entry => entry.1 < key) ++
        (key, row) :: table.entries.filter (fun entry => key < entry.1)
      sorted := by
        refine List.pairwise_append.mpr ⟨table.sorted.filter _, ?_, ?_⟩
        · refine List.pairwise_cons.mpr ⟨?_, table.sorted.filter _⟩
          intro entry inside
          simpa using (List.mem_filter.mp inside).2
        · intro first firstIn second secondIn
          have below : first.1 < key := by simpa using (List.mem_filter.mp firstIn).2
          rcases List.mem_cons.mp secondIn with rfl | later
          · exact below
          · exact below.trans (by simpa using (List.mem_filter.mp later).2) }

/-- The rows that satisfy a condition on their key. -/
def select (table : OrderedTable Key Row) (keep : Key → Bool) : OrderedTable Key Row where
  entries := table.entries.filter fun entry => keep entry.1
  sorted := table.sorted.filter _

/-- A range deletion removes the keys between two bounds. -/
def eraseRange (table : OrderedTable Key Row) (low high : Key) : OrderedTable Key Row :=
  table.select fun key => !decide (low ≤ key ∧ key ≤ high)

/-- A key update moves one row; a missing row changes nothing and a used key is refused. -/
def rekey? (table : OrderedTable Key Row) (old new : Key) : Option (OrderedTable Key Row) :=
  match table.get? old with
  | none => some table
  | some row => (table.select fun key => key ≠ old).insert? new row

/-- A batch of key updates runs in order. -/
def rekeyAll? (table : OrderedTable Key Row) : List (Key × Key) → Option (OrderedTable Key Row)
  | [] => some table
  | (old, new) :: moves => do (← table.rekey? old new).rekeyAll? moves

theorem get?_select (table : OrderedTable Key Row) (keep : Key → Bool) (key : Key) :
    (table.select keep).get? key = if keep key then table.get? key else none := by
  ext row
  rw [get?_eq_some]
  by_cases kept : keep key = true <;> simp [select, kept, get?_eq_some]

theorem insert?_isSome {table : OrderedTable Key Row} {key : Key} {row : Row} :
    (table.insert? key row).isSome ↔ table.get? key = none := by
  rw [get?_eq_none, insert?]
  split <;> simp_all

theorem get?_insert? {table after : OrderedTable Key Row} {key : Key} {row : Row}
    (inserted : table.insert? key row = some after) (other : Key) :
    after.get? other = if other = key then some row else table.get? other := by
  simp only [insert?] at inserted
  split at inserted
  · cases inserted
  · cases inserted
    ext found
    rw [get?_eq_some]
    by_cases same : other = key
    · subst same
      simp [eq_comm]
    · rcases lt_or_gt_of_ne same with below | above
      · simp [same, get?_eq_some, below, not_lt_of_gt below]
      · simp [same, get?_eq_some, above, not_lt_of_gt above]

/-- A fresh key between two parts of a table puts its row between them. -/
theorem insert?_between {table : OrderedTable Key Row} {before after : List (Key × Row)}
    (key : Key) (row : Row) (parts : table.entries = before ++ after)
    (below : ∀ entry ∈ before, entry.1 < key) (above : ∀ entry ∈ after, key < entry.1) :
    ∃ next, table.insert? key row = some next ∧
      next.entries = before ++ (key, row) :: after := by
  have fresh : key ∉ table.keys := by
    rw [mem_keys, parts]
    rintro ⟨found, inside⟩
    rcases List.mem_append.mp inside with inside | inside
    · exact lt_irrefl _ (below _ inside)
    · exact lt_irrefl _ (above _ inside)
  have lower : table.entries.filter (fun entry => entry.1 < key) = before := by
    have noneAbove : after.filter (fun entry => entry.1 < key) = [] :=
      List.filter_eq_nil_iff.mpr fun entry inside => by simp [le_of_lt (above entry inside)]
    rw [parts, List.filter_append, noneAbove, List.append_nil]
    exact List.filter_eq_self.mpr fun entry inside => by simp [below entry inside]
  have upper : table.entries.filter (fun entry => key < entry.1) = after := by
    have noneBelow : before.filter (fun entry => key < entry.1) = [] :=
      List.filter_eq_nil_iff.mpr fun entry inside => by simp [le_of_lt (below entry inside)]
    rw [parts, List.filter_append, noneBelow, List.nil_append]
    exact List.filter_eq_self.mpr fun entry inside => by simp [above entry inside]
  rw [insert?, dif_neg fresh]
  exact ⟨_, rfl, by simp only [lower, upper]⟩

theorem rekey?_fresh {table : OrderedTable Key Row} (old : Key) {new : Key}
    (fresh : table.get? new = none) : ∃ after, table.rekey? old new = some after ∧
      ∀ key, after.get? key =
        if key = new then table.get? old else if key = old then none else table.get? key := by
  cases stored : table.get? old with
  | none =>
      refine ⟨table, by simp [rekey?, stored], fun key => ?_⟩
      split
      · next same => rw [same, fresh]
      · split
        · next same => rw [same, stored]
        · rfl
  | some row =>
      have room : ((table.select fun key => key ≠ old).insert? new row).isSome := by
        rw [insert?_isSome, get?_select, fresh, ite_self]
      obtain ⟨after, inserted⟩ := Option.isSome_iff_exists.mp room
      refine ⟨after, by simp only [rekey?, stored]; exact inserted, fun key => ?_⟩
      rw [get?_insert? inserted, get?_select]
      simp only [ne_eq, decide_not, Bool.not_eq_eq_eq_not, Bool.not_true, decide_eq_false_iff_not]
      split
      · rfl
      · by_cases same : key = old <;> simp [same]

/-- A batch onto distinct unused keys succeeds and moves every row it names. -/
theorem rekeyAll?_fresh (table : OrderedTable Key Row) (moves : List (Key × Key))
    (oldDistinct : (moves.map Prod.fst).Nodup) (newDistinct : (moves.map Prod.snd).Nodup)
    (apart : ∀ old ∈ moves.map Prod.fst, old ∉ moves.map Prod.snd)
    (fresh : ∀ new ∈ moves.map Prod.snd, table.get? new = none) :
    ∃ after, table.rekeyAll? moves = some after ∧
      (∀ move ∈ moves, after.get? move.2 = table.get? move.1) ∧
      ∀ key, key ∉ moves.map Prod.snd →
        after.get? key = if key ∈ moves.map Prod.fst then none else table.get? key := by
  induction moves generalizing table with
  | nil => exact ⟨table, rfl, by simp, by simp⟩
  | cons move moves ih =>
      obtain ⟨old, new⟩ := move
      simp only [List.map_cons, List.nodup_cons, List.mem_cons, forall_eq_or_imp, not_or]
        at oldDistinct newDistinct apart fresh
      obtain ⟨middle, moved, looked⟩ := rekey?_fresh old fresh.1
      obtain ⟨after, rest, hit, miss⟩ := ih middle oldDistinct.2 newDistinct.2
        (fun key inside => (apart.2 key inside).2) (by
          intro key inside
          have different : key ≠ new := fun same => newDistinct.1 (same ▸ inside)
          have notOld : key ≠ old := fun same => apart.1.2 (same ▸ inside)
          rw [looked, if_neg different, if_neg notOld]
          exact fresh.2 key inside)
      refine ⟨after, by simp only [rekeyAll?, moved]; exact rest, ?_, ?_⟩
      · intro move inside
        rcases List.mem_cons.mp inside with rfl | later
        · rw [miss new newDistinct.1, looked, if_pos rfl, if_neg]
          exact fun clash => (apart.2 new clash).1 rfl
        · rw [hit move later, looked]
          have moveOld := List.mem_map_of_mem (f := Prod.fst) later
          have notOld : move.1 ≠ old := fun same => oldDistinct.1 (same ▸ moveOld)
          rw [if_neg (apart.2 _ moveOld).1, if_neg notOld]
      · intro key outside
        simp only [List.map_cons, List.mem_cons, not_or] at outside ⊢
        rw [miss key outside.2, looked, if_neg outside.1]
        by_cases atOld : key = old <;> by_cases later : key ∈ moves.map Prod.fst <;>
          simp [atOld, later]

/-- An insertion keeps the entries that were stored before. -/
theorem mem_insert? {table after : OrderedTable Key Row} {key : Key} {row : Row}
    (inserted : table.insert? key row = some after) {entry : Key × Row} :
    entry ∈ after.entries ↔ entry = (key, row) ∨ entry ∈ table.entries := by
  obtain ⟨other, found⟩ := entry
  have fresh : table.get? key = none := by
    rw [← @insert?_isSome _ _ _ table key row, inserted]
    rfl
  rw [← get?_eq_some, get?_insert? inserted, ← get?_eq_some]
  by_cases same : other = key
  · subst same
    simp [fresh, eq_comm]
  · simp [same]

theorem entries_nodup (table : OrderedTable Key Row) : table.entries.Nodup :=
  table.sorted.imp fun before equal => absurd (congrArg Prod.fst equal) (ne_of_lt before)

theorem insert?_perm {table after : OrderedTable Key Row} {key : Key} {row : Row}
    (inserted : table.insert? key row = some after) :
    after.entries.Perm ((key, row) :: table.entries) := by
  have fresh : (key, row) ∉ table.entries := by
    intro inside
    have used := (@insert?_isSome _ _ _ table key row).mp (by rw [inserted]; rfl)
    rw [get?_eq_some.mpr inside] at used
    cases used
  rw [List.perm_ext_iff_of_nodup after.entries_nodup (List.nodup_cons.mpr ⟨fresh, table.entries_nodup⟩)]
  intro entry
  rw [mem_insert? inserted, List.mem_cons]

/-- A key update changes no rows. -/
theorem rows_rekey?_perm {table after : OrderedTable Key Row} {old new : Key}
    (moved : table.rekey? old new = some after) : after.rows.Perm table.rows := by
  rw [rekey?] at moved
  split at moved
  · cases moved
    exact .refl _
  · next row stored =>
      have whole : table.entries.Perm ((old, row) :: (table.select fun key => key ≠ old).entries) := by
        have apart : (old, row) ∉ (table.select fun key => key ≠ old).entries := by simp [select]
        rw [List.perm_ext_iff_of_nodup table.entries_nodup
          (List.nodup_cons.mpr ⟨apart, (table.select _).entries_nodup⟩)]
        rintro ⟨key, found⟩
        by_cases same : key = old
        · subst same
          constructor
          · intro inside
            rw [entry_unique inside (get?_eq_some.mp stored)]
            exact List.mem_cons_self ..
          · intro inside
            rcases List.mem_cons.mp inside with equal | other
            · rw [equal]
              exact get?_eq_some.mp stored
            · simp [select] at other
        · simp [select, same]
      exact ((insert?_perm moved).map Prod.snd).trans (whole.map Prod.snd).symm

theorem rows_rekeyAll?_perm {table after : OrderedTable Key Row} {moves : List (Key × Key)}
    (moved : table.rekeyAll? moves = some after) : after.rows.Perm table.rows := by
  induction moves generalizing table with
  | nil =>
      cases moved
      exact .refl _
  | cons move moves ih =>
      obtain ⟨middle, first, rest⟩ := Option.bind_eq_some_iff.mp moved
      exact (ih rest).trans (rows_rekey?_perm first)

/-- The rows that satisfy a condition, under their keys. -/
def keepRows (table : OrderedTable Key Row) (keep : Row → Bool) : OrderedTable Key Row where
  entries := table.entries.filter fun entry => keep entry.2
  sorted := table.sorted.filter _

/-- The entries of consecutive ordinals from a base. -/
def numberedFrom (base : Nat) : List Row → List (Int × Row)
  | [] => []
  | row :: rows => ((base : Int), row) :: numberedFrom (base + 1) rows

@[simp] theorem numberedFrom_rows (base : Nat) (rows : List Row) :
    (numberedFrom base rows).map Prod.snd = rows := by
  induction rows generalizing base with
  | nil => rfl
  | cons row rows ih => simp only [numberedFrom, List.map_cons, ih]

theorem numberedFrom_keys (base : Nat) (rows : List Row) :
    (numberedFrom base rows).map Prod.fst = (List.range' base rows.length).map Int.ofNat := by
  induction rows generalizing base with
  | nil => rfl
  | cons row rows ih =>
      simp only [numberedFrom, List.map_cons, List.length_cons, List.range'_succ, ih]
      rfl

theorem numberedFrom_append (base : Nat) (first second : List Row) :
    numberedFrom base (first ++ second) =
      numberedFrom base first ++ numberedFrom (base + first.length) second := by
  induction first generalizing base with
  | nil => rfl
  | cons row rows ih =>
      simp only [List.cons_append, numberedFrom, ih, List.length_cons]
      rw [Nat.add_right_comm, Nat.add_assoc base]

theorem numberedFrom_bounds {base : Nat} {rows : List Row} {entry : Int × Row}
    (inside : entry ∈ numberedFrom base rows) :
    (base : Int) ≤ entry.1 ∧ entry.1 < base + rows.length := by
  have key := List.mem_map_of_mem (f := Prod.fst) inside
  rw [numberedFrom_keys] at key
  obtain ⟨ordinal, range, same⟩ := List.mem_map.mp key
  have bounds := List.mem_range'_1.mp range
  simp only [Int.ofNat_eq_natCast] at same
  omega

theorem numberedFrom_sorted (base : Nat) (rows : List Row) :
    (numberedFrom base rows).Pairwise fun first second => first.1 < second.1 := by
  induction rows generalizing base with
  | nil => exact List.Pairwise.nil
  | cons row rows ih =>
      refine List.pairwise_cons.mpr ⟨fun entry inside => ?_, ih (base + 1)⟩
      have := (numberedFrom_bounds inside).1
      push_cast at this
      omega

/-- A numbered table has the ordinals zero to its length, without a gap. -/
def numbered (rows : List Row) : OrderedTable Int Row :=
  ⟨numberedFrom 0 rows, numberedFrom_sorted 0 rows⟩

@[simp] theorem numbered_rows (rows : List Row) : (numbered rows).rows = rows :=
  numberedFrom_rows 0 rows

theorem numbered_keys (rows : List Row) :
    (numbered rows).keys = (List.range rows.length).map Int.ofNat := by
  rw [List.range_eq_range']
  exact numberedFrom_keys 0 rows

theorem numberedFrom_mem {base : Nat} {rows : List Row} {key : Int} {row : Row} :
    (key, row) ∈ numberedFrom base rows ↔ ∃ index : Nat, key = base + index ∧
      rows[index]? = some row := by
  induction rows generalizing base with
  | nil => simp [numberedFrom]
  | cons head rows ih =>
      simp only [numberedFrom, List.mem_cons, Prod.mk.injEq, ih]
      constructor
      · rintro (⟨rfl, rfl⟩ | ⟨index, rfl, found⟩)
        · exact ⟨0, by simp, rfl⟩
        · exact ⟨index + 1, by push_cast; omega, by simpa using found⟩
      · rintro ⟨index, rfl, found⟩
        cases index with
        | zero => exact .inl ⟨by simp, by simpa using found.symm⟩
        | succ index => exact .inr ⟨index, by push_cast; omega, by simpa using found⟩

theorem numbered_get? {rows : List Row} {key : Int} {row : Row} :
    (numbered rows).get? key = some row ↔ ∃ index : Nat, key = index ∧
      rows[index]? = some row := by
  rw [get?_eq_some, numbered, numberedFrom_mem]
  simp only [Int.natCast_zero, Int.zero_add]

/-- A split of consecutive entries splits their rows. -/
theorem numberedFrom_split {base : Nat} {rows : List Row} {first second : List (Int × Row)}
    (parts : numberedFrom base rows = first ++ second) :
    ∃ before after, rows = before ++ after ∧ first = numberedFrom base before ∧
      second = numberedFrom (base + before.length) after := by
  induction first generalizing base rows with
  | nil => exact ⟨[], rows, rfl, rfl, parts.symm⟩
  | cons entry first ih =>
      cases rows with
      | nil => cases parts
      | cons row rows =>
          simp only [numberedFrom, List.cons_append, List.cons.injEq] at parts
          obtain ⟨before, after, split, head, tail⟩ := ih parts.2
          refine ⟨row :: before, after, by rw [split]; rfl, by rw [← parts.1, head]; rfl, ?_⟩
          rw [tail, List.length_cons, Nat.add_right_comm, Nat.add_assoc]

/-- The ordinals of consecutive entries run from the base to the last row. -/
theorem numberedFrom_extremes (base : Nat) {rows : List Row} (nonempty : rows ≠ []) :
    ((numberedFrom base rows).map Prod.fst).min? = some (base : Int) ∧
      ((numberedFrom base rows).map Prod.fst).max? = some ((base : Int) + rows.length - 1) := by
  have positive := List.length_pos_iff.mpr nonempty
  have member (index : Nat) (inside : index < rows.length) :
      (base : Int) + index ∈ (numberedFrom base rows).map Prod.fst := by
    rw [numberedFrom_keys]
    exact List.mem_map.mpr ⟨base + index, List.mem_range'_1.mpr (by omega), by simp⟩
  have bounds (key : Int) (inside : key ∈ (numberedFrom base rows).map Prod.fst) :
      (base : Int) ≤ key ∧ key < base + rows.length := by
    obtain ⟨entry, found, rfl⟩ := List.mem_map.mp inside
    exact numberedFrom_bounds found
  constructor
  · rw [List.min?_eq_some_iff]
    exact ⟨by simpa using member 0 positive, fun key inside => (bounds key inside).1⟩
  · rw [List.max?_eq_some_iff]
    constructor
    · have last := member (rows.length - 1) (by omega)
      rwa [show (base : Int) + (rows.length - 1 : Nat) = base + rows.length - 1 by omega] at last
    · intro key inside
      have := (bounds key inside).2
      omega

/-- A row one past the last ordinal extends the numbering. -/
theorem numbered_insert? (rows : List Row) (row : Row) :
    (numbered rows).insert? rows.length row = some (numbered (rows ++ [row])) := by
  have parts : (numbered rows).entries = numberedFrom 0 rows ++ [] := (List.append_nil _).symm
  obtain ⟨next, inserted, entries⟩ := insert?_between (rows.length : Int) row parts
    (fun entry inside => by
      have := numberedFrom_bounds inside
      omega) (fun _ outside => nomatch outside)
  rw [inserted]
  refine congrArg some (ext ?_)
  rw [entries]
  simp only [numbered, numberedFrom_append, Nat.zero_add]
  rfl

/-- Consecutive ordinals outside a range survive its deletion. -/
theorem numberedFrom_outside {base : Nat} {rows : List Row} {low high : Int}
    (outside : (base : Int) + rows.length ≤ low ∨ high < base) :
    (numberedFrom base rows).filter (fun entry => !decide (low ≤ entry.1 ∧ entry.1 ≤ high)) =
      numberedFrom base rows := by
  refine List.filter_eq_self.mpr fun entry inside => ?_
  have := numberedFrom_bounds inside
  simp only [Bool.not_eq_eq_eq_not, Bool.not_true, decide_eq_false_iff_not]
  omega

/-- Consecutive ordinals inside a range leave with it. -/
theorem numberedFrom_inside {base : Nat} {rows : List Row} {low high : Int}
    (above : low ≤ base) (below : (base : Int) + rows.length ≤ high + 1) :
    (numberedFrom base rows).filter (fun entry => !decide (low ≤ entry.1 ∧ entry.1 ≤ high)) =
      [] := by
  refine List.filter_eq_nil_iff.mpr fun entry inside => ?_
  have := numberedFrom_bounds inside
  simp only [Bool.not_eq_eq_eq_not, Bool.not_true, decide_eq_false_iff_not]
  omega

theorem numbered_eraseRange {before chunk after : List Row} {low high : Int}
    (first : low = before.length) (last : high + 1 = before.length + chunk.length) :
    ((numbered (before ++ chunk ++ after)).eraseRange low high).entries =
      numberedFrom 0 before ++ numberedFrom (before.length + chunk.length) after := by
  simp only [eraseRange, select, numbered, numberedFrom_append, List.filter_append,
    Nat.zero_add, List.length_append]
  rw [numberedFrom_outside (.inl (by omega)), numberedFrom_inside (by omega) (by omega),
    numberedFrom_outside (.inr (by push_cast; omega)), List.append_nil]

theorem get?_key (table : OrderedTable Key Row) (index : Nat) (key : Key)
    (found : table.keys[index]? = some key) : table.get? key = table.rows[index]? := by
  simp only [keys, List.getElem?_map, Option.map_eq_some_iff] at found
  obtain ⟨entry, located, rfl⟩ := found
  rw [rows, List.getElem?_map, located, Option.map_some, get?_eq_some]
  exact List.mem_of_getElem? located

/-- A range deletion and one insertion replace a chunk by a row in the same place. -/
theorem numbered_replace {before chunk : List Row} {low high : Int} (after : List Row) (row : Row)
    (first : low = before.length) (last : high + 1 = before.length + chunk.length)
    (nonempty : chunk ≠ []) :
    ∃ next : OrderedTable Int Row,
      ((numbered (before ++ chunk ++ after)).eraseRange low high).insert? low row = some next ∧
      next.rows = before ++ row :: after ∧ ∀ key ∈ next.keys, 0 ≤ key := by
  have positive := List.length_pos_iff.mpr nonempty
  obtain ⟨next, inserted, entries⟩ := insert?_between low row
    (numbered_eraseRange first last) (fun entry inside => by
      have := numberedFrom_bounds inside
      omega) (fun entry inside => by
      have := numberedFrom_bounds inside
      push_cast at this
      omega)
  refine ⟨next, inserted, ?_, ?_⟩
  · simp only [rows, entries, List.map_append, List.map_cons, numberedFrom_rows]
  · intro key used
    obtain ⟨found, inside⟩ := mem_keys.mp used
    rw [entries] at inside
    rcases List.mem_append.mp inside with inside | inside
    · exact (numberedFrom_bounds inside).1
    · rcases List.mem_cons.mp inside with same | inside
      · cases same
        omega
      · have := (numberedFrom_bounds inside).1
        omega

/-- The parking place of a row while its table is renumbered. -/
def parking (index : Nat) : Int := -((index : Int) + 1)

theorem parking_injective : Function.Injective parking := by
  intro first second same
  simp only [parking] at same
  omega

/-- The parking places of the first rows. -/
def parkings (count : Nat) : List Int := (List.range count).map parking

theorem parkings_nodup (count : Nat) : (parkings count).Nodup :=
  List.nodup_range.map parking_injective

theorem parkings_negative {count : Nat} {key : Int} (inside : key ∈ parkings count) : key < 0 := by
  obtain ⟨index, _, rfl⟩ := List.mem_map.mp inside
  simp only [parking]
  omega

/-- The first phase moves each row to its parking place. -/
def park? (table : OrderedTable Int Row) : Option (OrderedTable Int Row) :=
  table.rekeyAll? (table.keys.zip (parkings table.keys.length))

/-- The second phase moves the parked rows to consecutive ordinals. -/
def place? (parked : OrderedTable Int Row) (count : Nat) : Option (OrderedTable Int Row) :=
  parked.rekeyAll? ((parkings count).zip ((List.range count).map Int.ofNat))

/-- Renumbering goes through negative ordinals so that no update meets a used key. -/
def renumber? (table : OrderedTable Int Row) : Option (OrderedTable Int Row) := do
  (← table.park?).place? table.keys.length

theorem rows_renumber?_perm {table after : OrderedTable Int Row} (renumbered : table.renumber? = some after) :
    after.rows.Perm table.rows := by
  obtain ⟨parked, first, second⟩ := Option.bind_eq_some_iff.mp renumbered
  exact (rows_rekeyAll?_perm second).trans (rows_rekeyAll?_perm first)

theorem park?_rows {table : OrderedTable Int Row} (natural : ∀ key ∈ table.keys, 0 ≤ key) :
    ∃ parked, table.park? = some parked ∧
      (∀ index < table.keys.length, parked.get? (parking index) = table.rows[index]?) ∧
      ∀ key, key ∉ parkings table.keys.length → parked.get? key = none := by
  have old : (table.keys.zip (parkings table.keys.length)).map Prod.fst = table.keys :=
    List.map_fst_zip (by simp [parkings])
  have new : (table.keys.zip (parkings table.keys.length)).map Prod.snd =
      parkings table.keys.length := List.map_snd_zip (by simp [parkings])
  obtain ⟨parked, moved, hit, miss⟩ := rekeyAll?_fresh table
    (table.keys.zip (parkings table.keys.length))
    (by rw [old]; exact table.keys_nodup) (by rw [new]; exact parkings_nodup _)
    (by
      rw [old, new]
      intro key used negative
      have := natural key used
      have := parkings_negative negative
      omega)
    (by
      rw [new]
      refine fun key negative => get?_eq_none.mpr fun used => ?_
      have := natural key used
      have := parkings_negative negative
      omega)
  rw [old, new] at miss
  refine ⟨parked, moved, fun index inside => ?_, fun key outside => ?_⟩
  · have move : (table.keys[index], parking index) ∈
        table.keys.zip (parkings table.keys.length) := by
      refine List.mem_iff_getElem?.mpr ⟨index, ?_⟩
      simp [parkings, inside]
    rw [hit _ move, get?_key table index _ (by simp [inside])]
  · rw [miss key outside]
    split
    · rfl
    · next absent => exact get?_eq_none.mpr absent

theorem place?_numbered {parked : OrderedTable Int Row} {rows : List Row}
    (stored : ∀ index < rows.length, parked.get? (parking index) = rows[index]?)
    (elsewhere : ∀ key, key ∉ parkings rows.length → parked.get? key = none) :
    parked.place? rows.length = some (numbered rows) := by
  have old : ((parkings rows.length).zip ((List.range rows.length).map Int.ofNat)).map Prod.fst =
      parkings rows.length := List.map_fst_zip (by simp [parkings])
  have new : ((parkings rows.length).zip ((List.range rows.length).map Int.ofNat)).map Prod.snd =
      (List.range rows.length).map Int.ofNat := List.map_snd_zip (by simp [parkings])
  have natural : ∀ key ∈ (List.range rows.length).map Int.ofNat,
      key ∉ parkings rows.length := by
    intro key inside negative
    obtain ⟨index, _, rfl⟩ := List.mem_map.mp inside
    have := parkings_negative negative
    simp only [Int.ofNat_eq_natCast] at this
    omega
  obtain ⟨final, moved, hit, miss⟩ := rekeyAll?_fresh parked
    ((parkings rows.length).zip ((List.range rows.length).map Int.ofNat))
    (by rw [old]; exact parkings_nodup _)
    (by rw [new]; exact List.nodup_range.map fun _ _ same => Int.ofNat.inj same)
    (by rw [old, new]; exact fun key negative inside => natural key inside negative)
    (by rw [new]; exact fun key inside => elsewhere key (natural key inside))
  rw [old, new] at miss
  rw [place?, moved]
  refine congrArg some (ext_get? fun key => ?_)
  by_cases inside : key ∈ (List.range rows.length).map Int.ofNat
  · obtain ⟨index, range, rfl⟩ := List.mem_map.mp inside
    have bound := List.mem_range.mp range
    have move : (parking index, Int.ofNat index) ∈
        (parkings rows.length).zip ((List.range rows.length).map Int.ofNat) := by
      refine List.mem_iff_getElem?.mpr ⟨index, ?_⟩
      simp [parkings, bound]
    rw [hit _ move, stored index bound]
    ext row
    rw [numbered_get?]
    constructor
    · exact fun found => ⟨index, rfl, found⟩
    · rintro ⟨other, same, found⟩
      rwa [Int.ofNat.inj same]
  · have missing : (numbered rows).get? key = none := by
      rw [get?_eq_none, numbered_keys]
      exact inside
    rw [missing, miss key inside]
    split
    · rfl
    · next notParked => exact elsewhere key notParked

/-- A table without negative keys is renumbered in its own order. -/
theorem renumber?_eq {table : OrderedTable Int Row} (natural : ∀ key ∈ table.keys, 0 ≤ key) :
    table.renumber? = some (numbered table.rows) := by
  have sameLength : table.keys.length = table.rows.length := by simp [rows, keys]
  obtain ⟨parked, moved, stored, elsewhere⟩ := park?_rows natural
  rw [sameLength] at stored elsewhere
  simp only [renumber?, moved, Option.bind_eq_bind, Option.bind_some, sameLength]
  exact place?_numbered stored elsewhere

/-- A key update that moves a row down within its gap keeps the row in its place. -/
theorem rekey?_within {table : OrderedTable Key Row} {low high : List (Key × Row)} {old new : Key}
    {row : Row} (parts : table.entries = low ++ (old, row) :: high)
    (below : ∀ entry ∈ low, entry.1 < new) (down : new ≤ old) :
    ∃ next, table.rekey? old new = some next ∧ next.entries = low ++ (new, row) :: high := by
  have sorted := table.sorted
  rw [parts, List.pairwise_append, List.pairwise_cons] at sorted
  have stored : table.get? old = some row := by
    rw [get?_eq_some, parts]
    exact List.mem_append_right _ (List.mem_cons_self ..)
  have remaining : (table.select fun key => key ≠ old).entries = low ++ high := by
    have lower : low.filter (fun entry => decide (entry.1 ≠ old)) = low :=
      List.filter_eq_self.mpr fun entry inside => by
        simp [ne_of_lt (sorted.2.2 entry inside _ (List.mem_cons_self ..))]
    have upper : high.filter (fun entry => decide (entry.1 ≠ old)) = high :=
      List.filter_eq_self.mpr fun entry inside => by
        simp [ne_of_gt (sorted.2.1.1 entry inside)]
    simp only [select, parts, List.filter_append]
    rw [lower, List.filter_cons_of_neg (by simp), upper]
  obtain ⟨next, inserted, entries⟩ := insert?_between new row remaining below fun entry inside =>
    lt_of_le_of_lt down (sorted.2.1.1 entry inside)
  exact ⟨next, by simp only [rekey?, stored]; exact inserted, entries⟩

/-- Ascending updates move the end of a table down by a shift. -/
theorem rekeyAll?_shift {shift : Int} (down : 0 ≤ shift) {table : OrderedTable Int Row}
    {low high : List (Int × Row)} (parts : table.entries = low ++ high)
    (below : ∀ entry ∈ low, ∀ moved ∈ high, entry.1 < moved.1 - shift) :
    ∃ next, table.rekeyAll? (high.map fun entry => (entry.1, entry.1 - shift)) = some next ∧
      next.entries = low ++ high.map fun entry => (entry.1 - shift, entry.2) := by
  induction high generalizing table low with
  | nil => exact ⟨table, rfl, by rw [parts, List.map_nil]⟩
  | cons moved high ih =>
      obtain ⟨old, row⟩ := moved
      obtain ⟨middle, first, entries⟩ := rekey?_within parts
        (fun entry inside => below entry inside _ (List.mem_cons_self ..))
        (show old - shift ≤ old by omega)
      have sorted := table.sorted
      rw [parts, List.pairwise_append, List.pairwise_cons] at sorted
      have remaining : middle.entries = (low ++ [(old - shift, row)]) ++ high := by
        rw [entries, List.append_assoc, List.singleton_append]
      obtain ⟨next, rest, final⟩ := ih remaining (by
          intro entry inside later member
          rcases List.mem_append.mp inside with early | new
          · exact below entry early later (List.mem_cons_of_mem _ member)
          · have after := sorted.2.1.1 later member
            rw [List.mem_singleton.mp new]
            exact Int.sub_lt_sub_right after shift)
      refine ⟨next, ?_, ?_⟩
      · simp only [List.map_cons, rekeyAll?, first, Option.bind_eq_bind, Option.bind_some]
        exact rest
      · rw [final, List.append_assoc, List.singleton_append, List.map_cons]

/-- Consecutive ordinals moved down by a shift are the ordinals from the lower base. -/
theorem numberedFrom_shift (base shift : Nat) (rows : List Row) :
    ((numberedFrom (base + shift) rows).map fun entry => (entry.1 - (shift : Int), entry.2)) =
      numberedFrom base rows := by
  induction rows generalizing base with
  | nil => rfl
  | cons row rows ih =>
      have rest := ih (base + 1)
      rw [show base + 1 + shift = base + shift + 1 by omega] at rest
      rw [numberedFrom, numberedFrom, List.map_cons, rest]
      congr 2
      omega

/-- The rows between two consecutive-ordinal bounds are a segment of all rows. -/
theorem numbered_between {before chunk after : List Row} {low high : Int}
    (first : low = before.length) (last : high + 1 = before.length + chunk.length) :
    ((numbered (before ++ chunk ++ after)).select fun key => low ≤ key && key ≤ high).rows =
      chunk := by
  have outside : ∀ (base : Nat) (rows : List Row),
      (base : Int) + rows.length ≤ low ∨ high < base →
        (numberedFrom base rows).filter (fun entry => low ≤ entry.1 && entry.1 ≤ high) = [] := by
    intro base rows apart
    apply List.filter_eq_nil_iff.mpr
    intro entry inside
    have := numberedFrom_bounds inside
    simp only [Bool.and_eq_true, decide_eq_true_eq, not_and]
    omega
  have inner : (numberedFrom before.length chunk).filter
      (fun entry => low ≤ entry.1 && entry.1 ≤ high) = numberedFrom before.length chunk := by
    apply List.filter_eq_self.mpr
    intro entry inside
    have := numberedFrom_bounds inside
    simp only [Bool.and_eq_true, decide_eq_true_eq]
    omega
  simp only [rows, select, numbered, numberedFrom_append, List.filter_append, Nat.zero_add,
    List.length_append]
  rw [outside 0 before (.inl (by omega)), inner,
    outside (before.length + chunk.length) after (.inr (by push_cast; omega)), List.nil_append,
    List.append_nil, numberedFrom_rows]

/-- A range whose ordinals are all present is a segment of the rows. -/
theorem numbered_complete {rows : List Row} {low high : Int} (natural : 0 ≤ low)
    (ordered : low ≤ high)
    (complete : (((numbered rows).keys.filter fun key => low ≤ key && key ≤ high).length : Int) =
      high - low + 1) :
    ∃ before chunk after, rows = before ++ chunk ++ after ∧ low = before.length ∧
      high + 1 = before.length + chunk.length ∧ chunk ≠ [] := by
  have within : high < rows.length := by
    by_contra beyond
    have covered : ((numbered rows).keys.filter fun key => low ≤ key && key ≤ high) ⊆
        (List.range (rows.length - low.toNat)).map fun index : Nat => low + (index : Int) := by
      intro key inside
      simp only [List.mem_filter, numbered_keys, List.mem_map, List.mem_range, Bool.and_eq_true,
        decide_eq_true_eq, Int.ofNat_eq_natCast] at inside ⊢
      obtain ⟨⟨index, small, rfl⟩, above, _⟩ := inside
      have lower : low.toNat ≤ index := by omega
      exact ⟨index - low.toNat, by omega, by omega⟩
    have distinct := (numbered rows).keys_nodup.filter fun key => low ≤ key && key ≤ high
    have bound := (List.subperm_of_subset distinct covered).length_le
    rw [List.length_map, List.length_range] at bound
    omega
  refine ⟨rows.take low.toNat, (rows.drop low.toNat).take (high - low + 1).toNat,
    (rows.drop low.toNat).drop (high - low + 1).toNat, ?_, ?_, ?_, ?_⟩
  · rw [List.append_assoc, List.take_append_drop, List.take_append_drop]
  · rw [List.length_take]
    omega
  · simp only [List.length_take, List.length_drop]
    omega
  · apply List.ne_nil_of_length_pos
    simp only [List.length_take, List.length_drop]
    omega

end OrderedTable
