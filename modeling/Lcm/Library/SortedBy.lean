import Mathlib.Data.List.Sort
import Mathlib.Data.Prod.Lex

/-- The rows of a list in the order of a key. -/
def sortedBy {Row Key : Type*} [LinearOrder Key] (key : Row → Key) (rows : List Row) : List Row :=
  rows.insertionSort fun first second => key first ≤ key second

namespace SortedBy

variable {Row Key : Type*} [LinearOrder Key] {key : Row → Key}

theorem perm (rows : List Row) : (sortedBy key rows).Perm rows := List.perm_insertionSort _ _

theorem sorted (rows : List Row) :
    (sortedBy key rows).Pairwise fun first second => key first ≤ key second := by
  have total : Std.Total fun first second : Row => key first ≤ key second :=
    ⟨fun first second => le_total (key first) (key second)⟩
  have transitive : IsTrans Row fun first second => key first ≤ key second :=
    ⟨fun _ _ _ before after => before.trans after⟩
  exact List.pairwise_insertionSort _ rows

/-- Rows in order stay as they are. -/
theorem eq_self {rows : List Row} (ascending : rows.Pairwise fun first second => key first ≤ key second) :
    sortedBy key rows = rows := ascending.insertionSort_eq

theorem idempotent (rows : List Row) : sortedBy key (sortedBy key rows) = sortedBy key rows :=
  eq_self (sorted rows)

/-- A change of the rows that keeps their keys keeps their order. -/
theorem map {Other : Type*} {otherKey : Other → Key} {change : Row → Other} {rows : List Row}
    (keeps : ∀ row ∈ rows, otherKey (change row) = key row) :
    (sortedBy key rows).map change = sortedBy otherKey (rows.map change) := by
  apply List.map_insertionSort
  intro first firstIn second secondIn
  rw [keeps first firstIn, keeps second secondIn]

/-- Rows in ascending order with distinct keys are the sorted rows. -/
theorem eq_of_perm {rows ordered : List Row}
    (distinct : ∀ first ∈ rows, ∀ second ∈ rows, key first = key second → first = second)
    (ascending : ordered.Pairwise fun first second => key first ≤ key second)
    (same : ordered.Perm rows) : sortedBy key rows = ordered := by
  apply List.Perm.eq_of_pairwise _ (sorted _) ascending ((perm rows).trans same.symm)
  intro first second firstIn secondIn before after
  exact distinct first ((perm _).mem_iff.mp firstIn) second (same.mem_iff.mp secondIn)
    (le_antisymm before after)

/-- Rows in ascending order behind all others stay at the end. -/
theorem append {rows added : List Row}
    (distinct : ∀ first ∈ rows ++ added, ∀ second ∈ rows ++ added,
      key first = key second → first = second)
    (ascending : added.Pairwise fun first second => key first ≤ key second)
    (behind : ∀ row ∈ rows, ∀ new ∈ added, key row ≤ key new) :
    sortedBy key (rows ++ added) = sortedBy key rows ++ added := by
  apply eq_of_perm distinct
  · refine List.pairwise_append.mpr ⟨sorted rows, ascending, ?_⟩
    intro row inside new member
    exact behind row ((perm rows).mem_iff.mp inside) new member
  · exact (perm rows).append_right added

/-- A condition chooses among sorted rows as among the rows. -/
theorem filter {rows : List Row} (keep : Row → Bool)
    (distinct : ∀ first ∈ rows, ∀ second ∈ rows, key first = key second → first = second) :
    sortedBy key (rows.filter keep) = (sortedBy key rows).filter keep := by
  apply eq_of_perm
  · intro first firstIn second secondIn
    exact distinct first (List.mem_filter.mp firstIn).1 second (List.mem_filter.mp secondIn).1
  · exact (sorted rows).filter keep
  · exact (perm rows).filter keep

/-- Behind the last row of a first part comes the rest. -/
theorem filter_behind {rows first rest : List Row} {last : Row}
    (ascending : rows.Pairwise fun before after => key before < key after) (parts : rows = first ++ rest)
    (ends : first.getLast? = some last) : rows.filter (key last < key ·) = rest := by
  rw [parts] at ascending ⊢
  obtain ⟨early, _, across⟩ := List.pairwise_append.mp ascending
  obtain ⟨before, rfl⟩ := List.getLast?_eq_some_iff.mp ends
  have none : (before ++ [last]).filter (key last < key ·) = [] := by
    rw [List.filter_eq_nil_iff]
    intro row inside
    rcases List.mem_append.mp inside with earlier | own
    · have less := (List.pairwise_append.mp early).2.2 row earlier last (List.mem_singleton_self _)
      simp [not_lt_of_gt less]
    · rw [List.mem_singleton.mp own]
      simp
  have all : rest.filter (key last < key ·) = rest := by
    rw [List.filter_eq_self]
    intro row inside
    simpa using across last (by simp) row inside
  rw [List.filter_append, none, all, List.nil_append]

/-- Sorted rows with distinct keys ascend strictly. -/
theorem strictly {rows : List Row} (once : rows.Nodup)
    (distinct : ∀ first ∈ rows, ∀ second ∈ rows, key first = key second → first = second) :
    (sortedBy key rows).Pairwise fun first second => key first < key second := by
  have sortedOnce : (sortedBy key rows).Nodup := (perm rows).nodup_iff.mpr once
  refine (List.Pairwise.and (sorted rows) sortedOnce).imp_of_mem ?_
  intro first second firstIn secondIn both
  apply lt_of_le_of_ne both.1
  intro same
  exact both.2 (distinct first ((perm rows).mem_iff.mp firstIn) second ((perm rows).mem_iff.mp secondIn) same)

/-- Under distinct keys the places in the sorted list are ordered as the keys are. -/
theorem place_lt_iff {rows : List Row}
    (distinct : ∀ first ∈ rows, ∀ second ∈ rows, key first = key second → first = second)
    (once : rows.Nodup) {first second : Row} {low high : Nat}
    (firstAt : (sortedBy key rows)[low]? = some first) (secondAt : (sortedBy key rows)[high]? = some second) :
    low < high ↔ key first < key second := by
  have sortedOnce : (sortedBy key rows).Nodup := (perm rows).nodup_iff.mpr once
  obtain ⟨lowInside, rfl⟩ := List.getElem?_eq_some_iff.mp firstAt
  obtain ⟨highInside, rfl⟩ := List.getElem?_eq_some_iff.mp secondAt
  have member : ∀ {place : Nat} (inside : place < (sortedBy key rows).length),
      (sortedBy key rows)[place] ∈ rows := fun inside => (perm rows).mem_iff.mp (List.getElem_mem inside)
  have ascending := List.pairwise_iff_getElem.mp (sorted rows : (sortedBy key rows).Pairwise _)
  constructor
  · intro less
    apply lt_of_le_of_ne (ascending low high lowInside highInside less)
    intro same
    exact absurd ((sortedOnce.getElem_inj_iff).mp (distinct _ (member lowInside) _ (member highInside) same))
      (Nat.ne_of_lt less)
  · intro less
    by_contra notLess
    rcases Nat.lt_or_eq_of_le (Nat.le_of_not_lt notLess) with after | same
    · exact absurd less (not_lt_of_ge (ascending high low highInside lowInside after))
    · subst same
      exact lt_irrefl _ less

end SortedBy
