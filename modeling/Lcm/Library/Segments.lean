import Mathlib.Data.List.Nodup
import Mathlib.Tactic.Common

namespace Segments

variable {Row Image : Type*}

/-- A segment is located when it lies in the rows at its base position. -/
def Located (rows : List Row) (base : Nat) (segment : List Row) : Prop :=
  ∃ before rest, rows = before ++ segment ++ rest ∧ before.length = base

/-- A segment is stale when one of its rows is not at its place or later any more. -/
def Stale (rows : List Row) (base : Nat) (segment : List Row) : Prop :=
  ∃ (index : Nat) (row : Row), segment[index]? = some row ∧
    ∀ position : Nat, rows[position]? = some row → position < base + index

theorem Located.append {rows : List Row} {base : Nat} {segment : List Row}
    (located : Located rows base segment) (added : List Row) :
    Located (rows ++ added) base segment := by
  obtain ⟨before, rest, parts, length⟩ := located
  exact ⟨before, rest ++ added, by rw [parts, List.append_assoc], length⟩

theorem Located.map {rows : List Row} {base : Nat} {segment : List Row}
    (located : Located rows base segment) (image : Row → Image) :
    Located (rows.map image) base (segment.map image) := by
  obtain ⟨before, rest, rfl, length⟩ := located
  refine ⟨before.map image, rest.map image, ?_, ?_⟩
  · rw [List.map_append, List.map_append]
  · rw [List.length_map, length]

theorem Located.getElem? {rows : List Row} {base : Nat} {segment : List Row}
    (located : Located rows base segment) {index : Nat} (inside : index < segment.length) :
    rows[base + index]? = segment[index]? := by
  obtain ⟨before, rest, rfl, rfl⟩ := located
  rw [List.append_assoc, List.getElem?_append_right (Nat.le_add_right _ _),
    Nat.add_sub_cancel_left, List.getElem?_append_left inside]

/-- A stale segment is not at its base position. -/
theorem Stale.not_located {rows : List Row} {base : Nat} {segment : List Row}
    (stale : Stale rows base segment) : ¬ Located rows base segment := by
  intro located
  obtain ⟨index, row, found, early⟩ := stale
  have inside := (List.getElem?_eq_some_iff.mp found).1
  exact Nat.lt_irrefl _ (early (base + index) (by rw [located.getElem? inside, found]))

/-- A stale segment stays stale when rows from outside it are appended. -/
theorem Stale.append {rows added : List Row} {base : Nat} {segment : List Row}
    (stale : Stale rows base segment) (apart : ∀ row ∈ segment, row ∉ added) :
    Stale (rows ++ added) base segment := by
  obtain ⟨index, row, found, early⟩ := stale
  refine ⟨index, row, found, fun position here => ?_⟩
  rw [List.getElem?_append] at here
  split at here
  · exact early position here
  · exact absurd (List.mem_of_getElem? here) (apart row (List.mem_of_getElem? found))

/-- Every old row of a splice lies before the new row, or behind it by the length that went away. -/
theorem getElem?_splice (chunk : List Row) {before rest : List Row} {new row : Row} {position : Nat}
    (different : row ≠ new) (here : (before ++ new :: rest)[position]? = some row) :
    (position < before.length ∧ (before ++ chunk ++ rest)[position]? = some row) ∨
      (before.length < position ∧
        (before ++ chunk ++ rest)[position + chunk.length - 1]? = some row) := by
  rcases Nat.lt_trichotomy position before.length with early | same | late
  · rw [List.getElem?_append_left early] at here
    rw [List.append_assoc, List.getElem?_append_left early]
    exact .inl ⟨early, here⟩
  · rw [same, List.getElem?_append_right (Nat.le_refl _), Nat.sub_self,
      List.getElem?_cons_zero] at here
    exact absurd (Option.some.inj here).symm different
  · rw [List.getElem?_append_right (Nat.le_of_lt late),
      show position - before.length = (position - before.length - 1) + 1 by omega,
      List.getElem?_cons_succ] at here
    refine .inr ⟨late, ?_⟩
    rw [List.getElem?_append_right (by rw [List.length_append]; omega), List.length_append,
      show position + chunk.length - 1 - (before.length + chunk.length) =
        position - before.length - 1 by omega]
    exact here

/-- A stale segment stays stale when a fresh row replaces other rows. -/
theorem Stale.splice {before chunk rest segment : List Row} {new : Row} {base : Nat}
    (stale : Stale (before ++ chunk ++ rest) base segment) (nonempty : chunk ≠ [])
    (fresh : new ∉ segment) : Stale (before ++ new :: rest) base segment := by
  obtain ⟨index, row, found, early⟩ := stale
  have positive := List.length_pos_iff.mpr nonempty
  have different : row ≠ new := fun same => fresh (same ▸ List.mem_of_getElem? found)
  refine ⟨index, row, found, fun position here => ?_⟩
  rcases getElem?_splice chunk different here with ⟨_, old⟩ | ⟨_, old⟩
  · exact early position old
  · have := early _ old
    omega

/-- A splice behind a segment leaves the segment in its place. -/
theorem Located.splice_behind {before chunk rest segment : List Row} {base : Nat} (new : Row)
    (located : Located (before ++ chunk ++ rest) base segment)
    (behind : base + segment.length ≤ before.length) :
    Located (before ++ new :: rest) base segment := by
  obtain ⟨first, last, parts, rfl⟩ := located
  rw [List.append_assoc before] at parts
  obtain ⟨middle, here, _⟩ | ⟨middle, here, _⟩ := List.append_eq_append_iff.mp parts
  · have length := congrArg List.length here
    simp only [List.length_append] at length
    have none : middle = [] := List.eq_nil_of_length_eq_zero (by omega)
    rw [none, List.append_nil] at here
    exact ⟨first, new :: rest, by rw [here], rfl⟩
  · exact ⟨first, middle ++ new :: rest, by rw [here, List.append_assoc (first ++ segment)], rfl⟩

/-- A splice of one row before a segment leaves the segment in its place. -/
theorem Located.splice_single {before rest segment : List Row} {base : Nat} {old : Row} (new : Row)
    (located : Located (before ++ [old] ++ rest) base segment) (above : before.length < base) :
    Located (before ++ new :: rest) base segment := by
  obtain ⟨first, last, parts, rfl⟩ := located
  rw [List.append_assoc first] at parts
  obtain ⟨middle, here, remaining⟩ | ⟨middle, here, _⟩ := List.append_eq_append_iff.mp parts
  · refine ⟨before ++ new :: middle, last, ?_, ?_⟩
    · rw [remaining]
      simp only [List.append_assoc, List.cons_append]
    · rw [here]
      simp only [List.length_append, List.length_cons, List.length_nil]
      omega
  · have length := congrArg List.length here
    simp only [List.length_append, List.length_singleton] at length
    have none : middle = [] := List.eq_nil_of_length_eq_zero (by omega)
    subst none
    rw [List.append_nil] at here
    refine ⟨before ++ [new], last, ?_, ?_⟩
    · rw [← here] at parts
      rw [List.append_cancel_left parts]
      simp only [List.append_assoc, List.cons_append, List.nil_append]
    · rw [← here]
      simp only [List.length_append, List.length_singleton]

/-- A splice that starts within or before a segment makes it stale, unless it moves nothing. -/
theorem Located.stale {before chunk rest segment : List Row} {new : Row} {base : Nat}
    (located : Located (before ++ chunk ++ rest) base segment)
    (distinct : (before ++ chunk ++ rest).Nodup) (nonempty : chunk ≠ []) (fresh : new ∉ segment)
    (inhabited : segment ≠ []) (starts : before.length < base + segment.length)
    (moves : ¬ (chunk.length = 1 ∧ before.length < base)) :
    Stale (before ++ new :: rest) base segment := by
  have positive := List.length_pos_iff.mpr nonempty
  have length := List.length_pos_iff.mpr inhabited
  -- The first row of the segment that the splice reaches is removed or moved to the front.
  obtain ⟨index, inside, reaches, cut⟩ : ∃ index, index < segment.length ∧
      before.length ≤ base + index ∧
        (base + index < before.length + chunk.length ∨ index = 0 ∧ 1 < chunk.length) := by
    rcases Nat.lt_or_ge base before.length with later | earlier
    · exact ⟨before.length - base, by omega, by omega, .inl (by omega)⟩
    · refine ⟨0, length, by omega, ?_⟩
      by_cases within : base < before.length + chunk.length
      · exact .inl (by omega)
      · exact .inr ⟨rfl, by omega⟩
  obtain ⟨row, found⟩ : ∃ row, segment[index]? = some row :=
    ⟨segment[index], List.getElem?_eq_getElem inside⟩
  have place : (before ++ chunk ++ rest)[base + index]? = some row := by
    rw [located.getElem? inside, found]
  have different : row ≠ new := fun same => fresh (same ▸ List.mem_of_getElem? found)
  refine ⟨index, row, found, fun position here => ?_⟩
  have unique : ∀ other : Nat, (before ++ chunk ++ rest)[other]? = some row →
      other = base + index := fun other same =>
    (List.getElem?_inj (List.getElem?_eq_some_iff.mp same).1 distinct).mp (same.trans place.symm)
  rcases getElem?_splice chunk different here with ⟨early, old⟩ | ⟨late, old⟩
  · have := unique _ old
    omega
  · have := unique _ old
    omega

end Segments
