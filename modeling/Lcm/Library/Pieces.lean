import Mathlib.Data.List.Basic
import Mathlib.Tactic.Common

/-! Pieces of a list between separators. -/

section Pieces

variable {Symbol : Type*} [DecidableEq Symbol] {separator : Symbol}

/-- A piece holds symbols of the list, and no separator. -/
theorem mem_of_mem_splitOn {list piece : List Symbol} (inside : piece ∈ list.splitOn separator) :
    ∀ symbol ∈ piece, symbol ∈ list ∧ symbol ≠ separator := by
  induction list generalizing piece with
  | nil =>
      rw [List.splitOn_nil, List.mem_singleton] at inside
      simp [inside]
  | cons head rest ih =>
      rw [List.splitOn_cons_eq_if_modifyHead] at inside
      split at inside
      · rcases List.mem_cons.mp inside with rfl | later
        · exact nofun
        · exact fun symbol own => ⟨List.mem_cons_of_mem _ (ih later symbol own).1, (ih later symbol own).2⟩
      · next other =>
          obtain ⟨first, others, pieces⟩ := List.exists_cons_of_ne_nil (List.splitOn_ne_nil separator rest)
          rw [pieces, List.modifyHead_cons] at inside
          rw [pieces] at ih
          rcases List.mem_cons.mp inside with rfl | later
          · intro symbol own
            rcases List.mem_cons.mp own with rfl | own
            · exact ⟨List.mem_cons_self .., by simpa using other⟩
            · have held := ih (List.mem_cons_self ..) symbol own
              exact ⟨List.mem_cons_of_mem _ held.1, held.2⟩
          · intro symbol own
            have held := ih (List.mem_cons_of_mem _ later) symbol own
            exact ⟨List.mem_cons_of_mem _ held.1, held.2⟩

/-- A list without separators before a list is part of its first piece. -/
theorem splitOn_append_of_notMem {before rest : List Symbol} (plain : separator ∉ before) :
    (before ++ rest).splitOn separator = (rest.splitOn separator).modifyHead (before ++ ·) := by
  induction before with
  | nil =>
      obtain ⟨first, others, pieces⟩ := List.exists_cons_of_ne_nil (List.splitOn_ne_nil separator rest)
      simp [pieces]
  | cons head before ih =>
      rw [List.mem_cons, not_or] at plain
      have other : (head == separator) = false := beq_eq_false_iff_ne.mpr (Ne.symm plain.1)
      obtain ⟨first, others, pieces⟩ := List.exists_cons_of_ne_nil (List.splitOn_ne_nil separator rest)
      rw [List.cons_append, List.splitOn_cons_eq_if_modifyHead, other, ih plain.2, pieces]
      simp

end Pieces
