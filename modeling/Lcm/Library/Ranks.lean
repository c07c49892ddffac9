import Mathlib.Data.List.Sort
import Mathlib.Data.Prod.Lex
import Mathlib.Tactic.Common

namespace Ranks

variable {Row Major Minor : Type*} [DecidableEq Major] (major : Row → Major)

/-- Each row with the number of rows of its group that come before it. -/
def rankedFrom (before : List Row) : List Row → List (Row × Nat)
  | [] => []
  | row :: rest =>
      (row, before.countP fun other => major other = major row) :: rankedFrom (before ++ [row]) rest

@[simp] theorem rankedFrom_rows (before rest : List Row) :
    (rankedFrom major before rest).map Prod.fst = rest := by
  induction rest generalizing before with
  | nil => rfl
  | cons row rest ih => rw [rankedFrom, List.map_cons, ih]

/-- The ranks of a group count on from the rows of the group before. -/
theorem rankedFrom_group (group : Major) (before rest : List Row) :
    ((rankedFrom major before rest).filter fun ranked => major ranked.1 = group).map Prod.snd =
      List.range' (before.countP fun row => major row = group) (rest.countP fun row => major row = group) := by
  induction rest generalizing before with
  | nil => rfl
  | cons row rest ih =>
      have rest := ih (before ++ [row])
      rw [List.countP_append, List.countP_singleton] at rest
      rw [rankedFrom]
      by_cases here : major row = group
      · rw [List.filter_cons_of_pos (by simpa using here), List.map_cons, rest,
          List.countP_cons_of_pos (by simpa using here), List.range'_succ, here]
        simp
      · rw [List.filter_cons_of_neg (by simpa using here), rest,
          List.countP_cons_of_neg (by simpa using here)]
        simp [here]

variable [LinearOrder Minor] (minor : Row → Minor)

/-- In rows sorted by group and class, the ranks of a class are a block behind the smaller classes of its
group. -/
theorem rankedFrom_class (group : Major) (label : Minor) (before : List Row) {rest : List Row}
    (sorted : rest.Pairwise fun first second => major first = major second → minor first ≤ minor second) :
    ((rankedFrom major before rest).filter fun ranked =>
        major ranked.1 = group ∧ minor ranked.1 = label).map Prod.snd =
      List.range' ((before.countP fun row => major row = group) +
          rest.countP fun row => major row = group ∧ minor row < label)
        (rest.countP fun row => major row = group ∧ minor row = label) := by
  induction rest generalizing before with
  | nil => rfl
  | cons row rest ih =>
      obtain ⟨first, later⟩ := List.pairwise_cons.mp sorted
      have remaining := ih (before ++ [row]) later
      rw [List.countP_append, List.countP_singleton] at remaining
      rw [rankedFrom]
      by_cases here : major row = group
      · rcases lt_trichotomy (minor row) label with below | same | above
        · rw [List.filter_cons_of_neg (by simp [ne_of_lt below]), remaining,
            List.countP_cons_of_pos (by simp [here, below]),
            List.countP_cons_of_neg (by simp [ne_of_lt below])]
          simp only [here, decide_true, if_true]
          congr 1
          omega
        · have none : (rest.countP fun row => major row = group ∧ minor row < label) = 0 := by
            rw [List.countP_eq_zero]
            intro other inside test
            obtain ⟨otherHere, less⟩ := of_decide_eq_true test
            exact absurd (first other inside (here.trans otherHere.symm)) (not_le_of_gt (same ▸ less))
          rw [List.filter_cons_of_pos (by simp [here, same]), List.map_cons, remaining,
            List.countP_cons_of_neg (by simp [same]), List.countP_cons_of_pos (by simp [here, same]),
            none, List.range'_succ]
          simp [here]
        · have missing : (rest.countP fun row => major row = group ∧ minor row = label) = 0 := by
            rw [List.countP_eq_zero]
            intro other inside test
            obtain ⟨otherHere, equal⟩ := of_decide_eq_true test
            exact absurd (first other inside (here.trans otherHere.symm)) (not_le_of_gt (equal ▸ above))
          rw [List.filter_cons_of_neg (by simp [ne_of_gt above]), remaining, missing,
            List.countP_cons_of_neg (by simp [le_of_lt above]),
            List.countP_cons_of_neg (by simp [ne_of_gt above]), missing]
          rfl
      · rw [List.filter_cons_of_neg (by simp [here]), remaining, List.countP_cons_of_neg (by simp [here]),
          List.countP_cons_of_neg (by simp [here])]
        simp [here]

end Ranks
