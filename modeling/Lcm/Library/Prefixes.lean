import Mathlib.Data.List.Infix

/-- Two lists are comparable when one of them extends the other. -/
def Comparable {Value : Type*} (first second : List Value) : Prop :=
  first <+: second ∨ second <+: first

/-- The longest of some lists; the earliest one wins a tie. -/
def longest {Value : Type*} (lists : List (List Value)) : List Value :=
  lists.foldl (fun best list => if best.length < list.length then list else best) []

/-- The values up to which a running count of blockers stays zero are the longest clear prefix. -/
theorem filter_running_count {Value : Type*} (clear : Value → Bool) (values : List Value) :
    (values.zipIdx.filter fun (value, index) => clear value &&
      (values.take (index + 1)).countP (fun earlier => !clear earlier) = 0).map Prod.fst =
        values.takeWhile clear := by
  have shifted : ∀ before rest : List Value, (∀ value ∈ before, clear value = true) →
      ((rest.zipIdx before.length).filter fun (value, index) => clear value &&
        ((before ++ rest).take (index + 1)).countP (fun earlier => !clear earlier) = 0).map Prod.fst =
          rest.takeWhile clear := by
    intro before rest
    induction rest generalizing before with
    | nil => simp
    | cons value rest ih =>
        intro clears
        have split : before ++ value :: rest = (before ++ [value]) ++ rest := by simp
        have length : before.length + 1 = (before ++ [value]).length := by simp
        rw [List.zipIdx_cons, split, length]
        by_cases passes : clear value = true
        · have all : ∀ earlier ∈ before ++ [value], clear earlier = true := by
            intro earlier inside
            rcases List.mem_append.mp inside with old | new
            · exact clears earlier old
            · rw [List.mem_singleton.mp new]
              exact passes
          have none : (before ++ [value]).countP (fun earlier => !clear earlier) = 0 :=
            List.countP_eq_zero.mpr fun earlier inside => by simp [all earlier inside]
          rw [List.filter_cons_of_pos, List.map_cons, ih (before ++ [value]) all,
            List.takeWhile_cons_of_pos passes]
          dsimp only
          rw [length, List.take_left, passes, none]
          rfl
        · rw [List.takeWhile_cons_of_neg passes, List.filter_cons_of_neg (by simp [passes]),
            List.filter_eq_nil_iff.mpr]
          · rfl
          · rintro ⟨later, index⟩ inside
            have place := (List.mem_zipIdx inside).1
            simp only [Bool.and_eq_true, decide_eq_true_eq, not_and]
            intro _ none
            have blocked := List.countP_eq_zero.mp none value (by
              rw [List.take_append, List.take_of_length_le (by omega)]
              simp)
            simp [passes] at blocked
  exact shifted [] values (fun _ outside => nomatch outside)

namespace Comparable

variable {Value : Type*} {first second : List Value}

instance [DecidableEq Value] (first second : List Value) : Decidable (Comparable first second) :=
  inferInstanceAs (Decidable (_ ∨ _))

theorem nil (list : List Value) : Comparable [] list := .inl (List.nil_prefix ..)

/-- The shorter of two comparable lists is a prefix of the longer one. -/
theorem prefix_of_length (comparable : Comparable first second)
    (shorter : first.length ≤ second.length) : first <+: second := by
  rcases comparable with extends' | stale
  · exact extends'
  · rw [stale.eq_of_length_le shorter]

theorem symm (comparable : Comparable first second) : Comparable second first := Or.symm comparable

end Comparable

namespace Longest

variable {Value : Type*}

theorem snoc (lists : List (List Value)) (list : List Value) :
    longest (lists ++ [list]) =
      if (longest lists).length < list.length then list else longest lists := by
  rw [longest, List.foldl_append]
  rfl

/-- The longest list is one of the lists, unless there is none. -/
theorem mem (lists : List (List Value)) : longest lists = [] ∨ longest lists ∈ lists := by
  induction lists using List.reverseRecOn with
  | nil => exact .inl rfl
  | append_singleton lists list ih =>
      rw [snoc]
      split
      · exact .inr (List.mem_append_right _ (List.mem_singleton_self list))
      · exact ih.imp_right (List.mem_append_left _)

/-- A list that is comparable with every list is comparable with the longest one. -/
theorem comparable {lists : List (List Value)} {list : List Value}
    (each : ∀ other ∈ lists, Comparable other list) : Comparable (longest lists) list := by
  rcases mem lists with none | some
  · rw [none]
    exact .nil list
  · exact each _ some

/-- Of pairwise comparable lists each one is a prefix of the longest one. -/
theorem extends_each {lists : List (List Value)} (comparable : lists.Pairwise Comparable) :
    ∀ list ∈ lists, list <+: longest lists := by
  induction lists using List.reverseRecOn with
  | nil => exact List.forall_mem_nil _
  | append_singleton lists list ih =>
      obtain ⟨before, _, crossed⟩ := List.pairwise_append.mp comparable
      have last : Comparable (longest lists) list :=
        Longest.comparable fun other inside => crossed other inside list (List.mem_singleton_self list)
      intro other inside
      rw [snoc]
      rcases List.mem_append.mp inside with old | new
      · split
        · next longer => exact (ih before other old).trans (last.prefix_of_length longer.le)
        · exact ih before other old
      · rw [List.mem_singleton.mp new]
        split
        · exact List.prefix_refl list
        · next shorter => exact last.symm.prefix_of_length (Nat.le_of_not_lt shorter)

/-- The longest list and the unseen rest of a comparable list make the new longest list. -/
theorem append_drop {lists : List (List Value)} {list : List Value}
    (comparable : Comparable (longest lists) list) :
    longest lists ++ list.drop (longest lists).length = longest (lists ++ [list]) := by
  rw [snoc]
  split
  · next longer =>
      exact List.prefix_iff_eq_append.mp (comparable.prefix_of_length longer.le)
  · next shorter =>
      rw [List.drop_eq_nil_of_le (Nat.le_of_not_lt shorter), List.append_nil]

end Longest
