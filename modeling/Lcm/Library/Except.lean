import Mathlib.Data.List.Forall2
import Mathlib.Tactic.Common

namespace Except

universe u v

variable {Error : Type u} {First Second : Type v}

/-- Two computations in sequence succeed when both do. -/
theorem bind_eq_ok {first : Except Error First} {next : First → Except Error Second}
    {result : Second} :
    (first >>= next) = .ok result ↔ ∃ value, first = .ok value ∧ next value = .ok result := by
  cases first with
  | error error => simp [Bind.bind, Except.bind]
  | ok value => simp [Bind.bind, Except.bind]

theorem bind_eq_error {first : Except Error First} {next : First → Except Error Second} {error : Error} :
    (first >>= next) = .error error ↔
      first = .error error ∨ ∃ value, first = .ok value ∧ next value = .error error := by
  cases first with
  | error error => simp [Bind.bind, Except.bind]
  | ok value => simp [Bind.bind, Except.bind]

theorem map_eq_ok {first : Except Error First} {next : First → Second} {result : Second} :
    first.map next = .ok result ↔ ∃ value, first = .ok value ∧ next value = result := by
  cases first with
  | error error => simp [Except.map]
  | ok value => simp [Except.map]

theorem eq_ok_get {result : Except Error First} (some : result.toOption.isSome) :
    result = .ok (result.toOption.get some) := by
  cases result with
  | error error => cases some
  | ok value => rfl

theorem pure_eq_ok {value result : First} :
    (pure value : Except Error First) = .ok result ↔ value = result := by
  simp [Pure.pure, Except.pure]

/-- A computation over a list succeeds when it does on each element. -/
theorem mapM_eq_ok {compute : First → Except Error Second} {list : List First}
    {results : List Second} :
    list.mapM compute = .ok results ↔
      List.Forall₂ (fun value result => compute value = .ok result) list results := by
  induction list generalizing results with
  | nil =>
      rw [List.mapM_nil, List.forall₂_nil_left_iff]
      exact pure_eq_ok.trans eq_comm
  | cons value list ih =>
      rw [List.mapM_cons, bind_eq_ok, List.forall₂_cons_left_iff]
      constructor
      · rintro ⟨result, computed, rest⟩
        obtain ⟨tail, tailComputed, same⟩ := bind_eq_ok.mp rest
        exact ⟨result, tail, computed, ih.mp tailComputed, (pure_eq_ok.mp same).symm⟩
      · rintro ⟨result, tail, computed, tailComputed, rfl⟩
        exact ⟨result, computed, bind_eq_ok.mpr ⟨tail, ih.mpr tailComputed, rfl⟩⟩

/-- A computation over a list succeeds when it does on every element. -/
theorem mapM_ok {compute : First → Except Error Second} {list : List First}
    (each : ∀ value ∈ list, ∃ result, compute value = .ok result) :
    ∃ results, list.mapM compute = .ok results := by
  induction list with
  | nil => exact ⟨[], rfl⟩
  | cons value list ih =>
      obtain ⟨⟨first, computed⟩, others⟩ := List.forall_mem_cons.mp each
      obtain ⟨rest, computedRest⟩ := ih others
      refine ⟨first :: rest, ?_⟩
      rw [List.mapM_cons, bind_eq_ok]
      exact ⟨first, computed, bind_eq_ok.mpr ⟨rest, computedRest, rfl⟩⟩

/-- Each result of a computation over a list comes from an element. -/
theorem mapM_mem {compute : First → Except Error Second} {list : List First}
    {results : List Second} (computed : list.mapM compute = .ok results) {result : Second}
    (inside : result ∈ results) : ∃ value ∈ list, compute value = .ok result := by
  have pairs := mapM_eq_ok.mp computed
  clear computed
  induction pairs with
  | nil => cases inside
  | @cons value first list results made rest ih =>
      rcases List.mem_cons.mp inside with rfl | later
      · exact ⟨value, List.mem_cons_self, made⟩
      · obtain ⟨source, member, made⟩ := ih later
        exact ⟨source, List.mem_cons_of_mem _ member, made⟩

/-- A computation over a list gives a result for each element. -/
theorem mapM_result {compute : First → Except Error Second} {list : List First}
    {results : List Second} (computed : list.mapM compute = .ok results) {value : First}
    (inside : value ∈ list) : ∃ result ∈ results, compute value = .ok result := by
  have pairs := mapM_eq_ok.mp computed
  clear computed
  induction pairs with
  | nil => cases inside
  | @cons first result list results made rest ih =>
      rcases List.mem_cons.mp inside with rfl | later
      · exact ⟨result, List.mem_cons_self, made⟩
      · obtain ⟨found, member, made⟩ := ih later
        exact ⟨found, List.mem_cons_of_mem _ member, made⟩

section Folds

variable {State Item : Type v} {compute : State → Item → Except Error State} {items : List Item}
  {first : State} (kept : List Item → State → Prop)

/-- A loop over a list keeps what each round does, and fails in a round before which it was kept. -/
theorem foldlM_kept (initial : kept [] first)
    (each : ∀ done item rest before after, items = done ++ item :: rest → kept done before →
      compute before item = .ok after → kept (done ++ [item]) after) :
    (∀ last, items.foldlM compute first = .ok last → kept items last) ∧
      ∀ error, items.foldlM compute first = .error error → ∃ done item rest before,
        items = done ++ item :: rest ∧ kept done before ∧ compute before item = .error error := by
  have from' : ∀ rest done before, items = done ++ rest → kept done before →
      (∀ last, rest.foldlM compute before = .ok last → kept items last) ∧
        ∀ error, rest.foldlM compute before = .error error → ∃ done item rest before,
          items = done ++ item :: rest ∧ kept done before ∧ compute before item = .error error := by
    intro rest
    induction rest with
    | nil =>
        intro done before whole holds
        rw [List.append_nil] at whole
        subst whole
        exact ⟨fun last ran => pure_eq_ok.mp ran ▸ holds, fun error failed => nomatch failed⟩
    | cons item rest ih =>
        intro done before whole holds
        rw [List.foldlM_cons]
        cases made : compute before item with
        | error error =>
            refine ⟨fun last ran => (nomatch ran), fun actual failed => ?_⟩
            cases failed
            exact ⟨done, item, rest, before, whole, holds, made⟩
        | ok after =>
            apply ih (done ++ [item]) after
            · rw [whole, List.append_assoc]
              rfl
            · exact each done item rest before after whole holds made
  exact from' items [] first rfl initial

theorem foldlM_ok (initial : kept [] first)
    (each : ∀ done item rest before after, items = done ++ item :: rest → kept done before →
      compute before item = .ok after → kept (done ++ [item]) after) {last : State}
    (ran : items.foldlM compute first = .ok last) : kept items last :=
  (foldlM_kept kept initial each).1 last ran

end Folds

/-- A computation that fails with no error of a kind. -/
def Avoids (bad : Error → Prop) (computation : Except Error First) : Prop :=
  ∀ error, computation = .error error → ¬ bad error

namespace Avoids

variable {bad : Error → Prop}

theorem ok (value : First) : Avoids bad (.ok value) := fun _ failed => nomatch failed

theorem error {error : Error} (other : ¬ bad error) :
    Avoids bad (.error error : Except Error First) := by
  intro actual failed
  cases failed
  exact other

theorem bind {first : Except Error First} {next : First → Except Error Second}
    (head : Avoids bad first) (tail : ∀ value, first = .ok value → Avoids bad (next value)) :
    Avoids bad (first >>= next) := by
  cases first with
  | error cause =>
      intro actual failed
      cases failed
      exact head cause rfl
  | ok value => exact tail value rfl

theorem mapM {compute : First → Except Error Second} {list : List First}
    (each : ∀ value ∈ list, Avoids bad (compute value)) : Avoids bad (list.mapM compute) := by
  induction list with
  | nil =>
      rw [List.mapM_nil]
      exact ok _
  | cons value list ih =>
      rw [List.mapM_cons]
      apply bind (each value List.mem_cons_self)
      intro _ _
      apply bind (ih fun other inside => each other (List.mem_cons_of_mem _ inside))
      intro _ _
      exact ok _

end Avoids

end Except

/-- Two computations on a state in sequence succeed when both do. -/
theorem StateT.bind_eq_ok {State Error First Second : Type} {first : StateT State (Except Error) First}
    {next : First → StateT State (Except Error) Second} {state : State} {result : Second × State} :
    (first >>= next) state = .ok result ↔
      ∃ value later, first state = .ok (value, later) ∧ next value later = .ok result := by
  show (first state >>= fun reached => next reached.1 reached.2) = .ok result ↔ _
  rw [Except.bind_eq_ok]
  constructor
  · intro ⟨⟨value, later⟩, ran, rest⟩
    exact ⟨value, later, ran, rest⟩
  · intro ⟨value, later, ran, rest⟩
    exact ⟨(value, later), ran, rest⟩
