import Mathlib.Algebra.Ring.Nat
import Mathlib.Tactic.Common

namespace ChunkScan

variable {Item : Type*} (stop : Item → Bool) (weight : Item → Option Nat) (budget : Nat)

/-- The scan skips weightless items until a first item with a weight, then takes items until the next
weightless one, a stop, or the budget. -/
def scan (chunk : List Item) (total : Nat) : List Item → List Item
  | [] => chunk
  | item :: rest =>
      if stop item then chunk else
        match weight item with
        | none => if chunk = [] then scan chunk total rest else chunk
        | some count =>
            if chunk ≠ [] ∧ budget < total + count then chunk
            else if budget ≤ total + count then chunk ++ [item]
            else scan (chunk ++ [item]) (total + count) rest

/-- The weight of all items of a chunk. -/
def totalWeight (items : List Item) : Nat := (items.map fun item => (weight item).getD 0).sum

/-- A scan adds a run of items with a weight that the stop does not exclude; only before the first item of a
chunk it skips others. -/
structure Extends (chunk rest result : List Item) : Prop where
  parts : ∃ skipped added left, rest = skipped ++ added ++ left ∧ result = chunk ++ added ∧
    (∀ item ∈ skipped, weight item = none) ∧ (chunk ≠ [] → skipped = []) ∧
    ∀ item ∈ added, stop item = false ∧ (weight item).isSome

variable {stop weight budget}

theorem Extends.stay (chunk rest : List Item) : Extends stop weight chunk rest chunk :=
  ⟨[], [], rest, rfl, (List.append_nil _).symm, nofun, fun _ => rfl, nofun⟩

theorem Extends.skip {item : Item} {rest result : List Item} (weightless : weight item = none)
    (extended : Extends stop weight [] rest result) : Extends stop weight [] (item :: rest) result := by
  obtain ⟨skipped, added, left, rfl, same, none, _, members⟩ := extended
  refine ⟨item :: skipped, added, left, rfl, same, ?_, fun nonempty => absurd rfl nonempty, members⟩
  exact List.forall_mem_cons.mpr ⟨weightless, none⟩

theorem Extends.take {item : Item} {chunk rest result : List Item} (free : stop item = false)
    (weighted : (weight item).isSome) (extended : Extends stop weight (chunk ++ [item]) rest result) :
    Extends stop weight chunk (item :: rest) result := by
  obtain ⟨skipped, added, left, rfl, rfl, _, first, members⟩ := extended
  rw [first (by simp)]
  refine ⟨[], item :: added, left, rfl, by simp, nofun, fun _ => rfl, ?_⟩
  exact List.forall_mem_cons.mpr ⟨⟨free, weighted⟩, members⟩

theorem scan_extends (rest chunk : List Item) (total : Nat) :
    Extends stop weight chunk rest (scan stop weight budget chunk total rest) := by
  induction rest generalizing chunk total with
  | nil => exact .stay chunk []
  | cons item rest ih =>
      rw [scan]
      split
      · exact .stay chunk _
      · next free =>
          rw [Bool.not_eq_true] at free
          split
          · next weightless =>
              split
              · next empty =>
                  subst empty
                  exact (ih [] total).skip weightless
              · exact .stay chunk _
          · next count weighted =>
              have some : (weight item).isSome := by rw [weighted]; rfl
              split
              · exact .stay chunk _
              · split
                · exact (Extends.stay (chunk ++ [item]) rest).take free some
                · exact (ih _ _).take free some

theorem totalWeight_concat (items : List Item) (item : Item) :
    totalWeight weight (items ++ [item]) = totalWeight weight items + (weight item).getD 0 := by
  simp [totalWeight]

/-- A chunk goes beyond the budget only with its single item. -/
theorem scan_budget (rest chunk : List Item)
    (within : chunk = [] ∨ totalWeight weight chunk < budget)
    (beyond : budget < totalWeight weight (scan stop weight budget chunk (totalWeight weight chunk) rest)) :
    (scan stop weight budget chunk (totalWeight weight chunk) rest).length = 1 := by
  have stay : ∀ {result : List Item}, result = chunk → budget < totalWeight weight result →
      result.length = 1 := by
    rintro result rfl heavy
    rcases within with rfl | light
    · simp [totalWeight] at heavy
    · omega
  induction rest generalizing chunk with
  | nil => exact stay rfl beyond
  | cons item rest ih =>
      rw [scan] at beyond ⊢
      split at beyond
      · next stopped => rw [if_pos stopped]; exact stay rfl beyond
      · next free =>
          rw [if_neg free]
          cases weighted : weight item with
          | none =>
              simp only [weighted] at beyond ⊢
              split at beyond
              · next empty => rw [if_pos empty]; exact ih chunk within beyond stay
              · next full => rw [if_neg full]; exact stay rfl beyond
          | some count =>
              simp only [weighted] at beyond ⊢
              have added : totalWeight weight (chunk ++ [item]) = totalWeight weight chunk + count := by
                rw [totalWeight_concat, weighted, Option.getD_some]
              split at beyond
              · next tooMuch => rw [if_pos tooMuch]; exact stay rfl beyond
              · next fits =>
                  rw [if_neg fits]
                  split at beyond
                  · next enough =>
                      rw [if_pos enough]
                      by_cases empty : chunk = []
                      · simp [empty]
                      · have light : ¬ budget < totalWeight weight chunk + count :=
                          fun heavy => fits ⟨empty, heavy⟩
                        omega
                  · next room =>
                      rw [← added] at beyond
                      rw [if_neg room, ← added]
                      refine ih (chunk ++ [item]) (.inr (by omega)) beyond ?_
                      rintro result rfl heavy
                      omega

/-- A scan takes something when an item with a weight comes before the first stop. -/
theorem scan_ne_nil {skipped rest : List Item} {item : Item}
    (free : ∀ other ∈ skipped, stop other = false) (own : stop item = false) (weighted : (weight item).isSome) :
    scan stop weight budget [] 0 (skipped ++ item :: rest) ≠ [] := by
  have taken : ∀ {chunk left : List Item} {total : Nat}, chunk ≠ [] → scan stop weight budget chunk total left ≠ [] := by
    intro chunk left total nonempty empty
    have extended : Extends stop weight chunk left (scan stop weight budget chunk total left) :=
      scan_extends left chunk total
    obtain ⟨_, added, _, _, same, _⟩ := extended.parts
    rw [same] at empty
    exact nonempty (List.append_eq_nil_iff.mp empty).1
  have first : ∀ {item : Item} {left : List Item}, stop item = false → (weight item).isSome →
      scan stop weight budget [] 0 (item :: left) ≠ [] := by
    intro item left own weighted
    obtain ⟨count, held⟩ := Option.isSome_iff_exists.mp weighted
    simp only [scan, own, held, Bool.false_eq_true, if_false, ne_eq, not_true_eq_false, false_and, List.nil_append]
    split
    · exact List.cons_ne_nil _ _
    · exact taken (List.cons_ne_nil _ _)
  induction skipped with
  | nil => exact first own weighted
  | cons other skipped ih =>
      obtain ⟨head, tail⟩ := List.forall_mem_cons.mp free
      rw [List.cons_append]
      cases held : weight other with
      | some count => exact first head (by rw [held]; rfl)
      | none =>
          rw [scan, head]
          simp only [Bool.false_eq_true, if_false, held, if_true]
          exact ih tail

section Map

variable {Other : Type*} (change : Other → Item)

/-- A scan of changed items takes the changed items that a scan before the change takes. -/
theorem scan_map (rest chunk : List Other) (total : Nat) :
    scan stop weight budget (chunk.map change) total (rest.map change) =
      (scan (fun item => stop (change item)) (fun item => weight (change item)) budget chunk total rest).map
        change := by
  induction rest generalizing chunk total with
  | nil => rfl
  | cons item rest ih =>
      have grown : ∀ items : List Other, items.map change ++ [change item] = (items ++ [item]).map change := by
        intro items
        rw [List.map_append, List.map_singleton]
      have empty : (chunk.map change = []) = (chunk = []) := propext List.map_eq_nil_iff
      rw [List.map_cons, scan, scan]
      split
      · rfl
      · cases weight (change item) with
        | none =>
            simp only [empty]
            split
            · exact ih chunk total
            · rfl
        | some count =>
            simp only [ne_eq, empty]
            split
            · rfl
            · split
              · exact grown chunk
              · rw [grown]
                exact ih _ _

theorem totalWeight_map (items : List Other) :
    totalWeight weight (items.map change) = totalWeight (fun item => weight (change item)) items := by
  rw [totalWeight, totalWeight, List.map_map]
  rfl

end Map

end ChunkScan
