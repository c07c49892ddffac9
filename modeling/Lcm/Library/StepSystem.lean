import Mathlib.Tactic.Common

/-- A step system starts in given states and moves by labelled steps. -/
structure StepSystem (State Label : Type*) where
  start : State → Prop
  step : State → Label → State → Prop

namespace StepSystem

variable {State Label : Type*}

/-- A state is reachable when finitely many steps lead to it. -/
inductive Reachable (system : StepSystem State Label) : State → Prop
  | start {state : State} (initial : system.start state) : Reachable system state
  | next {before after : State} {label : Label} (reached : Reachable system before)
      (step : system.step before label after) : Reachable system after

/-- A list of labels that a step function accepts leads to a reachable state. -/
theorem Reachable.run {system : StepSystem State Label} {act : State → Label → Option State}
    (acts : ∀ before label after, act before label = some after → system.step before label after)
    {labels : List Label} {first last : State} (reached : system.Reachable first)
    (ran : labels.foldlM act first = some last) : system.Reachable last := by
  induction labels generalizing first with
  | nil =>
      cases ran
      exact reached
  | cons label labels ih =>
      simp only [List.foldlM_cons, Option.bind_eq_bind, Option.bind_eq_some_iff] at ran
      obtain ⟨middle, moved, rest⟩ := ran
      exact ih (.next reached (acts _ _ _ moved)) rest

/-- A total step function leads to a reachable state. -/
theorem Reachable.fold {system : StepSystem State Label} {act : State → Label → State}
    (acts : ∀ before label, system.step before label (act before label)) (labels : List Label)
    {first : State} (reached : system.Reachable first) :
    system.Reachable (labels.foldl act first) := by
  induction labels generalizing first with
  | nil => exact reached
  | cons label labels ih => exact ih (.next reached (acts first label))

/-- A property of the start states that every reachable step keeps holds in every run. -/
theorem Reachable.invariant {system : StepSystem State Label} {holds : State → Prop}
    (initial : ∀ state, system.start state → holds state)
    (preserved : ∀ before label after, system.Reachable before → holds before →
      system.step before label after → holds after)
    {state : State} (reached : system.Reachable state) : holds state := by
  induction reached with
  | start first => exact initial _ first
  | next reached step ih => exact preserved _ _ _ reached ih step

/-- The restricted system keeps the steps that meet a condition on the state before them. -/
def restrict (system : StepSystem State Label) (allowed : State → Label → Prop) :
    StepSystem State Label where
  start := system.start
  step before label after := allowed before label ∧ system.step before label after

/-- A restricted run is a run of the full system. -/
theorem Reachable.of_restrict {system : StepSystem State Label} {allowed : State → Label → Prop}
    {state : State} (reached : (system.restrict allowed).Reachable state) :
    system.Reachable state := by
  induction reached with
  | start initial => exact .start initial
  | next _ step ih => exact .next ih step.2

/-- Labels that are allowed in every state lead to a reachable state. -/
theorem Reachable.fold_restrict {system : StepSystem State Label} {allowed : State → Label → Prop}
    {act : State → Label → State} (acts : ∀ before label, system.step before label (act before label))
    {labels : List Label} (each : ∀ label ∈ labels, ∀ state, allowed state label) {first : State}
    (reached : (system.restrict allowed).Reachable first) :
    (system.restrict allowed).Reachable (labels.foldl act first) := by
  induction labels generalizing first with
  | nil => exact reached
  | cons label labels ih =>
      have next := reached.next ⟨each label (List.mem_cons_self ..) first, acts first label⟩
      exact ih (fun other inside => each other (List.mem_cons_of_mem _ inside)) next

/-- A list of allowed labels that a step function accepts leads to a reachable state. -/
theorem Reachable.run_restrict {system : StepSystem State Label}
    {allowed : State → Label → Prop} [∀ state label, Decidable (allowed state label)]
    {act : State → Label → Option State}
    (acts : ∀ before label after, act before label = some after → system.step before label after)
    {labels : List Label} {first last : State}
    (reached : (system.restrict allowed).Reachable first)
    (ran : labels.foldlM (fun before label => if allowed before label then act before label else none)
      first = some last) : (system.restrict allowed).Reachable last := by
  apply Reachable.run _ reached ran
  intro before label after step
  split at step
  · next permitted => exact ⟨permitted, acts before label after step⟩
  · cases step

/-- A relation simulates one system by another when each step is matched by at most one step. -/
structure Simulation {Abstract Move : Type*} (concrete : StepSystem State Label)
    (abstract : StepSystem Abstract Move) (related : State → Abstract → Prop) : Prop where
  start : ∀ state, concrete.start state → ∃ image, abstract.start image ∧ related state image
  step : ∀ before label after image, concrete.Reachable before → abstract.Reachable image →
    related before image → concrete.step before label after →
      ∃ next, related after next ∧ (next = image ∨ ∃ move, abstract.step image move next)

/-- A simulation gives each reachable state a reachable abstract state. -/
theorem Simulation.reachable {Abstract Move : Type*} {concrete : StepSystem State Label}
    {abstract : StepSystem Abstract Move} {related : State → Abstract → Prop}
    (simulation : Simulation concrete abstract related) {state : State}
    (reached : concrete.Reachable state) :
    ∃ image, abstract.Reachable image ∧ related state image := by
  induction reached with
  | start initial =>
      obtain ⟨image, first, same⟩ := simulation.start _ initial
      exact ⟨image, .start first, same⟩
  | next reached step ih =>
      obtain ⟨image, imageReached, same⟩ := ih
      obtain ⟨next, nextSame, moved⟩ := simulation.step _ _ _ image reached imageReached same step
      rcases moved with rfl | ⟨move, moved⟩
      · exact ⟨next, imageReached, nextSame⟩
      · exact ⟨next, .next imageReached moved, nextSame⟩

end StepSystem
