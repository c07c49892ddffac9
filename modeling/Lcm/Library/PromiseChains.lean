import Mathlib.Tactic.Common

/-- A promise: one that is resolved, one that its owner resolves, or one that follows two others, the
second after the first. -/
inductive Promise (Owner : Type) where
  | resolved
  | pending (owner : Owner)
  | chained (first second : Promise Owner)
  deriving DecidableEq

namespace Promise

variable {Owner : Type}

/-- The owners that a promise waits for. -/
def owners : Promise Owner → List Owner
  | .resolved => []
  | .pending owner => [owner]
  | .chained first second => first.owners ++ second.owners

variable [DecidableEq Owner]

/-- Whether a promise is settled, with the owners that are done and the chained promises that the
microtasks have settled so far. -/
def isSettled (done : Owner → Bool) (settled : List (Promise Owner × Promise Owner)) : Promise Owner → Bool
  | .resolved => true
  | .pending owner => done owner
  | .chained first second => (first, second) ∈ settled

/-- A chained promise is settled after both that it follows. -/
def Closed (done : Owner → Bool) (settled : List (Promise Owner × Promise Owner)) : Prop :=
  ∀ pair ∈ settled, isSettled done settled pair.1 = true ∧ isSettled done settled pair.2 = true

/-- The microtasks settle chained promises whose parts are settled. -/
inductive Settles (done : Owner → Bool) :
    List (Promise Owner × Promise Owner) → List (Promise Owner × Promise Owner) → Prop
  | refl (settled : List (Promise Owner × Promise Owner)) : Settles done settled settled
  | step {settled later : List (Promise Owner × Promise Owner)} {first second : Promise Owner}
      (firstSettled : isSettled done settled first = true)
      (secondSettled : isSettled done settled second = true)
      (rest : Settles done ((first, second) :: settled) later) : Settles done settled later

variable {done laterDone : Owner → Bool} {settled later : List (Promise Owner × Promise Owner)}

/-- What is settled stays so. -/
theorem isSettled_mono (ended : ∀ owner, done owner = true → laterDone owner = true)
    (kept : settled ⊆ later) {promise : Promise Owner} (held : isSettled done settled promise = true) :
    isSettled laterDone later promise = true := by
  cases promise with
  | resolved => rfl
  | pending owner => exact ended owner held
  | chained first second => exact decide_eq_true (kept (of_decide_eq_true held))

theorem Closed.mono (closed : Closed done settled)
    (ended : ∀ owner, done owner = true → laterDone owner = true) : Closed laterDone settled := by
  intro pair inside
  obtain ⟨first, second⟩ := closed pair inside
  exact ⟨isSettled_mono ended (List.Subset.refl _) first, isSettled_mono ended (List.Subset.refl _) second⟩

theorem Closed.settle (closed : Closed done settled) {first second : Promise Owner}
    (firstSettled : isSettled done settled first = true)
    (secondSettled : isSettled done settled second = true) : Closed done ((first, second) :: settled) := by
  have kept : settled ⊆ (first, second) :: settled := List.subset_cons_self ..
  intro pair inside
  have both : isSettled done settled pair.1 = true ∧ isSettled done settled pair.2 = true := by
    rcases List.mem_cons.mp inside with rfl | old
    · exact ⟨firstSettled, secondSettled⟩
    · exact closed pair old
  exact ⟨isSettled_mono (fun _ => id) kept both.1, isSettled_mono (fun _ => id) kept both.2⟩

/-- The owners that a settled promise waited for are done. -/
theorem Closed.owners_done (closed : Closed done settled) {promise : Promise Owner}
    (held : isSettled done settled promise = true) : ∀ owner ∈ promise.owners, done owner = true := by
  induction promise with
  | resolved => exact fun _ outside => (List.not_mem_nil outside).elim
  | pending owner =>
      intro other inside
      rw [List.mem_singleton.mp inside]
      exact held
  | chained first second firstIh secondIh =>
      obtain ⟨firstHeld, secondHeld⟩ := closed (first, second) (of_decide_eq_true held)
      intro owner inside
      rcases List.mem_append.mp inside with early | late
      · exact firstIh firstHeld owner early
      · exact secondIh secondHeld owner late

theorem Settles.subset (settles : Settles done settled later) : settled ⊆ later := by
  induction settles with
  | refl => exact List.Subset.refl _
  | step _ _ _ ih => exact List.Subset.trans (List.subset_cons_self ..) ih

theorem Settles.trans {last : List (Promise Owner × Promise Owner)} (settles : Settles done settled later)
    (more : Settles done later last) : Settles done settled last := by
  induction settles with
  | refl => exact more
  | step first second _ ih => exact .step first second (ih more)

/-- When the owners that a promise waits for are done, the microtasks alone settle it. -/
theorem settles_of_done (promise : Promise Owner) (ended : ∀ owner ∈ promise.owners, done owner = true)
    (settled : List (Promise Owner × Promise Owner)) :
    ∃ later, Settles done settled later ∧ isSettled done later promise = true := by
  induction promise generalizing settled with
  | resolved => exact ⟨settled, .refl settled, rfl⟩
  | pending owner => exact ⟨settled, .refl settled, ended owner (List.mem_singleton_self owner)⟩
  | chained first second firstIh secondIh =>
      obtain ⟨middle, firstSettles, firstHeld⟩ :=
        firstIh (fun owner inside => ended owner (List.mem_append_left _ inside)) settled
      obtain ⟨later, secondSettles, secondHeld⟩ :=
        secondIh (fun owner inside => ended owner (List.mem_append_right _ inside)) middle
      have kept := isSettled_mono (fun _ => id) secondSettles.subset firstHeld
      exact ⟨_, firstSettles.trans (secondSettles.trans (.step kept secondHeld (.refl _))),
        decide_eq_true (List.mem_cons_self ..)⟩

end Promise
