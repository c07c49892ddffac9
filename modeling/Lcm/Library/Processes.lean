import Lcm.Library.StepSystem

/-- A process that acts on a shared world by atomic calls. A call sees a world, leaves another one, and
goes on with what it saw or with its failure. -/
inductive Process (World Failure Value : Type) where
  | done (value : Value)
  | failed (failure : Failure)
  | call (act : World → World) (next : Except Failure World → Process World Failure Value)

namespace Process

variable {World Failure Value Next : Type}

def bind (program : Process World Failure Value) (next : Value → Process World Failure Next) :
    Process World Failure Next :=
  match program with
  | done value => next value
  | failed failure => failed failure
  | call act rest => call act fun seen => (rest seen).bind next

instance : Monad (Process World Failure) where
  pure := done
  bind := bind

/-- A failure is handled where it happens. -/
def attempt (program : Process World Failure Value) (handler : Failure → Process World Failure Value) :
    Process World Failure Value :=
  match program with
  | done value => done value
  | failed failure => handler failure
  | call act rest => call act fun seen => (rest seen).attempt handler

def lift : Except Failure Value → Process World Failure Value
  | .ok value => done value
  | .error failure => failed failure

/-- One call with the value, or the failure, that it gives. -/
def act (change : World → Except Failure Value × World) : Process World Failure Value :=
  call (fun world => (change world).2) fun seen =>
    match seen with
    | .ok world => lift (change world).1
    | .error failure => failed failure

/-- A call that leaves the world as it is. -/
def ask (read : World → Value) : Process World Failure Value := act fun world => (.ok (read world), world)

end Process

/-- What holds of a world between the calls of its processes, and what they may do to it. -/
structure Interference (World : Type) where
  holds : World → Prop
  may : World → World → Prop
  refl : ∀ world, may world world
  trans : ∀ first second third, may first second → may second third → may first third

namespace Interference

variable {World Failure Value Next : Type} (interference : Interference World)

/-- Under interference, every call of the process is one that others may meet, and the process ends as
stated. -/
def Meets (after : Value → World → Prop) (fails : Failure → World → Prop) :
    Process World Failure Value → World → Prop
  | .done value, world => ∀ later, interference.may world later → interference.holds later →
      after value later
  | .failed failure, world => ∀ later, interference.may world later → interference.holds later →
      fails failure later
  | .call act next, world => ∀ later, interference.may world later → interference.holds later →
      interference.may later (act later) ∧ interference.holds (act later) ∧
        Meets after fails (next (.ok later)) (act later) ∧
          ∀ failure, Meets after fails (next (.error failure)) later

variable {interference} {after : Value → World → Prop} {fails : Failure → World → Prop} {world : World}

/-- What a process meets it meets in every later world. -/
theorem Meets.later {program : Process World Failure Value} {later : World}
    (meets : interference.Meets after fails program world) (moved : interference.may world later) :
    interference.Meets after fails program later := by
  cases program with
  | done value => exact fun last further => meets last (interference.trans _ _ _ moved further)
  | failed failure => exact fun last further => meets last (interference.trans _ _ _ moved further)
  | call act next => exact fun last further => meets last (interference.trans _ _ _ moved further)

/-- The worlds that others may leave to a process are the ones that count. -/
theorem meets_of_later {program : Process World Failure Value}
    (meets : ∀ later, interference.may world later → interference.holds later →
      interference.Meets after fails program later) : interference.Meets after fails program world := by
  cases program with
  | done value =>
      exact fun later moved holds => meets later moved holds later (interference.refl later) holds
  | failed failure =>
      exact fun later moved holds => meets later moved holds later (interference.refl later) holds
  | call act next =>
      exact fun later moved holds => meets later moved holds later (interference.refl later) holds

theorem Meets.mono {program : Process World Failure Value} {weaker : Value → World → Prop}
    {halts : Failure → World → Prop} (meets : interference.Meets after fails program world)
    (ok : ∀ value later, after value later → weaker value later)
    (error : ∀ failure later, fails failure later → halts failure later) :
    interference.Meets weaker halts program world := by
  induction program generalizing world with
  | done value => exact fun later moved holds => ok value later (meets later moved holds)
  | failed failure => exact fun later moved holds => error failure later (meets later moved holds)
  | call act next ih =>
      intro later moved holds
      obtain ⟨allowed, kept, performed, refused⟩ := meets later moved holds
      exact ⟨allowed, kept, ih _ performed, fun failure => ih _ (refused failure)⟩

theorem meets_pure {value : Value}
    (ended : ∀ later, interference.may world later → interference.holds later → after value later) :
    interference.Meets after fails (pure value) world := ended

theorem meets_lift {result : Except Failure Value}
    (ok : ∀ value, result = .ok value →
      ∀ later, interference.may world later → interference.holds later → after value later)
    (error : ∀ failure, result = .error failure →
      ∀ later, interference.may world later → interference.holds later → fails failure later) :
    interference.Meets after fails (Process.lift result) world := by
  cases result with
  | ok value => exact ok value rfl
  | error failure => exact error failure rfl

/-- A call meets what it meets in every world that others may leave to it. -/
theorem meets_act {change : World → Except Failure Value × World}
    (allowed : ∀ later, interference.may world later → interference.holds later →
      interference.may later (change later).2 ∧ interference.holds (change later).2)
    (ok : ∀ later value, interference.may world later → interference.holds later →
      (change later).1 = .ok value → ∀ last, interference.may (change later).2 last →
        interference.holds last → after value last)
    (error : ∀ failure later, interference.may world later → interference.holds later →
      fails failure later) :
    interference.Meets after fails (Process.act change) world := by
  intro later moved holds
  obtain ⟨changed, kept⟩ := allowed later moved holds
  refine ⟨changed, kept, ?_, fun failure last further =>
    error failure last (interference.trans _ _ _ moved further)⟩
  apply meets_lift
  · exact fun value given => ok later value moved holds given
  · intro failure _ last further
    exact error failure last (interference.trans _ _ _ moved (interference.trans _ _ _ changed further))

theorem meets_ask {read : World → Value}
    (ok : ∀ later, interference.may world later → interference.holds later →
      ∀ last, interference.may later last → interference.holds last → after (read later) last)
    (error : ∀ failure later, interference.may world later → interference.holds later →
      fails failure later) :
    interference.Meets after fails (Process.ask read) world := by
  apply meets_act
  · exact fun later _ holds => ⟨interference.refl later, holds⟩
  · intro later value moved holds given
    cases given
    exact ok later moved holds
  · exact error

/-- A program goes on from where its first part may end. -/
theorem Meets.bind {program : Process World Failure Value} {next : Value → Process World Failure Next}
    {last : Next → World → Prop} (first : interference.Meets after fails program world)
    (rest : ∀ value later, after value later → interference.holds later →
      interference.Meets last fails (next value) later) :
    interference.Meets last fails (program >>= next) world := by
  show interference.Meets last fails (program.bind next) world
  induction program generalizing world with
  | done value =>
      exact meets_of_later fun later moved holds => rest value later (first later moved holds) holds
  | failed failure => exact first
  | call act continues ih =>
      intro later moved holds
      obtain ⟨allowed, kept, performed, refused⟩ := first later moved holds
      exact ⟨allowed, kept, ih _ performed, fun failure => ih _ (refused failure)⟩

theorem Meets.attempt {program : Process World Failure Value}
    {handler : Failure → Process World Failure Value} {halts : Failure → World → Prop}
    (meets : interference.Meets after fails program world)
    (handles : ∀ failure later, fails failure later → interference.holds later →
      interference.Meets after halts (handler failure) later) :
    interference.Meets after halts (program.attempt handler) world := by
  induction program generalizing world with
  | done value => exact meets
  | failed failure =>
      exact meets_of_later fun later moved holds => handles failure later (meets later moved holds) holds
  | call act continues ih =>
      intro later moved holds
      obtain ⟨allowed, kept, performed, refused⟩ := meets later moved holds
      exact ⟨allowed, kept, ih _ performed, fun failure => ih _ (refused failure)⟩

/-- A process ends in a world that others may have left to it. -/
theorem Meets.ended {program : Process World Failure Value}
    (meets : interference.Meets after fails program world) :
    interference.Meets (fun value later => interference.may world later ∧ after value later)
      (fun failure later => interference.may world later ∧ fails failure later) program world := by
  have from' : ∀ middle, interference.may world middle → ∀ program : Process World Failure Value,
      interference.Meets after fails program middle →
        interference.Meets (fun value later => interference.may world later ∧ after value later)
          (fun failure later => interference.may world later ∧ fails failure later) program middle := by
    intro middle moved program meets
    induction program generalizing middle with
    | done value =>
        exact fun later further holds =>
          ⟨interference.trans _ _ _ moved further, meets later further holds⟩
    | failed failure =>
        exact fun later further holds =>
          ⟨interference.trans _ _ _ moved further, meets later further holds⟩
    | call act next ih =>
        intro later further holds
        obtain ⟨allowed, kept, performed, refused⟩ := meets later further holds
        have reached := interference.trans _ _ _ moved further
        exact ⟨allowed, kept, ih _ _ (interference.trans _ _ _ reached allowed) performed,
          fun failure => ih _ _ reached (refused failure)⟩
  exact from' world (interference.refl world) program meets

theorem Meets.reached {program : Process World Failure Value}
    (meets : interference.Meets after fails program world) :
    interference.Meets (fun value later => interference.may world later ∧ after value later) fails program
      world := meets.ended.mono (fun _ _ ended => ended) fun _ _ ended => ended.2

theorem Meets.halted {program : Process World Failure Value}
    (meets : interference.Meets after fails program world) :
    interference.Meets after (fun failure later => interference.may world later ∧ fails failure later)
      program world := meets.ended.mono (fun _ _ ended => ended.2) fun _ _ ended => ended

/-- A loop over a list keeps what each of its rounds hands on. -/
theorem meets_foldlM {Item : Type} {round : Value → Item → Process World Failure Value}
    {items : List Item} {value : Value} (kept : Value → World → Prop)
    (stable : ∀ value first second, kept value first → interference.may first second → kept value second)
    (initial : kept value world)
    (each : ∀ item ∈ items, ∀ value later, interference.may world later → kept value later →
      interference.Meets kept fails (round value item) later) :
    interference.Meets kept fails (items.foldlM round value) world := by
  have runs : ∀ (rest : List Item), (∀ item ∈ rest, item ∈ items) → ∀ value later,
      interference.may world later → kept value later →
        interference.Meets kept fails (rest.foldlM round value) later := by
    intro rest
    induction rest with
    | nil => exact fun _ value later _ holds last further _ => stable value later last holds further
    | cons item rest ih =>
        intro inside value later moved holds
        rw [List.foldlM_cons]
        have first := each item (inside item (List.mem_cons_self ..)) value later moved holds
        apply first.reached.bind
        intro value last reached _
        exact ih (fun other found => inside other (List.mem_cons_of_mem _ found)) value last
          (interference.trans _ _ _ moved reached.1) reached.2
  exact runs items (fun _ inside => inside) value world (interference.refl world) initial

end Interference

/-- A world with the processes that run on it. -/
structure Shared (World Failure Value : Type) where
  world : World
  processes : List (Process World Failure Value)

/-- What happens next: something outside, the start of a program, or the next call of a process, which
is performed, refused, or performed without an answer; a process may also crash. -/
inductive Turn (Event Program Failure : Type) where
  | outside (event : Event)
  | start (program : Program)
  | performed (index : Nat)
  | refused (index : Nat) (failure : Failure)
  | unanswered (index : Nat) (failure : Failure)
  | crash (index : Nat)

namespace Shared

variable {World Failure Value Event Program : Type}

def turn (outside : World → Event → Option World) (program : Program → Process World Failure Value)
    (shared : Shared World Failure Value) : Turn Event Program Failure → Option (Shared World Failure Value)
  | .outside event => (outside shared.world event).map fun world => { shared with world }
  | .start started => some { shared with processes := shared.processes ++ [program started] }
  | .performed index =>
      match shared.processes[index]? with
      | some (.call act next) =>
          some ⟨act shared.world, shared.processes.set index (next (.ok shared.world))⟩
      | _ => none
  | .refused index failure =>
      match shared.processes[index]? with
      | some (.call _ next) => some ⟨shared.world, shared.processes.set index (next (.error failure))⟩
      | _ => none
  | .unanswered index failure =>
      match shared.processes[index]? with
      | some (.call act next) =>
          some ⟨act shared.world, shared.processes.set index (next (.error failure))⟩
      | _ => none
  | .crash index => some { shared with processes := shared.processes.eraseIdx index }

/-- Processes that start at any time and take turns on one world. -/
def system (first : World → Prop) (outside : World → Event → Option World)
    (program : Program → Process World Failure Value) :
    StepSystem (Shared World Failure Value) (Turn Event Program Failure) where
  start shared := first shared.world ∧ shared.processes = []
  step before taken after := before.turn outside program taken = some after

/-- Every process meets what is stated of it from the current world on. -/
def Kept (interference : Interference World) (after : Value → World → Prop)
    (fails : Failure → World → Prop) (shared : Shared World Failure Value) : Prop :=
  ∀ process ∈ shared.processes, interference.Meets after fails process shared.world

variable {interference : Interference World} {outside : World → Event → Option World}
  {program : Program → Process World Failure Value} {after : Value → World → Prop}
  {fails : Failure → World → Prop}

/-- The others keep what they meet when one process goes on. -/
theorem Kept.set {shared : Shared World Failure Value} {world : World}
    {process : Process World Failure Value} (kept : shared.Kept interference after fails) (index : Nat)
    (moved : interference.may shared.world world) (goes : interference.Meets after fails process world) :
    Kept interference after fails ⟨world, shared.processes.set index process⟩ := by
  intro other inside
  rcases List.mem_or_eq_of_mem_set inside with old | rfl
  · exact (kept other old).later moved
  · exact goes

/-- A turn does to the world what others may meet, and every process goes on as stated. -/
theorem Kept.turn {before last : Shared World Failure Value} {taken : Turn Event Program Failure}
    (events : ∀ world event later, interference.holds world → outside world event = some later →
      interference.may world later ∧ interference.holds later)
    (programs : ∀ started world, interference.Meets after fails (program started) world)
    (holds : interference.holds before.world) (kept : before.Kept interference after fails)
    (step : before.turn outside program taken = some last) :
    interference.may before.world last.world ∧ interference.holds last.world ∧
      last.Kept interference after fails := by
  have next : ∀ {index : Nat} {act : World → World} {rest : Except Failure World → Process World Failure Value},
      before.processes[index]? = some (.call act rest) →
        interference.Meets after fails (.call act rest) before.world := by
    exact fun found => kept _ (List.mem_of_getElem? found)
  cases taken with
  | outside event =>
      obtain ⟨world, happened, rfl⟩ := Option.map_eq_some_iff.mp step
      have moved := events before.world event world holds happened
      exact ⟨moved.1, moved.2, fun process inside => (kept process inside).later moved.1⟩
  | start started =>
      cases step
      refine ⟨interference.refl _, holds, fun process inside => ?_⟩
      rcases List.mem_append.mp inside with old | added
      · exact kept process old
      · rw [List.mem_singleton.mp added]
        exact programs started before.world
  | performed index =>
      simp only [Shared.turn] at step
      split at step
      · next act rest found =>
          cases step
          obtain ⟨allowed, holds, goes, _⟩ := next found before.world (interference.refl _) holds
          exact ⟨allowed, holds, kept.set index allowed goes⟩
      · cases step
  | refused index failure =>
      simp only [Shared.turn] at step
      split at step
      · next act rest found =>
          cases step
          obtain ⟨_, _, _, goes⟩ := next found before.world (interference.refl _) holds
          exact ⟨interference.refl _, holds, kept.set index (interference.refl _) (goes failure)⟩
      · cases step
  | unanswered index failure =>
      simp only [Shared.turn] at step
      split at step
      · next act rest found =>
          cases step
          obtain ⟨allowed, later, _, goes⟩ := next found before.world (interference.refl _) holds
          exact ⟨allowed, later, kept.set index allowed ((goes failure).later allowed)⟩
      · cases step
  | crash index =>
      cases step
      exact ⟨interference.refl _, holds,
        fun process inside => kept process (List.mem_of_mem_eraseIdx inside)⟩

/-- In every run what holds at first holds, and every process is one that meets what is stated of it. -/
theorem reachable_meets {first : World → Prop}
    (initial : ∀ world, first world → interference.holds world)
    (events : ∀ world event later, interference.holds world → outside world event = some later →
      interference.may world later ∧ interference.holds later)
    (programs : ∀ started world, interference.Meets after fails (program started) world)
    {shared : Shared World Failure Value}
    (reached : (system first outside program).Reachable shared) :
    interference.holds shared.world ∧ shared.Kept interference after fails := by
  apply reached.invariant
  · intro state start
    refine ⟨initial state.world start.1, fun process inside => ?_⟩
    rw [start.2] at inside
    cases inside
  · intro before taken last _ holds step
    exact (holds.2.turn events programs holds.1 step).2

end Shared
