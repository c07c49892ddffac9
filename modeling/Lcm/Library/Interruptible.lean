import Mathlib.Control.Basic
import Mathlib.Tactic.Common

/-- Why a program stops before its end. -/
inductive Stop (Failure : Type) where
  | crash
  | fault (failure : Failure)

/-- A program that changes a world by atomic effects. With a budget it makes only so many effects and
then crashes; without one nothing interrupts it. -/
def Interruptible (World Failure Value : Type) : Type :=
  World → Option Nat → Except (Stop Failure) Value × World × Option Nat

namespace Interruptible

variable {World Failure Value Next : Type}

instance : Monad (Interruptible World Failure) where
  pure value world budget := (.ok value, world, budget)
  bind program next world budget :=
    match program world budget with
    | (.ok value, later, rest) => next value later rest
    | (.error stop, later, rest) => (.error stop, later, rest)

instance : LawfulMonad (Interruptible World Failure) := LawfulMonad.mk' _
  (by
    intro _ program
    funext world budget
    show (match program world budget with
      | (.ok value, later, rest) => (.ok value, later, rest)
      | (.error stop, later, rest) => (.error stop, later, rest)) = program world budget
    rcases program world budget with ⟨_ | _, _, _⟩ <;> rfl)
  (fun _ _ => rfl)
  (by
    intro _ _ _ program next last
    funext world budget
    simp only [Bind.bind]
    rcases program world budget with ⟨_ | _, _, _⟩ <;> rfl)

def fault (failure : Failure) : Interruptible World Failure Value :=
  fun world budget => (.error (.fault failure), world, budget)

/-- Looking at the world is no effect. -/
def look : Interruptible World Failure World := fun world budget => (.ok world, world, budget)

def effect (act : World → Except Failure Value × World) : Interruptible World Failure Value :=
  fun world budget =>
    if budget = some 0 then (.error .crash, world, budget)
    else match act world with
      | (.ok value, later) => (.ok value, later, budget.map Nat.pred)
      | (.error failure, later) => (.error (.fault failure), later, budget.map Nat.pred)

/-- A result of a check, or its failure. -/
def lift : Except Failure Value → Interruptible World Failure Value
  | .ok value => pure value
  | .error failure => fault failure

def change (act : World → World) : Interruptible World Failure Unit :=
  effect fun world => (.ok (), act world)

/-- A failure is handled; a crash is not. -/
def attempt (program : Interruptible World Failure Value)
    (handler : Failure → Interruptible World Failure Value) : Interruptible World Failure Value :=
  fun world budget =>
    match program world budget with
    | (.ok value, later, rest) => (.ok value, later, rest)
    | (.error .crash, later, rest) => (.error .crash, later, rest)
    | (.error (.fault failure), later, rest) => handler failure later rest

/-- The ways in which a run may end. -/
def Ends (budget : Option Nat) (after : Value → World → Prop) (stopped : Stop Failure → World → Prop) :
    Except (Stop Failure) Value × World × Option Nat → Prop
  | (.ok value, world, rest) => after value world ∧ (budget = none → rest = none)
  | (.error .crash, world, _) => stopped .crash world ∧ budget ≠ none
  | (.error (.fault failure), world, rest) => stopped (.fault failure) world ∧ (budget = none → rest = none)

/-- From the world, every run of the program ends as stated, whenever it is interrupted. -/
def Meets (program : Interruptible World Failure Value) (world : World) (after : Value → World → Prop)
    (stopped : Stop Failure → World → Prop) : Prop :=
  ∀ budget, Ends budget after stopped (program world budget)

section Rules

variable {world : World} {after : Value → World → Prop} {stopped : Stop Failure → World → Prop}

theorem meets_pure {value : Value} (ended : after value world) :
    Meets (pure value : Interruptible World Failure Value) world after stopped :=
  fun _ => ⟨ended, id⟩

theorem meets_fault {failure : Failure} (ended : stopped (.fault failure) world) :
    Meets (fault failure : Interruptible World Failure Value) world after stopped :=
  fun _ => ⟨ended, id⟩

theorem meets_look {seen : World → World → Prop} (ended : seen world world) :
    Meets (look : Interruptible World Failure World) world seen stopped :=
  fun _ => ⟨ended, id⟩

theorem meets_lift {result : Except Failure Value} (ok : ∀ value, result = .ok value → after value world)
    (error : ∀ failure, result = .error failure → stopped (.fault failure) world) :
    Meets (lift result : Interruptible World Failure Value) world after stopped := by
  cases result with
  | error failure => exact meets_fault (error failure rfl)
  | ok value => exact meets_pure (ok value rfl)

theorem meets_effect {act : World → Except Failure Value × World} (crash : stopped .crash world)
    (ok : ∀ value later, act world = (.ok value, later) → after value later)
    (error : ∀ failure later, act world = (.error failure, later) → stopped (.fault failure) later) :
    Meets (effect act) world after stopped := by
  intro budget
  rw [effect]
  split
  · next spent =>
      refine ⟨crash, ?_⟩
      rw [spent]
      exact nofun
  · cases acted : act world with
    | mk result later =>
        cases result with
        | error failure =>
            refine ⟨error failure later acted, ?_⟩
            rintro rfl
            rfl
        | ok value =>
            refine ⟨ok value later acted, ?_⟩
            rintro rfl
            rfl

theorem meets_change {act : World → World} {changed : Unit → World → Prop}
    (crash : stopped .crash world) (done : changed () (act world)) :
    Meets (change act : Interruptible World Failure Unit) world changed stopped := by
  apply meets_effect crash
  · rintro _ _ acted
    cases acted
    exact done
  · exact fun _ _ acted => nomatch (Prod.mk.inj acted).1

/-- The second program goes on where the first one ends. -/
theorem meets_bind {program : Interruptible World Failure Value}
    {next : Value → Interruptible World Failure Next} {last : Next → World → Prop}
    (first : Meets program world (fun value later => Meets (next value) later last stopped) stopped) :
    Meets (program >>= next) world last stopped := by
  intro budget
  have ended := first budget
  show Ends budget last stopped (match program world budget with
    | (.ok value, later, rest) => next value later rest
    | (.error stop, later, rest) => (.error stop, later, rest))
  revert ended
  rcases program world budget with ⟨(_ | failure) | value, later, rest⟩
  · exact id
  · exact id
  · rintro ⟨goes, unbounded⟩
    have finished := goes rest
    dsimp only
    revert finished
    rcases next value later rest with ⟨(_ | failure) | result, final, left⟩
    · exact fun finished => ⟨finished.1, fun none => finished.2 (unbounded none)⟩
    · exact fun finished => ⟨finished.1, fun none => finished.2 (unbounded none)⟩
    · exact fun finished => ⟨finished.1, fun none => finished.2 (unbounded none)⟩

/-- Whatever ends as stated ends in every weaker way. -/
theorem Meets.mono {program : Interruptible World Failure Value} {weaker : Value → World → Prop}
    {halted : Stop Failure → World → Prop} (meets : Meets program world after stopped)
    (ok : ∀ value later, after value later → weaker value later)
    (stop : ∀ stop later, stopped stop later → halted stop later) :
    Meets program world weaker halted := by
  intro budget
  have ended := meets budget
  revert ended
  rcases program world budget with ⟨(_ | failure) | value, later, rest⟩
  · exact fun ended => ⟨stop _ _ ended.1, ended.2⟩
  · exact fun ended => ⟨stop _ _ ended.1, ended.2⟩
  · exact fun ended => ⟨ok _ _ ended.1, ended.2⟩

/-- A program whose first part is known to end goes on from there. -/
theorem Meets.bind {program : Interruptible World Failure Value}
    {next : Value → Interruptible World Failure Next} {last : Next → World → Prop}
    (first : Meets program world after stopped)
    (rest : ∀ value later, after value later → Meets (next value) later last stopped) :
    Meets (program >>= next) world last stopped :=
  meets_bind (first.mono rest fun _ _ => id)

/-- A handler goes on where the program failed. -/
theorem Meets.attempt {program : Interruptible World Failure Value}
    {handler : Failure → Interruptible World Failure Value} {failed : Stop Failure → World → Prop}
    (meets : Meets program world after failed)
    (crash : ∀ later, failed .crash later → stopped .crash later)
    (handles : ∀ failure later, failed (.fault failure) later →
      Meets (handler failure) later after stopped) :
    Meets (attempt program handler) world after stopped := by
  intro budget
  have ended := meets budget
  rw [Interruptible.attempt]
  revert ended
  rcases program world budget with ⟨(_ | failure) | value, later, rest⟩
  · exact fun ended => ⟨crash _ ended.1, ended.2⟩
  · rintro ⟨ended, unbounded⟩
    have finished := handles failure later ended rest
    dsimp only
    revert finished
    rcases handler failure later rest with ⟨(_ | other) | value, final, left⟩
    · exact fun finished => ⟨finished.1, fun none => finished.2 (unbounded none)⟩
    · exact fun finished => ⟨finished.1, fun none => finished.2 (unbounded none)⟩
    · exact fun finished => ⟨finished.1, fun none => finished.2 (unbounded none)⟩
  · exact id

/-- A change of the value changes nothing else. -/
theorem Meets.map {program : Interruptible World Failure Value} {change : Value → Next}
    {last : Next → World → Prop} (meets : Meets program world (fun value => last (change value)) stopped) :
    Meets (change <$> program) world last stopped := by
  rw [map_eq_pure_bind]
  exact meets.bind fun _ _ ended => meets_pure ended

/-- What holds at every end of a run holds of the world that it leaves. -/
theorem Meets.last {program : Interruptible World Failure Value} {holds : World → Prop}
    (meets : Meets program world (fun _ => holds) fun _ => holds) (budget : Option Nat) :
    holds (program world budget).2.1 := by
  have ended := meets budget
  revert ended
  rcases program world budget with ⟨(_ | failure) | value, later, rest⟩
  · exact And.left
  · exact And.left
  · exact And.left

/-- A run that nothing interrupts ends, or fails by itself. -/
theorem Meets.uninterrupted {program : Interruptible World Failure Value}
    (meets : Meets program world after stopped) :
    (∃ value later, program world none = (.ok value, later, none) ∧ after value later) ∨
      ∃ failure later rest, program world none = (.error (.fault failure), later, rest) ∧
        stopped (.fault failure) later := by
  have ended := meets none
  revert ended
  rcases program world none with ⟨(_ | failure) | value, later, rest⟩
  · exact fun ended => (ended.2 rfl).elim
  · exact fun ended => .inr ⟨failure, later, rest, rfl, ended.1⟩
  · intro ended
    rw [ended.2 rfl]
    exact .inl ⟨value, later, rfl, ended.1⟩

/-- A loop over a range keeps what each of its rounds hands on. -/
theorem meets_foldlM_range {count : Nat} {round : Value → Nat → Interruptible World Failure Value}
    (kept : Nat → Value → World → Prop) {value : Value} (initial : kept 0 value world)
    (each : ∀ index < count, ∀ value world, kept index value world →
      Meets (round value index) world (kept (index + 1)) stopped) :
    Meets ((List.range count).foldlM round value) world (kept count) stopped := by
  induction count with
  | zero => exact meets_pure initial
  | succ count ih =>
      rw [List.range_succ, List.foldlM_append]
      refine (ih fun index below => each index (Nat.lt_succ_of_lt below)).bind ?_
      intro value later reached
      rw [List.foldlM_cons]
      exact (each count (Nat.lt_succ_self count) value later reached).bind
        fun _ _ => meets_pure

end Rules

end Interruptible
