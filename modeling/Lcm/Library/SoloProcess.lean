import Lcm.Library.Processes

/-- What others may do to the world of a process between its calls, and what always holds of it. -/
structure Rely (World : Type) where
  may : World → World → Prop
  refl : ∀ world, may world world
  trans : ∀ first second third, may first second → may second third → may first third
  always : World → Prop

namespace Rely

variable {World Failure Value Next : Type} (rely : Rely World)

/-- Whatever others do between its calls, the process keeps what always holds and ends as stated. Unlike
under an interference, its own calls may do more than those of others. -/
def Ensures (after : Value → World → Prop) (fails : Failure → World → Prop) :
    Process World Failure Value → World → Prop
  | .done value, world => ∀ later, rely.may world later → rely.always later → after value later
  | .failed failure, world => ∀ later, rely.may world later → rely.always later → fails failure later
  | .call act next, world => ∀ later, rely.may world later → rely.always later →
      rely.always (act later) ∧ Ensures after fails (next (.ok later)) (act later) ∧
        ∀ failure, Ensures after fails (next (.error failure)) later ∧
          Ensures after fails (next (.error failure)) (act later)

variable {rely} {after : Value → World → Prop} {fails : Failure → World → Prop} {world : World}

theorem Ensures.later {program : Process World Failure Value} {later : World}
    (ensures : rely.Ensures after fails program world) (moved : rely.may world later) :
    rely.Ensures after fails program later := by
  cases program with
  | done value => exact fun last further => ensures last (rely.trans _ _ _ moved further)
  | failed failure => exact fun last further => ensures last (rely.trans _ _ _ moved further)
  | call act next => exact fun last further => ensures last (rely.trans _ _ _ moved further)

/-- The worlds that others may leave to a process are the ones that count. -/
theorem ensures_of_later {program : Process World Failure Value}
    (ensures : ∀ later, rely.may world later → rely.always later →
      rely.Ensures after fails program later) : rely.Ensures after fails program world := by
  cases program with
  | done value => exact fun later moved always => ensures later moved always later (rely.refl later) always
  | failed failure =>
      exact fun later moved always => ensures later moved always later (rely.refl later) always
  | call act next =>
      exact fun later moved always => ensures later moved always later (rely.refl later) always

theorem Ensures.mono {program : Process World Failure Value} {weaker : Value → World → Prop}
    {halts : Failure → World → Prop} (ensures : rely.Ensures after fails program world)
    (ok : ∀ value later, after value later → weaker value later)
    (error : ∀ failure later, fails failure later → halts failure later) :
    rely.Ensures weaker halts program world := by
  induction program generalizing world with
  | done value => exact fun later moved always => ok value later (ensures later moved always)
  | failed failure => exact fun later moved always => error failure later (ensures later moved always)
  | call act next ih =>
      intro later moved always
      obtain ⟨kept, performed, others⟩ := ensures later moved always
      exact ⟨kept, ih _ performed, fun failure => ⟨ih _ (others failure).1, ih _ (others failure).2⟩⟩

theorem ensures_pure {value : Value}
    (ended : ∀ later, rely.may world later → rely.always later → after value later) :
    rely.Ensures after fails (pure value) world := ended

/-- A call ensures what holds of every world that others may leave to it, answered or not. -/
theorem ensures_act {change : World → Except Failure Value × World}
    (step : ∀ later, rely.may world later → rely.always later →
      rely.always (change later).2 ∧
        (∀ value, (change later).1 = .ok value → ∀ last, rely.may (change later).2 last →
          rely.always last → after value last) ∧
        ∀ failure last, rely.may later last ∨ rely.may (change later).2 last → rely.always last →
          fails failure last) :
    rely.Ensures after fails (Process.act change) world := by
  intro later moved always
  obtain ⟨kept, performed, failed⟩ := step later moved always
  refine ⟨kept, ?_, fun failure => ⟨?_, ?_⟩⟩
  · show rely.Ensures after fails (Process.lift (change later).1) (change later).2
    cases given : (change later).1 with
    | ok value => exact performed value given
    | error failure => exact fun last further => failed failure last (.inr further)
  · exact fun last further => failed failure last (.inl further)
  · exact fun last further => failed failure last (.inr further)

theorem ensures_ask {read : World → Value}
    (ok : ∀ later, rely.may world later → rely.always later →
      ∀ last, rely.may later last → rely.always last → after (read later) last)
    (error : ∀ failure later, rely.may world later → rely.always later → fails failure later) :
    rely.Ensures after fails (Process.ask read) world := by
  apply ensures_act
  intro later moved always
  refine ⟨always, ?_, ?_⟩
  · intro value given
    cases given
    exact ok later moved always
  · intro failure last further
    rcases further with further | further
    · exact error failure last (rely.trans _ _ _ moved further)
    · exact error failure last (rely.trans _ _ _ moved further)

/-- A program goes on from where its first part may end. -/
theorem Ensures.bind {program : Process World Failure Value} {next : Value → Process World Failure Next}
    {last : Next → World → Prop} (first : rely.Ensures after fails program world)
    (rest : ∀ value later, after value later → rely.always later →
      rely.Ensures last fails (next value) later) :
    rely.Ensures last fails (program >>= next) world := by
  show rely.Ensures last fails (program.bind next) world
  induction program generalizing world with
  | done value =>
      exact ensures_of_later fun later moved always => rest value later (first later moved always) always
  | failed failure => exact first
  | call act continues ih =>
      intro later moved always
      obtain ⟨kept, performed, others⟩ := first later moved always
      exact ⟨kept, ih _ performed, fun failure => ⟨ih _ (others failure).1, ih _ (others failure).2⟩⟩

theorem Ensures.attempt {program : Process World Failure Value}
    {handler : Failure → Process World Failure Value} {halts : Failure → World → Prop}
    (ensures : rely.Ensures after fails program world)
    (handles : ∀ failure later, fails failure later → rely.always later →
      rely.Ensures after halts (handler failure) later) :
    rely.Ensures after halts (program.attempt handler) world := by
  induction program generalizing world with
  | done value => exact ensures
  | failed failure =>
      exact ensures_of_later fun later moved always => handles failure later (ensures later moved always) always
  | call act continues ih =>
      intro later moved always
      obtain ⟨kept, performed, others⟩ := ensures later moved always
      exact ⟨kept, ih _ performed, fun failure => ⟨ih _ (others failure).1, ih _ (others failure).2⟩⟩

/-- A property that nothing others may do can end. -/
def Stable (rely : Rely World) (holds : World → Prop) : Prop :=
  ∀ before after, rely.may before after → holds before → holds after

theorem Stable.pure {holds : World → Prop} (stable : rely.Stable holds) (held : holds world)
    (value : Value) :
    rely.Ensures (fun _ => holds) fails (Pure.pure value : Process World Failure Value) world :=
  fun later moved _ => stable world later moved held

/-- A call that only looks keeps what is stable. -/
theorem Stable.ask {holds : World → Prop} (stable : rely.Stable holds) (held : holds world)
    (read : World → Value) :
    rely.Ensures (fun _ => holds) (fun _ _ => True) (Process.ask read : Process World Failure Value) world := by
  apply ensures_ask
  · intro later moved _ last further _
    exact stable later last further (stable world later moved held)
  · exact fun _ _ _ _ => trivial

end Rely

/-- One process on its world. -/
structure Solo (World Failure Value : Type) where
  world : World
  process : Process World Failure Value

/-- What happens next: something that others do, or the next call of the process, which is performed,
refused, or performed without an answer. -/
inductive SoloTurn (Failure : Type) where
  | outside
  | performed
  | refused (failure : Failure)
  | unanswered (failure : Failure)

namespace Solo

variable {World Failure Value : Type}

/-- The next call of the process. -/
def answer (before : Solo World Failure Value) (performed : Bool)
    (answer : World → Except Failure World) : Option (Solo World Failure Value) :=
  match before.process with
  | .call act next =>
      some ⟨if performed then act before.world else before.world, next (answer before.world)⟩
  | _ => none

/-- One process runs while others change its world as they may. -/
def system (others : World → World → Prop) (first : World → Prop)
    (program : Process World Failure Value) : StepSystem (Solo World Failure Value) (SoloTurn Failure) where
  start before := first before.world ∧ before.process = program
  step before turn after :=
    match turn with
    | .outside => others before.world after.world ∧ after.process = before.process
    | .performed => before.answer true .ok = some after
    | .refused failure => before.answer false (fun _ => .error failure) = some after
    | .unanswered failure => before.answer true (fun _ => .error failure) = some after

variable {others : World → World → Prop} {first : World → Prop} {program : Process World Failure Value}
  {rely : Rely World} {after : Value → World → Prop} {fails : Failure → World → Prop}

theorem answer_ensures {before last : Solo World Failure Value} {performed : Bool}
    {answered : World → Except Failure World}
    (legal : answered before.world = .ok before.world ∧ performed = true ∨
      ∃ failure, answered before.world = .error failure)
    (always : rely.always before.world) (ensures : rely.Ensures after fails before.process before.world)
    (step : before.answer performed answered = some last) :
    rely.always last.world ∧ rely.Ensures after fails last.process last.world := by
  obtain ⟨world, process⟩ := before
  cases process with
  | done value => cases step
  | failed failure => cases step
  | call act next =>
      cases step
      obtain ⟨kept, goes, others⟩ := ensures world (rely.refl world) always
      rcases legal with ⟨given, rfl⟩ | ⟨failure, given⟩
      · simp only [given, if_true]
        exact ⟨kept, goes⟩
      · simp only [given]
        split
        · exact ⟨kept, (others failure).2⟩
        · exact ⟨always, (others failure).1⟩

/-- In every run the world keeps what always holds, and the process still ends as stated. -/
theorem reachable_ensures
    (initial : ∀ world, first world → rely.always world ∧ rely.Ensures after fails program world)
    (outside : ∀ world later, rely.always world → others world later →
      rely.may world later ∧ rely.always later)
    {solo : Solo World Failure Value} (reached : (system others first program).Reachable solo) :
    rely.always solo.world ∧ rely.Ensures after fails solo.process solo.world := by
  apply reached.invariant
  · rintro state ⟨start, same⟩
    rw [same]
    exact initial state.world start
  · intro before turn last _ holds step
    cases turn with
    | outside =>
        obtain ⟨moved, same⟩ := step
        obtain ⟨allowed, always⟩ := outside before.world last.world holds.1 moved
        rw [same]
        exact ⟨always, holds.2.later allowed⟩
    | performed => exact answer_ensures (.inl ⟨rfl, rfl⟩) holds.1 holds.2 step
    | refused failure => exact answer_ensures (.inr ⟨failure, rfl⟩) holds.1 holds.2 step
    | unanswered failure => exact answer_ensures (.inr ⟨failure, rfl⟩) holds.1 holds.2 step

end Solo

namespace Process

variable {World Failure Value : Type}

/-- What is left of a process after some answers. -/
def after (program : Process World Failure Value) (answers : Nat → Except Failure World) :
    Nat → Process World Failure Value
  | 0 => program
  | count + 1 =>
      match program with
      | .call _ next => (next (answers 0)).after (fun index => answers (index + 1)) count
      | ended => ended

/-- A process has ended when it makes no more calls. -/
def Ended (program : Process World Failure Value) : Prop :=
  ∀ act next, program ≠ .call act next

/-- Whatever its calls are answered, a process ends. -/
theorem exists_ended (program : Process World Failure Value) (answers : Nat → Except Failure World) :
    ∃ count, (program.after answers count).Ended := by
  induction program generalizing answers with
  | done value => exact ⟨0, nofun⟩
  | failed failure => exact ⟨0, nofun⟩
  | call act next ih =>
      obtain ⟨count, ended⟩ := ih (answers 0) fun index => answers (index + 1)
      exact ⟨count + 1, ended⟩

end Process
