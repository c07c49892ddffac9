import Lcm.Library.Processes

namespace Process

variable {World Failure Value Next : Type}

/-- A process that nothing disturbs: each of its calls is performed and answered. -/
def alone : Process World Failure Value → World → Except Failure Value × World
  | .done value, world => (.ok value, world)
  | .failed failure, world => (.error failure, world)
  | .call act next, world => (next (.ok world)).alone (act world)

variable {program : Process World Failure Value} {next : Value → Process World Failure Next}
  {world after : World}

@[simp] theorem alone_pure (value : Value) :
    (pure value : Process World Failure Value).alone world = (.ok value, world) := rfl

@[simp] theorem alone_ask (read : World → Value) :
    (ask read : Process World Failure Value).alone world = (.ok (read world), world) := rfl

theorem alone_act (change : World → Except Failure Value × World) :
    (act change).alone world = change world := by
  show (lift (change world).1).alone (change world).2 = change world
  cases change world with
  | mk result later => cases result <;> rfl

theorem alone_bind : (program >>= next).alone world =
    match program.alone world with
    | (.ok value, later) => (next value).alone later
    | (.error failure, later) => (.error failure, later) := by
  show (program.bind next).alone world = _
  induction program generalizing world with
  | done value => rfl
  | failed failure => rfl
  | call act rest ih => exact ih (.ok world)

theorem alone_bind_ok {value : Value} (ran : program.alone world = (.ok value, after)) :
    (program >>= next).alone world = (next value).alone after := by rw [alone_bind, ran]

/-- Every call of a process keeps a property of the world, whatever the calls are answered. -/
def Keeps (holds : World → Prop) : Process World Failure Value → Prop
  | .done _ => True
  | .failed _ => True
  | .call act next => (∀ world, holds world → holds (act world)) ∧ ∀ seen, (next seen).Keeps holds

variable {holds : World → Prop}

theorem Keeps.alone (keeps : program.Keeps holds) (held : holds world) : holds (program.alone world).2 := by
  induction program generalizing world with
  | done value => exact held
  | failed failure => exact held
  | call act next ih => exact ih _ (keeps.2 _) (keeps.1 world held)

theorem keeps_pure (value : Value) : (pure value : Process World Failure Value).Keeps holds := trivial

theorem keeps_act {change : World → Except Failure Value × World}
    (kept : ∀ world, holds world → holds (change world).2) : (act change).Keeps holds := by
  refine ⟨kept, ?_⟩
  intro seen
  cases seen with
  | error failure => trivial
  | ok world =>
      show (lift (change world).1).Keeps holds
      cases (change world).1 <;> trivial

theorem keeps_ask (read : World → Value) : (ask read : Process World Failure Value).Keeps holds :=
  keeps_act fun _ held => held

theorem Keeps.bind (first : program.Keeps holds) (rest : ∀ value, (next value).Keeps holds) :
    (program >>= next).Keeps holds := by
  show (program.bind next).Keeps holds
  induction program with
  | done value => exact rest value
  | failed failure => trivial
  | call act continues ih => exact ⟨first.1, fun seen => ih seen (first.2 seen)⟩

theorem Keeps.attempt {handler : Failure → Process World Failure Value} (first : program.Keeps holds)
    (handles : ∀ failure, (handler failure).Keeps holds) : (program.attempt handler).Keeps holds := by
  induction program with
  | done value => trivial
  | failed failure => exact handles failure
  | call act continues ih => exact ⟨first.1, fun seen => ih seen (first.2 seen)⟩

/-- What holds after the first part of a process holds at its end when the rest keeps it. -/
theorem alone_bind_keeps (reached : holds (program.alone world).2) (rest : ∀ value, (next value).Keeps holds) :
    holds ((program >>= next).alone world).2 := by
  rw [alone_bind]
  split
  · next value later ran =>
      rw [ran] at reached
      exact (rest value).alone reached
  · next failure later ran =>
      rw [ran] at reached
      exact reached

end Process
