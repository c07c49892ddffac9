import Lcm.Library.Savepoints

namespace Savepoints

open Interruptible

variable {Name Tables Failure Value Next : Type} {failed : Failure} {name : Name}

/-- The end of a session that no outside failure met. -/
inductive Answers (savepoints : List (Option Name × Tables)) :
    Except Failure (Value × Tables) →
      Except (Stop Failure) Value × Connection Name Tables × Option Nat → Prop
  | ok (value : Value) (tables : Tables) :
      Answers savepoints (.ok (value, tables)) (.ok value, ⟨tables, savepoints, []⟩, none)
  | error (failure : Failure) (tables : Tables) :
      Answers savepoints (.error failure) (.error (.fault failure), ⟨tables, savepoints, []⟩, none)

/-- A session whose statements are all executed does to the tables what a function does, inside any
savepoints, which it leaves. -/
def Acts (program : Session Name Tables Failure Value) (act : StateT Tables (Except Failure) Value) : Prop :=
  ∀ tables savepoints, Answers savepoints (act tables) (program ⟨tables, savepoints, []⟩ none)

theorem Acts.congr {program : Session Name Tables Failure Value}
    {act other : StateT Tables (Except Failure) Value} (acts : Acts program act)
    (same : ∀ tables, act tables = other tables) : Acts program other := by
  intro tables savepoints
  rw [← same tables]
  exact acts tables savepoints

theorem acts_pure (value : Value) :
    Acts (pure value : Session Name Tables Failure Value) (pure value) :=
  fun tables _ => .ok value tables

theorem acts_fault (failure : Failure) :
    Acts (fault failure : Session Name Tables Failure Value) (fun _ => .error failure) :=
  fun tables _ => .error failure tables

theorem acts_lift (result : Except Failure Value) :
    Acts (lift result : Session Name Tables Failure Value) (fun tables => result.map (·, tables)) := by
  cases result with
  | error failure => exact acts_fault failure
  | ok value => exact acts_pure value

theorem acts_statement (act : Tables → Except Failure (Value × Tables)) :
    Acts (statement failed act : Session Name Tables Failure Value) act := by
  intro tables savepoints
  have ran : (statement failed act : Session Name Tables Failure Value) ⟨tables, savepoints, []⟩ none =
      match act tables with
      | .ok (value, later) => (.ok value, ⟨later, savepoints, []⟩, none)
      | .error failure => (.error (.fault failure), ⟨tables, savepoints, []⟩, none) := by
    simp only [statement, command, effect, Connection.next, perform]
    cases act tables with
    | error failure => rfl
    | ok answer => rfl
  rw [ran]
  cases act tables with
  | error failure => exact .error failure tables
  | ok answer => exact .ok answer.1 answer.2

theorem Acts.bind {program : Session Name Tables Failure Value}
    {next : Value → Session Name Tables Failure Next} {act : StateT Tables (Except Failure) Value}
    {nextAct : Value → StateT Tables (Except Failure) Next} (first : Acts program act)
    (rest : ∀ value, Acts (next value) (nextAct value)) : Acts (program >>= next) (act >>= nextAct) := by
  intro tables savepoints
  have started := first tables savepoints
  have sequence : (act >>= nextAct) tables =
      (act tables).bind fun answer => nextAct answer.1 answer.2 := by
    rfl
  rw [sequence]
  simp only [Bind.bind]
  revert started
  generalize act tables = result
  generalize program ⟨tables, savepoints, []⟩ none = ended
  rintro (⟨value, later⟩ | ⟨failure, later⟩)
  · exact rest value later savepoints
  · exact .error failure later

/-- What is done in a savepoint is done as without it. -/
theorem Acts.withSavepoint [DecidableEq Name] {operation : Session Name Tables Failure Value}
    {act : StateT Tables (Except Failure) Value} (acts : Acts operation act) :
    Acts (withSavepoint failed name operation) act := by
  intro tables savepoints
  have inner := acts tables ((some name, tables) :: savepoints)
  have found : ∀ left : Tables, Connection.since ⟨left, (some name, tables) :: savepoints, []⟩ name =
      (some name, tables) :: savepoints := by
    intro left
    simp [Connection.since]
  have released : ∀ left : Tables, (release failed name : Session Name Tables Failure Unit)
      ⟨left, (some name, tables) :: savepoints, []⟩ none = (.ok (), ⟨left, savepoints, []⟩, none) := by
    intro left
    simp only [release, command, effect, Connection.next, perform, found]
    rfl
  have returned : ∀ left : Tables, (rollbackTo failed name : Session Name Tables Failure Unit)
      ⟨left, (some name, tables) :: savepoints, []⟩ none =
        (.ok (), ⟨tables, (some name, tables) :: savepoints, []⟩, none) := by
    intro left
    simp only [rollbackTo, effect, Connection.next, perform, returnTo, found]
    rfl
  have opened : (savepoint failed name : Session Name Tables Failure Unit) ⟨tables, savepoints, []⟩ none =
      (.ok (), ⟨tables, (some name, tables) :: savepoints, []⟩, none) := rfl
  simp only [Savepoints.withSavepoint, Bind.bind, attempt, opened]
  revert inner
  generalize act tables = result
  generalize operation ⟨tables, (some name, tables) :: savepoints, []⟩ none = ended
  rintro (⟨value, later⟩ | ⟨failure, later⟩)
  · simp only [released]
    exact .ok value later
  · simp only [returned, released]
    exact .error failure tables

/-- What a session does in a transaction that is open. -/
def undisturbed (program : Session Name Tables Failure Value) (tables : Tables) :
    Except (Stop Failure) (Value × Tables) :=
  match program ⟨tables, [(none, tables)], []⟩ none with
  | (.ok value, later, _) => .ok (value, later.tables)
  | (.error stop, _, _) => .error stop

theorem Acts.undisturbed {program : Session Name Tables Failure Value}
    {act : StateT Tables (Except Failure) Value} (acts : Acts program act) (tables : Tables) :
    Savepoints.undisturbed program tables = (act tables).mapError .fault := by
  have ended := acts tables [(none, tables)]
  rw [Savepoints.undisturbed]
  revert ended
  generalize act tables = result
  generalize program ⟨tables, [(none, tables)], []⟩ none = stopped
  rintro (⟨value, later⟩ | ⟨failure, later⟩)
  · rfl
  · rfl

end Savepoints
