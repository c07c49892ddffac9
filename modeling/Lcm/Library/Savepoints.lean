import Lcm.Library.Except
import Lcm.Library.Interruptible

namespace Savepoints

open Interruptible

/-- What becomes of a statement. A failure may take the whole transaction with it. -/
inductive Fate where
  | executed
  | failed
  | rolledBack
  deriving DecidableEq

/-- A connection with its open savepoints, the innermost first; a transaction is one without a name.
The fates of the next statements are given, and the statements after those are executed. -/
structure Connection (Name Tables : Type) where
  tables : Tables
  savepoints : List (Option Name × Tables)
  fates : List Fate

namespace Connection

variable {Name Tables : Type}

/-- The tables that others see, and that a rollback returns to. -/
def committed (connection : Connection Name Tables) : Tables :=
  (connection.savepoints.getLast?.map Prod.snd).getD connection.tables

def rollback (connection : Connection Name Tables) : Connection Name Tables :=
  { connection with tables := connection.committed, savepoints := [] }

def push (connection : Connection Name Tables) (name : Option Name) : Connection Name Tables :=
  { connection with savepoints := (name, connection.tables) :: connection.savepoints }

/-- The savepoints from the innermost one of a name on. -/
def since [DecidableEq Name] (connection : Connection Name Tables) (name : Name) :
    List (Option Name × Tables) :=
  connection.savepoints.dropWhile fun saved => saved.1 ≠ some name

/-- The fate of the next statement. -/
def next (connection : Connection Name Tables) : Fate × Connection Name Tables :=
  match connection.fates with
  | [] => (.executed, connection)
  | fate :: fates => (fate, { connection with fates })

@[simp] theorem next_tables (connection : Connection Name Tables) :
    connection.next.2.tables = connection.tables := by
  rw [next]
  split <;> rfl

@[simp] theorem next_savepoints (connection : Connection Name Tables) :
    connection.next.2.savepoints = connection.savepoints := by
  rw [next]
  split <;> rfl

end Connection

abbrev Session (Name Tables Failure : Type) := Interruptible (Connection Name Tables) Failure

section Statements

variable {Name Tables Failure Value : Type} [DecidableEq Name] (failed : Failure)

/-- What an executed statement does; one that fails by itself has no effect. -/
def perform (act : Connection Name Tables → Except Failure (Value × Connection Name Tables))
    (connection : Connection Name Tables) : Except Failure Value × Connection Name Tables :=
  match act connection with
  | .ok (value, later) => (.ok value, later)
  | .error failure => (.error failure, connection)

def command (act : Connection Name Tables → Except Failure (Value × Connection Name Tables)) :
    Session Name Tables Failure Value :=
  effect fun connection =>
    match connection.next with
    | (.executed, connection) => perform act connection
    | (.failed, connection) => (.error failed, connection)
    | (.rolledBack, connection) => (.error failed, connection.rollback)

/-- A statement reads and writes the tables. -/
def statement (act : Tables → Except Failure (Value × Tables)) : Session Name Tables Failure Value :=
  command failed fun connection => do
    let (value, tables) ← act connection.tables
    pure (value, { connection with tables })

def savepoint (name : Name) : Session Name Tables Failure Unit :=
  command failed fun connection => pure ((), connection.push (some name))

def release (name : Name) : Session Name Tables Failure Unit :=
  command failed fun connection =>
    match connection.since name with
    | [] => throw failed
    | _ :: outer => pure ((), { connection with savepoints := outer })

/-- The tables of a savepoint, which stays open. -/
def returnTo (name : Name) (connection : Connection Name Tables) :
    Except Failure (Unit × Connection Name Tables) :=
  match connection.since name with
  | [] => throw failed
  | saved :: outer => pure ((), { connection with tables := saved.2, savepoints := saved :: outer })

/-- A return to a savepoint that fails leaves no transaction. -/
def rollbackTo (name : Name) : Session Name Tables Failure Unit :=
  effect fun connection =>
    match connection.next with
    | (.executed, connection) => perform (returnTo failed name) connection
    | (_, connection) => (.error failed, connection.rollback)

def begin : Session Name Tables Failure Unit :=
  command failed fun connection =>
    if connection.savepoints.isEmpty then pure ((), connection.push none) else throw failed

def commit : Session Name Tables Failure Unit :=
  command failed fun connection =>
    if connection.savepoints.isEmpty then throw failed
    else pure ((), { connection with savepoints := [] })

def rollback : Session Name Tables Failure Unit :=
  effect fun connection =>
    if connection.savepoints.isEmpty then (.error failed, connection)
    else (.ok (), connection.next.2.rollback)

/-- An operation in its own savepoint, which is rolled back when the operation fails. -/
def withSavepoint (name : Name) (operation : Session Name Tables Failure Value) :
    Session Name Tables Failure Value := do
  savepoint failed name
  attempt
    (do
      let result ← operation
      release failed name
      pure result)
    fun failure => do
      rollbackTo failed name
      release failed name
      fault failure

end Statements

/-- What a program leaves that is run on a connection; a crash ends the transaction. -/
def Connection.call {Name Tables Failure Value : Type} (connection : Connection Name Tables)
    (program : Session Name Tables Failure Value) (fates : List Fate) (budget : Option Nat) :
    Connection Name Tables :=
  match program { connection with fates } budget with
  | (.error .crash, later, _) => later.rollback
  | (_, later, _) => later

/-- A property of the tables that also every open savepoint returns to. -/
structure Connection.Holds {Name Tables : Type} (holds : Tables → Prop)
    (connection : Connection Name Tables) : Prop where
  tables : holds connection.tables
  savepoints : ∀ saved ∈ connection.savepoints, holds saved.2

section Holds

variable {Name Tables Failure Value : Type} {holds : Tables → Prop}
  {connection : Connection Name Tables}

theorem Connection.Holds.committed (kept : connection.Holds holds) : holds connection.committed := by
  rw [Connection.committed]
  cases last : connection.savepoints.getLast? with
  | none => exact kept.tables
  | some saved => exact kept.savepoints saved (List.mem_of_getLast? last)

theorem Connection.Holds.rollback (kept : connection.Holds holds) : connection.rollback.Holds holds :=
  ⟨kept.committed, fun _ outside => (List.not_mem_nil outside).elim⟩

theorem Connection.Holds.push (kept : connection.Holds holds) (name : Option Name) :
    (connection.push name).Holds holds := by
  refine ⟨kept.tables, ?_⟩
  intro saved inside
  rcases List.mem_cons.mp inside with rfl | inside
  · exact kept.tables
  · exact kept.savepoints saved inside

/-- Of a connection only the tables and the savepoints matter. -/
theorem Connection.Holds.frame {later : Connection Name Tables} (kept : connection.Holds holds)
    (tables : later.tables = connection.tables)
    (savepoints : later.savepoints ⊆ connection.savepoints) : later.Holds holds := by
  refine ⟨?_, fun saved inside => kept.savepoints saved (savepoints inside)⟩
  rw [tables]
  exact kept.tables

theorem Connection.Holds.next (kept : connection.Holds holds) : connection.next.2.Holds holds := by
  apply kept.frame connection.next_tables
  rw [connection.next_savepoints]
  exact List.Subset.refl _

/-- A property holds where a session stopped. A crash rolls the transaction back. -/
def Stopped (holds : Tables → Prop) : Stop Failure → Connection Name Tables → Prop
  | .crash, later => later.rollback.Holds holds
  | .fault _, later => later.Holds holds

theorem Connection.Holds.call {program : Session Name Tables Failure Value} {fates : List Fate}
    (meets : Meets program { connection with fates } (fun _ later => later.Holds holds) (Stopped holds))
    (budget : Option Nat) : (connection.call program fates budget).Holds holds := by
  have ended := meets budget
  rw [Connection.call]
  revert ended
  rcases program { connection with fates } budget with ⟨(_ | failure) | value, later, rest⟩
  · exact And.left
  · exact And.left
  · exact And.left

variable {failed : Failure} {name : Name}

theorem since_subset [DecidableEq Name] : connection.since name ⊆ connection.savepoints :=
  (List.dropWhile_sublist _).subset

/-- A command is executed or fails, and then it has no effect or rolls the transaction back. -/
theorem command_meets {act : Connection Name Tables → Except Failure (Value × Connection Name Tables)}
    {after : Value → Connection Name Tables → Prop} {stopped : Stop Failure → Connection Name Tables → Prop}
    (crash : stopped .crash connection)
    (executed : ∀ value later, act connection.next.2 = .ok (value, later) → after value later)
    (refused : ∀ failure, stopped (.fault failure) connection.next.2)
    (rolledBack : stopped (.fault failed) connection.next.2.rollback) :
    Meets (command failed act) connection after stopped := by
  apply meets_effect crash
  · intro value later acted
    split at acted
    · next before same =>
        rw [same] at executed
        rw [perform] at acted
        split at acted
        · next found performed =>
            cases acted
            exact executed _ _ performed
        · cases acted
    · cases acted
    · cases acted
  · intro failure later acted
    split at acted
    · next before same =>
        rw [same] at refused
        rw [perform] at acted
        split at acted
        · cases acted
        · cases acted
          exact refused _
    · next before same =>
        rw [same] at refused
        cases acted
        exact refused _
    · next before same =>
        rw [same] at rolledBack
        cases acted
        exact rolledBack

/-- A command that keeps a property when it is executed keeps it in any case. -/
theorem command_holds {act : Connection Name Tables → Except Failure (Value × Connection Name Tables)}
    (kept : connection.Holds holds)
    (keeps : ∀ before value later, before.Holds holds → act before = .ok (value, later) →
      later.Holds holds) :
    Meets (command failed act) connection (fun _ later => later.Holds holds) (Stopped holds) :=
  command_meets kept.rollback (fun _ _ => keeps _ _ _ kept.next) (fun _ => kept.next) kept.next.rollback

/-- A statement outside of a savepoint keeps a property of the tables. -/
theorem statement_holds {act : Tables → Except Failure (Value × Tables)} (kept : connection.Holds holds)
    (keeps : ∀ value tables, act connection.tables = .ok (value, tables) → holds tables) :
    Meets (statement failed act) connection
      (fun value later => later.Holds holds ∧ act connection.tables = .ok (value, later.tables) ∧
        later.savepoints = connection.savepoints) (Stopped holds) := by
  apply command_meets kept.rollback
  · intro value later acted
    rw [Connection.next_tables] at acted
    obtain ⟨⟨found, tables⟩, ran, same⟩ := Except.bind_eq_ok.mp acted
    cases same
    refine ⟨⟨keeps _ _ ran, ?_⟩, ran, connection.next_savepoints⟩
    rw [connection.next_savepoints]
    exact kept.savepoints
  · exact fun _ => kept.next
  · exact kept.next.rollback

theorem release_holds [DecidableEq Name] (kept : connection.Holds holds) :
    Meets (release failed name) connection (fun _ later => later.Holds holds) (Stopped holds) := by
  apply command_holds kept
  intro before _ later kept acted
  split at acted
  · cases acted
  · next saved outer found =>
      cases acted
      refine ⟨kept.tables, fun other inside => kept.savepoints other ?_⟩
      exact since_subset (found ▸ List.mem_cons_of_mem saved inside)

theorem begin_holds (kept : connection.Holds holds) :
    Meets (begin failed) connection (fun _ later => later.Holds holds) (Stopped holds) := by
  apply command_holds kept
  intro before _ later kept acted
  split at acted
  · cases acted
    exact kept.push none
  · cases acted

theorem commit_holds (kept : connection.Holds holds) :
    Meets (commit failed) connection (fun _ later => later.Holds holds) (Stopped holds) := by
  apply command_holds kept
  intro before _ later kept acted
  split at acted
  · cases acted
  · cases acted
    exact ⟨kept.tables, fun _ outside => (List.not_mem_nil outside).elim⟩

theorem rollback_holds (kept : connection.Holds holds) :
    Meets (rollback failed) connection (fun _ later => later.Holds holds) (Stopped holds) := by
  apply meets_effect kept.rollback
  · intro _ later acted
    split at acted
    · cases acted
    · cases acted
      exact kept.next.rollback
  · intro _ later acted
    split at acted
    · cases acted
      exact kept
    · cases acted

theorem savepoint_holds (kept : connection.Holds holds) :
    Meets (savepoint failed name) connection (fun _ later => later.Holds holds) (Stopped holds) := by
  apply command_holds kept
  intro before _ later kept acted
  cases acted
  exact kept.push _

/-- Whatever the tables are, a return to the savepoint of a name brings the property back. -/
structure Connection.Recovers [DecidableEq Name] (holds : Tables → Prop) (name : Name)
    (connection : Connection Name Tables) : Prop where
  savepoints : ∀ saved ∈ connection.savepoints, holds saved.2
  tables : connection.since name = [] → holds connection.tables

/-- The savepoint of a name is open, and every savepoint keeps the property. -/
structure Connection.Inside [DecidableEq Name] (holds : Tables → Prop) (name : Name)
    (connection : Connection Name Tables) : Prop where
  savepoints : ∀ saved ∈ connection.savepoints, holds saved.2
  opened : connection.since name ≠ []

/-- Where an operation in a savepoint stopped. -/
def Recovering [DecidableEq Name] (holds : Tables → Prop) (name : Name) :
    Stop Failure → Connection Name Tables → Prop
  | .crash, later => later.rollback.Holds holds
  | .fault _, later => later.Recovers holds name

section Inside

variable [DecidableEq Name]

theorem Connection.Recovers.rollback (recovers : connection.Recovers holds name) :
    connection.rollback.Holds holds := by
  refine ⟨?_, fun _ outside => (List.not_mem_nil outside).elim⟩
  show holds connection.committed
  rw [Connection.committed]
  cases last : connection.savepoints.getLast? with
  | none =>
      apply recovers.tables
      rw [Connection.since, List.getLast?_eq_none_iff.mp last]
      rfl
  | some saved => exact recovers.savepoints saved (List.mem_of_getLast? last)

theorem Connection.Inside.recovers (inside : connection.Inside holds name) :
    connection.Recovers holds name :=
  ⟨inside.savepoints, fun closed => (inside.opened closed).elim⟩

theorem Connection.Inside.next (inside : connection.Inside holds name) :
    connection.next.2.Inside holds name := by
  refine ⟨?_, ?_⟩
  · rw [connection.next_savepoints]
    exact inside.savepoints
  · rw [Connection.since, connection.next_savepoints]
    exact inside.opened

theorem Connection.Holds.recovers (kept : connection.Holds holds) :
    connection.Recovers holds name :=
  ⟨kept.savepoints, fun _ => kept.tables⟩

/-- A statement in a savepoint may leave the tables in any state. -/
theorem statement_meets {act : Tables → Except Failure (Value × Tables)}
    (inside : connection.Inside holds name) {after : Value → Connection Name Tables → Prop}
    (done : ∀ value later, act connection.tables = .ok (value, later.tables) →
      later.Inside holds name → after value later) :
    Meets (statement failed act) connection after (Recovering holds name) := by
  apply command_meets inside.recovers.rollback
  · intro value later acted
    rw [Connection.next_tables] at acted
    obtain ⟨⟨found, tables⟩, ran, same⟩ := Except.bind_eq_ok.mp acted
    cases same
    exact done _ _ ran ⟨inside.next.savepoints, inside.next.opened⟩
  · exact fun _ => inside.next.recovers
  · exact inside.next.recovers.rollback.recovers

theorem Stopped.recovering {stop : Stop Failure} (stopped : Stopped holds stop connection) :
    Recovering holds name stop connection := by
  cases stop with
  | crash => exact stopped
  | fault failure => exact stopped.recovers

theorem Connection.Recovers.next (recovers : connection.Recovers holds name) :
    connection.next.2.Recovers holds name := by
  refine ⟨?_, ?_⟩
  · rw [connection.next_savepoints]
    exact recovers.savepoints
  · rw [Connection.since, connection.next_savepoints, connection.next_tables]
    exact recovers.tables

/-- A return to a savepoint brings the property back. -/
theorem rollbackTo_holds (recovers : connection.Recovers holds name) :
    Meets (rollbackTo failed name) connection (fun _ later => later.Holds holds) (Stopped holds) := by
  have next := recovers.next
  apply meets_effect recovers.rollback
  · intro _ later acted
    split at acted
    · next before same =>
        rw [same] at next
        rw [perform, returnTo] at acted
        cases found : before.since name with
        | nil =>
            rw [found] at acted
            cases acted
        | cons saved outer =>
            rw [found] at acted
            cases acted
            have within : ∀ other ∈ saved :: outer, holds other.2 := fun other inside =>
              next.savepoints other (since_subset (found ▸ inside))
            exact ⟨within saved (List.mem_cons_self ..), within⟩
    · cases acted
  · intro failure later acted
    split at acted
    · next before same =>
        rw [same] at next
        rw [perform, returnTo] at acted
        cases found : before.since name with
        | nil =>
            rw [found] at acted
            cases acted
            exact ⟨next.tables found, next.savepoints⟩
        | cons saved outer =>
            rw [found] at acted
            cases acted
    · next before unexecuted same =>
        rw [same] at next
        cases acted
        exact next.rollback

/-- An operation that keeps a property at its end keeps it in its savepoint, wherever it fails. -/
theorem withSavepoint_holds {operation : Session Name Tables Failure Value}
    (kept : connection.Holds holds)
    (operates : ∀ inner : Connection Name Tables, inner.tables = connection.tables →
      inner.Inside holds name → Meets operation inner
        (fun _ later => later.Inside holds name ∧ holds later.tables) (Recovering holds name)) :
    Meets (withSavepoint failed name operation) connection (fun _ later => later.Holds holds)
      (Stopped holds) := by
  apply meets_bind
  apply command_meets kept.rollback
  · intro _ inner acted
    cases acted
    have pushed := kept.next.push (some name)
    have opened : (connection.next.2.push (some name)).since name ≠ [] := by
      simp [Connection.since, Connection.push]
    have inside : (connection.next.2.push (some name)).Inside holds name := ⟨pushed.savepoints, opened⟩
    have operated := operates (connection.next.2.push (some name)) connection.next_tables inside
    refine Meets.attempt (meets_bind (operated.mono ?_ fun _ _ => id)) (fun _ => id) ?_
    · rintro result later ⟨inside, settled⟩
      have kept : later.Holds holds := ⟨settled, inside.savepoints⟩
      apply meets_bind
      apply (release_holds kept).mono
      · exact fun _ _ kept => meets_pure kept
      · exact fun _ _ => Stopped.recovering
    · intro failure later recovers
      have recovers : later.Recovers holds name := recovers
      refine (rollbackTo_holds recovers).bind fun _ _ kept => ?_
      exact (release_holds kept).bind fun _ _ kept => meets_fault kept
  · exact fun _ => kept.next
  · exact kept.next.rollback

end Inside

end Holds

section Within

variable {Name Tables Failure Value : Type} {connection origin : Connection Name Tables}
  {failed : Failure}

/-- A connection that is still in the transaction of its origin, with fates that were given there. -/
structure Connection.Within (origin later : Connection Name Tables) : Prop where
  savepoints : later.savepoints = origin.savepoints
  fates : later.fates <:+ origin.fates

/-- Where a session stops whose statements do not fail by themselves. Its transaction is still open as it
was at its origin, or it was rolled back; the cause is a crash or the fate of a statement. -/
structure Interrupted (failed : Failure) (origin : Connection Name Tables) (stop : Stop Failure)
    (later : Connection Name Tables) : Prop where
  undoable : later.savepoints = origin.savepoints ∨ later.savepoints = [] ∧ later.tables = origin.committed
  fates : later.fates <:+ origin.fates
  cause : stop = .crash ∨ stop = .fault failed ∧ ∃ fate ∈ origin.fates, fate ≠ .executed

theorem Connection.Within.refl (connection : Connection Name Tables) : connection.Within connection :=
  ⟨rfl, List.suffix_refl _⟩

theorem Connection.Within.trans {middle later : Connection Name Tables} (first : origin.Within middle)
    (second : middle.Within later) : origin.Within later :=
  ⟨second.savepoints.trans first.savepoints, second.fates.trans first.fates⟩

/-- What an open transaction returns to does not depend on its own tables. -/
theorem Connection.Within.committed {later : Connection Name Tables} (within : origin.Within later)
    (opened : origin.savepoints ≠ []) : later.committed = origin.committed := by
  rw [Connection.committed, Connection.committed, within.savepoints]
  cases last : origin.savepoints.getLast? with
  | none => exact absurd (List.getLast?_eq_none_iff.mp last) opened
  | some saved => rfl

theorem next_fates (connection : Connection Name Tables) :
    connection.next.2.fates <:+ connection.fates := by
  rw [Connection.next]
  split
  · exact List.suffix_refl _
  · next fate fates same =>
      rw [same]
      exact List.suffix_cons fate fates

theorem next_mem (connection : Connection Name Tables) :
    connection.next.1 = .executed ∨ connection.next.1 ∈ connection.fates := by
  rw [Connection.next]
  split
  · exact .inl rfl
  · next fate fates same =>
      rw [same]
      exact .inr (List.mem_cons_self ..)

/-- A command that does not fail by itself is executed, unless its fate is another one. -/
theorem command_executes {act : Connection Name Tables → Except Failure (Value × Connection Name Tables)}
    {after : Value → Connection Name Tables → Prop} {stopped : Stop Failure → Connection Name Tables → Prop}
    {value : Value} {last : Connection Name Tables} (executes : act connection.next.2 = .ok (value, last))
    (done : after value last) (crash : stopped .crash connection)
    (refused : ∀ fate ∈ connection.fates, fate ≠ .executed → stopped (.fault failed) connection.next.2)
    (rolledBack : ∀ fate ∈ connection.fates, fate ≠ .executed →
      stopped (.fault failed) connection.next.2.rollback) :
    Meets (command failed act) connection after stopped := by
  have caused : connection.next.1 = .executed ∨ connection.next.1 ∈ connection.fates := next_mem connection
  apply meets_effect crash
  · intro found later acted
    split at acted
    · next before same =>
        rw [same] at executes
        rw [perform, executes] at acted
        cases acted
        exact done
    · cases acted
    · cases acted
  · intro failure later acted
    split at acted
    · next before same =>
        rw [same] at executes
        rw [perform, executes] at acted
        cases acted
    · next before same =>
        cases acted
        rw [same] at refused caused
        exact refused _ (caused.resolve_left nofun) nofun
    · next before same =>
        cases acted
        rw [same] at rolledBack caused
        exact rolledBack _ (caused.resolve_left nofun) nofun

theorem Connection.Within.next (within : origin.Within connection) : origin.Within connection.next.2 :=
  ⟨connection.next_savepoints.trans within.savepoints, (next_fates connection).trans within.fates⟩

/-- A command is executed, or its fate interrupts the session. -/
theorem command_within {act : Connection Name Tables → Except Failure (Value × Connection Name Tables)}
    {after : Value → Connection Name Tables → Prop} (within : origin.Within connection)
    (opened : origin.savepoints ≠ []) {value : Value} {last : Connection Name Tables}
    (executes : act connection.next.2 = .ok (value, last)) (done : after value last) :
    Meets (command failed act) connection after (Interrupted failed origin) := by
  apply command_executes executes done
  · exact ⟨.inl within.savepoints, within.fates, .inl rfl⟩
  · intro fate inside other
    exact ⟨.inl within.next.savepoints, within.next.fates,
      .inr ⟨rfl, fate, within.fates.subset inside, other⟩⟩
  · intro fate inside other
    exact ⟨.inr ⟨rfl, within.next.committed opened⟩, within.next.fates,
      .inr ⟨rfl, fate, within.fates.subset inside, other⟩⟩

theorem statement_within {act : Tables → Except Failure (Value × Tables)}
    (within : origin.Within connection) (opened : origin.savepoints ≠ []) {value : Value} {tables : Tables}
    (executes : act connection.tables = .ok (value, tables)) :
    Meets (statement failed act) connection
      (fun found later => found = value ∧ later.tables = tables ∧ origin.Within later)
      (Interrupted failed origin) := by
  have ran : act connection.next.2.tables = .ok (value, tables) := by
    rw [Connection.next_tables, executes]
  have executed : (do
      let (value, tables) ← act connection.next.2.tables
      pure (value, { connection.next.2 with tables }) : Except Failure (Value × Connection Name Tables)) =
        .ok (value, { connection.next.2 with tables }) := by
    rw [ran]
    rfl
  apply command_within within opened executed
  refine ⟨rfl, rfl, ?_, (next_fates connection).trans within.fates⟩
  exact connection.next_savepoints.trans within.savepoints

/-- What is left of an operation that was undone: others see what they saw before, and unless it crashed
its caller does so too, or has lost the whole transaction. -/
structure Undone (failed : Failure) (origin : Connection Name Tables) (stop : Stop Failure)
    (later : Connection Name Tables) : Prop where
  committed : later.committed = origin.committed
  restored : stop ≠ .crash →
    later.tables = origin.tables ∨ later.savepoints = [] ∧ later.tables = origin.committed
  closed : stop ≠ .crash → origin.savepoints = [] → later.savepoints = []
  fates : later.fates <:+ origin.fates
  cause : stop = .crash ∨ stop = .fault failed ∧ ∃ fate ∈ origin.fates, fate ≠ .executed

/-- What is undone to a connection that is as at the origin is undone to the origin. -/
theorem Undone.fromOrigin {stop : Stop Failure} {middle : Connection Name Tables}
    (undone : Undone failed middle stop connection) (tables : middle.tables = origin.tables)
    (savepoints : middle.savepoints = origin.savepoints) (fates : middle.fates <:+ origin.fates) :
    Undone failed origin stop connection := by
  have committed : middle.committed = origin.committed := by
    rw [Connection.committed, Connection.committed, savepoints, tables]
  refine ⟨undone.committed.trans committed, ?_, ?_, undone.fates.trans fates, ?_⟩
  · intro other
    rw [← tables, ← committed]
    exact undone.restored other
  · intro other closed
    exact undone.closed other (savepoints.trans closed)
  · rcases undone.cause with crash | ⟨fault, fate, inside, other⟩
    · exact .inl crash
    · exact .inr ⟨fault, fate, fates.subset inside, other⟩

/-- An undone operation outside of a transaction has left the tables as they were. -/
theorem Undone.tables {failure : Failure} (undone : Undone failed origin (.fault failure) connection)
    (outside : origin.savepoints = []) : connection.tables = origin.tables := by
  rcases undone.restored nofun with same | ⟨_, same⟩
  · exact same
  · rw [same, Connection.committed, outside]
    rfl

/-- An operation in its own transaction. -/
def withTransaction (failed : Failure) (operation : Session Name Tables Failure Value) :
    Session Name Tables Failure Value := do
  begin failed
  attempt
    (do
      let result ← operation
      commit failed
      pure result)
    fun failure => do
      rollback failed
      fault failure

theorem Interrupted.committed {stop : Stop Failure} (interrupted : Interrupted failed origin stop connection)
    (opened : origin.savepoints ≠ []) : connection.committed = origin.committed := by
  rcases interrupted.undoable with same | ⟨closed, tables⟩
  · exact Connection.Within.committed ⟨same, interrupted.fates⟩ opened
  · rw [Connection.committed, closed]
    exact tables

/-- An operation that is interrupted in an open transaction leaves the undoing to the owner. -/
theorem Interrupted.weaken {stop : Stop Failure} {inner : Connection Name Tables}
    (interrupted : Interrupted failed inner stop connection) (within : origin.Within inner)
    (opened : origin.savepoints ≠ []) : Interrupted failed origin stop connection := by
  refine ⟨?_, interrupted.fates.trans within.fates, ?_⟩
  · rw [← within.savepoints, ← within.committed opened]
    exact interrupted.undoable
  · rcases interrupted.cause with crash | ⟨fault, fate, inside, other⟩
    · exact .inl crash
    · exact .inr ⟨fault, fate, within.fates.subset inside, other⟩

/-- Without an outer transaction a closed one is all there is to undo. -/
theorem undone_of_closed {stop : Stop Failure} (outside : origin.savepoints = [])
    (closed : connection.savepoints = []) (tables : connection.tables = origin.tables)
    (fates : connection.fates <:+ origin.fates)
    (cause : stop = .crash ∨ stop = .fault failed ∧ ∃ fate ∈ origin.fates, fate ≠ .executed) :
    Undone failed origin stop connection := by
  refine ⟨?_, fun _ => .inl tables, fun _ _ => closed, fates, cause⟩
  rw [Connection.committed, Connection.committed, closed, outside]
  exact tables

/-- The statement that ends an interrupted transaction undoes it. -/
theorem Interrupted.rollback {inner : Connection Name Tables} {failure : Failure}
    (interrupted : Interrupted failed inner (.fault failure) connection)
    (outside : origin.savepoints = []) (opened : inner.savepoints = [(none, origin.tables)])
    (given : inner.fates <:+ origin.fates) :
    Meets (do rollback failed; fault failure : Session Name Tables Failure Value) connection
      (fun _ _ => False) (Undone failed origin) := by
  have restored : inner.committed = origin.tables := by
    rw [Connection.committed, opened]
    rfl
  have committed : connection.committed = origin.tables := by
    rw [← restored]
    apply interrupted.committed
    rw [opened]
    exact List.cons_ne_nil _ _
  have fates : connection.fates <:+ origin.fates := interrupted.fates.trans given
  have cause : failure = failed ∧ ∃ fate ∈ origin.fates, fate ≠ .executed := by
    rcases interrupted.cause with crash | ⟨fault, fate, inside, other⟩
    · cases crash
    · cases fault
      exact ⟨rfl, fate, given.subset inside, other⟩
  obtain ⟨rfl, interrupting⟩ := cause
  apply meets_bind
  apply meets_effect
  · refine ⟨?_, fun other => (other rfl).elim, fun other => (other rfl).elim, fates, .inl rfl⟩
    rw [committed, Connection.committed, outside]
    rfl
  · intro _ later acted
    split at acted
    · cases acted
    · cases acted
      have left : connection.next.2.rollback.fates <:+ origin.fates := (next_fates connection).trans fates
      apply meets_fault
      apply undone_of_closed outside rfl _ left (.inr ⟨rfl, interrupting⟩)
      show connection.next.2.committed = origin.tables
      rw [Connection.committed, connection.next_savepoints, connection.next_tables]
      exact committed
  · intro _ later acted
    split at acted
    · next closed =>
        cases acted
        have closed := List.isEmpty_iff.mp closed
        apply undone_of_closed outside closed _ fates (.inr ⟨rfl, interrupting⟩)
        rw [Connection.committed, closed] at committed
        exact committed
    · cases acted

/-- An open transaction is committed, or its end is interrupted. -/
theorem commit_meets (within : origin.Within connection) (opened : origin.savepoints ≠ []) :
    Meets (commit failed) connection
      (fun _ later => later.tables = connection.tables ∧ later.savepoints = [] ∧
        later.fates <:+ origin.fates) (Interrupted failed origin) := by
  let last : Connection Name Tables := { connection.next.2 with savepoints := [] }
  have committed : (if connection.next.2.savepoints.isEmpty then throw failed
      else pure ((), last) : Except Failure (Unit × Connection Name Tables)) = .ok ((), last) := by
    rw [within.next.savepoints]
    cases same : origin.savepoints with
    | nil => exact absurd same opened
    | cons saved outer => rfl
  exact command_within within opened committed ⟨connection.next_tables, rfl, within.next.fates⟩

/-- A transaction is begun, or nothing has happened. -/
theorem begin_meets (outside : connection.savepoints = []) :
    Meets (begin failed) connection
      (fun _ inner => inner.tables = connection.tables ∧ inner.savepoints = [(none, connection.tables)] ∧
        inner.fates <:+ connection.fates) (Undone failed connection) := by
  have given := next_fates connection
  have closed : connection.next.2.savepoints = [] := connection.next_savepoints.trans outside
  have began : (if connection.next.2.savepoints.isEmpty then
      pure ((), connection.next.2.push none) else throw failed : Except Failure (Unit × _)) =
        .ok ((), connection.next.2.push none) := by
    rw [closed]
    rfl
  apply command_executes began
  · refine ⟨connection.next_tables, ?_, given⟩
    rw [Connection.push, closed, Connection.next_tables]
  · exact ⟨rfl, fun other => (other rfl).elim, fun other => (other rfl).elim, List.suffix_refl _, .inl rfl⟩
  · intro fate inside other
    apply undone_of_closed outside closed connection.next_tables given
    exact .inr ⟨rfl, fate, inside, other⟩
  · intro fate inside other
    have restored : connection.next.2.rollback.tables = connection.tables := by
      show connection.next.2.committed = connection.tables
      rw [Connection.committed, closed]
      exact connection.next_tables
    exact undone_of_closed outside rfl restored given (.inr ⟨rfl, fate, inside, other⟩)

/-- An operation in its own transaction ends with its result, or is undone. -/
theorem withTransaction_meets {operation : Session Name Tables Failure Value}
    (after : Value → Tables → Prop) (outside : connection.savepoints = [])
    (operates : ∀ inner : Connection Name Tables, inner.tables = connection.tables →
      inner.savepoints = [(none, connection.tables)] → Meets operation inner
        (fun value later => after value later.tables ∧ inner.Within later) (Interrupted failed inner)) :
    Meets (withTransaction failed operation) connection
      (fun value later => after value later.tables ∧ later.savepoints = [] ∧
        later.fates <:+ connection.fates) (Undone failed connection) := by
  refine (begin_meets outside).bind ?_
  rintro _ inner ⟨same, pushed, given⟩
  have opened : inner.savepoints ≠ [] := by
    rw [pushed]
    exact List.cons_ne_nil _ _
  have worked : Meets (do let result ← operation; commit failed; pure result) inner
      (fun value later => after value later.tables ∧ later.savepoints = [] ∧
        later.fates <:+ connection.fates) (Interrupted failed inner) := by
    apply (operates inner same pushed).bind
    rintro value later ⟨done, within⟩
    apply (commit_meets within opened).bind
    rintro _ last ⟨tables, ended, fates⟩
    apply meets_pure
    rw [tables]
    exact ⟨done, ended, fates.trans given⟩
  apply worked.attempt
  · intro later interrupted
    refine ⟨?_, fun other => (other rfl).elim, fun other => (other rfl).elim,
      interrupted.fates.trans given, .inl rfl⟩
    rw [interrupted.committed opened, Connection.committed, Connection.committed, pushed, outside]
    rfl
  · intro failure later interrupted
    exact (interrupted.rollback outside pushed given).mono nofun fun _ _ => id

/-- Whatever others saw at the origin is what they see. -/
structure Connection.Unseen (origin later : Connection Name Tables) : Prop where
  committed : later.committed = origin.committed
  fates : later.fates <:+ origin.fates

theorem Interrupted.unseen {stop : Stop Failure} (interrupted : Interrupted failed origin stop connection)
    (opened : origin.savepoints ≠ []) : origin.Unseen connection :=
  ⟨interrupted.committed opened, interrupted.fates⟩

theorem Connection.Unseen.next (unseen : origin.Unseen connection) : origin.Unseen connection.next.2 := by
  refine ⟨?_, (next_fates connection).trans unseen.fates⟩
  rw [Connection.committed, connection.next_savepoints, connection.next_tables]
  exact unseen.committed

theorem Connection.Unseen.rollback (unseen : origin.Unseen connection) : origin.Unseen connection.rollback :=
  ⟨unseen.committed, unseen.fates⟩

/-- A crash leaves to others what they saw. -/
theorem Connection.Unseen.crash (unseen : origin.Unseen connection) :
    Undone failed origin (.crash : Stop Failure) connection :=
  ⟨unseen.committed, fun other => (other rfl).elim, fun other => (other rfl).elim, unseen.fates, .inl rfl⟩

theorem Connection.Unseen.lost {stop : Stop Failure} (unseen : origin.Unseen connection)
    (cause : stop = .crash ∨ stop = .fault failed ∧ ∃ fate ∈ origin.fates, fate ≠ .executed) :
    Undone failed origin stop connection.rollback :=
  ⟨unseen.committed, fun _ => .inr ⟨rfl, unseen.committed⟩, fun _ _ => rfl, unseen.fates, cause⟩

/-- A doomed transaction takes no more statements and is rolled back. -/
def doom : Session Name Tables Failure Unit := change Connection.rollback

/-- A failure of the program dooms the transaction. -/
def fatal (program : Session Name Tables Failure Value) : Session Name Tables Failure Value :=
  attempt program fun failure => do
    doom
    fault failure

/-- An operation in a savepoint, to which only a failure of the operation itself returns. Any other
failure dooms the transaction. -/
def withFatalSavepoint [DecidableEq Name] (failed : Failure) (name : Name)
    (operation : Session Name Tables Failure Value) : Session Name Tables Failure Value := do
  fatal (savepoint failed name)
  let result ← attempt operation fun failure => do
    attempt
      (do
        rollbackTo failed name
        release failed name)
      fun _ => doom
    fault failure
  fatal (release failed name)
  pure result

theorem doom_meets {failure : Failure} {after : Value → Connection Name Tables → Prop}
    (unseen : origin.Unseen connection)
    (cause : failure = failed ∧ ∃ fate ∈ origin.fates, fate ≠ .executed) :
    Meets (do doom; fault failure : Session Name Tables Failure Value) connection after
      (Undone failed origin) := by
  apply meets_bind
  apply meets_change unseen.crash
  apply meets_fault
  obtain ⟨rfl, interrupting⟩ := cause
  exact unseen.lost (.inr ⟨rfl, interrupting⟩)

/-- What an interrupted program leaves is undone when its failure is fatal. -/
theorem fatal_meets {program : Session Name Tables Failure Value}
    {after : Value → Connection Name Tables → Prop} {inner : Connection Name Tables}
    (meets : Meets program connection after (Interrupted failed inner)) (opened : inner.savepoints ≠ [])
    (unseen : origin.Unseen inner) : Meets (fatal program) connection after (Undone failed origin) := by
  have reaches : ∀ stop later, Interrupted failed inner stop later → origin.Unseen later := by
    intro stop later interrupted
    exact ⟨(interrupted.committed opened).trans unseen.committed, interrupted.fates.trans unseen.fates⟩
  refine Meets.attempt meets ?_ ?_
  · intro later interrupted
    exact (reaches _ _ interrupted).crash
  · intro failure later interrupted
    apply doom_meets (reaches _ _ interrupted)
    rcases interrupted.cause with crash | ⟨fault, fate, inside, other⟩
    · cases crash
    · cases fault
      exact ⟨rfl, fate, unseen.fates.subset inside, other⟩

/-- In a savepoint others see what they saw before it. -/
theorem committed_pushed {name : Name}
    (pushed : connection.savepoints = (some name, origin.tables) :: origin.savepoints) :
    connection.committed = origin.committed := by
  rw [Connection.committed, Connection.committed, pushed, List.getLast?_cons]
  cases origin.savepoints.getLast? with
  | none => rfl
  | some saved => rfl

section Nested

variable [DecidableEq Name] {name : Name} {inner : Connection Name Tables} {failure : Failure}

/-- The innermost savepoint is found by its name. -/
theorem since_pushed (pushed : connection.savepoints = (some name, origin.tables) :: origin.savepoints) :
    connection.since name = (some name, origin.tables) :: origin.savepoints := by
  rw [Connection.since, pushed]
  simp

omit [DecidableEq Name] in
/-- A savepoint is opened in an open transaction, or its opening is interrupted. -/
theorem savepoint_meets (name : Name) (opened : connection.savepoints ≠ []) :
    Meets (savepoint failed name) connection
      (fun _ later => later.tables = connection.tables ∧
        later.savepoints = (some name, connection.tables) :: connection.savepoints ∧
        later.fates <:+ connection.fates) (Interrupted failed connection) := by
  apply command_within (.refl connection) opened rfl
  refine ⟨connection.next_tables, ?_, next_fates connection⟩
  rw [Connection.push, connection.next_savepoints, connection.next_tables]

/-- The innermost savepoint is released, or its release is interrupted. -/
theorem release_meets (pushed : inner.savepoints = (some name, origin.tables) :: origin.savepoints)
    (within : inner.Within connection) :
    Meets (release failed name) connection
      (fun _ later => later.tables = connection.tables ∧ later.savepoints = origin.savepoints ∧
        later.fates <:+ inner.fates) (Interrupted failed inner) := by
  let last : Connection Name Tables := { connection.next.2 with savepoints := origin.savepoints }
  have found : connection.next.2.since name = (some name, origin.tables) :: origin.savepoints :=
    since_pushed (within.next.savepoints.trans pushed)
  have released : (match connection.next.2.since name with
      | [] => throw failed
      | _ :: outer => pure ((), { connection.next.2 with savepoints := outer }) :
        Except Failure (Unit × Connection Name Tables)) = .ok ((), last) := by
    rw [found]
    rfl
  have opened : inner.savepoints ≠ [] := by
    rw [pushed]
    exact List.cons_ne_nil _ _
  exact command_within within opened released ⟨connection.next_tables, rfl, within.next.fates⟩

/-- A return to the innermost savepoint restores its tables; one that fails leaves to others what they saw. -/
theorem rollbackTo_meets (pushed : inner.savepoints = (some name, origin.tables) :: origin.savepoints)
    (unseen : origin.Unseen connection)
    (interrupted : Interrupted failed inner (.fault failure) connection) :
    Meets (rollbackTo failed name) connection
      (fun _ later => later.tables = origin.tables ∧
        later.savepoints = (some name, origin.tables) :: origin.savepoints ∧ later.fates <:+ origin.fates)
      (fun _ later => origin.Unseen later) := by
  have next := unseen.next
  have kept := connection.next_savepoints
  apply meets_effect unseen
  · intro _ later acted
    split at acted
    · next before same =>
        rw [same] at next kept
        rw [perform, returnTo] at acted
        rcases interrupted.undoable with still | ⟨closed, _⟩
        · rw [since_pushed (kept.trans (still.trans pushed))] at acted
          cases acted
          exact ⟨rfl, rfl, next.fates⟩
        · rw [Connection.since, kept, closed] at acted
          cases acted
    · cases acted
  · intro _ later acted
    split at acted
    · next before same =>
        rw [same] at next
        rw [perform] at acted
        split at acted
        · cases acted
        · cases acted
          exact next
    · next before _ same =>
        rw [same] at next
        cases acted
        exact next.rollback

/-- A failed operation in a savepoint is undone, if need be with its whole transaction. -/
theorem undo_meets (pushed : inner.savepoints = (some name, origin.tables) :: origin.savepoints)
    (opened : origin.savepoints ≠ []) (unseen : origin.Unseen inner)
    (interrupted : Interrupted failed inner (.fault failure) connection)
    (cause : failure = failed ∧ ∃ fate ∈ origin.fates, fate ≠ .executed) :
    Meets
      (attempt
        (do
          rollbackTo failed name
          release failed name)
        fun _ => doom : Session Name Tables Failure Unit) connection
      (fun _ => Undone failed origin (.fault failure)) (Undone failed origin) := by
  have fault : (Stop.fault failure : Stop Failure) = .crash ∨
      Stop.fault failure = .fault failed ∧ ∃ fate ∈ origin.fates, fate ≠ .executed := by
    obtain ⟨rfl, interrupting⟩ := cause
    exact .inr ⟨rfl, interrupting⟩
  have nested : inner.savepoints ≠ [] := by
    rw [pushed]
    exact List.cons_ne_nil _ _
  have stopped : origin.Unseen connection :=
    ⟨(interrupted.committed nested).trans unseen.committed, interrupted.fates.trans unseen.fates⟩
  have returns : Meets (do rollbackTo failed name; release failed name) connection
      (fun _ => Undone failed origin (.fault failure)) (fun _ later => origin.Unseen later) := by
    apply (rollbackTo_meets pushed stopped interrupted).bind
    rintro _ later ⟨tables, savepoints, given⟩
    apply (release_meets savepoints (.refl later)).mono
    · rintro _ last ⟨same, released, fates⟩
      have within : origin.Within last := ⟨released, fates.trans given⟩
      exact ⟨within.committed opened, fun _ => .inl (same.trans tables),
        fun _ closed => absurd closed opened, within.fates, fault⟩
    · intro stop last interrupted
      have pending : later.savepoints ≠ [] := by
        rw [savepoints]
        exact List.cons_ne_nil _ _
      exact ⟨(interrupted.committed pending).trans (committed_pushed savepoints),
        interrupted.fates.trans given⟩
  apply returns.attempt
  · exact fun _ unseen => unseen.crash
  · intro _ later unseen
    exact meets_change unseen.crash (unseen.lost fault)

/-- In an open transaction an operation in its savepoint ends with its result, or is undone. -/
theorem withFatalSavepoint_meets {operation : Session Name Tables Failure Value}
    (after : Value → Tables → Prop) (opened : connection.savepoints ≠ [])
    (operates : ∀ inner : Connection Name Tables, inner.tables = connection.tables →
      inner.savepoints ≠ [] → Meets operation inner
        (fun value later => after value later.tables ∧ inner.Within later) (Interrupted failed inner)) :
    Meets (withFatalSavepoint failed name operation) connection
      (fun value later => after value later.tables ∧ later.savepoints = connection.savepoints ∧
        later.fates <:+ connection.fates) (Undone failed connection) := by
  have unchanged : connection.Unseen connection := ⟨rfl, List.suffix_refl _⟩
  refine (fatal_meets (savepoint_meets name opened) opened unchanged).bind ?_
  rintro _ inner ⟨tables, pushed, given⟩
  have nested : inner.savepoints ≠ [] := by
    rw [pushed]
    exact List.cons_ne_nil _ _
  have unseen : connection.Unseen inner := ⟨committed_pushed pushed, given⟩
  have operated : Meets
      (attempt operation fun failure => do
        attempt
          (do
            rollbackTo failed name
            release failed name)
          fun _ => doom
        fault failure) inner
      (fun value later => after value later.tables ∧ inner.Within later) (Undone failed connection) := by
    apply (operates inner tables nested).attempt
    · intro later interrupted
      have kept := interrupted.unseen nested
      exact Connection.Unseen.crash ⟨kept.committed.trans unseen.committed, kept.fates.trans given⟩
    · intro failure later interrupted
      have cause : failure = failed ∧ ∃ fate ∈ connection.fates, fate ≠ .executed := by
        rcases interrupted.cause with crash | ⟨fault, fate, inside, other⟩
        · cases crash
        · cases fault
          exact ⟨rfl, fate, given.subset inside, other⟩
      exact (undo_meets pushed opened unseen interrupted cause).bind fun _ _ undone => meets_fault undone
  apply operated.bind
  rintro value later ⟨done, within⟩
  apply (fatal_meets (release_meets pushed within) nested unseen).bind
  rintro _ last ⟨kept, savepoints, fates⟩
  apply meets_pure
  rw [kept]
  exact ⟨done, savepoints, fates.trans given⟩

end Nested

end Within

end Savepoints
