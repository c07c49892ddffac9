import Lcm.Library.Savepoints
import Lcm.Store.Summaries

namespace Lcm.Store
open Interruptible Savepoints

/-- Why a replacement fails: the driver fails a statement, a key of the tables refuses it, or the
replacement refuses its input. -/
inductive ReplacementFailure where
  | driver
  | unique
  | foreignKey
  | conflict
  deriving DecidableEq

abbrev ReplacementSession := Session Nat Tables ReplacementFailure

/-- A statement that changes the context items. The unique key of the ordinals is checked at once. -/
def updateContext
    (act : OrderedTable Int ContextItem → Option (OrderedTable Int ContextItem)) :
    ReplacementSession Unit :=
  statement .driver fun tables =>
    match act tables.contextItems with
    | some contextItems => pure ((), { tables with contextItems })
    | none => throw .unique

def deleteContextRange (startOrdinal endOrdinal : Int) : ReplacementSession Unit :=
  updateContext fun contextItems => some (contextItems.eraseRange startOrdinal endOrdinal)

def insertContextSummary (ordinal : Int) (summaryId : SummaryId) : ReplacementSession Unit :=
  statement .driver fun tables =>
    if (tables.getSummary summaryId).isNone then throw .foreignKey
    else match tables.contextItems.insert? ordinal (.summary summaryId) with
      | some contextItems => pure ((), { tables with contextItems })
      | none => throw .unique

def selectOrdinals : ReplacementSession (List Int) :=
  statement .driver fun tables => pure (tables.contextItems.keys, tables)

/-- One update statement for each move. -/
def moveContextItems : List (Int × Int) → ReplacementSession Unit
  | [] => pure ()
  | (old, new) :: moves => do
      updateContext fun contextItems => contextItems.rekey? old new
      moveContextItems moves

/-- The ordinals become contiguous by way of negative ones. -/
def resequence : ReplacementSession Unit := do
  let items ← selectOrdinals
  let parked := OrderedTable.parkings items.length
  moveContextItems (items.zip parked)
  moveContextItems (parked.zip ((List.range items.length).map Int.ofNat))

def replaceContextRows (startOrdinal endOrdinal : Int) (summaryId : SummaryId) :
    ReplacementSession Unit := do
  deleteContextRange startOrdinal endOrdinal
  insertContextSummary startOrdinal summaryId
  resequence

/-- The replacement begins, commits and rolls back a transaction only when none is open. -/
def SummaryStore.replaceContextRangeWithSummary (startOrdinal endOrdinal : Int) (summaryId : SummaryId) :
    ReplacementSession Unit := do
  let connection ← look
  let ownsTransaction := connection.savepoints.isEmpty
  if ownsTransaction then
    withTransaction .driver (replaceContextRows startOrdinal endOrdinal summaryId)
  else replaceContextRows startOrdinal endOrdinal summaryId

section Statements

variable {origin connection : Connection Nat Tables}

/-- A program in an open transaction ends with the given tables unless a statement is interrupted. -/
def Settles (program : ReplacementSession Unit) (origin connection : Connection Nat Tables)
    (after : Tables) : Prop :=
  Meets program connection (fun _ later => later.tables = after ∧ origin.Within later)
    (Interrupted .driver origin)

theorem Settles.bind {program rest : ReplacementSession Unit} {middle after : Tables}
    (first : Settles program origin connection middle)
    (goes : ∀ later : Connection Nat Tables, later.tables = middle → origin.Within later →
      Settles rest origin later after) :
    Settles (do program; rest) origin connection after :=
  Meets.bind first fun _ later settled => goes later settled.1 settled.2

variable {tables : Tables}

theorem updateContext_settles
    {act : OrderedTable Int ContextItem → Option (OrderedTable Int ContextItem)}
    {contextItems : OrderedTable Int ContextItem} (same : connection.tables = tables)
    (within : origin.Within connection) (opened : origin.savepoints ≠ [])
    (acts : act tables.contextItems = some contextItems) :
    Settles (updateContext act) origin connection { tables with contextItems } := by
  subst same
  have executed : (match act connection.tables.contextItems with
      | some contextItems => pure ((), { connection.tables with contextItems })
      | none => throw .unique : Except ReplacementFailure (Unit × Tables)) =
        .ok ((), { connection.tables with contextItems }) := by
    rw [acts]
    rfl
  exact (statement_within within opened executed).mono (fun _ _ => And.right) fun _ _ => id

theorem deleteContextRange_settles {startOrdinal endOrdinal : Int} (same : connection.tables = tables)
    (within : origin.Within connection) (opened : origin.savepoints ≠ []) :
    Settles (deleteContextRange startOrdinal endOrdinal) origin connection
      { tables with contextItems := tables.contextItems.eraseRange startOrdinal endOrdinal } :=
  updateContext_settles same within opened rfl

theorem insertContextSummary_settles {ordinal : Int} {summaryId : SummaryId}
    {contextItems : OrderedTable Int ContextItem} (same : connection.tables = tables)
    (within : origin.Within connection) (opened : origin.savepoints ≠ [])
    (stored : (tables.getSummary summaryId).isSome)
    (inserts : tables.contextItems.insert? ordinal (.summary summaryId) = some contextItems) :
    Settles (insertContextSummary ordinal summaryId) origin connection { tables with contextItems } := by
  subst same
  have known : (connection.tables.getSummary summaryId).isNone = false := by
    cases found : connection.tables.getSummary summaryId with
    | none =>
        rw [found] at stored
        cases stored
    | some summary => rfl
  have executed : (if (connection.tables.getSummary summaryId).isNone then throw .foreignKey
      else match connection.tables.contextItems.insert? ordinal (.summary summaryId) with
        | some contextItems => pure ((), { connection.tables with contextItems })
        | none => throw .unique : Except ReplacementFailure (Unit × Tables)) =
        .ok ((), { connection.tables with contextItems }) := by
    rw [known, inserts]
    rfl
  exact (statement_within within opened executed).mono (fun _ _ => And.right) fun _ _ => id

/-- Moves that go through as a batch go through one statement after the other. -/
theorem moveContextItems_settles {moves : List (Int × Int)} {contextItems : OrderedTable Int ContextItem}
    (same : connection.tables = tables) (within : origin.Within connection)
    (opened : origin.savepoints ≠ []) (moved : tables.contextItems.rekeyAll? moves = some contextItems) :
    Settles (moveContextItems moves) origin connection { tables with contextItems } := by
  induction moves generalizing connection tables with
  | nil =>
      cases moved
      exact meets_pure ⟨same, within⟩
  | cons move moves ih =>
      obtain ⟨old, new⟩ := move
      rw [OrderedTable.rekeyAll?, Option.bind_eq_bind, Option.bind_eq_some_iff] at moved
      obtain ⟨next, first, rest⟩ := moved
      apply (updateContext_settles same within opened first).bind
      intro later same within
      have settled := ih same within rest
      exact settled

theorem selectOrdinals_settles (same : connection.tables = tables) (within : origin.Within connection)
    (opened : origin.savepoints ≠ []) :
    Meets selectOrdinals connection
      (fun items later => items = tables.contextItems.keys ∧ later.tables = tables ∧ origin.Within later)
      (Interrupted .driver origin) := by
  subst same
  exact statement_within within opened rfl

theorem resequence_settles {contextItems : OrderedTable Int ContextItem}
    (same : connection.tables = tables) (within : origin.Within connection)
    (opened : origin.savepoints ≠ []) (renumbered : tables.contextItems.renumber? = some contextItems) :
    Settles resequence origin connection { tables with contextItems } := by
  rw [OrderedTable.renumber?, Option.bind_eq_bind, Option.bind_eq_some_iff] at renumbered
  obtain ⟨parked, parks, places⟩ := renumbered
  apply (selectOrdinals_settles same within opened).bind
  rintro _ second ⟨rfl, same, within⟩
  apply (moveContextItems_settles same within opened parks).bind
  intro third same within
  have settled := moveContextItems_settles same within opened places
  exact settled

/-- The statements end in the tables of the replacement as a whole. -/
theorem replaceContextRows_settles {startOrdinal endOrdinal : Int} {summaryId : SummaryId}
    {after : Tables} (same : connection.tables = tables) (within : origin.Within connection)
    (opened : origin.savepoints ≠ []) (stored : (tables.getSummary summaryId).isSome)
    (replaced : tables.replaceContextRangeWithSummary startOrdinal endOrdinal summaryId = some after) :
    Settles (replaceContextRows startOrdinal endOrdinal summaryId) origin connection after := by
  simp only [Tables.replaceContextRangeWithSummary, Option.bind_eq_bind, Option.bind_eq_some_iff,
    Option.some.injEq] at replaced
  obtain ⟨inserted, inserts, contextItems, renumbered, rfl⟩ := replaced
  apply (deleteContextRange_settles same within opened).bind
  intro second same within
  apply (insertContextSummary_settles same within opened stored inserts).bind
  intro third same within
  have settled := resequence_settles same within opened renumbered
  exact settled

/-- Outside of a transaction a replacement is done as a whole or undone. -/
theorem replaceContextRange_outside {startOrdinal endOrdinal : Int} {summaryId : SummaryId}
    {after : Tables} (same : connection.tables = tables) (outside : connection.savepoints = [])
    (stored : (tables.getSummary summaryId).isSome)
    (replaced : tables.replaceContextRangeWithSummary startOrdinal endOrdinal summaryId = some after) :
    Meets (SummaryStore.replaceContextRangeWithSummary startOrdinal endOrdinal summaryId) connection
      (fun _ later => later.tables = after ∧ later.savepoints = connection.savepoints)
      (Undone .driver connection) := by
  have begun : Meets (withTransaction .driver (replaceContextRows startOrdinal endOrdinal summaryId))
      connection (fun _ later => later.tables = after ∧ later.savepoints = [] ∧
        later.fates <:+ connection.fates) (Undone .driver connection) := by
    apply withTransaction_meets (fun _ tables => tables = after) outside
    intro inner kept pushed
    have opened : inner.savepoints ≠ [] := by
      rw [pushed]
      exact List.cons_ne_nil _ _
    exact replaceContextRows_settles (kept.trans same) (.refl inner) opened stored replaced
  apply meets_bind
  apply meets_look
  rw [outside]
  exact begun.mono (fun _ _ ended => ⟨ended.1, ended.2.1⟩) fun _ _ => id

/-- In a transaction a replacement that is interrupted is left to the owner of the transaction. -/
theorem replaceContextRange_inside {startOrdinal endOrdinal : Int} {summaryId : SummaryId}
    {after : Tables} (same : connection.tables = tables) (opened : connection.savepoints ≠ [])
    (stored : (tables.getSummary summaryId).isSome)
    (replaced : tables.replaceContextRangeWithSummary startOrdinal endOrdinal summaryId = some after) :
    Meets (SummaryStore.replaceContextRangeWithSummary startOrdinal endOrdinal summaryId) connection
      (fun _ later => later.tables = after ∧ later.savepoints = connection.savepoints)
      (Interrupted .driver connection) := by
  have settled := replaceContextRows_settles same (.refl connection) opened stored replaced
  have owned : connection.savepoints.isEmpty = false := by
    cases found : connection.savepoints with
    | nil => exact absurd found opened
    | cons saved outer => rfl
  apply meets_bind
  apply meets_look
  rw [owned]
  exact settled.mono (fun _ _ ended => ⟨ended.1, ended.2.savepoints⟩) fun _ _ => id

end Statements

end Lcm.Store
