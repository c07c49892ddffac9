import Lcm.Hooks.EventsDb
import Lcm.Text.SqliteText
import Mathlib.Data.List.Lex

namespace Lcm.Hooks
open Text

def eventsUnprocessedBatchLimit : Nat := 500

/-- The texts of an event as a query gives them. -/
def readEnvelope {Number : Type} (envelope : EventEnvelope Number) : EventEnvelope Number :=
  { envelope with
    eventUuid := readText envelope.eventUuid
    machineId := envelope.machineId.map readText
    type := readText envelope.type
    sessionId := readText envelope.sessionId
    category := readText envelope.category
    data := readText envelope.data
    sourceHook := readText envelope.sourceHook
    createdAt := readText envelope.createdAt }

def readRow {Number : Type} (row : EventRow Number) : EventRow Number :=
  { row with envelope := readEnvelope row.envelope }

structure PatternReinforcementStats where
  totalCount : Nat
  distinctSessions : Nat
  deriving DecidableEq

namespace EventsTable

variable {Number : Type} (utf8 : JsString → List Nat)

def getUnprocessed (limit : Nat) (table : EventsTable Number) : List (EventId × EventRow Number) :=
  ((sortedBy (fun entry : EventId × EventRow Number =>
      toLex (utf8 (toWellFormed entry.2.envelope.sessionId), entry.2.envelope.seq))
    (table.rows.entries.filter fun entry => entry.2.processedAt.isNone)).take limit).map
      fun (eventId, row) => (eventId, readRow row)

/-- The events of a pattern from a time on; a time that the database cannot read is before none. -/
def getPatternReinforcement (type category data : JsString) (since : Option JsString)
    (table : EventsTable Number) : PatternReinforcementStats :=
  let rows := table.rows.rows.filter fun row =>
    toWellFormed row.envelope.type = toWellFormed type &&
      toWellFormed row.envelope.category = toWellFormed category &&
      toWellFormed row.envelope.data = toWellFormed data &&
      since.any fun since => utf8 since ≤ utf8 (toWellFormed row.envelope.createdAt)
  ⟨rows.length, (dedupeOrdered (rows.map fun row => toWellFormed row.envelope.sessionId)).length⟩

/-- The rows up to a sequence in the order of their sequences. -/
def queueRows (cutoff : Nat) (table : EventsTable Number) : List (EventRow Number) :=
  (sortedBy (fun row : EventRow Number =>
      toLex (row.envelope.machineSequence, utf8 (toWellFormed row.envelope.eventUuid)))
    (table.rows.rows.filter fun row => row.envelope.machineSequence ≤ cutoff)).map readRow

variable {utf8}

theorem mem_getUnprocessed {limit : Nat} {table : EventsTable Number} {eventId : EventId}
    {row : EventRow Number} (inside : (eventId, row) ∈ table.getUnprocessed utf8 limit) :
    ∃ stored, table.get? eventId = some stored ∧ stored.processedAt = none ∧ row = readRow stored := by
  obtain ⟨⟨found, stored⟩, taken, same⟩ := List.mem_map.mp inside
  cases same
  obtain ⟨member, unprocessed⟩ := List.mem_filter.mp ((SortedBy.perm _).mem_iff.mp (List.mem_of_mem_take taken))
  exact ⟨stored, KeyedTable.get?_eq_some.mpr member, Option.isNone_iff_eq_none.mp unprocessed, rfl⟩

theorem mem_queueRows {cutoff : Nat} {table : EventsTable Number} {row : EventRow Number} :
    row ∈ table.queueRows utf8 cutoff ↔ ∃ eventId stored, table.get? eventId = some stored ∧
      stored.envelope.machineSequence ≤ cutoff ∧ row = readRow stored := by
  rw [queueRows, List.mem_map]
  constructor
  · intro ⟨stored, member, same⟩
    obtain ⟨inside, within⟩ := List.mem_filter.mp ((SortedBy.perm _).mem_iff.mp member)
    obtain ⟨eventId, found⟩ := mem_rows.mp inside
    exact ⟨eventId, stored, found, of_decide_eq_true within, same.symm⟩
  · intro ⟨eventId, stored, found, within, same⟩
    refine ⟨stored, (SortedBy.perm _).mem_iff.mpr (List.mem_filter.mpr ⟨?_, decide_eq_true within⟩), same.symm⟩
    exact mem_rows.mpr ⟨eventId, found⟩

/-- No two rows share a unique column. -/
theorem rows_unique (table : EventsTable Number) :
    table.rows.rows.Pairwise fun first second => ¬ first.conflicts second := by
  have keys := table.rows.distinct
  rw [KeyedTable.rows, List.pairwise_map]
  rw [List.Nodup, List.pairwise_map] at keys
  apply keys.imp_of_mem
  intro first second firstInside secondInside other same
  exact other (table.unique first.1 second.1 first.2 second.2 (KeyedTable.get?_eq_some.mpr firstInside)
    (KeyedTable.get?_eq_some.mpr secondInside) same)

/-- The rows of a queue have distinct sequences. -/
theorem queueRows_sequences (cutoff : Nat) (table : EventsTable Number) :
    (table.queueRows utf8 cutoff).Pairwise fun first second =>
      first.envelope.machineSequence ≠ second.envelope.machineSequence := by
  have distinct := table.rows_unique.imp fun {first second} free same => free (.inr same)
  rw [queueRows, List.pairwise_map]
  apply ((SortedBy.perm _).pairwise_iff fun other => Ne.symm other).mpr
  exact distinct.filter _

/-- The rows of a queue have distinct events, when their identifiers are read as they are stored. -/
theorem queueRows_events (cutoff : Nat) (table : EventsTable Number)
    (stored : ∀ eventId row, table.get? eventId = some row →
      (readRow row).envelope.eventUuid = row.envelope.eventUuid) :
    (table.queueRows utf8 cutoff).Pairwise fun first second =>
      first.envelope.eventUuid ≠ second.envelope.eventUuid := by
  have distinct : table.rows.rows.Pairwise fun first second =>
      (readRow first).envelope.eventUuid ≠ (readRow second).envelope.eventUuid := by
    apply table.rows_unique.imp_of_mem
    intro first second firstInside secondInside free same
    obtain ⟨firstId, firstFound⟩ := mem_rows.mp firstInside
    obtain ⟨secondId, secondFound⟩ := mem_rows.mp secondInside
    rw [stored firstId first firstFound, stored secondId second secondFound] at same
    exact free (.inl same)
  rw [queueRows, List.pairwise_map]
  apply ((SortedBy.perm _).pairwise_iff fun other => Ne.symm other).mpr
  exact distinct.filter _

end EventsTable

end Lcm.Hooks
