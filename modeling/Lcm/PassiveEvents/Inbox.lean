import Lcm.PassiveEvents.Payload
import Lcm.PostgreSql.Leases

namespace Lcm.PassiveEvents
open Text Store PostgreSql

abbrev InboxId := Nat

/-- The status of an inbox row with the columns that belong to it alone. -/
inductive PassiveEventStatus (Time : Type) where
  | pending
  | claimed (at' : Time) (owner : JsString)
  | retry
  | applied (at' : Time)
  | quarantined (at' : Time) (reason : JsString)
  deriving DecidableEq

/-- A settled row does not hold back the later rows of its machine. -/
def PassiveEventStatus.isTerminal {Time : Type} : PassiveEventStatus Time → Bool
  | .applied _ | .quarantined _ _ => true
  | .pending | .claimed _ _ | .retry => false

/-- The envelope of an event as a machine uploads it. -/
structure PassiveEventInput (Number : Type) where
  machineId : JsString
  eventId : JsString
  eventVersion : Int
  machineSequence : Int
  eventType : JsString
  payload : JsonObject Number

/-- A stored row; its identifiers are in the canonical form of their column type. -/
structure PassiveEventRow (Number : Type) where
  projectId : JsString
  machineId : JsString
  eventId : JsString
  eventVersion : Nat
  machineSequence : Nat
  eventType : JsString
  payload : JsonObject Number
  status : PassiveEventStatus Instant
  attemptCount : Nat
  receivedAt : Instant
  nextAttemptAt : Instant
  machineCanonical : lowerAscii machineId = machineId
  eventCanonical : lowerAscii eventId = eventId

/-- Two rows of one machine conflict when they share the event or the place in its sequence. -/
def PassiveEventRow.conflicts {Number : Type} (first second : PassiveEventRow Number) : Prop :=
  first.machineId = second.machineId ∧
    (first.eventId = second.eventId ∨ first.machineSequence = second.machineSequence)

instance {Number : Type} (first second : PassiveEventRow Number) :
    Decidable (first.conflicts second) :=
  inferInstanceAs (Decidable (_ ∧ _))

/-- The inbox of all projects: identifiers come from one sequence and no two rows conflict. -/
structure PassiveEventInbox (Number : Type) where
  rows : KeyedTable InboxId (PassiveEventRow Number)
  sequence : Nat
  within : ∀ inboxId row, rows.get? inboxId = some row → inboxId ≤ sequence
  unique : ∀ first second firstRow secondRow, rows.get? first = some firstRow →
    rows.get? second = some secondRow → firstRow.conflicts secondRow → first = second

namespace PassiveEventInbox

variable {Number : Type}

def empty : PassiveEventInbox Number :=
  ⟨.empty, 0, fun _ _ found => (nomatch found), fun _ _ _ _ found => (nomatch found)⟩

def get? (inbox : PassiveEventInbox Number) (inboxId : InboxId) : Option (PassiveEventRow Number) :=
  inbox.rows.get? inboxId

theorem mem_rows {inbox : PassiveEventInbox Number} {row : PassiveEventRow Number} :
    row ∈ inbox.rows.rows ↔ ∃ inboxId, inbox.get? inboxId = some row := by
  simp [KeyedTable.rows, get?, KeyedTable.get?_eq_some]

/-- An insertion that ignores conflicts appends a row under a new identifier or does nothing. -/
def insertOrIgnore (inbox : PassiveEventInbox Number) (gap : Nat) (row : PassiveEventRow Number) :
    PassiveEventInbox Number :=
  if free : ∀ stored ∈ inbox.rows.rows, ¬ stored.conflicts row then
    { rows := inbox.rows.put (inbox.sequence + gap + 1) row
      sequence := inbox.sequence + gap + 1
      within := by
        intro inboxId stored found
        rw [KeyedTable.get?_put] at found
        split at found
        · next same => exact same.le
        · exact (inbox.within inboxId stored found).trans (Nat.le_add_right _ (gap + 1))
      unique := by
        intro first second firstRow secondRow firstFound secondFound conflict
        rw [KeyedTable.get?_put] at firstFound secondFound
        split at firstFound
        · next firstNew =>
            split at secondFound
            · next secondNew => exact firstNew.trans secondNew.symm
            · cases firstFound
              have sameMachine := conflict.1
              exact absurd ⟨sameMachine.symm, conflict.2.imp Eq.symm Eq.symm⟩
                (free secondRow (mem_rows.mpr ⟨second, secondFound⟩))
        · split at secondFound
          · cases secondFound
            exact absurd conflict (free firstRow (mem_rows.mpr ⟨first, firstFound⟩))
          · exact inbox.unique first second firstRow secondRow firstFound secondFound conflict }
  else { inbox with
    sequence := inbox.sequence + gap
    within := fun inboxId row found => (inbox.within inboxId row found).trans (Nat.le_add_right _ gap) }

/-- A change of the columns of a row that its identity does not depend on. -/
structure Change (Number : Type) where
  status : PassiveEventRow Number → PassiveEventStatus Instant
  attemptCount : PassiveEventRow Number → Nat
  nextAttemptAt : PassiveEventRow Number → Instant

def Change.apply (change : Change Number) (row : PassiveEventRow Number) : PassiveEventRow Number where
  projectId := row.projectId
  machineId := row.machineId
  eventId := row.eventId
  eventVersion := row.eventVersion
  machineSequence := row.machineSequence
  eventType := row.eventType
  payload := row.payload
  status := change.status row
  attemptCount := change.attemptCount row
  receivedAt := row.receivedAt
  nextAttemptAt := change.nextAttemptAt row
  machineCanonical := row.machineCanonical
  eventCanonical := row.eventCanonical

/-- An update changes the row under an identifier. -/
def update (inbox : PassiveEventInbox Number) (inboxId : InboxId) (change : Change Number) :
    PassiveEventInbox Number :=
  match found : inbox.get? inboxId with
  | none => inbox
  | some row =>
      { rows := inbox.rows.put inboxId (change.apply row)
        sequence := inbox.sequence
        within := by
          intro other stored foundOther
          rw [KeyedTable.get?_put] at foundOther
          split at foundOther
          · next same => exact same ▸ inbox.within inboxId row found
          · exact inbox.within other stored foundOther
        unique := by
          have original : ∀ other stored, (inbox.rows.put inboxId (change.apply row)).get? other =
              some stored → ∃ old, inbox.rows.get? other = some old ∧
                old.machineId = stored.machineId ∧ old.eventId = stored.eventId ∧
                  old.machineSequence = stored.machineSequence := by
            intro other stored foundOther
            rw [KeyedTable.get?_put] at foundOther
            split at foundOther
            · next same =>
                cases foundOther
                exact ⟨row, same ▸ found, rfl, rfl, rfl⟩
            · exact ⟨stored, foundOther, rfl, rfl, rfl⟩
          intro first second firstRow secondRow firstFound secondFound conflict
          obtain ⟨firstOld, firstStored, firstMachine, firstEvent, firstPlace⟩ :=
            original first firstRow firstFound
          obtain ⟨secondOld, secondStored, secondMachine, secondEvent, secondPlace⟩ :=
            original second secondRow secondFound
          apply inbox.unique first second firstOld secondOld firstStored secondStored
          rw [PassiveEventRow.conflicts, firstMachine, firstEvent, firstPlace, secondMachine,
            secondEvent, secondPlace]
          exact conflict }

/-- A deletion keeps the rows that a test keeps. -/
def retain (inbox : PassiveEventInbox Number) (keep : InboxId × PassiveEventRow Number → Bool) :
    PassiveEventInbox Number where
  rows := inbox.rows.retain keep
  sequence := inbox.sequence
  within inboxId row found := inbox.within inboxId row (KeyedTable.get?_retain.mp found).1
  unique first second firstRow secondRow firstFound secondFound :=
    inbox.unique first second firstRow secondRow (KeyedTable.get?_retain.mp firstFound).1
      (KeyedTable.get?_retain.mp secondFound).1

theorem get?_update (inbox : PassiveEventInbox Number) (inboxId other : InboxId)
    (change : Change Number) :
    (inbox.update inboxId change).get? other =
      if other = inboxId then (inbox.get? other).map change.apply else inbox.get? other := by
  unfold update
  split
  · next missing =>
      split
      · next same => simp [same, missing]
      · rfl
  · next row found =>
      show (inbox.rows.put inboxId (change.apply row)).get? other = _
      rw [KeyedTable.get?_put]
      split
      · next same => simp [same, found]
      · rfl

theorem get?_retain {inbox : PassiveEventInbox Number}
    {keep : InboxId × PassiveEventRow Number → Bool} {inboxId : InboxId}
    {row : PassiveEventRow Number} :
    (inbox.retain keep).get? inboxId = some row ↔
      inbox.get? inboxId = some row ∧ keep (inboxId, row) = true :=
  KeyedTable.get?_retain

/-- An insertion keeps the stored rows and adds at most the given row under a new identifier. -/
theorem get?_insertOrIgnore {inbox : PassiveEventInbox Number} {gap : Nat}
    {row stored : PassiveEventRow Number} {inboxId : InboxId}
    (found : (inbox.insertOrIgnore gap row).get? inboxId = some stored) :
    inbox.get? inboxId = some stored ∨ inbox.sequence < inboxId ∧ stored = row := by
  unfold insertOrIgnore at found
  split at found
  · replace found : (inbox.rows.put (inbox.sequence + gap + 1) row).get? inboxId = some stored := found
    rw [KeyedTable.get?_put] at found
    split at found
    · next same =>
        cases found
        exact .inr ⟨same ▸ Nat.lt_add_of_pos_right (Nat.succ_pos gap), rfl⟩
    · exact .inl found
  · exact .inl found

/-- An insertion keeps the stored rows. -/
theorem get?_insertOrIgnore_of_some {inbox : PassiveEventInbox Number} {gap : Nat}
    {row stored : PassiveEventRow Number} {inboxId : InboxId}
    (found : inbox.get? inboxId = some stored) :
    (inbox.insertOrIgnore gap row).get? inboxId = some stored := by
  unfold insertOrIgnore
  split
  · show (inbox.rows.put (inbox.sequence + gap + 1) row).get? inboxId = some stored
    rw [KeyedTable.get?_put, if_neg]
    · exact found
    · rintro rfl
      have past := inbox.within _ stored found
      exact absurd past (not_le.mpr (Nat.lt_add_of_pos_right (Nat.succ_pos gap)))
  · exact found

theorem sequence_insertOrIgnore (inbox : PassiveEventInbox Number) (gap : Nat)
    (row : PassiveEventRow Number) : inbox.sequence ≤ (inbox.insertOrIgnore gap row).sequence := by
  unfold insertOrIgnore
  split
  · show inbox.sequence ≤ inbox.sequence + gap + 1
    omega
  · show inbox.sequence ≤ inbox.sequence + gap
    omega

theorem sequence_update (inbox : PassiveEventInbox Number) (inboxId : InboxId)
    (change : Change Number) : (inbox.update inboxId change).sequence = inbox.sequence := by
  unfold update
  split <;> rfl

end PassiveEventInbox

end Lcm.PassiveEvents
