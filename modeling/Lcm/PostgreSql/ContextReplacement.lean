import Lcm.PostgreSql.SummaryContext
import Lcm.Store.ContextReplacement

namespace Lcm.PostgreSql
open Interruptible Savepoints Text Store

/-- The most attempts of a short transaction. -/
def maxShortTransactionAttempts : Nat := 3

/-- A lock or a check of the connection, which leaves the tables as they are. -/
def control : ReplacementSession Unit := statement .driver fun tables => pure ((), tables)

/-- A statement that reads the tables and refuses what it reads. -/
def assertTables (holds : Tables → Bool) : ReplacementSession Unit :=
  statement .driver fun tables => if holds tables then pure ((), tables) else throw .conflict

def selectSuffix (endOrdinal : Int) : ReplacementSession (List Int) :=
  statement .driver fun tables =>
    pure (tables.contextItems.keys.filter fun ordinal => endOrdinal < ordinal, tables)

/-- The rows of the suffix move down one by one, in ascending order. -/
def shiftSuffix (endOrdinal shift : Int) : ReplacementSession Unit :=
  if 0 < shift then do
    let suffix ← selectSuffix endOrdinal
    moveContextItems (suffix.map fun oldOrdinal => (oldOrdinal, oldOrdinal - shift))
  else pure ()

def replaceContextRows (startOrdinal endOrdinal : Int) (summaryId : SummaryId) :
    ReplacementSession Unit := do
  control
  assertTables fun tables => (tables.getSummary summaryId).isSome
  assertTables fun tables => rangeComplete tables.contextItems startOrdinal endOrdinal
  deleteContextRange startOrdinal endOrdinal
  shiftSuffix endOrdinal (endOrdinal - startOrdinal)
  insertContextSummary startOrdinal summaryId

def controlIf (wanted : Bool) : ReplacementSession Unit := if wanted then control else pure ()

/-- The isolation level of an outer transaction is read, the conversation is locked, and the fence of a
lease is checked. -/
def mutationControls (nested fenced : Bool) : ReplacementSession Unit := do
  controlIf nested
  control
  controlIf fenced

/-- A short transaction is retried after some of its failures. -/
def retrying (retryable : Nat → Bool) :
    Nat → ReplacementSession Unit → ReplacementSession Unit
  | 0, transaction => transaction
  | attempts + 1, transaction =>
      attempt transaction fun failure =>
        if retryable attempts then retrying retryable attempts transaction else fault failure

/-- The checks of a replacement before its transaction starts. -/
def validReplacement (startOrdinal endOrdinal : Int) (summaryId : SummaryId) : Bool :=
  validateOpaqueText summaryId && safeOrdinalInput startOrdinal && safeOrdinalInput endOrdinal &&
    decide (startOrdinal ≤ endOrdinal)

/-- One attempt of a replacement in a transaction of its own. -/
def replaceInTransaction (fenced : Bool) (startOrdinal endOrdinal : Int) (summaryId : SummaryId) :
    ReplacementSession Unit :=
  withTransaction .driver do
    mutationControls false fenced
    replaceContextRows startOrdinal endOrdinal summaryId

/-- A replacement in a savepoint of the open transaction. -/
def replaceInSavepoint (fenced : Bool) (savepointName : Nat) (startOrdinal endOrdinal : Int)
    (summaryId : SummaryId) : ReplacementSession Unit := do
  fatal (mutationControls true fenced)
  withFatalSavepoint .driver savepointName (replaceContextRows startOrdinal endOrdinal summaryId)

def ContextRepository.replaceContextRangeWithSummary (retryable : Nat → Bool) (fenced : Bool)
    (savepointName : Nat) (startOrdinal endOrdinal : Int) (summaryId : SummaryId) :
    ReplacementSession Unit :=
  if validReplacement startOrdinal endOrdinal summaryId then do
    let connection ← look
    if connection.savepoints.isEmpty then
      retrying retryable (maxShortTransactionAttempts - 1)
        (replaceInTransaction fenced startOrdinal endOrdinal summaryId)
    else replaceInSavepoint fenced savepointName startOrdinal endOrdinal summaryId
  else fault .conflict

section Statements

variable {origin connection : Connection Nat Tables} {tables : Tables}

theorem control_settles (same : connection.tables = tables) (within : origin.Within connection)
    (opened : origin.savepoints ≠ []) : Settles control origin connection tables := by
  subst same
  exact (statement_within within opened rfl).mono (fun _ _ => And.right) fun _ _ => id

theorem controlIf_settles (wanted : Bool) (same : connection.tables = tables)
    (within : origin.Within connection) (opened : origin.savepoints ≠ []) :
    Settles (controlIf wanted) origin connection tables := by
  cases wanted with
  | false => exact meets_pure ⟨same, within⟩
  | true => exact control_settles same within opened

theorem mutationControls_settles (nested fenced : Bool) (same : connection.tables = tables)
    (within : origin.Within connection) (opened : origin.savepoints ≠ []) :
    Settles (mutationControls nested fenced) origin connection tables := by
  apply (controlIf_settles nested same within opened).bind
  intro second same within
  apply (control_settles same within opened).bind
  exact fun third same within => controlIf_settles fenced same within opened

theorem assertTables_settles {holds : Tables → Bool} (same : connection.tables = tables)
    (within : origin.Within connection) (opened : origin.savepoints ≠ []) (accepted : holds tables = true) :
    Settles (assertTables holds) origin connection tables := by
  subst same
  have executed : (if holds connection.tables then pure ((), connection.tables) else throw .conflict :
      Except ReplacementFailure (Unit × Tables)) = .ok ((), connection.tables) := by
    rw [accepted]
    rfl
  exact (statement_within within opened executed).mono (fun _ _ => And.right) fun _ _ => id

theorem shiftSuffix_settles {endOrdinal shift : Int} {contextItems : OrderedTable Int ContextItem}
    (same : connection.tables = tables) (within : origin.Within connection)
    (opened : origin.savepoints ≠ [])
    (closed : closeGap tables.contextItems endOrdinal shift = some contextItems) :
    Settles (shiftSuffix endOrdinal shift) origin connection { tables with contextItems } := by
  rw [shiftSuffix]
  rw [closeGap] at closed
  split
  · next positive =>
      simp only [positive, ↓reduceIte] at closed
      have selected : Meets (selectSuffix endOrdinal) connection
          (fun suffix later => suffix = (tables.contextItems.keys.filter fun ordinal => endOrdinal < ordinal) ∧
            later.tables = tables ∧ origin.Within later) (Interrupted .driver origin) := by
        subst same
        exact statement_within within opened rfl
      apply selected.bind
      rintro _ second ⟨rfl, same, within⟩
      exact moveContextItems_settles same within opened closed
  · next still =>
      simp only [still, ↓reduceIte, Option.some.injEq] at closed
      subst closed
      exact meets_pure ⟨same, within⟩

/-- The statements end in the tables of the replacement as a whole. -/
theorem replaceContextRows_settles {startOrdinal endOrdinal : Int} {summaryId : SummaryId}
    {after : Tables} (same : connection.tables = tables) (within : origin.Within connection)
    (opened : origin.savepoints ≠ [])
    (replaced : replaceContextRangeWithSummary tables startOrdinal endOrdinal summaryId = some after) :
    Settles (replaceContextRows startOrdinal endOrdinal summaryId) origin connection after := by
  simp only [replaceContextRangeWithSummary, Option.bind_eq_bind, Option.bind_eq_some_iff,
    Option.guard_eq_some', exists_const, Option.some.injEq] at replaced
  obtain ⟨_, _, _, _, stored, complete, shifted, closed, contextItems, inserts, rfl⟩ := replaced
  apply (control_settles same within opened).bind
  intro second same within
  apply (assertTables_settles same within opened stored).bind
  intro third same within
  apply (assertTables_settles same within opened complete).bind
  intro fourth same within
  apply (deleteContextRange_settles same within opened).bind
  intro fifth same within
  apply (shiftSuffix_settles same within opened closed).bind
  intro sixth same within
  have settled := insertContextSummary_settles same within opened stored inserts
  exact settled

/-- Every attempt starts from the tables of the first one. -/
theorem retrying_meets {retryable : Nat → Bool} {attempts : Nat} {transaction : ReplacementSession Unit}
    {after : Tables} (outside : origin.savepoints = [])
    (tries : ∀ start : Connection Nat Tables, start.tables = origin.tables → start.savepoints = [] →
      Meets transaction start (fun _ later => later.tables = after ∧ later.savepoints = [])
        (Undone .driver start))
    (same : connection.tables = origin.tables) (closed : connection.savepoints = [])
    (fates : connection.fates <:+ origin.fates) :
    Meets (retrying retryable attempts transaction) connection
      (fun _ later => later.tables = after ∧ later.savepoints = []) (Undone .driver origin) := by
  have undone : ∀ (start : Connection Nat Tables) (stop : Stop ReplacementFailure)
      (later : Connection Nat Tables), start.tables = origin.tables → start.savepoints = [] →
        start.fates <:+ origin.fates → Undone .driver start stop later → Undone .driver origin stop later :=
    fun _ _ _ tables ended fates undone => undone.fromOrigin tables (ended.trans outside.symm) fates
  induction attempts generalizing connection with
  | zero => exact (tries connection same closed).mono (fun _ _ => id) fun _ _ => undone _ _ _ same closed fates
  | succ attempts ih =>
      apply (tries connection same closed).attempt
      · exact fun later crashed => undone _ _ _ same closed fates crashed
      · intro failure later failed
        have again := undone _ _ _ same closed fates failed
        split
        · exact ih (again.tables outside) (again.closed nofun outside) again.fates
        · exact meets_fault again

variable {startOrdinal endOrdinal : Int} {summaryId : SummaryId} {after : Tables}

/-- Replacements that go through have passed the checks on their input. -/
theorem validReplacement_of_replaced
    (replaced : replaceContextRangeWithSummary tables startOrdinal endOrdinal summaryId = some after) :
    validReplacement startOrdinal endOrdinal summaryId = true := by
  simp only [replaceContextRangeWithSummary, Option.bind_eq_bind, Option.bind_eq_some_iff,
    Option.guard_eq_some', exists_const] at replaced
  obtain ⟨opaqueText, lower, upper, ordered, _⟩ := replaced
  simp [validReplacement, opaqueText, lower, upper, ordered]

theorem replaceInTransaction_meets (fenced : Bool) (same : connection.tables = tables)
    (outside : connection.savepoints = [])
    (replaced : replaceContextRangeWithSummary tables startOrdinal endOrdinal summaryId = some after) :
    Meets (replaceInTransaction fenced startOrdinal endOrdinal summaryId) connection
      (fun _ later => later.tables = after ∧ later.savepoints = [] ∧ later.fates <:+ connection.fates)
      (Undone .driver connection) := by
  apply withTransaction_meets (fun _ tables => tables = after) outside
  intro inner kept pushed
  have opened : inner.savepoints ≠ [] := by
    rw [pushed]
    exact List.cons_ne_nil _ _
  apply (mutationControls_settles false fenced (kept.trans same) (.refl inner) opened).bind
  exact fun second same within => replaceContextRows_settles same within opened replaced

theorem replaceInSavepoint_meets (fenced : Bool) (savepointName : Nat) (same : connection.tables = tables)
    (opened : connection.savepoints ≠ [])
    (replaced : replaceContextRangeWithSummary tables startOrdinal endOrdinal summaryId = some after) :
    Meets (replaceInSavepoint fenced savepointName startOrdinal endOrdinal summaryId) connection
      (fun _ later => later.tables = after ∧ later.savepoints = connection.savepoints ∧
        later.fates <:+ connection.fates) (Undone .driver connection) := by
  have controlled := mutationControls_settles true fenced same (.refl connection) opened
  apply (fatal_meets controlled opened ⟨rfl, List.suffix_refl _⟩).bind
  rintro _ second ⟨still, within⟩
  rw [← within.savepoints] at opened ⊢
  apply (withFatalSavepoint_meets (fun _ tables => tables = after) opened ?_).mono
  · exact fun _ _ ended => ⟨ended.1, ended.2.1, ended.2.2.trans within.fates⟩
  · exact fun _ _ undone => undone.fromOrigin (still.trans same.symm) within.savepoints within.fates
  · intro inner kept pushed
    exact replaceContextRows_settles (kept.trans still) (.refl inner) pushed replaced

/-- A replacement is done as a whole or undone, by itself or in its savepoint. -/
theorem replaceContextRange_meets (retryable : Nat → Bool) (fenced : Bool) (savepointName : Nat)
    (same : connection.tables = tables)
    (replaced : replaceContextRangeWithSummary tables startOrdinal endOrdinal summaryId = some after) :
    Meets (ContextRepository.replaceContextRangeWithSummary retryable fenced savepointName startOrdinal
      endOrdinal summaryId) connection
      (fun _ later => later.tables = after ∧ later.savepoints = connection.savepoints)
      (Undone .driver connection) := by
  rw [ContextRepository.replaceContextRangeWithSummary, validReplacement_of_replaced replaced]
  apply meets_bind
  apply meets_look
  split
  · next closed =>
      have outside := List.isEmpty_iff.mp closed
      rw [outside]
      apply retrying_meets outside _ rfl outside (List.suffix_refl _)
      intro start kept closed
      exact (replaceInTransaction_meets fenced (kept.trans same) closed replaced).mono
        (fun _ _ ended => ⟨ended.1, ended.2.1⟩) fun _ _ => id
  · next nested =>
      have opened : connection.savepoints ≠ [] := fun closed => nested (List.isEmpty_iff.mpr closed)
      exact (replaceInSavepoint_meets fenced savepointName same opened replaced).mono
        (fun _ _ ended => ⟨ended.1, ended.2.1⟩) fun _ _ => id

/-- A replacement of a segment goes through. -/
theorem replaceContextRange_numbered {before chunk rest : List ContextItem}
    (context : tables.contextItems = .numbered (before ++ chunk ++ rest))
    (first : startOrdinal = before.length) (last : endOrdinal + 1 = before.length + chunk.length)
    (nonempty : chunk ≠ []) (opaqueText : validateOpaqueText summaryId = true)
    (fits : endOrdinal ≤ maxPostgreSqlInteger) (stored : (tables.getSummary summaryId).isSome) :
    replaceContextRangeWithSummary tables startOrdinal endOrdinal summaryId =
      some { tables with contextItems := .numbered (before ++ .summary summaryId :: rest) } := by
  have positive := List.length_pos_iff.mpr nonempty
  have ordered : startOrdinal ≤ endOrdinal := by omega
  have lower : safeOrdinalInput startOrdinal = true := by
    simp only [safeOrdinalInput, Bool.and_eq_true, decide_eq_true_eq]
    omega
  have upper : safeOrdinalInput endOrdinal = true := by
    simp only [safeOrdinalInput, Bool.and_eq_true, decide_eq_true_eq]
    omega
  have complete := @rangeComplete_numbered before chunk rest _ _ first last nonempty
  obtain ⟨shifted, closed, placed⟩ := placeSummary_numbered rest summaryId first last nonempty
  rw [← context] at complete closed
  simp only [replaceContextRangeWithSummary, opaqueText, lower, upper, ordered, stored, complete, guard,
    ↓reduceIte, closed, placed, Option.pure_def, Option.bind_eq_bind, Option.bind_some]

end Statements

/-- The program replaces the tables whenever its statements are executed. It keeps the transaction of its
connection, and an interruption of it is stopped as stated. -/
structure Replaces (program : ReplacementSession Unit) (tables after : Tables)
    (stopped : Connection Nat Tables → Stop ReplacementFailure → Connection Nat Tables → Prop) : Prop where
  meets : ∀ connection : Connection Nat Tables, connection.tables = tables →
    Meets program connection
      (fun _ later => later.tables = after ∧ later.savepoints = connection.savepoints) (stopped connection)
  executed : ∀ connection : Connection Nat Tables, connection.tables = tables →
    (∀ fate ∈ connection.fates, fate = .executed) →
      ∃ later, program connection none = (.ok (), later, none) ∧ later.tables = after

/-- An interrupted replacement of the local store. Outside of a transaction it is undone; in one its owner
finds the transaction open as it was, or rolled back. -/
structure SummaryStore.Stopped (origin : Connection Nat Tables) (stop : Stop ReplacementFailure)
    (later : Connection Nat Tables) : Prop where
  committed : later.committed = origin.committed
  outside : origin.savepoints = [] → Undone .driver origin stop later
  inside : origin.savepoints ≠ [] → Interrupted .driver origin stop later

/-- A program that only the driver interrupts runs to its end when every statement is executed. -/
theorem Replaces.of_meets {program : ReplacementSession Unit} {tables after : Tables}
    {stopped : Connection Nat Tables → Stop ReplacementFailure → Connection Nat Tables → Prop}
    (meets : ∀ connection : Connection Nat Tables, connection.tables = tables →
      Meets program connection
        (fun _ later => later.tables = after ∧ later.savepoints = connection.savepoints) (stopped connection))
    (cause : ∀ connection failure later, stopped connection (.fault failure) later →
      ∃ fate ∈ connection.fates, fate ≠ .executed) : Replaces program tables after stopped := by
  refine ⟨meets, ?_⟩
  intro connection same fates
  rcases (meets connection same).uninterrupted with ⟨_, later, ran, ended, _⟩ | ⟨failure, later, _, _, failed⟩
  · exact ⟨later, ran, ended⟩
  · obtain ⟨fate, inside, other⟩ := cause connection failure later failed
    exact absurd (fates fate inside) other

/-- A range of a list lies between the items before and behind it. -/
theorem range_parts (rows : List ContextItem) {first last : Nat} (ordered : first ≤ last)
    (present : last < rows.length) : ∃ chunk,
      rows = rows.take first ++ chunk ++ rows.drop (last + 1) ∧ chunk.length = last + 1 - first ∧
        (rows.take first).length = first := by
  refine ⟨(rows.drop first).take (last + 1 - first), ?_, ?_, ?_⟩
  · have behind : rows.drop (last + 1) = (rows.drop first).drop (last + 1 - first) := by
      rw [List.drop_drop, Nat.add_sub_cancel' (by omega)]
    rw [behind, List.append_assoc, List.take_append_drop, List.take_append_drop]
  · rw [List.length_take, List.length_drop]
    omega
  · rw [List.length_take]
    omega

theorem sqlite_replaces {tables after : Tables} {startOrdinal endOrdinal : Int} {summaryId : SummaryId}
    (stored : (tables.getSummary summaryId).isSome)
    (replaced : tables.replaceContextRangeWithSummary startOrdinal endOrdinal summaryId = some after) :
    Replaces (SummaryStore.replaceContextRangeWithSummary startOrdinal endOrdinal summaryId) tables after
      SummaryStore.Stopped := by
  apply Replaces.of_meets
  · intro connection same
    by_cases outside : connection.savepoints = []
    · apply (replaceContextRange_outside same outside stored replaced).mono (fun _ _ => id)
      exact fun _ _ undone => ⟨undone.committed, fun _ => undone, fun opened => absurd outside opened⟩
    · apply (replaceContextRange_inside same outside stored replaced).mono (fun _ _ => id)
      exact fun _ _ interrupted =>
        ⟨interrupted.committed outside, fun closed => absurd closed outside, fun _ => interrupted⟩
  · intro connection failure later stopped
    by_cases outside : connection.savepoints = []
    · exact ((stopped.outside outside).cause.resolve_left nofun).2
    · exact ((stopped.inside outside).cause.resolve_left nofun).2

/-- Both stores replace a range of a numbered context by the same items: the ones before the range, the
summary, and the ones behind the range moved down. No statement meets a used ordinal. -/
theorem replacements_agree {tables : Tables} {rows : List ContextItem} {first last : Nat}
    {summaryId : SummaryId} (context : tables.contextItems = .numbered rows) (ordered : first ≤ last)
    (present : last < rows.length) (stored : (tables.getSummary summaryId).isSome) :
    let after : Tables := { tables with
      contextItems := .numbered (rows.take first ++ .summary summaryId :: rows.drop (last + 1)) }
    Replaces (SummaryStore.replaceContextRangeWithSummary first last summaryId) tables after
        SummaryStore.Stopped ∧
      (validateOpaqueText summaryId = true → last ≤ maxPostgreSqlInteger →
        ∀ retryable fenced savepointName,
          Replaces (ContextRepository.replaceContextRangeWithSummary retryable fenced savepointName first
            last summaryId) tables after (Undone .driver)) := by
  intro after
  obtain ⟨chunk, parts, length, before⟩ := range_parts rows ordered present
  have segment : tables.contextItems =
      .numbered (rows.take first ++ chunk ++ rows.drop (last + 1)) := by
    rw [← parts]
    exact context
  have start : (first : Int) = (rows.take first).length := by rw [before]
  have finish : (last : Int) + 1 = (rows.take first).length + chunk.length := by
    rw [before, length]
    omega
  have nonempty : chunk ≠ [] := by
    apply List.ne_nil_of_length_pos
    omega
  constructor
  · exact sqlite_replaces stored (Store.replaceContextRange_numbered summaryId segment start finish nonempty)
  · intro opaqueText fits retryable fenced savepointName
    have replaced := replaceContextRange_numbered segment start finish nonempty opaqueText
      (Int.ofNat_le.mpr fits) stored
    apply Replaces.of_meets
    · exact fun connection same => replaceContextRange_meets retryable fenced savepointName same replaced
    · exact fun _ _ _ undone => (undone.cause.resolve_left nofun).2

/-- A context of two messages beside a stored summary. -/
def sampleTables : Tables :=
  let summary : CreateSummaryInput :=
    ⟨[115], .leaf, none, [116], 1, [], none, none, none, none, none⟩
  { Tables.empty with
    summaries := ⟨[([115], Tables.summaryRow summary 0)], by decide⟩
    contextItems := .numbered [.message 1, .message 2] }

theorem replacements_agree_sample :
    let after : Tables := { sampleTables with contextItems := .numbered [.message 1, .summary [115]] }
    Replaces (SummaryStore.replaceContextRangeWithSummary 1 1 [115]) sampleTables after
        SummaryStore.Stopped ∧
      (validateOpaqueText [115] = true → 1 ≤ maxPostgreSqlInteger →
        ∀ retryable fenced savepointName,
          Replaces (ContextRepository.replaceContextRangeWithSummary retryable fenced savepointName 1 1
            [115]) sampleTables after (Undone .driver)) :=
  @replacements_agree sampleTables _ 1 1 _ rfl (Nat.le_refl 1) (by decide) rfl

/-- In an open transaction a failed insertion leaves the range deleted when the failure is thrown. -/
theorem replacement_leaves_gap :
    let origin : Connection Nat Tables :=
      ⟨sampleTables, [(none, sampleTables)], [.executed, .failed]⟩
    match SummaryStore.replaceContextRangeWithSummary 0 0 [115] origin none with
    | (.error (.fault failure), later, _) =>
        failure = .driver ∧ later.savepoints = origin.savepoints ∧ later.tables.contextItems.rows = [.message 2]
    | _ => False := by
  exact ⟨rfl, rfl, rfl⟩

end Lcm.PostgreSql
