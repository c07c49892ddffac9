import Lcm.Cutover.Runs

namespace Lcm.Cutover
open Text Publication Interruptible Except

variable {platform : MaintenancePlatform} {file : Option BackendMaintenanceJournal}
  {cutoverSet : BackendCutoverSet} {journal next : BackendMaintenanceJournal}

section Refusals

/-- The refusals of an input. -/
def InvalidInput (failure : PublicationFailure) : Prop := ∃ message, failure = .journal .invalidInput message

theorem avoids_refuse {bad : PublicationFailure → Prop} {refused : Prop} [Decidable refused]
    {reason : PublicationReason} {message : String} (other : ¬ bad (.journal reason message)) :
    Avoids bad (refuse refused reason message) := by
  unfold refuse
  split
  · exact Avoids.error other
  · exact Avoids.ok ()

theorem avoids_map {First Second : Type} {bad : PublicationFailure → Prop} {change : First → Second}
    {computation : Except PublicationFailure First} (avoids : Avoids bad computation) :
    Avoids bad (change <$> computation) := by
  intro failure failed
  cases ran : computation with
  | error other =>
      rw [ran] at failed
      cases failed
      exact avoids failure ran
  | ok value =>
      rw [ran] at failed
      cases failed

theorem malformed_other {message : String} : ¬ InvalidInput (.journal .malformedJournal message) := by
  rintro ⟨_, same⟩
  cases same

theorem checkEach_avoids {Item : Type} {bad : PublicationFailure → Prop}
    {check : Nat → Item → Except PublicationFailure Unit} {items : List Item}
    (each : ∀ index item, Avoids bad (check index item)) : Avoids bad (checkEach check items) := by
  have run : ∀ indexed : List (Item × Nat),
      Avoids bad (indexed.forM fun entry => check entry.2 entry.1) := by
    intro indexed
    induction indexed with
    | nil => exact Avoids.ok _
    | cons entry rest ih => exact (each entry.2 entry.1).bind fun _ _ => ih
  exact run _

theorem parseMaintenanceRoster_avoids (roster : List BackendMaintenanceRosterEntry) :
    Avoids InvalidInput (parseMaintenanceRoster platform roster) :=
  (avoids_refuse malformed_other).bind fun _ _ =>
    (checkEach_avoids fun _ _ => avoids_refuse malformed_other).bind fun _ _ =>
      (avoids_refuse malformed_other).bind fun _ _ => Avoids.ok _

theorem parseManifest_avoids (manifest : BackendCutoverSetManifest) :
    Avoids InvalidInput (parseBackendCutoverSetManifest manifest) :=
  (avoids_refuse malformed_other).bind fun _ _ =>
    (checkEach_avoids fun _ _ => avoids_refuse malformed_other).bind fun _ _ =>
      (avoids_refuse malformed_other).bind fun _ _ =>
        (avoids_refuse malformed_other).bind fun _ _ => Avoids.ok _

theorem parseBindings_avoids (bindings : List BackendCutoverSetBinding) (manifest : BackendCutoverSetManifest) :
    Avoids InvalidInput (parseCutoverSetBindings platform bindings manifest) := by
  refine (avoids_refuse malformed_other).bind fun _ _ => Avoids.bind (checkEach_avoids fun index aligned => ?_)
    fun _ _ => Avoids.ok _
  exact (avoids_refuse malformed_other).bind fun _ _ => (parseMaintenanceRoster_avoids _).bind fun _ _ =>
    avoids_refuse malformed_other

theorem parseAnySelection_avoids (manifest : BackendCutoverSetManifest)
    (selection : BackendCutoverSetAnySelection) :
    Avoids InvalidInput (parseBackendCutoverSetAnySelection platform manifest selection) := by
  cases selection with
  | activation selection =>
      exact avoids_map ((avoids_refuse malformed_other).bind fun _ _ =>
        (checkEach_avoids fun _ _ => avoids_refuse malformed_other).bind fun _ _ =>
          (avoids_refuse malformed_other).bind fun _ _ =>
            (avoids_refuse malformed_other).bind fun _ _ => Avoids.ok _)
  | rollback selection =>
      exact avoids_map ((avoids_refuse malformed_other).bind fun _ _ =>
        (checkEach_avoids fun _ _ => avoids_refuse malformed_other).bind fun _ _ =>
          (avoids_refuse malformed_other).bind fun _ _ =>
            (avoids_refuse malformed_other).bind fun _ _ => Avoids.ok _)

theorem parseBackendCutoverSet_avoids (cutoverSet : BackendCutoverSet) :
    Avoids InvalidInput (parseBackendCutoverSet platform cutoverSet) := by
  refine (parseManifest_avoids _).bind fun _ _ => (parseBindings_avoids _ _).bind fun _ _ =>
    Avoids.bind ?_ fun _ _ => Avoids.ok _
  cases cutoverSet.selection with
  | none => exact Avoids.ok _
  | some selection => exact avoids_map (parseAnySelection_avoids _ selection)

theorem parseMaintenanceJournal_avoids (journal : BackendMaintenanceJournal) :
    Avoids InvalidInput (parseMaintenanceJournal platform journal) := by
  have checksum : ∀ message, ¬ InvalidInput (.journal .checksumMismatch message) := by
    rintro _ ⟨_, same⟩
    cases same
  refine (avoids_refuse (checksum _)).bind fun _ _ => (avoids_refuse malformed_other).bind fun _ _ =>
    (parseMaintenanceRoster_avoids _).bind fun _ _ => Avoids.bind ?_ fun _ _ =>
      (avoids_refuse malformed_other).bind fun _ _ => (avoids_refuse malformed_other).bind fun _ _ =>
        (avoids_refuse malformed_other).bind fun _ _ => Avoids.ok _
  unfold parseJournalSet
  split
  · exact Avoids.ok _
  · exact (parseBackendCutoverSet_avoids _).bind fun _ _ => avoids_refuse malformed_other

theorem readMaintenanceJournal_avoids (file : Option BackendMaintenanceJournal) :
    Avoids InvalidInput (readMaintenanceJournal platform file) := by
  have storage : ∀ message, ¬ InvalidInput (.journal .unsafeStorage message) := by
    rintro _ ⟨_, same⟩
    cases same
  cases file with
  | none => exact Avoids.ok _
  | some journal =>
      exact (avoids_refuse (storage _)).bind fun _ _ => avoids_map (parseMaintenanceJournal_avoids journal)

/-- Whatever is no refusal of an input is no refusal of a size. -/
theorem spares {Value : Type} {computation : Except PublicationFailure Value}
    (avoids : Avoids InvalidInput computation) : Avoids (· = cutoverSetTooLarge) computation := by
  rintro _ failed rfl
  exact avoids _ failed ⟨_, rfl⟩

end Refusals

/-- A journal of a set that reads back, whose set was entered. -/
structure Draft (platform : MaintenancePlatform) (journal : BackendMaintenanceJournal)
    (cutoverSet : BackendCutoverSet) : Prop where
  reads : ReadsBack platform journal cutoverSet
  createdAt : isIsoTimestamp journal.createdAt = true
  updatedAt : isIsoTimestamp journal.updatedAt = true
  entered : ∃ input accepted, validateEntry platform input = .ok (some accepted) ∧
    accepted.manifest = cutoverSet.manifest ∧
    accepted.bindings.map (·.generationId) = cutoverSet.bindings.map (·.generationId)

theorem Draft.bytes_le (draft : Draft platform journal cutoverSet) :
    journalBytes journal ≤ worstBytes cutoverSet cutoverSet.selection :=
  (draft.reads.toRestates draft.createdAt draft.updatedAt).bytes_le

/-- What an entered set can reach without a rollback tuple fits. -/
theorem Draft.fits (draft : Draft platform journal cutoverSet)
    (forward : ∀ selection, cutoverSet.selection ≠ some (.rollback selection)) :
    journalBytes journal ≤ maxJournalBytes := by
  obtain ⟨input, accepted, valid, manifest, generations⟩ := draft.entered
  have capacity : worstBytes cutoverSet cutoverSet.selection = backendCutoverSetJournalCapacity accepted := by
    rw [← worstBytes_eq manifest generations]
    rcases chosen : cutoverSet.selection with _ | _ | selection
    · rfl
    · rfl
    · exact absurd chosen (forward selection)
  exact Nat.le_trans draft.bytes_le (capacity ▸ (validateEntry_ok valid).fits)

/-- The journal of a set that a home keeps reads back and is small enough to be read. -/
def Kept (platform : MaintenancePlatform) (file : Option BackendMaintenanceJournal) : Prop :=
  ∀ journal cutoverSet, file = some journal → journal.cutoverSet = some cutoverSet →
    Draft platform journal cutoverSet ∧ journalBytes journal ≤ maxJournalBytes

/-- A call that stops leaves a home that is kept, and is not refused for its size unless it goes beyond. -/
def Halts (platform : MaintenancePlatform) (beyond : Prop) (stop : Stop PublicationFailure)
    (file : Option BackendMaintenanceJournal) : Prop :=
  Kept platform file ∧ (stop = .fault cutoverSetTooLarge → beyond)

variable {beyond : Prop}

theorem meets_check {Value : Type} {check : Except PublicationFailure Value}
    {after : Value → Option BackendMaintenanceJournal → Prop} (kept : Kept platform file)
    (avoids : check = .error cutoverSetTooLarge → beyond) (ok : ∀ value, check = .ok value → after value file) :
    Meets (lift check) file after (Halts platform beyond) := by
  refine meets_lift ok fun failure failed => ⟨kept, fun same => avoids ?_⟩
  cases same
  exact failed

theorem meets_refuse {refused : Prop} [Decidable refused] {reason : PublicationReason} {message : String}
    {after : Unit → Option BackendMaintenanceJournal → Prop} (kept : Kept platform file)
    (other : PublicationFailure.journal reason message ≠ cutoverSetTooLarge) (ok : ¬ refused → after () file) :
    Meets (lift (refuse refused reason message)) file after (Halts platform beyond) := by
  refine meets_check kept (fun failed => ?_) fun _ accepted => ok (refuse_ok.mp accepted)
  exact absurd rfl ((avoids_refuse other : Avoids (· = cutoverSetTooLarge) _) _ failed)

theorem read_same {found : Option BackendMaintenanceJournal}
    (read : readMaintenanceJournal platform file = .ok found) :
    found = file ∧ ∀ journal, file = some journal → journalBytes journal ≤ maxJournalBytes := by
  cases file with
  | none =>
      cases read
      exact ⟨rfl, fun _ same => by cases same⟩
  | some journal =>
      simp only [readMaintenanceJournal, Except.bind_eq_ok, refuse_ok] at read
      obtain ⟨_, small, parsed⟩ := read
      obtain ⟨again, parses, rfl⟩ := Except.map_eq_ok.mp parsed
      simp only [parseMaintenanceJournal, Except.bind_eq_ok, Except.pure_eq_ok] at parses
      obtain ⟨_, _, _, _, _, _, _, _, _, _, _, _, _, _, rfl⟩ := parses
      refine ⟨rfl, fun other same => ?_⟩
      cases same
      exact Nat.not_lt.mp small

/-- A journal that reads back takes the place of the one before it. -/
theorem write_meets (next : BackendMaintenanceJournal) {expected : Option JsString} {replaceTerminal : Bool}
    (kept : Kept platform file)
    (draft : ∀ cutoverSet, next.cutoverSet = some cutoverSet → Draft platform next cutoverSet)
    (fits : ∀ cutoverSet, next.cutoverSet = some cutoverSet → maxJournalBytes < journalBytes next → beyond) :
    Meets (writeMaintenanceJournal platform next expected replaceTerminal) file
      (fun written later => written = next ∧ later = some next ∧ Kept platform later)
      (Halts platform beyond) := by
  have other : ∀ failure, admitWrite platform file next expected replaceTerminal = .error failure →
      failure = cutoverSetTooLarge → ∃ cutoverSet, next.cutoverSet = some cutoverSet ∧
        maxJournalBytes < journalBytes next := by
    intro failure failed same
    rw [admitWrite, Except.bind_eq_error] at failed
    rcases failed with size | ⟨_, _, rest⟩
    · rw [assertCutoverSetJournalBytes] at size
      split at size
      · next large => exact ⟨_, (Option.some_get large.1).symm, large.2⟩
      · cases size
    · have avoids : Avoids (· = cutoverSetTooLarge) (readMaintenanceJournal platform file) :=
        spares (readMaintenanceJournal_avoids file)
      exact absurd same ((avoids.bind fun _ _ => (avoids_refuse (by decide)).bind fun _ _ =>
        avoids_refuse (by decide)) failure rest)
  apply meets_effect
  · exact ⟨kept, nofun⟩
  · intro written later acted
    split at acted
    · next admitted =>
        cases acted
        refine ⟨rfl, rfl, fun journal cutoverSet same stored => ?_⟩
        cases same
        refine ⟨draft cutoverSet stored, ?_⟩
        obtain ⟨_, small, _⟩ := Except.bind_eq_ok.mp admitted
        rw [assertCutoverSetJournalBytes] at small
        split at small
        · cases small
        · next fitting => exact Nat.not_lt.mp fun large => fitting ⟨by rw [stored]; rfl, large⟩
    · cases acted
  · intro failure later acted
    split at acted
    · cases acted
    · next failed =>
        cases acted
        refine ⟨kept, fun same => ?_⟩
        cases same
        obtain ⟨cutoverSet, stored, large⟩ := other _ failed rfl
        exact fits cutoverSet stored large

/-- A call on the journal of a home reads it first. -/
theorem require_meets (kept : Kept platform file) :
    Meets (requireMaintenanceJournal platform) file
      (fun journal later => later = file ∧ file = some journal) (Halts platform beyond) := by
  apply meets_bind
  apply meets_look
  apply meets_bind
  apply meets_check kept
  · exact fun failed => absurd rfl (spares (readMaintenanceJournal_avoids file) _ failed)
  · intro found read
    obtain ⟨rfl, _⟩ := read_same read
    cases found with
    | none =>
        refine meets_check kept (fun failed => ?_) fun _ accepted => nomatch accepted
        exact absurd failed (by decide)
    | some journal =>
        refine meets_check kept (fun failed => nomatch failed) fun value accepted => ?_
        cases accepted
        exact ⟨rfl, rfl⟩

variable (now : IsoTimestamp)

/-- Journals of one set with a later phase are drafts of it. -/
theorem Draft.later (draft : Draft platform journal cutoverSet)
    (reads : ReadsBack platform next cutoverSet) (createdAt : next.createdAt = journal.createdAt)
    (updatedAt : next.updatedAt = now.1) : Draft platform next cutoverSet where
  reads := reads
  createdAt := by
    rw [createdAt]
    exact draft.createdAt
  updatedAt := by
    rw [updatedAt]
    exact now.2
  entered := draft.entered

theorem stored_eq {other : BackendCutoverSet} (draft : Draft platform journal cutoverSet)
    (stored : journal.cutoverSet = some other) : other = cutoverSet :=
  Option.some.inj (stored.symm.trans draft.reads.stored)

/-- An entry that is recorded is held without growing beyond its set's capacity. -/
theorem hold_meets (kept : Kept platform (some journal)) (phase : journal.phase = .maintenanceEntering) :
    Meets (holdMaintenance platform journal now) (some journal) (fun _ later => Kept platform later)
      (Halts platform beyond) := by
  have drafts : ∀ cutoverSet, journal.cutoverSet = some cutoverSet →
      Draft platform (withMaintenanceChecksum platform
        { journal with phase := .maintenanceHeld, updatedAt := now.1 }) cutoverSet ∧
        ∀ selection, cutoverSet.selection ≠ some selection := by
    intro cutoverSet stored
    obtain ⟨draft, _⟩ := kept journal cutoverSet rfl stored
    have entering : journal.phase ∈ [.maintenanceEntering, .maintenanceHeld] := List.mem_pair.mpr (.inl phase)
    have abort := (draft.reads.held entering).2.2.2
    have selecting : isSelectionPhase journal.phase = false := by rw [phase]; rfl
    constructor
    · refine draft.later now (draft.reads.withPhase now .maintenanceHeld journal.abortEvidenceSha256
        selecting.symm ?_ ?_ fun _ => entering) rfl rfl
      · rw [abort]
        exact ⟨nofun, fun other => absurd rfl other⟩
      · rw [abort]
        exact nofun
    · intro selection chosen
      have same := (assertCutoverSetJournal_iff.mp draft.reads.restates).2.2.2.2.2.1
      rw [selecting, chosen] at same
      cases same
  refine (write_meets (withMaintenanceChecksum platform
    { journal with phase := .maintenanceHeld, updatedAt := now.1 }) kept
    (fun set stored => (drafts set stored).1) ?_).mono (fun _ _ done => done.2.2) fun _ _ => id
  · intro set stored large
    obtain ⟨draft, unselected⟩ := drafts set stored
    exact absurd large (Nat.not_lt.mpr (draft.fits fun selection => unselected (.rollback selection)))

/-- What a request may be refused for in its size: a set that is too large at its entry, or a rollback
tuple beyond its own capacity. -/
def Beyond (file : Option BackendMaintenanceJournal) : MaintenanceRequest → Prop
  | .enter input _ _ => ∃ cutoverSet ∈ input.cutoverSet,
      maxJournalBytes < backendCutoverSetJournalCapacity cutoverSet
  | .prepare input _ => ∃ journal cutoverSet selection, file = some journal ∧
      journal.cutoverSet = some cutoverSet ∧ input.cutoverSetSelection = some (.rollback selection) ∧
      maxJournalBytes < backendCutoverSetRollbackJournalCapacity cutoverSet selection.originalSetId
  | .complete _ _ => ∃ journal cutoverSet selection, file = some journal ∧
      journal.cutoverSet = some cutoverSet ∧ cutoverSet.selection = some (.rollback selection) ∧
      maxJournalBytes < backendCutoverSetRollbackJournalCapacity cutoverSet selection.originalSetId
  | .rebind _ _ | .abort _ _ => False

/-- Whether an entry records a new hold of a set. -/
def RecordsHold (platform : MaintenancePlatform) (file : Option BackendMaintenanceJournal)
    (input : EnterBackendMaintenanceInput) (accepted : BackendCutoverSet) : Prop :=
  (∀ journal ∈ file, isTerminalMaintenancePhase journal.phase) ∧ input.expectedChecksumSha256 = none ∧
    validateEntry platform input = .ok (some accepted)

/-- A call that records no hold of a set with a selection tuple. -/
def UnselectedEntry (platform : MaintenancePlatform) (file : Option BackendMaintenanceJournal) :
    MaintenanceRequest → Prop
  | .enter input _ _ => ∀ accepted, RecordsHold platform file input accepted → accepted.selection = none
  | .rebind _ _ | .prepare _ _ | .complete _ _ | .abort _ _ => True

theorem validateEntry_beyond {input : EnterBackendMaintenanceInput}
    (failed : validateEntry platform input = .error cutoverSetTooLarge) :
    ∃ cutoverSet ∈ input.cutoverSet, maxJournalBytes < backendCutoverSetJournalCapacity cutoverSet := by
  rw [validateEntry, Except.bind_eq_error] at failed
  rcases failed with malformed | ⟨_, _, failed⟩
  · exact absurd rfl ((avoids_refuse (by decide) : Avoids (· = cutoverSetTooLarge) _) _ malformed)
  rw [Except.bind_eq_error] at failed
  rcases failed with roster | ⟨_, _, failed⟩
  · exact absurd rfl (spares (parseMaintenanceRoster_avoids _) _ roster)
  rw [Except.bind_eq_error] at failed
  rcases failed with unread | ⟨sets, read, failed⟩
  · cases given : input.cutoverSet with
    | none =>
        rw [given] at unread
        cases unread
    | some raw =>
        rw [given] at unread
        exact absurd rfl (spares (avoids_map (parseBackendCutoverSet_avoids raw)) _ unread)
  rw [Except.bind_eq_error] at failed
  rcases failed with refused | ⟨_, _, failed⟩
  · cases given : input.cutoverSet with
    | none =>
        rw [given] at read
        cases read
        cases refused
    | some raw =>
        rw [given] at read
        obtain ⟨parsed, readSet, rfl⟩ := Except.map_eq_ok.mp read
        obtain ⟨rfl, _⟩ := parseBackendCutoverSet_iff.mp readSet
        refine ⟨parsed, rfl, ?_⟩
        have refused : assertCutoverSetEntryInput platform input parsed = .error cutoverSetTooLarge := refused
        by_contra small
        have avoids : Avoids (· = cutoverSetTooLarge) (assertCutoverSetEntryInput platform input parsed) := by
          refine (avoids_refuse (by decide)).bind fun _ _ => (avoids_refuse (by decide)).bind fun _ _ => ?_
          rw [if_neg small]
          exact Avoids.ok ()
        exact avoids _ refused rfl
  · cases failed

theorem enter_meets {input : EnterBackendMaintenanceInput} (kept : Kept platform file) (later : IsoTimestamp)
    (unselected : ∀ accepted, RecordsHold platform file input accepted → accepted.selection = none) :
    Meets (enterMaintenance platform input now later) file (fun _ last => Kept platform last)
      (Halts platform (Beyond file (.enter input now later))) := by
  apply meets_bind
  apply meets_look
  apply meets_bind
  apply meets_check kept
  · exact fun failed => absurd rfl (spares (readMaintenanceJournal_avoids file) _ failed)
  intro found read
  obtain ⟨rfl, _⟩ := read_same read
  apply meets_bind
  apply meets_check kept validateEntry_beyond
  intro cutoverSet valid
  split
  · next entering recorded =>
      obtain ⟨rfl, phase⟩ := Option.filter_eq_some_iff.mp recorded
      apply meets_bind
      apply meets_refuse kept (by decide)
      intro _
      exact hold_meets later kept (of_decide_eq_true phase)
  · apply meets_bind
    apply meets_refuse kept (by decide)
    intro unexpected
    apply meets_bind
    apply meets_refuse kept (by decide)
    intro resolved
    have drafts : ∀ set, (enteringJournal platform input cutoverSet now).cutoverSet = some set →
        Draft platform (enteringJournal platform input cutoverSet now) set ∧ set.selection = none := by
      intro set stored
      have stored : cutoverSet = some set := stored
      subst stored
      have entry := validateEntry_ok valid
      have closed : ∀ journal ∈ found, isTerminalMaintenancePhase journal.phase = true := by
        intro journal inside
        by_contra unfinished
        exact resolved ⟨journal, inside, unfinished⟩
      have plain := unselected set ⟨closed, not_not.mp unexpected, valid⟩
      obtain ⟨entered, created, updated⟩ := @entered_timestamp platform now input (some set)
      refine ⟨⟨entry.readsBack now plain, ?_, ?_, input, set, valid, rfl, rfl⟩, plain⟩
      · rw [created]
        exact entered.2
      · rw [updated]
        exact entered.2
    refine Meets.bind (write_meets _ kept (fun set stored => (drafts set stored).1) ?_) ?_
    · intro set stored large
      obtain ⟨draft, plain⟩ := drafts set stored
      refine absurd large (Nat.not_lt.mpr (draft.fits fun selection => ?_))
      rw [plain]
      exact nofun
    · rintro _ _ ⟨rfl, rfl, written⟩
      exact hold_meets later written rfl

end Lcm.Cutover
