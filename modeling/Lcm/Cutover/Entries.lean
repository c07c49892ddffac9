import Lcm.Cutover.CapacityRuns

namespace Lcm.Cutover
open Text Publication Interruptible Except

variable {platform : MaintenancePlatform} {file : Option BackendMaintenanceJournal}

section Tuples

variable {input : EnterBackendMaintenanceInput} {accepted : BackendCutoverSet} (now : IsoTimestamp)

def inconsistentSet : PublicationFailure :=
  .journal .malformedJournal "backend cutover-set journal is inconsistent with its set"

theorem EntryOf.holdsSet (entry : EntryOf platform input accepted) :
    HoldsSet (enteringJournal platform input (some accepted) now) accepted := by
  obtain ⟨_, manifest, bindings, selection⟩ := parseBackendCutoverSet_iff.mp entry.read
  obtain ⟨entered, created, updated⟩ := @entered_timestamp platform now input (some accepted)
  refine ⟨rfl, ⟨(parseManifest_ok manifest).2, (parseCutoverSetBindings_ok bindings).2, ?_⟩,
    entry.publicationId, entry.generationId, ?_, ?_, entry.fields.1, entry.fields.2.1,
    platform.isHash_sha256 _, ⟨_, platform.isHash_sha256 _, entry.entryRoster⟩⟩
  · exact fun tuple inside => (parseAnySelection_ok (selection tuple inside)).2
  · rw [created]
    exact isIsoTimestamp_within entered.2
  · rw [updated]
    exact isIsoTimestamp_within entered.2

/-- A hold whose set carries a selection tuple is not read back. -/
theorem tupled_unread (entry : EntryOf platform input accepted) (tuple : accepted.selection.isSome = true)
    (small : journalBytes (enteringJournal platform input (some accepted) now) ≤ maxJournalBytes) :
    readMaintenanceJournal platform (some (enteringJournal platform input (some accepted) now)) =
      .error inconsistentSet := by
  obtain ⟨_, manifest, _, _⟩ := parseBackendCutoverSet_iff.mp entry.read
  have setId := (parseManifest_ok manifest).2.setId
  have date : platform.isDate ((input.now.getD none).getD now).1 = true := platform.isDate_timestamp _
  have publication : isPublicationId input.publicationId = true := entry.publicationId ▸ setId
  have generation : isPublicationId input.generationId = true := entry.generationId ▸ setId
  have fields : hasMaintenanceFields platform (enteringJournal platform input (some accepted) now) = true :=
    hasMaintenanceFields_iff.mpr ⟨publication, date, date, generation, entry.fields.1, entry.fields.2.1,
      nofun, nofun, nofun⟩
  obtain ⟨roster, readRoster⟩ := entry.roster
  have asserted : assertCutoverSetJournal platform (enteringJournal platform input (some accepted) now)
      accepted = .error inconsistentSet := by
    refine if_pos (.inr (.inr (.inr (.inr (.inr (.inl ?_))))))
    rw [tuple]
    exact Bool.false_ne_true
  have parsed : parseMaintenanceJournal platform (enteringJournal platform input (some accepted) now) =
      .error inconsistentSet := by
    refine Except.bind_eq_error.mpr (.inr ⟨(), refuse_ok.mpr ?_, ?_⟩)
    · exact not_or.mpr ⟨not_not.mpr (platform.isHash_sha256 _), not_not.mpr rfl⟩
    refine Except.bind_eq_error.mpr (.inr ⟨(), refuse_ok.mpr (not_not.mpr fields), ?_⟩)
    refine Except.bind_eq_error.mpr (.inr ⟨roster, readRoster, ?_⟩)
    exact Except.bind_eq_error.mpr (.inl (Except.bind_eq_error.mpr (.inr ⟨accepted, entry.read, asserted⟩)))
  refine Except.bind_eq_error.mpr (.inr ⟨(), refuse_ok.mpr (Nat.not_lt.mpr small), ?_⟩)
  rw [parsed]
  rfl

/-- The entry of a set. -/
def setEntry (platform : MaintenancePlatform) (cutoverSet : BackendCutoverSet) :
    EnterBackendMaintenanceInput where
  publicationId := cutoverSet.manifest.setId
  generationId := cutoverSet.manifest.setId
  sourceSelectionSha256 := backendCutoverSetManifestSha256 platform cutoverSet.manifest
  queueEvidenceSha256 := backendCutoverSetQueueEvidenceSha256 platform cutoverSet.bindings
  roster := backendCutoverSetEntryRoster platform cutoverSet.manifest
  cutoverSet := some cutoverSet
  now := none
  expectedChecksumSha256 := none
  sourceBackend := none

/-- The entry of an unbound set that is small enough is accepted. -/
theorem setEntry_valid {cutoverSet : BackendCutoverSet}
    (read : parseBackendCutoverSet platform cutoverSet = .ok cutoverSet)
    (roster : parseMaintenanceRoster platform (backendCutoverSetEntryRoster platform cutoverSet.manifest) =
      .ok (backendCutoverSetEntryRoster platform cutoverSet.manifest))
    (unbound : ¬ ∃ aligned ∈ cutoverSet.bindings.zip cutoverSet.manifest.members,
      (∃ entry ∈ aligned.1.roster.head?, entry.queueCutoff ≠ none) ∨
        aligned.1.queueEvidenceSha256 ≠ backendMaintenanceQueueEvidenceSentinel platform
          aligned.1.generationId aligned.2.sourceSelectionSha256)
    (fits : backendCutoverSetJournalCapacity cutoverSet ≤ maxJournalBytes) :
    validateEntry platform (setEntry platform cutoverSet) = .ok (some cutoverSet) := by
  have setId := (parseManifest_ok (parseBackendCutoverSet_iff.mp read).2.1).2.setId
  have accepted : assertCutoverSetEntryInput platform (setEntry platform cutoverSet) cutoverSet = .ok () := by
    simp only [assertCutoverSetEntryInput, Except.bind_eq_ok, refuse_ok, not_or, not_not, ne_eq]
    exact ⟨(), ⟨rfl, rfl, rfl, rfl, rfl⟩, (), unbound, if_neg (Nat.not_lt.mpr fits)⟩
  simp only [validateEntry, Except.bind_eq_ok, refuse_ok, not_or, not_not, Except.pure_eq_ok]
  exact ⟨(), ⟨setId, setId, platform.isHash_sha256 _, platform.isHash_sha256 _, fun same => (by cases same)⟩, _, roster,
    some cutoverSet, Except.map_eq_ok.mpr ⟨cutoverSet, read, rfl⟩, (), accepted, rfl⟩

/-- An entry on a home without a journal records its hold. -/
theorem fresh_entry_meets {later : IsoTimestamp}
    {after : BackendMaintenanceJournal → Option BackendMaintenanceJournal → Prop}
    {stopped : Stop PublicationFailure → Option BackendMaintenanceJournal → Prop}
    (valid : validateEntry platform input = .ok (some accepted)) (fresh : input.expectedChecksumSha256 = none)
    (records : Meets (writeMaintenanceJournal platform (enteringJournal platform input (some accepted) now) none
      false >>= fun written => holdMaintenance platform written later) none after stopped) :
    Meets (enterMaintenance platform input now later) none after stopped := by
  apply meets_bind
  apply meets_look
  apply meets_bind
  refine meets_lift (fun found read => ?_) (fun _ failed => by cases failed)
  cases read
  apply meets_bind
  rw [valid]
  refine meets_lift (fun set same => ?_) (fun _ failed => by cases failed)
  cases same
  apply meets_bind
  rw [refuse, if_neg (not_not.mpr fresh)]
  refine meets_lift (fun _ _ => ?_) (fun _ failed => by cases failed)
  apply meets_bind
  exact meets_lift (fun _ _ => records) (fun _ failed => by cases failed)

/-- A hold that is recorded twice is held. -/
theorem record_holds {entering : BackendMaintenanceJournal} (later : IsoTimestamp)
    (recorded : admitWrite platform none entering none false = .ok ())
    (renewed : admitWrite platform (some entering) (withMaintenanceChecksum platform
      { entering with phase := .maintenanceHeld, updatedAt := later.1 }) (some entering.checksumSha256) false =
        .ok ()) :
    Meets (writeMaintenanceJournal platform entering none false >>= fun written =>
      holdMaintenance platform written later) none (fun held file =>
        held = withMaintenanceChecksum platform
          { entering with phase := .maintenanceHeld, updatedAt := later.1 } ∧ file = some held)
      fun stop _ => stop = .crash := by
  apply meets_bind
  refine meets_effect rfl ?_ ?_
  · intro written file acted
    rw [recorded] at acted
    cases acted
    refine meets_effect rfl ?_ ?_
    · intro held file acted
      rw [renewed] at acted
      cases acted
      exact ⟨rfl, rfl⟩
    · intro _ _ acted
      rw [renewed] at acted
      cases acted
  · intro failure file acted
    rw [recorded] at acted
    cases acted

/-- A hold that cannot be read back stays as its entry. -/
theorem record_fails {entering : BackendMaintenanceJournal} {failure : PublicationFailure} (later : IsoTimestamp)
    (recorded : admitWrite platform none entering none false = .ok ())
    (refused : admitWrite platform (some entering) (withMaintenanceChecksum platform
      { entering with phase := .maintenanceHeld, updatedAt := later.1 }) (some entering.checksumSha256) false =
        .error failure) :
    Meets (writeMaintenanceJournal platform entering none false >>= fun written =>
      holdMaintenance platform written later) none (fun _ _ => False) fun stop file =>
        stop = .crash ∨ stop = .fault failure ∧ file = some entering := by
  apply meets_bind
  refine meets_effect (.inl rfl) ?_ ?_
  · intro written file acted
    rw [recorded] at acted
    cases acted
    refine meets_effect (.inl rfl) ?_ ?_
    · intro _ _ acted
      rw [refused] at acted
      cases acted
    · intro failure file acted
      rw [refused] at acted
      cases acted
      exact .inr ⟨rfl, rfl⟩
  · intro failure file acted
    rw [recorded] at acted
    cases acted

/-- An entry whose set carries a selection tuple is recorded, and then not held. -/
theorem tupled_entry_fails (later : IsoTimestamp) (valid : validateEntry platform input = .ok (some accepted))
    (tuple : accepted.selection.isSome = true) (fresh : input.expectedChecksumSha256 = none)
    (small : valueSize (unselectedWorstCase accepted).toJson < maxJournalBytes) :
    Meets (enterMaintenance platform input now later) none (fun _ _ => False) fun stop file =>
      stop = .crash ∨ stop = .fault inconsistentSet ∧
        file = some (enteringJournal platform input (some accepted) now) := by
  have entry := validateEntry_ok valid
  have holds := entry.holdsSet now
  have fits : ∀ journal, HoldsSet journal accepted → journal.phase ∈ [.maintenanceEntering, .maintenanceHeld] →
      journal.targetBackend = none → journal.selectedGenerationId = none →
        journal.terminalEvidenceSha256 = none → journal.abortEvidenceSha256 = none →
          assertCutoverSetJournalBytes journal = .ok () := by
    intro journal holds phase target selected terminal abort
    refine if_neg fun large => ?_
    exact Nat.not_lt.mpr (Nat.le_trans (holds.open_bytes_le phase target selected terminal abort) small) large.2
  have entering := fits _ holds (List.mem_cons_self ..) rfl rfl rfl rfl
  have held := fits (withMaintenanceChecksum platform { enteringJournal platform input (some accepted) now with
    phase := .maintenanceHeld, updatedAt := later.1 })
      { holds with
        updatedAt := isIsoTimestamp_within later.2
        checksumSha256 := platform.isHash_sha256 _ } (List.mem_cons_of_mem _ (List.mem_cons_self ..)) rfl rfl rfl rfl
  have unread := tupled_unread now entry tuple
    (Nat.le_trans (holds.open_bytes_le (List.mem_cons_self ..) rfl rfl rfl rfl) small)
  have recorded : admitWrite platform none (enteringJournal platform input (some accepted) now) none false =
      .ok () := by
    rw [admitWrite, entering]
    rfl
  have refused : admitWrite platform (some (enteringJournal platform input (some accepted) now))
      (withMaintenanceChecksum platform { enteringJournal platform input (some accepted) now with
        phase := .maintenanceHeld, updatedAt := later.1 })
      (some (enteringJournal platform input (some accepted) now).checksumSha256) false =
        .error inconsistentSet := by
    rw [admitWrite, held, unread]
    rfl
  exact fresh_entry_meets now valid fresh (record_fails later recorded refused)

/-- An accepted entry without a tuple is held. -/
theorem plain_entry_holds (later : IsoTimestamp) (valid : validateEntry platform input = .ok (some accepted))
    (plain : accepted.selection = none) (fresh : input.expectedChecksumSha256 = none) :
    Meets (enterMaintenance platform input now later) none (fun held file =>
      held = withMaintenanceChecksum platform { enteringJournal platform input (some accepted) now with
        phase := .maintenanceHeld, updatedAt := later.1 } ∧ file = some held) fun stop _ => stop = .crash := by
  have entry := validateEntry_ok valid
  have forward : ∀ selection, accepted.selection ≠ some (.rollback selection) := by
    rw [plain]
    intro _ same
    cases same
  have entering : Draft platform (enteringJournal platform input (some accepted) now) accepted :=
    ⟨entry.readsBack now plain, ((input.now.getD none).getD now).2, ((input.now.getD none).getD now).2,
      input, accepted, valid, rfl, rfl⟩
  have held : Draft platform (withMaintenanceChecksum platform
      { enteringJournal platform input (some accepted) now with
        phase := .maintenanceHeld, updatedAt := later.1 }) accepted :=
    entering.later later (entering.reads.withPhase later .maintenanceHeld none rfl
      ⟨fun none => (by cases none), fun other => absurd rfl other⟩
      (fun _ none => by cases none) fun _ => List.mem_cons_self ..) rfl rfl
  have fits : ∀ journal, Draft platform journal accepted → assertCutoverSetJournalBytes journal = .ok () :=
    fun journal draft => if_neg fun large => Nat.not_lt.mpr (draft.fits forward) large.2
  apply fresh_entry_meets now valid fresh
  apply record_holds
  · rw [admitWrite, fits _ entering]
    rfl
  · rw [admitWrite, fits _ held, entering.read (entering.fits forward)]
    exact refuse_ok.mpr fun changed => changed.2.elim (absurd rfl) (fun other => by cases other.1)

/-- A plain entry on a home without a journal leaves a hold that a run reaches. -/
theorem plain_entry_reaches (later : IsoTimestamp) (valid : validateEntry platform input = .ok (some accepted))
    (plain : accepted.selection = none) (fresh : input.expectedChecksumSha256 = none) :
    ∃ journal rest, enterMaintenance platform input now later none none = (.ok journal, some journal, rest) ∧
      journal.phase = .maintenanceHeld ∧ journal.cutoverSet = some accepted ∧
      ((maintenanceSystem platform).restrict
        fun file call => UnselectedEntry platform file call.1).Reachable (some journal) := by
  rcases (plain_entry_holds now later valid plain fresh).uninterrupted with
    ⟨journal, file, ran, rfl, rfl⟩ | ⟨_, _, _, _, other⟩
  · refine ⟨_, none, ran, rfl, rfl, ?_⟩
    refine @StepSystem.Reachable.next _ _ _ none _ (.enter input now later, none) (.start rfl) ⟨?_, ?_⟩
    · rintro other ⟨_, _, found⟩
      obtain rfl : accepted = other := Option.some.inj (Except.ok.inj (valid.symm.trans found))
      exact plain
    · exact (congrArg (fun outcome => outcome.2.1) ran).symm
  · cases other

/-- A tupled entry on a home without a journal leaves a journal that a run reaches and nothing reads. -/
theorem tupled_entry_reaches (later : IsoTimestamp) (valid : validateEntry platform input = .ok (some accepted))
    (tuple : accepted.selection.isSome = true) (fresh : input.expectedChecksumSha256 = none)
    (small : valueSize (unselectedWorstCase accepted).toJson < maxJournalBytes) :
    ∃ journal rest, enterMaintenance platform input now later none none =
        (.error (.fault inconsistentSet), some journal, rest) ∧
      (maintenanceSystem platform).Reachable (some journal) ∧ journal.cutoverSet = some accepted ∧
      readMaintenanceJournal platform (some journal) = .error inconsistentSet := by
  rcases (tupled_entry_fails now later valid tuple fresh small).uninterrupted with
    ⟨_, _, _, other⟩ | ⟨failure, file, rest, ran, crashed | ⟨same, rfl⟩⟩
  · exact other.elim
  · cases crashed
  · obtain rfl := Stop.fault.inj same
    have entry := validateEntry_ok valid
    have bytes := (entry.holdsSet now).open_bytes_le (List.mem_cons_self ..) rfl rfl rfl rfl
    refine ⟨_, rest, ran, ?_, rfl, tupled_unread now entry tuple (Nat.le_trans bytes small)⟩
    refine @StepSystem.Reachable.next _ _ _ none _ (.enter input now later, none) (.start rfl) ?_
    exact (congrArg (fun outcome => outcome.2.1) ran).symm

end Tuples

section Sample

/-- The digests of the texts of the sample runs, by their lengths. -/
def sampleDigests : List (Nat × String) :=
  [(156, "c6f31b37185c9a7f4b28568186148746bb32425358b3dd49de8b2ac23bed8337"),
    (157, "08633056dac8e92fcf062bcaf0cf687de810236ae6257608721f830587bd608f"),
    (159, "ff8015115485428622427e9a4071ef38862a2d83813b690a08e3c597f1f3fa96"),
    (285, "be0b93b5b41010c86de4328ebfdd22efa32558e444306c7dc64337470e05d3dc"),
    (493, "5c7dcb47f55c7eb069c97cb8809b17cf6d5a321f2888b97b41a049858b743a1d"),
    (1651, "fcd8622f629961a69793bac1053115ea930b2458e677cd5020c2760cb2a8e583"),
    (1733, "8687cf9aa77bc2f7ec8825fe25214f78cc36b471a30e1fb846e69541dd284642"),
    (1737, "5a11891396f14a310286bee53dd8ba53bb791a0099520c668e37b6957c4199f5"),
    (3481, "ff30bca00cf352572af04591079bd767d0afa373ad11fcf897aa7d6a0d802f48"),
    (3485, "8386a626087735c515c9e2dcc7d20cb03efbb71d600bf920961586b106cf11c0"),
    (3556, "2ce429e1375840739fc1c0461a12b0d804a4f8140a82bc4236c4f96b99824ecd")]

def samplePlatform : MaintenancePlatform where
  sha256 text :=
    let digest := js ((sampleDigests.lookup text.length).getD "")
    if isHash digest then digest else hex
  localeLe first second := first.map UInt16.toNat ≤ second.map UInt16.toNat
  isDate := isIsoTimestamp
  isHash_sha256 text := by
    dsimp only
    split
    · assumption
    · decide
  isDate_timestamp timestamp := timestamp.2

def sampleTime : IsoTimestamp := ⟨js "2026-01-01T00:00:00.000Z", by decide⟩

def sampleMachine : JsString := js "00000000-0000-4000-8000-000000000001"

def sampleManifest : BackendCutoverSetManifest where
  setId := js "set-1"
  machineId := sampleMachine
  members := [⟨List.replicate 64 49, js "g1", hex⟩, ⟨List.replicate 64 50, js "g02", hex⟩]

/-- The bindings of the set at its entry. -/
def sampleBindings : List BackendCutoverSetBinding :=
  sampleManifest.members.map fun member =>
    let sentinel := backendMaintenanceQueueEvidenceSentinel samplePlatform member.generationId
      member.sourceSelectionSha256
    ⟨member.generationId, sentinel, [⟨sampleMachine, none, sentinel⟩]⟩

def sampleSelection : BackendCutoverSetAnySelection :=
  let selection : BackendCutoverSetSelection :=
    { checkpointSha256 := hex
      setId := sampleManifest.setId
      manifestSha256 := backendCutoverSetManifestSha256 samplePlatform sampleManifest
      publicationId := sampleManifest.setId
      identityDigest := hex
      members :=
        [⟨List.replicate 64 49, js "g1", js "00000000-0000-4000-8000-000000000002", hex, hex, hex, 1, hex, hex⟩,
          ⟨List.replicate 64 50, js "g02", js "00000000-0000-4000-8000-000000000003", hex, hex, hex, 1, hex,
            hex⟩]
      checksumSha256 := [] }
  .activation { selection with checksumSha256 := backendCutoverSetSelectionSha256 samplePlatform selection }

def sampleSet (selection : Option BackendCutoverSetAnySelection) : BackendCutoverSet :=
  ⟨sampleManifest, sampleBindings, selection⟩

theorem sampleSet_fits (selection : Option BackendCutoverSetAnySelection) :
    backendCutoverSetJournalCapacity (sampleSet selection) ≤ maxJournalBytes := by
  show backendCutoverSetJournalCapacity (sampleSet none) ≤ maxJournalBytes
  decide +kernel

theorem sampleSet_read (selection : Option BackendCutoverSetAnySelection)
    (given : selection ∈ [none, some sampleSelection]) :
    parseBackendCutoverSet samplePlatform (sampleSet selection) = .ok (sampleSet selection) := by
  have manifest : parseBackendCutoverSetManifest sampleManifest = .ok sampleManifest := by decide +kernel
  have bindings : parseCutoverSetBindings samplePlatform sampleBindings sampleManifest = .ok sampleBindings := by
    decide +kernel
  refine parseBackendCutoverSet_iff.mpr ⟨rfl, manifest, bindings, ?_⟩
  rcases List.mem_pair.mp given with rfl | rfl
  · exact nofun
  · rintro _ ⟨⟩
    decide +kernel

theorem sampleSet_unbound : ¬ ∃ aligned ∈ sampleBindings.zip sampleManifest.members,
    (∃ entry ∈ aligned.1.roster.head?, entry.queueCutoff ≠ none) ∨
      aligned.1.queueEvidenceSha256 ≠ backendMaintenanceQueueEvidenceSentinel samplePlatform
        aligned.1.generationId aligned.2.sourceSelectionSha256 := by decide +kernel

theorem sampleRoster_read :
    parseMaintenanceRoster samplePlatform (backendCutoverSetEntryRoster samplePlatform sampleManifest) =
      .ok (backendCutoverSetEntryRoster samplePlatform sampleManifest) := by decide +kernel

/-- The entry of the sample set with a tuple, or without one. -/
def sampleEntry (selection : Option BackendCutoverSetAnySelection) : EnterBackendMaintenanceInput :=
  setEntry samplePlatform (sampleSet selection)

theorem sampleEntry_valid (selection : Option BackendCutoverSetAnySelection)
    (given : selection ∈ [none, some sampleSelection]) :
    validateEntry samplePlatform (sampleEntry selection) = .ok (some (sampleSet selection)) :=
  setEntry_valid (sampleSet_read selection given) sampleRoster_read sampleSet_unbound (sampleSet_fits selection)

/-- In runs that record no set with a selection tuple at its entry, the journal of a set was entered, keeps within the
capacity of its accepted set, and can be read back; and no call is refused for its size but an entry beyond
the capacity of its set and a rollback beyond the capacity of its tuple. -/
theorem capacity_bounds_every_hold (reached : ((maintenanceSystem platform).restrict
    fun file call => UnselectedEntry platform file call.1).Reachable file) :
    (∀ journal cutoverSet, file = some journal → journal.cutoverSet = some cutoverSet →
      (∃ input accepted, validateEntry platform input = .ok (some accepted) ∧
        accepted.manifest = cutoverSet.manifest) ∧
      (∀ input accepted, validateEntry platform input = .ok (some accepted) →
        accepted.manifest = cutoverSet.manifest →
          journalBytes journal ≤ worstBytes accepted cutoverSet.selection) ∧
      readMaintenanceJournal platform file = .ok file) ∧
    ∀ request budget, UnselectedEntry platform file request →
      (request.run platform file budget).1 = .error (.fault cutoverSetTooLarge) → Beyond file request := by
  have kept := kept_reachable reached
  constructor
  · rintro journal cutoverSet rfl stored
    obtain ⟨draft, small⟩ := kept journal cutoverSet rfl stored
    obtain ⟨input, accepted, valid, manifest, _⟩ := draft.entered
    exact ⟨⟨input, accepted, valid, manifest⟩, fun _ _ valid same => draft.capacity valid same,
      draft.read small⟩
  · intro request budget unselected refused
    have ended := run_meets kept unselected budget
    revert ended
    generalize request.run platform file budget = outcome at refused
    obtain ⟨result, later, rest⟩ := outcome
    cases refused
    exact fun ended => ended.1.2 rfl

theorem capacity_bounds_every_hold_sample : ∃ journal rest,
    enterMaintenance samplePlatform (sampleEntry none) sampleTime sampleTime none none =
      (.ok journal, some journal, rest) ∧ journal.phase = .maintenanceHeld ∧
    journalBytes journal ≤ backendCutoverSetJournalCapacity (sampleSet none) ∧
    readMaintenanceJournal samplePlatform (some journal) = .ok (some journal) := by
  have valid := sampleEntry_valid none (List.mem_cons_self ..)
  obtain ⟨journal, rest, ran, phase, stored, reached⟩ :=
    plain_entry_reaches sampleTime sampleTime valid rfl rfl
  obtain ⟨_, within, read⟩ := (capacity_bounds_every_hold reached).1 journal (sampleSet none) rfl stored
  exact ⟨journal, rest, ran, phase, within _ _ valid rfl, read⟩

theorem sampleSet_small :
    valueSize (unselectedWorstCase (sampleSet (some sampleSelection))).toJson < maxJournalBytes := by
  decide +kernel

/-- The journal of an accepted entry with a selection tuple is written and cannot be read back. -/
theorem tupled_entry_unreadable : ∃ accepted journal rest,
    validateEntry samplePlatform (sampleEntry (some sampleSelection)) = .ok (some accepted) ∧
    enterMaintenance samplePlatform (sampleEntry (some sampleSelection)) sampleTime sampleTime none none =
      (.error (.fault inconsistentSet), some journal, rest) ∧
    (maintenanceSystem samplePlatform).Reachable (some journal) ∧ journal.cutoverSet = some accepted ∧
    readMaintenanceJournal samplePlatform (some journal) = .error inconsistentSet := by
  have valid := sampleEntry_valid (some sampleSelection) (List.mem_cons_of_mem _ (List.mem_cons_self ..))
  obtain ⟨journal, rest, ran, reached, stored, unread⟩ :=
    tupled_entry_reaches sampleTime sampleTime valid rfl rfl sampleSet_small
  exact ⟨sampleSet (some sampleSelection), journal, rest, valid, ran, reached, stored, unread⟩

end Sample

end Lcm.Cutover
