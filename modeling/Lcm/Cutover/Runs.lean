import Lcm.Cutover.Capacity

namespace Lcm.Cutover
open Text Publication Interruptible

variable {platform : MaintenancePlatform} {manifest : BackendCutoverSetManifest}
  {cutoverSet : BackendCutoverSet} {journal : BackendMaintenanceJournal}

/-- What a reader accepts of the journal of a set. -/
structure ReadsBack (platform : MaintenancePlatform) (journal : BackendMaintenanceJournal)
    (cutoverSet : BackendCutoverSet) : Prop where
  stored : journal.cutoverSet = some cutoverSet
  checksum : maintenanceChecksum platform journal = journal.checksumSha256
  fields : hasMaintenanceFields platform journal = true
  roster : ∃ parsed, parseMaintenanceRoster platform journal.roster = .ok parsed
  manifest : parseBackendCutoverSetManifest cutoverSet.manifest = .ok cutoverSet.manifest
  bindings : parseCutoverSetBindings platform cutoverSet.bindings cutoverSet.manifest = .ok cutoverSet.bindings
  selection : ∀ selection ∈ cutoverSet.selection,
    parseBackendCutoverSetAnySelection platform cutoverSet.manifest selection = .ok selection
  restates : assertCutoverSetJournal platform journal cutoverSet = .ok ()
  held : journal.phase ∈ [.maintenanceEntering, .maintenanceHeld] → journal.targetBackend = none ∧
    journal.selectedGenerationId = none ∧ journal.terminalEvidenceSha256 = none ∧
      journal.abortEvidenceSha256 = none
  selected : isSelectionPhase journal.phase = true → journal.targetBackend ≠ none ∧
    journal.selectedGenerationId = some journal.generationId ∧ journal.terminalEvidenceSha256 ≠ none ∧
      journal.abortEvidenceSha256 = none
  aborted : journal.phase = .maintenanceAborted → journal.targetBackend = none ∧
    journal.selectedGenerationId = none ∧ journal.terminalEvidenceSha256 = none ∧
      journal.abortEvidenceSha256 ≠ none

theorem parseSelections_ok {selection parsed : Option BackendCutoverSetAnySelection}
    (accepted : selection.mapM (parseBackendCutoverSetAnySelection platform manifest) = .ok parsed) :
    parsed = selection ∧ ∀ tuple ∈ selection,
      parseBackendCutoverSetAnySelection platform manifest tuple = .ok tuple := by
  cases selection with
  | none =>
      cases accepted
      exact ⟨rfl, fun _ inside => absurd inside (Option.not_mem_none _)⟩
  | some tuple =>
      obtain ⟨read, readTuple, rfl⟩ := Except.map_eq_ok.mp accepted
      obtain ⟨rfl, _⟩ := parseAnySelection_ok readTuple
      refine ⟨rfl, fun other inside => ?_⟩
      cases inside
      exact readTuple

theorem parseBackendCutoverSet_iff {parsed : BackendCutoverSet} :
    parseBackendCutoverSet platform cutoverSet = .ok parsed ↔ parsed = cutoverSet ∧
      parseBackendCutoverSetManifest cutoverSet.manifest = .ok cutoverSet.manifest ∧
      parseCutoverSetBindings platform cutoverSet.bindings cutoverSet.manifest = .ok cutoverSet.bindings ∧
      ∀ selection ∈ cutoverSet.selection,
        parseBackendCutoverSetAnySelection platform cutoverSet.manifest selection = .ok selection := by
  simp only [parseBackendCutoverSet, Except.bind_eq_ok, Except.pure_eq_ok]
  constructor
  · rintro ⟨manifest, readManifest, bindings, readBindings, selection, readSelection, rfl⟩
    obtain ⟨rfl, _⟩ := parseManifest_ok readManifest
    obtain ⟨rfl, _⟩ := parseCutoverSetBindings_ok readBindings
    obtain ⟨rfl, each⟩ := parseSelections_ok readSelection
    exact ⟨rfl, readManifest, readBindings, each⟩
  · rintro ⟨rfl, readManifest, readBindings, each⟩
    refine ⟨_, readManifest, _, readBindings, _, ?_, rfl⟩
    cases stored : parsed.selection with
    | none => rfl
    | some tuple => exact Except.map_eq_ok.mpr ⟨tuple, each tuple stored, rfl⟩

/-- The journals of sets that the parser accepts are those that read back. -/
theorem parseMaintenanceJournal_iff {parsed : BackendMaintenanceJournal}
    (stored : journal.cutoverSet = some cutoverSet) :
    parseMaintenanceJournal platform journal = .ok parsed ↔
      parsed = journal ∧ ReadsBack platform journal cutoverSet := by
  simp only [parseMaintenanceJournal, Except.bind_eq_ok, refuse_ok, Except.pure_eq_ok, not_or, not_not,
    parseJournalSet, stored, not_and, ne_eq]
  constructor
  · rintro ⟨_, ⟨_, checksum⟩, _, fields, roster, readRoster, _, ⟨set, readSet, restates⟩, _, held, _,
      selected, _, aborted, rfl⟩
    obtain ⟨rfl, readManifest, readBindings, readSelection⟩ := parseBackendCutoverSet_iff.mp readSet
    exact ⟨rfl, stored, checksum, fields, ⟨roster, readRoster⟩, readManifest, readBindings, readSelection,
      restates, held, selected, aborted⟩
  · rintro ⟨rfl, reads⟩
    obtain ⟨roster, readRoster⟩ := reads.roster
    refine ⟨(), ⟨?_, reads.checksum⟩, (), reads.fields, roster, readRoster, (), ⟨cutoverSet, ?_, reads.restates⟩,
      (), reads.held, (), reads.selected, (), reads.aborted, rfl⟩
    · rw [← reads.checksum]
      exact platform.isHash_sha256 _
    · exact parseBackendCutoverSet_iff.mpr ⟨rfl, reads.manifest, reads.bindings, reads.selection⟩

/-- What the set of a journal fixes of its other fields. -/
theorem assertCutoverSetJournal_iff :
    assertCutoverSetJournal platform journal cutoverSet = .ok () ↔
      journal.generationId = cutoverSet.manifest.setId ∧ journal.publicationId = cutoverSet.manifest.setId ∧
      journal.sourceSelectionSha256 = backendCutoverSetManifestSha256 platform cutoverSet.manifest ∧
      journal.queueEvidenceSha256 = backendCutoverSetQueueEvidenceSha256 platform cutoverSet.bindings ∧
      journal.roster = backendCutoverSetEntryRoster platform cutoverSet.manifest ∧
      isSelectionPhase journal.phase = cutoverSet.selection.isSome ∧
      ∀ selection ∈ cutoverSet.selection, journal.sourceBackend = selection.sourceBackend ∧
        journal.targetBackend = some selection.targetBackend ∧
        journal.selectedGenerationId = some cutoverSet.manifest.setId ∧
        journal.terminalEvidenceSha256 = some selection.checksumSha256 := by
  simp only [assertCutoverSetJournal, refuse_ok, not_or, not_not, ne_eq, not_exists, not_and]

theorem hasMaintenanceFields_iff :
    hasMaintenanceFields platform journal = true ↔ isPublicationId journal.publicationId = true ∧
      platform.isDate journal.createdAt = true ∧ platform.isDate journal.updatedAt = true ∧
      isPublicationId journal.generationId = true ∧ isHash journal.sourceSelectionSha256 = true ∧
      isHash journal.queueEvidenceSha256 = true ∧
      (∀ value ∈ journal.selectedGenerationId, isPublicationId value = true) ∧
      (∀ value ∈ journal.terminalEvidenceSha256, isHash value = true) ∧
      ∀ value ∈ journal.abortEvidenceSha256, isHash value = true := by
  simp only [hasMaintenanceFields, Bool.and_eq_true, Option.all_eq_true, and_assoc, Option.mem_def]

/-- A journal that reads back restates its set. -/
theorem ReadsBack.toRestates (reads : ReadsBack platform journal cutoverSet)
    (createdAt : isIsoTimestamp journal.createdAt = true)
    (updatedAt : isIsoTimestamp journal.updatedAt = true) : Restates journal cutoverSet := by
  obtain ⟨generationId, publicationId, _, _, roster, phase, tuple⟩ :=
    assertCutoverSetJournal_iff.mp reads.restates
  obtain ⟨_, _, _, _, source, queue, _, terminalHash, abortHash⟩ := hasMaintenanceFields_iff.mp reads.fields
  refine ⟨⟨reads.stored, ?_, publicationId, generationId, isIsoTimestamp_within createdAt,
    isIsoTimestamp_within updatedAt, source, queue, ?_, ⟨_, platform.isHash_sha256 _, roster⟩⟩, ?_, ?_⟩
  · exact ⟨(parseManifest_ok reads.manifest).2, (parseCutoverSetBindings_ok reads.bindings).2,
      fun selection inside => (parseAnySelection_ok (reads.selection selection inside)).2⟩
  · rw [← reads.checksum]
    exact platform.isHash_sha256 _
  · intro unselected
    rw [unselected, Option.isSome_none] at phase
    by_cases aborted : journal.phase = .maintenanceAborted
    · obtain ⟨target, selectedId, terminal, abort⟩ := reads.aborted aborted
      obtain ⟨evidence, same⟩ := Option.ne_none_iff_exists'.mp abort
      exact ⟨target, selectedId, terminal, .inr ⟨aborted, evidence, abortHash evidence same, same⟩⟩
    · have open' : journal.phase ∈ [.maintenanceEntering, .maintenanceHeld] := by
        revert phase aborted
        cases journal.phase <;> decide
      obtain ⟨target, selectedId, terminal, abort⟩ := reads.held open'
      exact ⟨target, selectedId, terminal, .inl ⟨open', abort⟩⟩
  · intro selection chosen
    rw [chosen, Option.isSome_some] at phase
    obtain ⟨backend, target, selectedId, terminal⟩ := tuple selection chosen
    have abort := (reads.selected phase).2.2.2
    exact ⟨phase, backend, target, selectedId, abort, _, terminalHash _ terminal, terminal⟩

section Steps

variable (now : IsoTimestamp)

theorem isDate_now : platform.isDate now.1 = true := platform.isDate_timestamp now

/-- What a set must be to be entered. -/
structure EntryOf (platform : MaintenancePlatform) (input : EnterBackendMaintenanceInput)
    (cutoverSet : BackendCutoverSet) : Prop where
  stored : input.cutoverSet = some cutoverSet
  fields : isHash input.sourceSelectionSha256 = true ∧ isHash input.queueEvidenceSha256 = true ∧
    input.now ≠ some none
  roster : ∃ parsed, parseMaintenanceRoster platform input.roster = .ok parsed
  read : parseBackendCutoverSet platform cutoverSet = .ok cutoverSet
  publicationId : input.publicationId = cutoverSet.manifest.setId
  generationId : input.generationId = cutoverSet.manifest.setId
  sourceSelectionSha256 :
    input.sourceSelectionSha256 = backendCutoverSetManifestSha256 platform cutoverSet.manifest
  queueEvidenceSha256 :
    input.queueEvidenceSha256 = backendCutoverSetQueueEvidenceSha256 platform cutoverSet.bindings
  entryRoster : input.roster = backendCutoverSetEntryRoster platform cutoverSet.manifest
  fits : backendCutoverSetJournalCapacity cutoverSet ≤ maxJournalBytes

theorem validateEntry_ok {input : EnterBackendMaintenanceInput}
    (valid : validateEntry platform input = .ok (some cutoverSet)) : EntryOf platform input cutoverSet := by
  simp only [validateEntry, Except.bind_eq_ok, refuse_ok, not_or, not_not, Except.pure_eq_ok] at valid
  obtain ⟨_, ⟨_, _, source, queue, date⟩, roster, readRoster, sets, readSets, _, admitted, rfl⟩ := valid
  cases given : input.cutoverSet with
  | none =>
      rw [given] at readSets
      cases readSets
  | some raw =>
      rw [given] at readSets
      obtain ⟨parsed, read, same⟩ := Except.map_eq_ok.mp readSets
      cases same
      obtain ⟨rfl, _⟩ := parseBackendCutoverSet_iff.mp read
      have admitted : assertCutoverSetEntryInput platform input cutoverSet = .ok () := admitted
      simp only [assertCutoverSetEntryInput, Except.bind_eq_ok, refuse_ok, not_or, not_not, ne_eq] at admitted
      obtain ⟨_, ⟨publicationId, generationId, sourceSame, queueSame, rosterSame⟩, _, _, capacity⟩ := admitted
      refine ⟨given, ⟨source, queue, date⟩, ⟨roster, readRoster⟩, read, publicationId, generationId,
        sourceSame, queueSame, rosterSame, ?_⟩
      split at capacity
      · cases capacity
      · next small => exact Nat.not_lt.mp small

/-- The time of an entry is the text of a date. -/
theorem entered_timestamp (input : EnterBackendMaintenanceInput) (cutoverSet : Option BackendCutoverSet) :
    ∃ entered : IsoTimestamp, (enteringJournal platform input cutoverSet now).createdAt = entered.1 ∧
      (enteringJournal platform input cutoverSet now).updatedAt = entered.1 :=
  ⟨(input.now.getD none).getD now, rfl, rfl⟩

theorem EntryOf.readsBack {input : EnterBackendMaintenanceInput} (entry : EntryOf platform input cutoverSet)
    (unselected : cutoverSet.selection = none) :
    ReadsBack platform (enteringJournal platform input (some cutoverSet) now) cutoverSet := by
  obtain ⟨_, manifest, bindings, selection⟩ := parseBackendCutoverSet_iff.mp entry.read
  have setId := (parseManifest_ok manifest).2.setId
  have date : platform.isDate ((input.now.getD none).getD now).1 = true := platform.isDate_timestamp _
  refine ⟨rfl, rfl, ?_, entry.roster, manifest, bindings, selection, ?_, fun _ => ⟨rfl, rfl, rfl, rfl⟩,
    nofun, nofun⟩
  · have publication : isPublicationId input.publicationId = true := entry.publicationId ▸ setId
    have generation : isPublicationId input.generationId = true := entry.generationId ▸ setId
    exact hasMaintenanceFields_iff.mpr ⟨publication, date, date, generation, entry.fields.1, entry.fields.2.1,
      nofun, nofun, nofun⟩
  · refine assertCutoverSetJournal_iff.mpr ⟨entry.generationId, entry.publicationId,
      entry.sourceSelectionSha256, entry.queueEvidenceSha256, entry.entryRoster, ?_, ?_⟩
    · rw [unselected]
      rfl
    · rw [unselected]
      exact nofun

/-- A change of the phase that stays among the phases with or without a selection. -/
theorem ReadsBack.withPhase (reads : ReadsBack platform journal cutoverSet) (phase : MaintenancePhase)
    (abort : Option JsString) (same : isSelectionPhase phase = isSelectionPhase journal.phase)
    (aborting : phase = .maintenanceAborted ↔ abort ≠ none) (hash : ∀ value ∈ abort, isHash value = true)
    (held : isSelectionPhase phase = false → journal.phase ∈ [.maintenanceEntering, .maintenanceHeld]) :
    ReadsBack platform (withMaintenanceChecksum platform
      { journal with phase := phase, abortEvidenceSha256 := abort, updatedAt := now.1 }) cutoverSet := by
  obtain ⟨generationId, publicationId, source, queue, roster, selecting, tuple⟩ :=
    assertCutoverSetJournal_iff.mp reads.restates
  obtain ⟨publication, createdAt, _, generation, sourceHash, queueHash, selectedId, terminalHash, _⟩ :=
    hasMaintenanceFields_iff.mp reads.fields
  refine ⟨reads.stored, rfl, ?_, reads.roster, reads.manifest, reads.bindings, reads.selection, ?_, ?_, ?_, ?_⟩
  · exact hasMaintenanceFields_iff.mpr ⟨publication, createdAt, platform.isDate_timestamp now, generation,
      sourceHash, queueHash, selectedId, terminalHash, hash⟩
  · exact assertCutoverSetJournal_iff.mpr ⟨generationId, publicationId, source, queue, roster,
      same.trans selecting, tuple⟩
  · intro open'
    have plain : isSelectionPhase phase = false := by
      rcases List.mem_pair.mp open' with phase | phase <;> exact congrArg isSelectionPhase phase
    have unaborted : abort = none := by
      by_contra other
      rcases List.mem_pair.mp open' with phase | phase
      · cases phase.symm.trans (aborting.mpr other)
      · cases phase.symm.trans (aborting.mpr other)
    obtain ⟨target, selected, terminal, _⟩ := reads.held (held plain)
    exact ⟨target, selected, terminal, unaborted⟩
  · intro selecting
    have unaborted : abort = none := by
      by_contra other
      have selecting : isSelectionPhase phase = true := selecting
      rw [aborting.mpr other] at selecting
      cases selecting
    obtain ⟨target, selected, terminal, _⟩ := reads.selected (same.symm.trans selecting)
    exact ⟨target, selected, terminal, unaborted⟩
  · intro aborted
    have aborted : phase = .maintenanceAborted := aborted
    obtain ⟨target, selected, terminal, _⟩ := reads.held (held (congrArg isSelectionPhase aborted))
    exact ⟨target, selected, terminal, aborting.mp aborted⟩

theorem rebound_readsBack {input : RebindBackendMaintenanceInput} {next : BackendMaintenanceJournal}
    (reads : ReadsBack platform journal cutoverSet) (phase : journal.phase = .maintenanceHeld)
    (rebound : reboundCutoverSetJournal platform journal cutoverSet input now = .ok next) :
    ∃ set : BackendCutoverSet, ReadsBack platform next set ∧ set.manifest = cutoverSet.manifest ∧
      set.bindings.map (·.generationId) = cutoverSet.bindings.map (·.generationId) ∧ set.selection = none ∧
      next.createdAt = journal.createdAt ∧ next.updatedAt = now.1 := by
  obtain ⟨set, read, same⟩ := Except.bind_eq_ok.mp rebound
  cases same
  obtain ⟨rfl, manifest, bindings, selection⟩ := parseBackendCutoverSet_iff.mp read
  obtain ⟨generationId, publicationId, source, _, roster, _, _⟩ := assertCutoverSetJournal_iff.mp reads.restates
  obtain ⟨publication, createdAt, _, generation, sourceHash, _, selectedId, terminalHash, abortHash⟩ :=
    hasMaintenanceFields_iff.mp reads.fields
  refine ⟨_, ⟨rfl, rfl, ?_, reads.roster, manifest, bindings, selection, ?_, reads.held, reads.selected,
    reads.aborted⟩, rfl, ?_, rfl, rfl, rfl⟩
  · exact hasMaintenanceFields_iff.mpr ⟨publication, createdAt, platform.isDate_timestamp now, generation,
      sourceHash, platform.isHash_sha256 _, selectedId, terminalHash, abortHash⟩
  · exact assertCutoverSetJournal_iff.mpr ⟨generationId, publicationId, source, rfl, roster,
      congrArg isSelectionPhase phase, nofun⟩
  · rw [List.map_map]
    refine List.map_congr_left fun binding _ => ?_
    rw [Function.comp_apply]
    split
    · next same => exact same.symm
    · rfl

/-- The journal of a prepared selection. -/
def preparedJournal (platform : MaintenancePlatform) (journal : BackendMaintenanceJournal)
    (input : PrepareBackendMaintenanceSelectionInput) (cutoverSet : Option BackendCutoverSet)
    (now : IsoTimestamp) : BackendMaintenanceJournal :=
  withMaintenanceChecksum platform
    { journal with
      phase := .selectionPrepared
      targetBackend := some input.targetBackend
      selectedGenerationId := some input.generationId
      terminalEvidenceSha256 := some input.terminalEvidenceSha256
      updatedAt := now.1
      cutoverSet := cutoverSet }

theorem prepared_readsBack {input : PrepareBackendMaintenanceSelectionInput}
    {prepared : Option BackendCutoverSet} (reads : ReadsBack platform journal cutoverSet)
    (phase : journal.phase = .maintenanceHeld) (given : input.cutoverSetSelection ≠ none)
    (terminal : isHash input.terminalEvidenceSha256 = true)
    (chosen : isPublicationId input.generationId = true)
    (same : journal.generationId = input.generationId)
    (prepares : prepareSelection platform journal input = .ok prepared) :
    ∃ set : BackendCutoverSet, prepared = some set ∧ set.manifest = cutoverSet.manifest ∧
      set.bindings = cutoverSet.bindings ∧ set.selection = input.cutoverSetSelection ∧
      ReadsBack platform (preparedJournal platform journal input prepared now) set := by
  obtain ⟨tuple, givenTuple⟩ := Option.ne_none_iff_exists'.mp given
  rw [prepareSelection, reads.stored, givenTuple] at prepares
  dsimp only at prepares
  split at prepares
  · cases prepares
  · next selection read =>
      obtain ⟨rfl, _⟩ := parseAnySelection_ok read
      simp only [Except.bind_eq_ok, refuse_ok, not_or, not_not, Except.pure_eq_ok] at prepares
      obtain ⟨_, ⟨setId, target, evidence, backend⟩, rfl⟩ := prepares
      obtain ⟨generationId, publicationId, source, queue, roster, _, _⟩ :=
        assertCutoverSetJournal_iff.mp reads.restates
      obtain ⟨publication, createdAt, _, generation, sourceHash, queueHash, _, _, _⟩ :=
        hasMaintenanceFields_iff.mp reads.fields
      have abort : journal.abortEvidenceSha256 = none :=
        (reads.held (List.mem_pair.mpr (.inr phase))).2.2.2
      refine ⟨_, rfl, rfl, rfl, givenTuple.symm, rfl, rfl, ?_, reads.roster, reads.manifest, reads.bindings, ?_,
        ?_, ?_, ?_, ?_⟩
      · refine hasMaintenanceFields_iff.mpr ⟨publication, createdAt, platform.isDate_timestamp now, generation,
          sourceHash, queueHash, ?_, ?_, ?_⟩
        · rintro _ ⟨⟩
          exact chosen
        · rintro _ ⟨⟩
          exact terminal
        · rintro value inside
          have inside : journal.abortEvidenceSha256 = some value := inside
          rw [abort] at inside
          cases inside
      · rintro _ ⟨⟩
        exact read
      · refine assertCutoverSetJournal_iff.mpr ⟨generationId, publicationId, source, queue, roster, rfl, ?_⟩
        rintro _ ⟨⟩
        exact ⟨backend, congrArg some target, congrArg some (same.symm.trans generationId),
          congrArg some evidence⟩
      · intro inside
        have unprepared : MaintenancePhase.selectionPrepared ∉
            [MaintenancePhase.maintenanceEntering, .maintenanceHeld] := by decide
        exact absurd inside unprepared
      · exact fun _ => ⟨Option.some_ne_none _, congrArg some same.symm, Option.some_ne_none _, abort⟩
      · intro same
        cases same

end Steps

end Lcm.Cutover
