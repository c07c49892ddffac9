import Lcm.Cutover.CapacityBound

namespace Lcm.Cutover
open Text Publication Interruptible Except

variable {platform : MaintenancePlatform} {file : Option BackendMaintenanceJournal}
  {cutoverSet : BackendCutoverSet} {journal next : BackendMaintenanceJournal} {beyond : Prop}

section Calls

variable (now : IsoTimestamp)

theorem reboundJournal_avoids {input : RebindBackendMaintenanceInput} :
    Avoids InvalidInput (reboundJournal platform journal input now) := by
  unfold reboundJournal
  split
  · exact Avoids.ok _
  · exact (parseBackendCutoverSet_avoids _).bind fun _ _ => Avoids.ok _

/-- A rebound journal keeps the manifest and the generations of its set. -/
theorem rebound_draft {input : RebindBackendMaintenanceInput} (kept : Kept platform (some journal))
    (phase : journal.phase = .maintenanceHeld)
    (rebound : reboundJournal platform journal input now = .ok next) (set : BackendCutoverSet)
    (stored : next.cutoverSet = some set) : Draft platform next set ∧ set.selection = none := by
  unfold reboundJournal at rebound
  split at rebound
  · next unset =>
      cases rebound
      cases unset.symm.trans stored
  · next old found =>
      obtain ⟨draft, _⟩ := kept journal old rfl found
      obtain ⟨made, reads, manifest, generations, unselected, createdAt, updatedAt⟩ :=
        rebound_readsBack now draft.reads phase rebound
      obtain rfl : set = made := Option.some.inj (stored.symm.trans reads.stored)
      obtain ⟨input, accepted, valid, sameManifest, sameGenerations⟩ := draft.entered
      refine ⟨⟨reads, ?_, ?_, input, accepted, valid, sameManifest.trans manifest.symm,
        sameGenerations.trans generations.symm⟩, unselected⟩
      · rw [createdAt]
        exact draft.createdAt
      · rw [updatedAt]
        exact now.2

theorem rebind_meets (input : RebindBackendMaintenanceInput) (kept : Kept platform file) :
    Meets (rebindBackendMaintenanceCutoff platform input now) file (fun _ later => Kept platform later)
      (Halts platform beyond) := by
  refine Meets.bind (require_meets kept) ?_
  rintro journal _ ⟨rfl, rfl⟩
  apply meets_bind
  apply meets_check kept
  · exact fun failed => absurd rfl (spares (parseMaintenanceRoster_avoids _) _ failed)
  intro _ _
  split
  · exact meets_fault ⟨kept, fun same => absurd (Stop.fault.inj same) (by decide)⟩
  · next view chosen =>
      obtain ⟨_, binds⟩ := Option.filter_eq_some_iff.mp chosen
      have binds : bindsView journal input view := of_decide_eq_true binds
      split
      · exact meets_pure kept
      · apply meets_bind
        apply meets_check kept
        · exact fun failed => absurd rfl (spares (reboundJournal_avoids now) _ failed)
        intro bound rebound
        have drafts := rebound_draft now kept binds.1 rebound
        refine (write_meets bound kept (fun set stored => (drafts set stored).1) ?_).mono
          (fun _ _ written => written.2.2) fun _ _ => id
        intro set stored large
        obtain ⟨draft, unselected⟩ := drafts set stored
        refine absurd large (Nat.not_lt.mpr (draft.fits fun selection => ?_))
        rw [unselected]
        exact nofun

theorem prepareSelection_avoids {input : PrepareBackendMaintenanceSelectionInput} :
    Avoids (· = cutoverSetTooLarge) (prepareSelection platform journal input) := by
  have different : ∀ message : String,
      "backend cutover-set selection tuple is malformed: " ++ message ≠
        "cutover-set-too-large: the set journal would exceed the readable journal size" := by
    intro message same
    have first := congrArg (fun text => text.toList.head?) same
    rw [String.toList_append, List.head?_append_of_ne_nil _ (by decide)] at first
    exact absurd first (by decide)
  unfold prepareSelection
  split
  · split
    · refine Avoids.error fun same => ?_
      exact different _ (PublicationFailure.journal.inj same).2
    · exact (avoids_refuse (by decide)).bind fun _ _ => Avoids.ok _
  · exact Avoids.ok _

/-- A journal whose selection is prepared is a draft, larger than its set's capacity only for a rollback. -/
theorem prepared_draft {input : PrepareBackendMaintenanceSelectionInput} {prepared : Option BackendCutoverSet}
    (kept : Kept platform (some journal)) (phase : journal.phase = .maintenanceHeld)
    (tuple : ¬ (journal.cutoverSet ≠ none ∧ input.cutoverSetSelection = none))
    (terminal : isHash input.terminalEvidenceSha256 = true)
    (chosen : isPublicationId input.generationId = true)
    (same : journal.generationId = input.generationId)
    (prepares : prepareSelection platform journal input = .ok prepared) (set : BackendCutoverSet)
    (stored : prepared = some set) :
    Draft platform (preparedJournal platform journal input prepared now) set ∧
      ∃ old, journal.cutoverSet = some old ∧ set.selection = input.cutoverSetSelection ∧
        worstBytes set set.selection = worstBytes old set.selection := by
  cases found : journal.cutoverSet with
  | none =>
      rw [prepareSelection, found] at prepares
      cases prepares
      cases stored
  | some old =>
      obtain ⟨draft, _⟩ := kept journal old rfl found
      have given : input.cutoverSetSelection ≠ none := by
        intro missing
        refine tuple ⟨?_, missing⟩
        rw [found]
        exact Option.some_ne_none _
      obtain ⟨made, rfl, manifest, bindings, selection, reads⟩ :=
        prepared_readsBack now draft.reads phase given terminal chosen same prepares
      cases stored
      obtain ⟨entry, accepted, valid, sameManifest, sameGenerations⟩ := draft.entered
      refine ⟨⟨reads, draft.createdAt, now.2, entry, accepted, valid, sameManifest.trans manifest.symm, ?_⟩,
        old, rfl, selection, ?_⟩
      · rw [bindings]
        exact sameGenerations
      · apply worstBytes_eq manifest
        rw [bindings]

theorem prepare_meets (input : PrepareBackendMaintenanceSelectionInput) (kept : Kept platform file) :
    Meets (prepareMaintenanceSelection platform input now) file (fun _ later => Kept platform later)
      (Halts platform (Beyond file (.prepare input now))) := by
  refine Meets.bind (require_meets kept) ?_
  rintro journal _ ⟨rfl, rfl⟩
  apply meets_bind
  apply meets_refuse kept (by decide)
  intro tuple
  apply meets_bind
  apply meets_refuse kept (by decide)
  intro _
  apply meets_bind
  apply meets_refuse kept (by decide)
  intro formed
  apply meets_bind
  apply meets_check kept
  · exact fun failed => absurd rfl (prepareSelection_avoids _ failed)
  intro prepared prepares
  apply meets_bind
  apply meets_refuse kept (by decide)
  intro current
  simp only [not_or, not_not, ne_eq] at formed current
  obtain ⟨phase, _, same⟩ := current
  have drafts := prepared_draft now kept phase tuple formed.2.1 formed.2.2 same prepares
  refine (write_meets (preparedJournal platform journal input prepared now) kept
    (fun set stored => (drafts set stored).1) ?_).mono (fun _ _ written => written.2.2) fun _ _ => id
  intro set stored large
  obtain ⟨draft, old, found, selection, bytes⟩ := drafts set stored
  by_cases rollback : ∃ tuple, set.selection = some (.rollback tuple)
  · obtain ⟨tuple, backward⟩ := rollback
    have most := draft.bytes_le
    rw [bytes, backward] at most
    exact ⟨journal, old, tuple, rfl, found, selection.symm.trans backward, Nat.lt_of_lt_of_le large most⟩
  · exact absurd large (Nat.not_lt.mpr (draft.fits fun tuple backward => rollback ⟨tuple, backward⟩))

theorem complete_meets (input : CompleteBackendMaintenanceSelectionInput) (kept : Kept platform file) :
    Meets (completeMaintenanceSelection platform input now) file (fun _ later => Kept platform later)
      (Halts platform (Beyond file (.complete input now))) := by
  refine Meets.bind (require_meets kept) ?_
  rintro journal _ ⟨rfl, rfl⟩
  apply meets_bind
  apply meets_refuse kept (by decide)
  intro _
  apply meets_bind
  apply meets_refuse kept (by decide)
  intro current
  simp only [not_or, not_not, ne_eq] at current
  have drafts : ∀ set, journal.cutoverSet = some set → Draft platform (withMaintenanceChecksum platform
      { journal with phase := .selectionCompleted, updatedAt := now.1 }) set := by
    intro set stored
    obtain ⟨draft, _⟩ := kept journal set rfl stored
    have selecting : isSelectionPhase journal.phase = true := by
      rw [current.1]
      rfl
    have abort := (draft.reads.selected selecting).2.2.2
    refine draft.later now (draft.reads.withPhase now .selectionCompleted journal.abortEvidenceSha256
      selecting.symm ?_ ?_ nofun) rfl rfl
    · rw [abort]
      exact ⟨nofun, fun other => absurd rfl other⟩
    · rw [abort]
      exact nofun
  refine (write_meets (withMaintenanceChecksum platform
    { journal with phase := .selectionCompleted, updatedAt := now.1 }) kept drafts ?_).mono
      (fun _ _ written => written.2.2) fun _ _ => id
  intro set stored large
  have draft := drafts set stored
  by_cases rollback : ∃ tuple, set.selection = some (.rollback tuple)
  · obtain ⟨tuple, backward⟩ := rollback
    have most := draft.bytes_le
    rw [backward] at most
    exact ⟨journal, set, tuple, rfl, stored, backward, Nat.lt_of_lt_of_le large most⟩
  · exact absurd large (Nat.not_lt.mpr (draft.fits fun tuple backward => rollback ⟨tuple, backward⟩))

/-- A hold that is aborted stays a draft, and has no selection. -/
theorem aborted_draft {evidence : JsString} (kept : Kept platform (some journal))
    (phase : journal.phase ∈ [.maintenanceEntering, .maintenanceHeld]) (formed : isHash evidence = true)
    (set : BackendCutoverSet) (stored : journal.cutoverSet = some set) :
    Draft platform (withMaintenanceChecksum platform
      { journal with
        phase := .maintenanceAborted
        abortEvidenceSha256 := some evidence
        updatedAt := now.1 }) set ∧ set.selection = none := by
  have unselecting : isSelectionPhase journal.phase = false := by
    rcases List.mem_pair.mp phase with entering | held
    · rw [entering]
      rfl
    · rw [held]
      rfl
  obtain ⟨draft, _⟩ := kept journal set rfl stored
  constructor
  · refine draft.later now (draft.reads.withPhase now .maintenanceAborted (some evidence)
      unselecting.symm ?_ ?_ fun _ => phase) rfl rfl
    · exact ⟨fun _ => Option.some_ne_none _, fun _ => rfl⟩
    · rintro _ ⟨⟩
      exact formed
  · have same := (assertCutoverSetJournal_iff.mp draft.reads.restates).2.2.2.2.2.1
    rw [unselecting] at same
    exact Option.isNone_iff_eq_none.mp (Option.isSome_eq_false_iff.mp same.symm)

theorem abort_meets (input : AbortBackendMaintenanceInput) (kept : Kept platform file) :
    Meets (abortMaintenance platform input now) file (fun _ later => Kept platform later)
      (Halts platform beyond) := by
  refine Meets.bind (require_meets kept) ?_
  rintro journal _ ⟨rfl, rfl⟩
  apply meets_bind
  apply meets_refuse kept (by decide)
  intro formed
  apply meets_bind
  apply meets_refuse kept (by decide)
  intro current
  simp only [not_or, not_not, ne_eq, not_and] at formed current
  have phase : journal.phase ∈ [.maintenanceEntering, .maintenanceHeld] := by
    rw [List.mem_pair]
    by_cases held : journal.phase = .maintenanceHeld
    · exact .inr held
    · exact .inl (current.1 held)
  have drafts := aborted_draft now kept phase formed.2.2
  refine (write_meets (withMaintenanceChecksum platform
    { journal with
      phase := .maintenanceAborted
      abortEvidenceSha256 := some input.abortEvidenceSha256
      updatedAt := now.1 }) kept (fun set stored => (drafts set stored).1) ?_).mono
      (fun _ _ written => written.2.2) fun _ _ => id
  intro set stored large
  obtain ⟨draft, unselected⟩ := drafts set stored
  refine absurd large (Nat.not_lt.mpr (draft.fits fun selection => ?_))
  rw [unselected]
  exact nofun

end Calls

/-- Every call keeps its home kept, and is refused for a size only where it goes beyond a capacity. -/
theorem run_meets {request : MaintenanceRequest} (kept : Kept platform file)
    (unselected : UnselectedEntry platform file request) :
    Meets (request.run platform) file (fun _ later => Kept platform later)
      (Halts platform (Beyond file request)) := by
  cases request with
  | enter input now later => exact enter_meets now kept later unselected
  | rebind input now => exact rebind_meets now input kept
  | prepare input now => exact prepare_meets now input kept
  | complete input now => exact complete_meets now input kept
  | abort input now => exact abort_meets now input kept

/-- Runs that record no set with a selection tuple at its entry keep their home kept. -/
theorem kept_reachable (reached : ((maintenanceSystem platform).restrict
    fun file call => UnselectedEntry platform file call.1).Reachable file) : Kept platform file := by
  refine @StepSystem.Reachable.invariant _ _ _ (Kept platform) ?_ ?_ _ reached
  · rintro _ rfl journal cutoverSet same
    cases same
  · rintro before ⟨request, budget⟩ after _ kept ⟨unselected, rfl⟩
    exact ((run_meets kept unselected).mono (fun _ _ => id) fun _ _ => And.left).last budget

/-- The bindings of an accepted set follow the members of its manifest. -/
theorem generations_eq {manifest : BackendCutoverSetManifest} {bindings : List BackendCutoverSetBinding}
    (read : parseCutoverSetBindings platform bindings manifest = .ok bindings) :
    bindings.map (·.generationId) = manifest.members.map (·.generationId) := by
  have formed := (parseCutoverSetBindings_ok read).2
  have same : List.Forall₂ (fun left right => left = right) (bindings.map (·.generationId))
      (manifest.members.map (·.generationId)) := by
    rw [List.forall₂_map_left_iff, List.forall₂_map_right_iff]
    exact formed.imp fun _ _ binding => binding.generationId
  exact List.forall₂_eq_eq_eq ▸ same

/-- A journal of a set keeps within the capacity of every accepted set of its manifest. -/
theorem Draft.capacity (draft : Draft platform journal cutoverSet) {input : EnterBackendMaintenanceInput}
    {accepted : BackendCutoverSet} (valid : validateEntry platform input = .ok (some accepted))
    (same : accepted.manifest = cutoverSet.manifest) :
    journalBytes journal ≤ worstBytes accepted cutoverSet.selection := by
  have bindings := (parseBackendCutoverSet_iff.mp (validateEntry_ok valid).read).2.2.1
  rw [worstBytes_eq same]
  · exact draft.bytes_le
  · rw [generations_eq bindings, generations_eq draft.reads.bindings, same]

theorem Draft.read (draft : Draft platform journal cutoverSet)
    (small : journalBytes journal ≤ maxJournalBytes) :
    readMaintenanceJournal platform (some journal) = .ok (some journal) := by
  have parses : parseMaintenanceJournal platform journal = .ok journal :=
    (parseMaintenanceJournal_iff draft.reads.stored).mpr ⟨rfl, draft.reads⟩
  simp only [readMaintenanceJournal, Except.bind_eq_ok, refuse_ok]
  exact ⟨(), Nat.not_lt.mpr small, Except.map_eq_ok.mpr ⟨journal, parses, rfl⟩⟩

end Lcm.Cutover
