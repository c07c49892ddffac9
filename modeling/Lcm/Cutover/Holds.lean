import Lcm.Cutover.Entries

namespace Lcm.Cutover
open Text Publication Interruptible Except

variable {platform : MaintenancePlatform} {file : Option BackendMaintenanceJournal}
  {journal next before middle after : BackendMaintenanceJournal}

/-- The phases that a hold can still come to. -/
def laterPhases : MaintenancePhase → List MaintenancePhase
  | .maintenanceEntering => [.maintenanceEntering, .maintenanceHeld, .selectionPrepared, .selectionCompleted,
      .maintenanceAborted]
  | .maintenanceHeld => [.maintenanceHeld, .selectionPrepared, .selectionCompleted, .maintenanceAborted]
  | .selectionPrepared => [.selectionPrepared, .selectionCompleted]
  | .selectionCompleted => [.selectionCompleted]
  | .maintenanceAborted => [.maintenanceAborted]

/-- One journal of a hold after another. -/
structure Advances (before after : BackendMaintenanceJournal) : Prop where
  phase : after.phase ∈ laterPhases before.phase
  publicationId : after.publicationId = before.publicationId
  generationId : after.generationId = before.generationId
  createdAt : after.createdAt = before.createdAt
  sourceBackend : after.sourceBackend = before.sourceBackend
  sourceSelectionSha256 : after.sourceSelectionSha256 = before.sourceSelectionSha256
  manifest : after.cutoverSet.map (·.manifest) = before.cutoverSet.map (·.manifest)
  selected : isSelectionPhase before.phase = true → after.targetBackend = before.targetBackend ∧
    after.selectedGenerationId = before.selectedGenerationId ∧
      after.terminalEvidenceSha256 = before.terminalEvidenceSha256 ∧ after.cutoverSet = before.cutoverSet
  ended : isTerminalMaintenancePhase before.phase = true → after = before

theorem laterPhases_trans {first second third : MaintenancePhase} (between : second ∈ laterPhases first)
    (beyond : third ∈ laterPhases second) : third ∈ laterPhases first := by
  revert between beyond
  cases first <;> cases second <;> cases third <;> decide

theorem laterPhases_selected {first second : MaintenancePhase} (later : second ∈ laterPhases first)
    (selected : isSelectionPhase first = true) : isSelectionPhase second = true := by
  revert later selected
  cases first <;> cases second <;> decide

theorem Advances.refl (journal : BackendMaintenanceJournal) : Advances journal journal where
  phase := by cases journal.phase <;> decide
  publicationId := rfl
  generationId := rfl
  createdAt := rfl
  sourceBackend := rfl
  sourceSelectionSha256 := rfl
  manifest := rfl
  selected _ := ⟨rfl, rfl, rfl, rfl⟩
  ended _ := rfl

theorem Advances.trans (first : Advances before middle) (second : Advances middle after) :
    Advances before after where
  phase := laterPhases_trans first.phase second.phase
  publicationId := second.publicationId.trans first.publicationId
  generationId := second.generationId.trans first.generationId
  createdAt := second.createdAt.trans first.createdAt
  sourceBackend := second.sourceBackend.trans first.sourceBackend
  sourceSelectionSha256 := second.sourceSelectionSha256.trans first.sourceSelectionSha256
  manifest := second.manifest.trans first.manifest
  selected selected := by
    obtain ⟨target, generation, evidence, set⟩ := first.selected selected
    obtain ⟨nextTarget, nextGeneration, nextEvidence, nextSet⟩ :=
      second.selected (laterPhases_selected first.phase selected)
    exact ⟨nextTarget.trans target, nextGeneration.trans generation, nextEvidence.trans evidence,
      nextSet.trans set⟩
  ended ended := by
    have same := first.ended ended
    subst same
    exact second.ended ended

/-- What a call makes of the file: its hold goes on, or one is opened where none is left open. -/
def Follows (file later : Option BackendMaintenanceJournal) : Prop :=
  later = file ∨ ∃ last, later = some last ∧ ((∃ first ∈ file, Advances first last) ∨
    (∀ first ∈ file, isTerminalMaintenancePhase first.phase = true) ∧
      ∃ opened, opened.phase = .maintenanceEntering ∧ Advances opened last)

theorem Advances.follows (advances : Advances journal next) : Follows (some journal) (some next) :=
  .inr ⟨next, rfl, .inl ⟨journal, rfl, advances⟩⟩

/-- A write leaves the file as it was, or puts its journal there. -/
theorem write_either {expected : Option JsString} {replaceTerminal : Bool}
    {holds : Option BackendMaintenanceJournal → Prop} (stays : holds file) (written : holds (some next)) :
    Meets (writeMaintenanceJournal platform next expected replaceTerminal) file
      (fun result later => result = next ∧ later = some next ∧ holds later) (fun _ => holds) := by
  apply meets_effect
  · exact stays
  · intro result later acted
    split at acted
    · cases acted
      exact ⟨rfl, rfl, written⟩
    · cases acted
  · intro failure later acted
    split at acted
    · cases acted
    · cases acted
      exact stays

theorem advance_follows {expected : Option JsString} {replaceTerminal : Bool}
    (advances : Advances journal next) :
    Meets (writeMaintenanceJournal platform next expected replaceTerminal) (some journal)
      (fun _ => Follows (some journal)) (fun _ => Follows (some journal)) :=
  (write_either (.inl rfl) advances.follows).mono (fun _ _ ended => ended.2.2) fun _ _ => id

/-- A call on the journal of a home reads it first. -/
theorem require_follows {program : BackendMaintenanceJournal → Maintenance BackendMaintenanceJournal}
    (follows : ∀ journal, file = some journal →
      Meets (program journal) file (fun _ => Follows file) (fun _ => Follows file)) :
    Meets (requireMaintenanceJournal platform >>= program) file (fun _ => Follows file)
      (fun _ => Follows file) := by
  apply meets_bind
  rw [requireMaintenanceJournal]
  apply meets_bind
  apply meets_look
  apply meets_bind
  refine meets_lift (fun found read => ?_) fun _ _ => .inl rfl
  obtain ⟨rfl, _⟩ := read_same read
  refine meets_lift (fun journal found => ?_) fun _ _ => .inl rfl
  split at found
  · cases found
  · cases found
    exact follows _ rfl

theorem accept_follows {Value Next : Type} {check : Except PublicationFailure Value}
    {program : Value → Maintenance Next}
    (follows : ∀ value, check = .ok value →
      Meets (program value) file (fun _ => Follows file) (fun _ => Follows file)) :
    Meets (lift check >>= program) file (fun _ => Follows file) (fun _ => Follows file) :=
  meets_bind (meets_lift follows fun _ _ => .inl rfl)

section Calls

variable (now : IsoTimestamp)

theorem held_advances (entering : journal.phase = .maintenanceEntering) :
    Advances journal (withMaintenanceChecksum platform
      { journal with phase := .maintenanceHeld, updatedAt := now.1 }) where
  phase := by
    rw [entering]
    exact (by decide : MaintenancePhase.maintenanceHeld ∈ laterPhases .maintenanceEntering)
  publicationId := rfl
  generationId := rfl
  createdAt := rfl
  sourceBackend := rfl
  sourceSelectionSha256 := rfl
  manifest := rfl
  selected selected := by
    rw [entering] at selected
    cases selected
  ended ended := by
    rw [entering] at ended
    cases ended

theorem rebound_advances {input : RebindBackendMaintenanceInput} (held : journal.phase = .maintenanceHeld)
    (rebound : reboundJournal platform journal input now = .ok next) : Advances journal next := by
  have unselected : isSelectionPhase journal.phase ≠ true := by
    rw [held]
    decide
  have unended : isTerminalMaintenancePhase journal.phase ≠ true := by
    rw [held]
    decide
  have phase : journal.phase ∈ laterPhases journal.phase := (Advances.refl journal).phase
  unfold reboundJournal at rebound
  split at rebound
  · next unset =>
      cases rebound
      exact ⟨phase, rfl, rfl, rfl, rfl, rfl, rfl, fun selected => absurd selected unselected,
        fun ended => absurd ended unended⟩
  · next cutoverSet stored =>
      obtain ⟨read, parsed, same⟩ := Except.bind_eq_ok.mp rebound
      obtain rfl := Except.pure_eq_ok.mp same
      obtain ⟨rfl, _⟩ := parseBackendCutoverSet_iff.mp parsed
      refine ⟨phase, rfl, rfl, rfl, rfl, rfl, ?_, fun selected => absurd selected unselected,
        fun ended => absurd ended unended⟩
      rw [stored]
      rfl

theorem prepareSelection_manifest {input : PrepareBackendMaintenanceSelectionInput}
    {prepared : Option BackendCutoverSet} (prepares : prepareSelection platform journal input = .ok prepared) :
    prepared.map (·.manifest) = journal.cutoverSet.map (·.manifest) := by
  unfold prepareSelection at prepares
  split at prepares
  · next cutoverSet tuple stored given =>
      split at prepares
      · cases prepares
      · obtain ⟨_, _, same⟩ := Except.bind_eq_ok.mp prepares
        obtain rfl := Except.pure_eq_ok.mp same
        rw [stored]
        rfl
  · rw [Except.pure_eq_ok.mp prepares]

theorem aborted_advances {evidence : JsString}
    (phase : journal.phase ∈ [.maintenanceEntering, .maintenanceHeld]) :
    Advances journal (withMaintenanceChecksum platform
      { journal with
        phase := .maintenanceAborted
        abortEvidenceSha256 := some evidence
        updatedAt := now.1 }) where
  phase := by
    have aborts : ∀ phase ∈ [MaintenancePhase.maintenanceEntering, .maintenanceHeld],
        MaintenancePhase.maintenanceAborted ∈ laterPhases phase := by decide
    exact aborts _ phase
  publicationId := rfl
  generationId := rfl
  createdAt := rfl
  sourceBackend := rfl
  sourceSelectionSha256 := rfl
  manifest := rfl
  selected selected := by
    rcases List.mem_pair.mp phase with phase | phase <;> rw [phase] at selected <;> cases selected
  ended ended := by
    rcases List.mem_pair.mp phase with phase | phase <;> rw [phase] at ended <;> cases ended

theorem enter_follows (input : EnterBackendMaintenanceInput) (later : IsoTimestamp) :
    Meets (enterMaintenance platform input now later) file (fun _ => Follows file) (fun _ => Follows file) := by
  apply meets_bind
  apply meets_look
  apply accept_follows
  intro found read
  obtain ⟨rfl, _⟩ := read_same read
  apply accept_follows
  intro cutoverSet valid
  split
  · next entering chosen =>
      obtain ⟨rfl, phase⟩ := Option.filter_eq_some_iff.mp chosen
      apply accept_follows
      intro _ _
      exact advance_follows (held_advances later (of_decide_eq_true phase))
  · next unentered =>
      apply accept_follows
      intro _ _
      apply accept_follows
      intro _ accepted
      have ended : ∀ first ∈ found, isTerminalMaintenancePhase first.phase = true := by
        intro first inside
        by_contra open'
        exact refuse_ok.mp accepted ⟨first, inside, open'⟩
      have opens : ∀ last, Advances (enteringJournal platform input cutoverSet now) last →
          Follows found (some last) := fun last advances =>
        .inr ⟨last, rfl, .inr ⟨ended, _, rfl, advances⟩⟩
      refine Meets.bind (write_either (.inl rfl) (opens _ (Advances.refl _))) ?_
      rintro _ _ ⟨rfl, rfl, opened⟩
      exact (write_either opened (opens _ (held_advances later rfl))).mono
        (fun _ _ ended => ended.2.2) fun _ _ => id

theorem rebind_follows (input : RebindBackendMaintenanceInput) :
    Meets (rebindBackendMaintenanceCutoff platform input now) file (fun _ => Follows file)
      (fun _ => Follows file) := by
  apply require_follows
  rintro journal rfl
  apply accept_follows
  intro _ _
  split
  · exact meets_fault (.inl rfl)
  · next view chosen =>
      obtain ⟨_, binds⟩ := Option.filter_eq_some_iff.mp chosen
      have binds : bindsView journal input view := of_decide_eq_true binds
      split
      · exact meets_pure (.inl rfl)
      · apply accept_follows
        intro bound rebound
        exact advance_follows (rebound_advances now binds.1 rebound)

theorem prepare_follows (input : PrepareBackendMaintenanceSelectionInput) :
    Meets (prepareMaintenanceSelection platform input now) file (fun _ => Follows file)
      (fun _ => Follows file) := by
  apply require_follows
  rintro journal rfl
  apply accept_follows
  intro _ _
  apply accept_follows
  intro _ _
  apply accept_follows
  intro _ _
  apply accept_follows
  intro cutoverSet prepares
  apply accept_follows
  intro _ accepted
  have held : journal.phase = .maintenanceHeld := by
    by_contra other
    exact refuse_ok.mp accepted (.inl other)
  apply advance_follows
  refine ⟨?_, rfl, rfl, rfl, rfl, rfl, prepareSelection_manifest prepares, ?_, ?_⟩
  · rw [held]
    exact (by decide : MaintenancePhase.selectionPrepared ∈ laterPhases .maintenanceHeld)
  · intro selected
    rw [held] at selected
    cases selected
  · intro ended
    rw [held] at ended
    cases ended

theorem complete_follows (input : CompleteBackendMaintenanceSelectionInput) :
    Meets (completeMaintenanceSelection platform input now) file (fun _ => Follows file)
      (fun _ => Follows file) := by
  apply require_follows
  rintro journal rfl
  apply accept_follows
  intro _ _
  apply accept_follows
  intro _ accepted
  have prepared : journal.phase = .selectionPrepared := by
    by_contra other
    exact refuse_ok.mp accepted (.inl other)
  apply advance_follows
  refine ⟨?_, rfl, rfl, rfl, rfl, rfl, rfl, fun _ => ⟨rfl, rfl, rfl, rfl⟩, ?_⟩
  · rw [prepared]
    exact (by decide : MaintenancePhase.selectionCompleted ∈ laterPhases .selectionPrepared)
  · intro ended
    rw [prepared] at ended
    cases ended

theorem abort_follows (input : AbortBackendMaintenanceInput) :
    Meets (abortMaintenance platform input now) file (fun _ => Follows file) (fun _ => Follows file) := by
  apply require_follows
  rintro journal rfl
  apply accept_follows
  intro _ _
  apply accept_follows
  intro _ accepted
  have phase : journal.phase ∈ [.maintenanceEntering, .maintenanceHeld] := by
    rw [List.mem_pair]
    by_contra other
    obtain ⟨entering, held⟩ := not_or.mp other
    exact refuse_ok.mp accepted (.inl ⟨held, entering⟩)
  exact advance_follows (aborted_advances now phase)

end Calls

/-- A journal that can be read is required. -/
theorem require_reads {stopped : Stop PublicationFailure → Option BackendMaintenanceJournal → Prop}
    (read : readMaintenanceJournal platform file = .ok (some journal)) :
    Meets (requireMaintenanceJournal platform) file (fun found later => found = journal ∧ later = file)
      stopped := by
  apply meets_bind
  apply meets_look
  apply meets_bind
  refine meets_lift (fun found same => ?_) (fun _ failed => ?_)
  · obtain rfl : some journal = found := Except.ok.inj (read.symm.trans same)
    exact meets_pure ⟨rfl, rfl⟩
  · cases read.symm.trans failed

/-- The journal that aborts a hold of a set is written. -/
theorem aborted_admitted {cutoverSet : BackendCutoverSet} {evidence : JsString} (now : IsoTimestamp)
    (kept : Kept platform (some journal)) (stored : journal.cutoverSet = some cutoverSet)
    (phase : journal.phase ∈ [.maintenanceEntering, .maintenanceHeld]) (formed : isHash evidence = true) :
    admitWrite platform (some journal) (withMaintenanceChecksum platform
      { journal with
        phase := .maintenanceAborted
        abortEvidenceSha256 := some evidence
        updatedAt := now.1 }) (some journal.checksumSha256) false = .ok () := by
  obtain ⟨draft, small⟩ := kept journal cutoverSet rfl stored
  obtain ⟨aborted, unselected⟩ := aborted_draft now kept phase formed cutoverSet stored
  have fits : assertCutoverSetJournalBytes (withMaintenanceChecksum platform
      { journal with
        phase := .maintenanceAborted
        abortEvidenceSha256 := some evidence
        updatedAt := now.1 }) = .ok () := by
    refine if_neg fun large => Nat.not_lt.mpr (aborted.fits fun selection => ?_) large.2
    rw [unselected]
    exact nofun
  rw [admitWrite, fits, draft.read small]
  exact refuse_ok.mpr fun changed => changed.2.elim (absurd rfl) (fun other => by cases other.1)

/-- A hold of a set is aborted by a call that names it, from any journal that a kept home has. -/
theorem kept_aborts {cutoverSet : BackendCutoverSet} {input : AbortBackendMaintenanceInput} (now : IsoTimestamp)
    (kept : Kept platform file) (found : file = some journal) (stored : journal.cutoverSet = some cutoverSet)
    (phase : journal.phase ∈ [.maintenanceEntering, .maintenanceHeld])
    (named : input.expectedChecksumSha256 = journal.checksumSha256 ∧
      input.sourceSelectionSha256 = journal.sourceSelectionSha256)
    (formed : isHash input.abortEvidenceSha256 = true) :
    Meets (abortMaintenance platform input now) file (fun aborted later =>
        later = some aborted ∧ aborted.phase = .maintenanceAborted ∧ Advances journal aborted)
      fun stop later => stop = .crash ∧ later = file := by
  obtain ⟨draft, small⟩ := kept journal cutoverSet found stored
  have read : readMaintenanceJournal platform file = .ok (some journal) := by
    rw [found]
    exact draft.read small
  have checksum : isHash journal.checksumSha256 = true := by
    rw [← draft.reads.checksum]
    exact platform.isHash_sha256 _
  have source : isHash journal.sourceSelectionSha256 = true :=
    (hasMaintenanceFields_iff.mp draft.reads.fields).2.2.2.2.1
  have admitted := aborted_admitted now (found ▸ kept) stored phase formed
  rw [← found] at admitted
  refine Meets.bind (require_reads read) ?_
  rintro _ _ ⟨rfl, rfl⟩
  apply meets_bind
  refine meets_lift (fun _ _ => ?_) (fun _ failed => ?_)
  · apply meets_bind
    refine meets_lift (fun _ _ => ?_) (fun _ failed => ?_)
    · refine meets_effect ⟨rfl, rfl⟩ (fun aborted later acted => ?_) (fun _ _ acted => ?_)
      · rw [admitted] at acted
        cases acted
        exact ⟨rfl, rfl, aborted_advances now phase⟩
      · rw [admitted] at acted
        cases acted
    · rw [refuse, if_neg] at failed
      · cases failed
      · simp only [named, not_or, not_and, not_not, ne_eq, and_true]
        intro unheld
        exact (List.mem_pair.mp phase).resolve_right unheld
  · rw [refuse, if_neg] at failed
    · cases failed
    · simp only [named, checksum, source, formed, not_true_eq_false, or_self, not_false_eq_true]

theorem run_follows (request : MaintenanceRequest) (budget : Option Nat) :
    Follows file (request.run platform file budget).2.1 := by
  cases request with
  | enter input now later => exact (enter_follows now input later).last budget
  | rebind input now => exact (rebind_follows now input).last budget
  | prepare input now => exact (prepare_follows now input).last budget
  | complete input now => exact (complete_follows now input).last budget
  | abort input now => exact (abort_follows now input).last budget

/-- A call on the file of a home, with the place at which it is interrupted. -/
def Called (platform : MaintenancePlatform) (file later : Option BackendMaintenanceJournal) : Prop :=
  ∃ request budget, (maintenanceSystem platform).step file (request, budget) later

/-- A hold of a set that a kept home has can be aborted. -/
theorem hold_aborts {cutoverSet : BackendCutoverSet} {input : AbortBackendMaintenanceInput} (now : IsoTimestamp)
    (kept : Kept platform file) (found : file = some journal) (stored : journal.cutoverSet = some cutoverSet)
    (phase : journal.phase ∈ [.maintenanceEntering, .maintenanceHeld])
    (named : input.expectedChecksumSha256 = journal.checksumSha256 ∧
      input.sourceSelectionSha256 = journal.sourceSelectionSha256)
    (formed : isHash input.abortEvidenceSha256 = true) :
    (∃ aborted, (maintenanceSystem platform).step file (.abort input now, none) (some aborted) ∧
      aborted.phase = .maintenanceAborted ∧ Advances journal aborted) ∧
    ∀ budget later, (maintenanceSystem platform).step file (.abort input now, budget) later →
      later = file ∨ ∃ aborted, later = some aborted ∧ aborted.phase = .maintenanceAborted ∧
        Advances journal aborted := by
  have aborts := kept_aborts now kept found stored phase named formed
  constructor
  · rcases aborts.uninterrupted with ⟨aborted, _, ran, rfl, ended, advances⟩ | ⟨_, _, _, _, other, _⟩
    · have last : some aborted = (abortMaintenance platform input now file none).2.1 := by rw [ran]
      exact ⟨aborted, last, ended, advances⟩
    · cases other
  · rintro budget later rfl
    have ends : Meets (abortMaintenance platform input now) file
        (fun _ later => later = file ∨ ∃ aborted, later = some aborted ∧
          aborted.phase = .maintenanceAborted ∧ Advances journal aborted)
        (fun _ later => later = file ∨ ∃ aborted, later = some aborted ∧
          aborted.phase = .maintenanceAborted ∧ Advances journal aborted) :=
      aborts.mono (fun aborted _ ended => .inr ⟨aborted, ended⟩) fun _ _ stopped => .inl stopped.2
    exact ends.last budget

/-- A run reaches the hold of the sample entry. -/
theorem sample_held : ∃ held : BackendMaintenanceJournal, held.phase = .maintenanceHeld ∧
    held.cutoverSet = some (sampleSet none) ∧ ((maintenanceSystem samplePlatform).restrict
      fun file call => UnselectedEntry samplePlatform file call.1).Reachable (some held) := by
  have valid := sampleEntry_valid none (List.mem_cons_self ..)
  obtain ⟨held, _, _, phase, stored, reached⟩ := plain_entry_reaches sampleTime sampleTime valid rfl rfl
  exact ⟨held, phase, stored, reached⟩

def sampleAbort (held : BackendMaintenanceJournal) : AbortBackendMaintenanceInput :=
  ⟨held.checksumSha256, held.sourceSelectionSha256, hex⟩

theorem sampleAbort_names (held : BackendMaintenanceJournal) :
    (sampleAbort held).expectedChecksumSha256 = held.checksumSha256 ∧
      (sampleAbort held).sourceSelectionSha256 = held.sourceSelectionSha256 := ⟨rfl, rfl⟩

theorem sampleAbort_formed (held : BackendMaintenanceJournal) :
    isHash (sampleAbort held).abortEvidenceSha256 = true := isHash_hex

/-- In runs that record no set with a selection tuple at its entry, an abort that names the hold of a set ends
it, and leaves it as it was or ended where it is interrupted. -/
theorem every_hold_aborts {cutoverSet : BackendCutoverSet} {input : AbortBackendMaintenanceInput}
    (now : IsoTimestamp)
    (reached : ((maintenanceSystem platform).restrict
      fun file call => UnselectedEntry platform file call.1).Reachable (some journal))
    (stored : journal.cutoverSet = some cutoverSet)
    (phase : journal.phase ∈ [.maintenanceEntering, .maintenanceHeld])
    (named : input.expectedChecksumSha256 = journal.checksumSha256 ∧
      input.sourceSelectionSha256 = journal.sourceSelectionSha256)
    (formed : isHash input.abortEvidenceSha256 = true) :
    (∃ aborted, (maintenanceSystem platform).step (some journal) (.abort input now, none) (some aborted) ∧
      aborted.phase = .maintenanceAborted ∧ Advances journal aborted) ∧
    ∀ budget later, (maintenanceSystem platform).step (some journal) (.abort input now, budget) later →
      later = some journal ∨ ∃ aborted, later = some aborted ∧ aborted.phase = .maintenanceAborted ∧
        Advances journal aborted :=
  hold_aborts now (kept_reachable reached) rfl stored phase named formed

theorem every_hold_aborts_sample : ∃ held aborted input, held.phase = .maintenanceHeld ∧
    (maintenanceSystem samplePlatform).step (some held) (.abort input sampleTime, none) (some aborted) ∧
    aborted.phase = .maintenanceAborted ∧ Advances held aborted := by
  obtain ⟨held, phase, stored, reached⟩ := sample_held
  obtain ⟨⟨aborted, moved, ended, advances⟩, _⟩ := every_hold_aborts sampleTime reached stored
    (List.mem_pair.mpr (.inr phase)) (sampleAbort_names held) (sampleAbort_formed held)
  exact ⟨held, aborted, sampleAbort held, phase, moved, ended, advances⟩

end Lcm.Cutover
