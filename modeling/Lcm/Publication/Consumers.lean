import Lcm.Publication.Runs

namespace Lcm.Publication
open Text Interruptible

variable {Digest Remote : Type} [DecidableEq Digest] {platform : PublicationPlatform Digest}
  {driver : PublicationDriver Digest Remote} {home : PublicationHome Digest Remote}
  {journal : PublicationJournal Digest}

/-- The calls that abort no publication before its material is sealed. -/
def KeepsEvidence (home : PublicationHome Digest Remote) : HomeAction Digest Remote → Prop :=
  HomeAction.Spares False True home

/-- Runs in which no abort takes the shortcut leave every home upright without it. -/
theorem restricted_upright
    (reached : ((publicationSystem platform).restrict KeepsEvidence).Reachable home) :
    Upright platform False True home := by
  apply reached.invariant
  · exact fun _ => start_upright
  · rintro before action after _ upright ⟨spares, rfl⟩
    exact upright.step spares

theorem PublicationPhase.terminal_cases {phase : PublicationPhase} (ended : phase.isTerminal = true) :
    phase = .completed ∨ phase = .aborted := by
  revert ended
  cases phase <;> decide

/-- The journal of a publication that has ended refers to its material. -/
theorem Sound.reference {shortcut late : Prop} (sound : Sound platform shortcut late home journal)
    (unspared : ¬ shortcut) (ended : journal.phase.isTerminal = true) :
    ∃ reference, journal.recoveryReference = some reference ∧
      reference.relativePath = materialPath journal.publicationId := by
  rcases PublicationPhase.terminal_cases ended with completed | aborted
  · exact sound.evidence .sealed (completed ▸ rfl)
  · obtain ⟨recorded, path⟩ := sound.evidence .recorded (aborted ▸ rfl)
    cases found : journal.recoveryReference with
    | none => exact (unspared (recorded found)).elim
    | some reference => exact ⟨reference, rfl, path reference found⟩

theorem Sound.inactive {shortcut late : Prop} (sound : Sound platform shortcut late home journal)
    (ended : journal.phase.isTerminal = true) (project : ProjectRecord Digest)
    (inside : project ∈ journal.projects) : activeFence project.fence = false := by
  rcases PublicationPhase.terminal_cases ended with completed | aborted
  · exact sound.evidence .inactive (completed ▸ rfl) project inside
  · exact sound.evidence .inactive (aborted ▸ rfl) project inside

/-- Only an aborted publication may have lost its material. -/
theorem Sound.terminalMaterial {shortcut late : Prop} (sound : Sound platform shortcut late home journal)
    (unspared : ¬ shortcut) (ended : journal.phase.isTerminal = true) :
    ∃ material, terminalMaterial platform home journal = .ok material := by
  have found : ∀ material, IsMaterial platform home journal material →
      ∃ material, Publication.terminalMaterial platform home journal = .ok material := by
    intro material is
    rw [Publication.terminalMaterial, authenticateMaterial_ok.mpr ⟨rfl, is⟩]
    exact ⟨some material, rfl⟩
  rcases PublicationPhase.terminal_cases ended with completed | aborted
  · obtain ⟨material, is⟩ := sound.evidence .material (completed ▸ rfl)
    exact found material is
  · rcases sound.evidence .cleaned (aborted ▸ rfl) with missing | ⟨material, is⟩
    · obtain ⟨reference, recorded, path⟩ := sound.reference unspared ended
      have unread : authenticateMaterial platform home journal = .error .missing := by
        apply authenticateMaterial_missing missing
        intro other same
        rw [recorded] at same
        cases same
        exact path
      rw [Publication.terminalMaterial, unread]
      exact ⟨none, if_pos ⟨aborted, rfl⟩⟩
    · exact found material is

/-- Consumers accept a publication that has ended. -/
theorem Sound.authenticated {shortcut late : Prop} (sound : Sound platform shortcut late home journal)
    (unspared : ¬ shortcut) (ended : journal.phase.isTerminal = true) :
    ∃ material, authenticateTerminalPublicationEvidence platform home journal = .ok material := by
  obtain ⟨material, read⟩ := sound.terminalMaterial unspared ended
  obtain ⟨reference, recorded, _⟩ := sound.reference unspared ended
  refine ⟨material, ?_⟩
  simp only [authenticateTerminalPublicationEvidence, Except.bind_eq_ok, refuse_ok, not_not, read,
    Except.pure_eq_ok]
  refine ⟨(), ended, (), ?_, (), ?_, material, rfl, (), ?_, rfl⟩
  · rw [recorded]
    simp
  · rw [Bool.not_eq_true, List.any_eq_false]
    intro project inside
    rw [sound.inactive ended project inside]
    simp
  · rintro ⟨completed, unpublished⟩
    rcases unpublished with config | projectMap
    · exact config (sound.evidence .configPublished (completed ▸ rfl))
    · exact projectMap (sound.evidence .mapPublished (completed ▸ rfl))

/-- A scope that maintenance may be entered for. -/
structure Enterable (platform : PublicationPlatform Digest) (scope : MaintenanceScope Digest) : Prop where
  publicationId : isPublicationId scope.publicationId = true
  generationId : isPublicationId scope.generationId = true
  roster : isMaintenanceRoster platform scope.roster = true
  cutover : scope.cutoverSet.isSome = true → platform.isCutoverSetEntry scope = true

omit [DecidableEq Digest] in
theorem meets_accept {refused : Prop} [Decidable refused] {reason : PublicationReason} {message : String}
    (accepted : ¬ refused) {after : Unit → PublicationHome Digest Remote → Prop}
    {stopped : Stop PublicationFailure → PublicationHome Digest Remote → Prop} (done : after () home) :
    Meets (lift (refuse refused reason message)) home after stopped := by
  rw [refuse, if_neg accepted]
  exact meets_pure done

/-- Maintenance is entered over a publication that has ended, which is archived. -/
theorem enterMaintenance_meets {scope : MaintenanceScope Digest} (enterable : Enterable platform scope)
    (stored : home.journal = some (.publication journal)) (ended : journal.phase.isTerminal = true) :
    Meets (enterMaintenance platform scope none) home
      (fun held later => held = ⟨scope, .maintenanceHeld⟩ ∧ later.journal = some (.maintenance held) ∧
        .publication journal ∈ later.history) (fun stop _ => stop = .crash) := by
  apply meets_bind
  apply meets_look
  apply meets_bind
  apply meets_accept
  · rintro (publication | generation)
    · exact publication enterable.publicationId
    · exact generation enterable.generationId
  apply meets_bind
  apply meets_accept (not_not.mpr enterable.roster)
  apply meets_bind
  apply meets_accept
  · exact fun other => other.2 (enterable.cutover other.1)
  simp only [stored]
  apply meets_bind
  apply meets_accept (by simp)
  rw [← stored]
  apply meets_bind
  apply archiveExisting_meets rfl
  · rintro failure ⟨other, same, unended⟩
    rw [stored] at same
    cases same
    rw [StoredJournal.isTerminal, ended] at unended
    cases unended
  · intro history archived
    apply meets_bind
    apply writeJournal_meets
    · rfl
    · rfl
    · apply meets_bind
      apply writeJournal_meets
      · rfl
      · rfl
      · exact meets_pure ⟨rfl, rfl, (archived _ stored).2⟩

/-- The sample after an abort in a phase. -/
def sampleAborted (budget : Option Nat) : PublicationHome (List UInt8) Unit :=
  (HomeAction.call sampleDriver .abort none).apply samplePlatform (samplePrepared budget)

theorem sampleAborted_reachable :
    ((publicationSystem samplePlatform).restrict KeepsEvidence).Reachable (sampleAborted none) := by
  have prepared : ((publicationSystem samplePlatform).restrict KeepsEvidence).Reachable
      (samplePrepared none) := by
    refine .next (.start sampleHome_starts) ⟨?_, rfl⟩
    rintro _ recovers
    cases recovers
  refine prepared.next ⟨?_, rfl⟩
  intro disposition _ journal stored
  refine ⟨?_, fun _ => trivial⟩
  rintro ⟨_, preparing, _⟩
  obtain ⟨other, found, phase⟩ := samplePrepared_journal
    (by decide +kernel : (samplePrepared none).publication.map (·.phase) = some .prepared)
  rw [found] at stored
  cases stored
  rw [phase] at preparing
  cases preparing

end Lcm.Publication
