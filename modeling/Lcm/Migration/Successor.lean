import Lcm.Migration.Canonical
import Lcm.Migration.Runs

namespace Lcm.Migration
open Text

variable {Number : Type} {platform : MigrationPlatform Number}

theorem single_eq {Value : Type} {values : List Value} {value : Value} (perm : values.Perm [value]) :
    single values = some value := by
  rw [List.perm_singleton.mp perm]
  rfl

/-- A report that the manifest does not have yet. -/
def isNewReport (current : MigrationManifest) (report : MigrationReportReference) : Bool :=
  !current.reports.any fun existing => existing.reportId = report.reportId

/-- A checkpoint that the manifest does not have. -/
def isChangedCheckpoint (platform : MigrationPlatform Number) (current : MigrationManifest)
    (checkpoint : MigrationCheckpoint) : Bool :=
  (current.checkpoints.find? fun value => value.domain = checkpoint.domain).all fun existing =>
    canonicalJson platform (existing.toJson platform) ≠
      canonicalJson platform (checkpoint.toJson platform)

section Evidence

variable {current next : MigrationManifest}

/-- The new reports of a step are the one it was given. -/
theorem single_newReports {report : Option MigrationReportReference}
    (result : nextReports current.reports report = .ok next.reports) :
    single (newReports current next) = report := by
  have kept : current.reports.filter (isNewReport current) = [] := by
    apply List.filter_eq_nil_iff.mpr
    intro existing inside
    simpa [isNewReport] using ⟨existing, inside, rfl⟩
  show single (next.reports.filter (isNewReport current)) = report
  rcases nextReports_ok result with ⟨rfl, same⟩ | ⟨report, rfl, same, fresh⟩
  · rw [same, kept]
    rfl
  · have added : isNewReport current report = true := by simpa [isNewReport] using fresh
    have perm := (sortReports_perm (current.reports ++ [report])).filter (isNewReport current)
    rw [List.filter_append, kept, List.nil_append, List.filter_singleton, added, cond_true] at perm
    rw [same]
    exact single_eq perm

/-- The changed checkpoints of a step are the one it was given. -/
theorem single_changedCheckpoints {checkpoint : Option MigrationCheckpoint}
    (domains : (current.checkpoints.map (·.domain)).Nodup)
    (result : nextCheckpoints current.checkpoints checkpoint = .ok next.checkpoints) :
    single (changedCheckpoints platform current next) = checkpoint := by
  have kept : ∀ old ∈ current.checkpoints, ¬ isChangedCheckpoint platform current old = true := by
    intro old inside
    rw [isChangedCheckpoint, find_domain domains inside rfl]
    simp
  show single (next.checkpoints.filter (isChangedCheckpoint platform current)) = checkpoint
  rcases nextCheckpoints_ok result with ⟨rfl, same⟩ | ⟨checkpoint, rfl, same, moves⟩
  · rw [same, List.filter_eq_nil_iff.mpr kept]
    rfl
  · have added : isChangedCheckpoint platform current checkpoint = true := by
      rw [isChangedCheckpoint]
      cases found : current.checkpoints.find? fun value => value.domain = checkpoint.domain with
      | none => rfl
      | some existing =>
          have moved := (moves existing found).1
          rw [Option.all_some, decide_eq_true_iff]
          intro text
          rw [checkpoint_eq text] at moved
          exact lt_irrefl _ moved
    have others : (current.checkpoints.filter fun old => old.domain ≠ checkpoint.domain).filter
        (isChangedCheckpoint platform current) = [] :=
      List.filter_eq_nil_iff.mpr fun old inside => kept old (List.mem_filter.mp inside).1
    have perm := (sortCheckpoints_perm ((current.checkpoints.filter fun old =>
      old.domain ≠ checkpoint.domain) ++ [checkpoint])).filter (isChangedCheckpoint platform current)
    rw [List.filter_append, others, List.nil_append, List.filter_singleton, added, cond_true] at perm
    rw [same]
    exact single_eq perm

end Evidence

namespace CompletionEvidence

variable {evidence : CompletionEvidence} {kind : MigrationEffectKind}

/-- Only a verification says that the generation is eligible. -/
theorem isValid_eligible (valid : evidence.isValid kind = true) (current : Bool) :
    (if kind = .verifyGeneration then some (nextEligibility current kind) else none) =
      evidence.activationEligible := by
  revert valid
  cases kind <;> simp +contextual [isValid, nextEligibility]

/-- Only a published rollback has a mode. -/
theorem isValid_mode (valid : evidence.isValid kind = true) :
    (if kind = .publishRollback then evidence.rollbackMode else none) = evidence.rollbackMode := by
  revert valid
  cases kind <;> simp +contextual [isValid]

/-- A completion never carries the report of an abandonment. -/
theorem isValid_report (valid : evidence.isValid kind = true) :
    evidence.report.filter (fun report => report.kind = .abandonment ∧ kind.isPublication) = none := by
  apply Option.filter_eq_none_iff.mpr
  rintro report reported abandoned
  obtain ⟨abandonment, _⟩ := of_decide_eq_true abandoned
  revert valid
  cases kind <;> simp [isValid, reported, abandonment]

end CompletionEvidence

section Reconstruction

variable {current next : MigrationManifest}

/-- A manifest shows the evidence of the completion that led to it. -/
theorem Completes.shownEvidence {pending : PendingMigrationEffect} {completedAt : IsoTimestamp}
    {evidence : CompletionEvidence} (formed : current.WellFormed platform)
    (completes : Completes platform current pending completedAt evidence next) :
    single (newReports current next) = evidence.report ∧
      shownEvidence platform pending current next = evidence := by
  obtain ⟨checkpoints, reports, nextPoints, nextReferences, sealed⟩ := completes.sealed
  obtain ⟨_, fields, _⟩ := sealMigrationSuccessor_ok sealed
  have points : next.checkpoints = checkpoints := congrArg UnsignedMigrationManifest.checkpoints fields
  have references : next.reports = reports := congrArg UnsignedMigrationManifest.reports fields
  have eligible : next.activationEligible = nextEligibility current.activationEligible pending.kind :=
    congrArg UnsignedMigrationManifest.activationEligible fields
  have lineage : next.rollbackLineage =
      nextLineage current.rollbackLineage pending evidence.rollbackMode :=
    congrArg UnsignedMigrationManifest.rollbackLineage fields
  rw [← points] at nextPoints
  rw [← references] at nextReferences
  have reported := single_newReports nextReferences
  have mode : (if pending.kind = .publishRollback then next.rollbackLineage.mode else none) =
      evidence.rollbackMode := by
    rw [← CompletionEvidence.isValid_mode completes.valid]
    split
    · next publishes => rw [lineage, nextLineage, publishes]
    · rfl
  refine ⟨reported, ?_⟩
  rw [Migration.shownEvidence, single_changedCheckpoints formed.domains nextPoints, reported, eligible,
    CompletionEvidence.isValid_eligible completes.valid, mode]

/-- A manifest after an abandonment shows its report. -/
theorem Abandons.abandonmentReport {pending : PendingMigrationEffect} {abandonedAt : IsoTimestamp}
    {report : MigrationReportReference}
    (abandons : Abandons platform current pending abandonedAt report next) :
    abandonmentReport pending current next = some report := by
  obtain ⟨reports, nextReferences, sealed⟩ := abandons.sealed
  obtain ⟨_, fields, _⟩ := sealMigrationSuccessor_ok sealed
  have references : next.reports = reports := congrArg UnsignedMigrationManifest.reports fields
  rw [← references] at nextReferences
  rw [Migration.abandonmentReport, single_newReports nextReferences]
  exact Option.filter_eq_some_iff.mpr ⟨rfl, decide_eq_true ⟨abandons.kind, abandons.publication⟩⟩

/-- Every step is the one that its two manifests represent. -/
theorem reconstructSuccessor_of_step (formed : current.WellFormed platform)
    {call : MigrationCall Number} (applied : call.apply platform current = .ok next) :
    reconstructSuccessor platform current next = .ok next := by
  have parsed := MigrationManifest.parse_toJson formed
  have alternates := (MigrationCall.moves formed applied).alternates
  cases call with
  | begin input =>
      obtain ⟨_, pending, found, begins⟩ := begins_of_ok applied
      cases parsed.symm.trans found
      obtain ⟨_, fields, _⟩ := sealMigrationSuccessor_ok begins.sealed
      have begun : next.pendingEffect = some pending :=
        congrArg UnsignedMigrationManifest.pendingEffect fields
      rw [reconstructSuccessor, begins.idle, begun]
      exact ok_of_begins parsed begins
  | complete input =>
      obtain ⟨_, pending, completedAt, evidence, found, completes⟩ := completes_of_ok applied
      cases parsed.symm.trans found
      obtain ⟨checkpoints, reports, _, _, sealed⟩ := completes.sealed
      obtain ⟨_, fields, _⟩ := sealMigrationSuccessor_ok sealed
      have ended : next.pendingEffect = none := congrArg UnsignedMigrationManifest.pendingEffect fields
      have updated : next.updatedAt = completedAt := congrArg UnsignedMigrationManifest.updatedAt fields
      obtain ⟨reported, shown⟩ := completes.shownEvidence formed
      have completion : Migration.abandonmentReport pending current next = none := by
        rw [Migration.abandonmentReport, reported, CompletionEvidence.isValid_report completes.valid]
      rw [reconstructSuccessor, completes.begun, ended]
      dsimp only
      rw [completion, shown, updated]
      exact ok_of_completes parsed completes
  | abandon input =>
      obtain ⟨_, pending, abandonedAt, report, found, abandons⟩ := abandons_of_ok applied
      cases parsed.symm.trans found
      obtain ⟨reports, _, sealed⟩ := abandons.sealed
      obtain ⟨_, fields, _⟩ := sealMigrationSuccessor_ok sealed
      have ended : next.pendingEffect = none := congrArg UnsignedMigrationManifest.pendingEffect fields
      have updated : next.updatedAt = abandonedAt := congrArg UnsignedMigrationManifest.updatedAt fields
      rw [reconstructSuccessor, abandons.begun, ended]
      dsimp only
      rw [abandons.abandonmentReport, updated]
      exact ok_of_abandons parsed abandons

/-- What is reconstructed is a step. -/
theorem step_of_reconstructSuccessor {expected : MigrationManifest}
    (rebuilt : reconstructSuccessor platform current next = .ok expected) :
    ∃ call : MigrationCall Number, call.apply platform current = .ok expected := by
  rw [reconstructSuccessor] at rebuilt
  split at rebuilt
  · cases rebuilt
  · cases rebuilt
  · next pending _ _ => exact ⟨.begin (.object (beginInput pending)), rebuilt⟩
  · split at rebuilt
    · exact ⟨.abandon _, rebuilt⟩
    · exact ⟨.complete _, rebuilt⟩

end Reconstruction

/-- A call depends on what its manifest parses to. -/
theorem call_of_parsed {previous : Json Number} {current next : MigrationManifest}
    (parsed : parseMigrationManifest platform previous = .ok current) :
    (∃ call : MigrationCall Number, call.apply platform current = .ok next) ↔ ∃ input,
      beginMigrationEffect platform previous input = .ok next ∨
      completeMigrationEffect platform previous input = .ok next ∨
        abandonMigrationEffect platform previous input = .ok next := by
  have same : parseMigrationManifest platform previous =
      parseMigrationManifest platform (current.toJson platform) :=
    parsed.trans (MigrationManifest.parse_toJson (MigrationManifest.wellFormed_of_parse parsed)).symm
  simp only [beginMigrationEffect, completeMigrationEffect, abandonMigrationEffect, same]
  constructor
  · rintro ⟨call, applied⟩
    cases call with
    | begin input => exact ⟨input, .inl applied⟩
    | complete input => exact ⟨input, .inr (.inl applied)⟩
    | abandon input => exact ⟨input, .inr (.inr applied)⟩
  · rintro ⟨input, applied | applied | applied⟩
    · exact ⟨.begin input, applied⟩
    · exact ⟨.complete input, applied⟩
    · exact ⟨.abandon input, applied⟩

/-- The check for successors accepts exactly what the protocol makes of the manifest before. -/
theorem successor_iff_step {previous candidate : Json Number} {next : MigrationManifest} :
    assertMigrationManifestSuccessor platform previous candidate = .ok next ↔
      parseMigrationManifest platform candidate = .ok next ∧ ∃ input,
        beginMigrationEffect platform previous input = .ok next ∨
        completeMigrationEffect platform previous input = .ok next ∨
          abandonMigrationEffect platform previous input = .ok next := by
  rw [assertMigrationManifestSuccessor]
  constructor
  · intro accepted
    split at accepted
    · next current found parsed read =>
        split at accepted
        · next expected rebuilt =>
            split at accepted
            · next same =>
                cases accepted
                obtain ⟨call, applied⟩ := step_of_reconstructSuccessor rebuilt
                have formed := MigrationManifest.wellFormed_of_parse parsed
                have expectedFormed := (MigrationCall.moves formed applied).formed
                obtain rfl := (sameManifest_iff expectedFormed
                  (MigrationManifest.wellFormed_of_parse read)).mp same
                exact ⟨read, (call_of_parsed parsed).mp ⟨call, applied⟩⟩
            · cases accepted
        · cases accepted
    · cases accepted
  · rintro ⟨read, input, stepped⟩
    obtain ⟨current, parsed⟩ : ∃ current, parseMigrationManifest platform previous = .ok current := by
      rcases stepped with begun | completed | abandoned
      · obtain ⟨current, _, parsed, _⟩ := begins_of_ok begun
        exact ⟨current, parsed⟩
      · obtain ⟨current, _, _, _, parsed, _⟩ := completes_of_ok completed
        exact ⟨current, parsed⟩
      · obtain ⟨current, _, _, _, parsed, _⟩ := abandons_of_ok abandoned
        exact ⟨current, parsed⟩
    have formed := MigrationManifest.wellFormed_of_parse parsed
    obtain ⟨call, applied⟩ := (call_of_parsed parsed).mpr ⟨input, stepped⟩
    have same := (sameManifest_iff (MigrationManifest.wellFormed_of_parse read)
      (MigrationManifest.wellFormed_of_parse read)).mpr rfl
    rw [parsed, read]
    dsimp only
    rw [reconstructSuccessor_of_step formed applied]
    dsimp only
    rw [if_pos same]

end Lcm.Migration
