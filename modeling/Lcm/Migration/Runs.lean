import Lcm.Library.StepSystem
import Lcm.Migration.Steps

namespace Lcm.Migration
open Text

variable {Number : Type} {platform : MigrationPlatform Number}

/-- A call of the protocol on the current manifest. -/
inductive MigrationCall (Number : Type) where
  | begin (input : Json Number)
  | complete (input : Json Number)
  | abandon (input : Json Number)

def MigrationCall.apply (platform : MigrationPlatform Number) (manifest : MigrationManifest) :
    MigrationCall Number → Except MigrationProtocolError MigrationManifest
  | .begin input => beginMigrationEffect platform (manifest.toJson platform) input
  | .complete input => completeMigrationEffect platform (manifest.toJson platform) input
  | .abandon input => abandonMigrationEffect platform (manifest.toJson platform) input

/-- The manifests of one migration, the newest one first; a call that fails adds none. -/
def migrationSystem (platform : MigrationPlatform Number) :
    StepSystem (List MigrationManifest) (MigrationCall Number) where
  start history := ∃ input manifest, createMigrationManifest platform input = .ok manifest ∧
    history = [manifest]
  step history call after := ∃ manifest earlier next, history = manifest :: earlier ∧
    call.apply platform manifest = .ok next ∧ after = next :: history

/-- Every checkpoint stays, or makes way for one of its domain that is further on. -/
def Advances (before after : List MigrationCheckpoint) : Prop :=
  ∀ checkpoint ∈ before, ∃ later ∈ after, later.domain = checkpoint.domain ∧
    (later = checkpoint ∨
      checkpoint.ordinal < later.ordinal ∧ checkpoint.recordCount ≤ later.recordCount)

theorem Advances.refl (checkpoints : List MigrationCheckpoint) : Advances checkpoints checkpoints :=
  fun checkpoint inside => ⟨checkpoint, inside, rfl, .inl rfl⟩

theorem Advances.trans {first second third : List MigrationCheckpoint}
    (before : Advances first second) (after : Advances second third) : Advances first third := by
  intro checkpoint inside
  obtain ⟨middle, middleIn, middleDomain, middleMoves⟩ := before checkpoint inside
  obtain ⟨last, lastIn, lastDomain, lastMoves⟩ := after middle middleIn
  refine ⟨last, lastIn, lastDomain.trans middleDomain, ?_⟩
  rcases middleMoves with rfl | ⟨ordinal, count⟩
  · exact lastMoves
  · rcases lastMoves with rfl | ⟨lastOrdinal, lastCount⟩
    · exact .inr ⟨ordinal, count⟩
    · exact .inr ⟨ordinal.trans lastOrdinal, count.trans lastCount⟩

theorem sortCheckpoints_perm (checkpoints : List MigrationCheckpoint) :
    (sortCheckpoints checkpoints).Perm checkpoints := SortedBy.perm _

theorem sortReports_perm (reports : List MigrationReportReference) :
    (sortReports reports).Perm reports := SortedBy.perm _

/-- The next checkpoints are the old ones of other domains and the given one. -/
theorem nextCheckpoints_ok {current next : List MigrationCheckpoint}
    {given : Option MigrationCheckpoint} (result : nextCheckpoints current given = .ok next) :
    (given = none ∧ next = current) ∨ ∃ checkpoint, given = some checkpoint ∧
      next = sortCheckpoints ((current.filter fun old => old.domain ≠ checkpoint.domain) ++ [checkpoint]) ∧
        ∀ existing, (current.find? fun old => old.domain = checkpoint.domain) = some existing →
          existing.ordinal < checkpoint.ordinal ∧ existing.recordCount ≤ checkpoint.recordCount := by
  cases given with
  | none =>
      cases result
      exact .inl ⟨rfl, rfl⟩
  | some checkpoint =>
      rw [nextCheckpoints] at result
      split at result
      · cases result
      · next moves =>
          cases result
          refine .inr ⟨checkpoint, rfl, rfl, ?_⟩
          intro existing found
          simpa [found] using moves

/-- A checkpoint is the only one of its domain. -/
theorem find_domain {checkpoints : List MigrationCheckpoint}
    (domains : (checkpoints.map (·.domain)).Nodup) {checkpoint : MigrationCheckpoint}
    (inside : checkpoint ∈ checkpoints) {domain : Identifier} (same : checkpoint.domain = domain) :
    (checkpoints.find? fun old => old.domain = domain) = some checkpoint := by
  cases found : checkpoints.find? fun old => old.domain = domain with
  | none => simpa [same] using List.find?_eq_none.mp found checkpoint inside
  | some other =>
      have matched : other.domain = domain := by simpa using List.find?_some found
      have member := List.mem_of_find?_eq_some found
      rw [List.inj_on_of_nodup_map domains member inside (matched.trans same.symm)]

theorem nextCheckpoints_advances {current next : List MigrationCheckpoint}
    {given : Option MigrationCheckpoint} (domains : (current.map (·.domain)).Nodup)
    (result : nextCheckpoints current given = .ok next) : Advances current next := by
  rcases nextCheckpoints_ok result with ⟨_, rfl⟩ | ⟨checkpoint, _, rfl, moves⟩
  · exact .refl _
  · intro old inside
    by_cases same : old.domain = checkpoint.domain
    · refine ⟨checkpoint, ?_, same.symm, .inr (moves old (find_domain domains inside same))⟩
      exact (sortCheckpoints_perm _).mem_iff.mpr (List.mem_append_right _ (List.mem_singleton_self _))
    · refine ⟨old, ?_, rfl, .inl rfl⟩
      apply (sortCheckpoints_perm _).mem_iff.mpr
      exact List.mem_append_left _ (List.mem_filter.mpr ⟨inside, by simpa using same⟩)

theorem nextCheckpoints_formed {current next : List MigrationCheckpoint}
    {given : Option MigrationCheckpoint} (sorted : sortCheckpoints current = current)
    (domains : (current.map (·.domain)).Nodup)
    (result : nextCheckpoints current given = .ok next) :
    sortCheckpoints next = next ∧ (next.map (·.domain)).Nodup := by
  rcases nextCheckpoints_ok result with ⟨_, rfl⟩ | ⟨checkpoint, _, rfl, _⟩
  · exact ⟨sorted, domains⟩
  · refine ⟨SortedBy.idempotent _, ?_⟩
    rw [((sortCheckpoints_perm _).map _).nodup_iff, List.map_append, List.nodup_append]
    refine ⟨domains.sublist (List.filter_sublist.map _), List.nodup_singleton _, ?_⟩
    intro domain old other new same
    obtain ⟨stored, kept, rfl⟩ := List.mem_map.mp old
    rw [List.map_singleton, List.mem_singleton] at new
    have different := (List.mem_filter.mp kept).2
    rw [same, new] at different
    simp at different

theorem nextReports_ok {current next : List MigrationReportReference}
    {given : Option MigrationReportReference} (result : nextReports current given = .ok next) :
    (given = none ∧ next = current) ∨ ∃ report, given = some report ∧
      next = sortReports (current ++ [report]) ∧ ∀ old ∈ current, old.reportId ≠ report.reportId := by
  cases given with
  | none =>
      cases result
      exact .inl ⟨rfl, rfl⟩
  | some report =>
      rw [nextReports] at result
      split at result
      · cases result
      · next fresh =>
          cases result
          exact .inr ⟨report, rfl, rfl, by simpa using fresh⟩

theorem nextReports_formed {current next : List MigrationReportReference}
    {given : Option MigrationReportReference} (sorted : sortReports current = current)
    (reportIds : (current.map (·.reportId)).Nodup)
    (result : nextReports current given = .ok next) :
    sortReports next = next ∧ (next.map (·.reportId)).Nodup := by
  rcases nextReports_ok result with ⟨_, rfl⟩ | ⟨report, _, rfl, fresh⟩
  · exact ⟨sorted, reportIds⟩
  · refine ⟨SortedBy.idempotent _, ?_⟩
    rw [((sortReports_perm _).map _).nodup_iff, List.map_append, List.nodup_append]
    refine ⟨reportIds, List.nodup_singleton _, ?_⟩
    intro reportId old other new
    obtain ⟨stored, inside, rfl⟩ := List.mem_map.mp old
    rw [List.map_singleton, List.mem_singleton] at new
    rw [new]
    exact fresh stored inside

/-- What a sealed successor takes from the manifest before it. -/
theorem sealMigrationSuccessor_ok {current next : MigrationManifest} {updatedAt : IsoTimestamp}
    {overrides : UnsignedMigrationManifest → UnsignedMigrationManifest}
    (sealed : sealMigrationSuccessor platform current updatedAt overrides = .ok next) :
    next.toUnsignedMigrationManifest.Consistent ∧
      next.toUnsignedMigrationManifest = { overrides current.toUnsignedMigrationManifest with
        revision := current.revision + 1
        previousManifestSha256 := some current.checksumSha256
        updatedAt } ∧
      next.checksumSha256 =
        next.toUnsignedMigrationManifest.migrationManifestCanonicalSha256 platform := by
  obtain ⟨consistent, rfl⟩ := sealMigrationManifest_ok.mp sealed
  exact ⟨consistent, rfl, rfl⟩

/-- How one call moves the phase with the fields that depend on it. -/
inductive PhaseMove (before after : MigrationManifest) : Prop where
  | begun (kind : MigrationEffectKind) (allowed : legalEffect before.phase kind ≠ none)
      (phase : after.phase = before.phase) (lineage : after.rollbackLineage = before.rollbackLineage)
      (eligible : after.activationEligible = before.activationEligible)
  | completed (kind : MigrationEffectKind) (recovery : MigrationRecovery)
      (legal : legalEffect before.phase kind = some ⟨after.phase, recovery⟩)
      (returnPhase : after.rollbackLineage.returnPhase = if kind = .prepareRollback then
        some (if before.phase = .active then .active else .verified)
          else before.rollbackLineage.returnPhase)
      (eligible : after.activationEligible = nextEligibility before.activationEligible kind)
  | withdrawn (activating : before.phase = .activating) (verified : after.phase = .verified)
      (lineage : after.rollbackLineage = before.rollbackLineage)
      (eligible : after.activationEligible = before.activationEligible)
  | returned (rollingBack : before.phase = .rollingBack)
      (phase : before.rollbackLineage.returnPhase.map ReturnPhase.phase = some after.phase)
      (lineage : after.rollbackLineage.returnPhase = none)
      (eligible : after.activationEligible = before.activationEligible)

/-- What one call does to a well-formed manifest. -/
structure Moves (platform : MigrationPlatform Number) (before after : MigrationManifest) : Prop where
  formed : after.WellFormed platform
  revision : after.revision = before.revision + 1
  previous : after.previousManifestSha256 = some before.checksumSha256
  alternates : after.pendingEffect.isSome = !before.pendingEffect.isSome
  advances : Advances before.checkpoints after.checkpoints
  phase : PhaseMove before after

theorem MigrationManifest.WellFormed.consistent {manifest : MigrationManifest}
    (formed : manifest.WellFormed platform) : manifest.Consistent :=
  assertCrossFieldInvariants_ok.mp formed.cross

/-- A sealed successor with collections in order is well formed. -/
theorem formed_of_sealed {before after : MigrationManifest} {updatedAt : IsoTimestamp}
    {overrides : UnsignedMigrationManifest → UnsignedMigrationManifest}
    (formed : before.WellFormed platform) (revision : before.revision ≠ maxSafeNatural)
    (sealed : sealMigrationSuccessor platform before updatedAt overrides = .ok after)
    (checkpoints : sortCheckpoints after.checkpoints = after.checkpoints ∧
      (after.checkpoints.map (·.domain)).Nodup)
    (reports : sortReports after.reports = after.reports ∧
      (after.reports.map (·.reportId)).Nodup) : after.WellFormed platform := by
  obtain ⟨consistent, fields, checksum⟩ := sealMigrationSuccessor_ok sealed
  refine ⟨?_, checkpoints.1, reports.1, checkpoints.2, reports.2,
    assertCrossFieldInvariants_ok.mpr consistent, checksum⟩
  have next : after.revision = before.revision + 1 :=
    congrArg UnsignedMigrationManifest.revision fields
  have bound := formed.revision
  omega

theorem Begins.moves {before after : MigrationManifest} {pending : PendingMigrationEffect}
    (formed : before.WellFormed platform) (begins : Begins platform before pending after) :
    Moves platform before after := by
  obtain ⟨_, fields, _⟩ := sealMigrationSuccessor_ok begins.sealed
  have checkpoints := congrArg UnsignedMigrationManifest.checkpoints fields
  have reports := congrArg UnsignedMigrationManifest.reports fields
  have phase := congrArg UnsignedMigrationManifest.phase fields
  have lineage := congrArg UnsignedMigrationManifest.rollbackLineage fields
  have eligible := congrArg UnsignedMigrationManifest.activationEligible fields
  dsimp only at checkpoints reports phase lineage eligible
  refine ⟨formed_of_sealed formed begins.revision begins.sealed ?_ ?_,
    congrArg UnsignedMigrationManifest.revision fields,
    congrArg UnsignedMigrationManifest.previousManifestSha256 fields, ?_, ?_, ?_⟩
  · rw [checkpoints]
    exact ⟨formed.checkpoints, formed.domains⟩
  · rw [reports]
    exact ⟨formed.reports, formed.reportIds⟩
  · rw [congrArg UnsignedMigrationManifest.pendingEffect fields, begins.idle]
    rfl
  · rw [checkpoints]
    exact .refl _
  · refine .begun pending.kind ?_ phase lineage eligible
    rw [begins.legal]
    exact nofun

theorem Completes.moves {before after : MigrationManifest} {pending : PendingMigrationEffect}
    {completedAt : IsoTimestamp} {evidence : CompletionEvidence}
    (formed : before.WellFormed platform)
    (completes : Completes platform before pending completedAt evidence after) :
    Moves platform before after := by
  obtain ⟨checkpoints, reports, nextPoints, nextReferences, sealed⟩ := completes.sealed
  obtain ⟨_, fields, _⟩ := sealMigrationSuccessor_ok sealed
  have points := congrArg UnsignedMigrationManifest.checkpoints fields
  have references := congrArg UnsignedMigrationManifest.reports fields
  have lineage := congrArg UnsignedMigrationManifest.rollbackLineage fields
  have phase := congrArg UnsignedMigrationManifest.phase fields
  dsimp only [completed] at points references lineage phase
  obtain ⟨fromPhase, legal⟩ := formed.consistent.pending pending completes.begun
  refine ⟨formed_of_sealed formed completes.revision sealed ?_ ?_,
    congrArg UnsignedMigrationManifest.revision fields,
    congrArg UnsignedMigrationManifest.previousManifestSha256 fields, ?_, ?_, ?_⟩
  · rw [points]
    exact nextCheckpoints_formed formed.checkpoints formed.domains nextPoints
  · rw [references]
    exact nextReports_formed formed.reports formed.reportIds nextReferences
  · rw [congrArg UnsignedMigrationManifest.pendingEffect fields, completes.begun]
    rfl
  · rw [points]
    exact nextCheckpoints_advances formed.domains nextPoints
  · apply PhaseMove.completed pending.kind pending.recovery
    · rw [phase]
      exact legal
    · rw [lineage, nextLineage, fromPhase]
      cases pending.kind <;> rfl
    · exact congrArg UnsignedMigrationManifest.activationEligible fields

/-- Only one phase publishes an activation, and only one a rollback. -/
theorem legal_publication {phase : MigrationPhase} {kind : MigrationEffectKind}
    (publication : kind.isPublication = true) (legal : legalEffect phase kind ≠ none) :
    (kind = .publishActivation ∧ phase = .activating) ∨
      (kind = .publishRollback ∧ phase = .rollingBack) := by
  revert publication legal
  cases kind <;> cases phase <;> decide

theorem Abandons.moves {before after : MigrationManifest} {pending : PendingMigrationEffect}
    {abandonedAt : IsoTimestamp} {report : MigrationReportReference}
    (formed : before.WellFormed platform)
    (abandons : Abandons platform before pending abandonedAt report after) :
    Moves platform before after := by
  obtain ⟨reports, nextReferences, sealed⟩ := abandons.sealed
  obtain ⟨_, fields, _⟩ := sealMigrationSuccessor_ok sealed
  have points := congrArg UnsignedMigrationManifest.checkpoints fields
  have references := congrArg UnsignedMigrationManifest.reports fields
  have lineage := congrArg UnsignedMigrationManifest.rollbackLineage fields
  have phase := congrArg UnsignedMigrationManifest.phase fields
  have eligible := congrArg UnsignedMigrationManifest.activationEligible fields
  dsimp only at points references lineage phase eligible
  obtain ⟨_, legal⟩ := formed.consistent.pending pending abandons.begun
  refine ⟨formed_of_sealed formed abandons.revision sealed ?_ ?_,
    congrArg UnsignedMigrationManifest.revision fields,
    congrArg UnsignedMigrationManifest.previousManifestSha256 fields, ?_, ?_, ?_⟩
  · rw [points]
    exact ⟨formed.checkpoints, formed.domains⟩
  · rw [references]
    exact nextReports_formed formed.reports formed.reportIds nextReferences
  · rw [congrArg UnsignedMigrationManifest.pendingEffect fields, abandons.begun]
    rfl
  · rw [points]
    exact .refl _
  · rcases legal_publication abandons.publication (by rw [legal]; exact nofun) with
      ⟨kind, activating⟩ | ⟨kind, rollingBack⟩
    · rw [kind] at phase lineage
      exact .withdrawn activating phase lineage eligible
    · rw [kind] at phase lineage
      have known := formed.consistent.returnPhase.mpr (by rw [rollingBack]; decide)
      obtain ⟨returnPhase, same⟩ := Option.ne_none_iff_exists'.mp known
      refine .returned rollingBack ?_ (congrArg MigrationRollbackLineage.returnPhase lineage) eligible
      rw [phase, same]
      rfl

/-- A call on a well-formed manifest moves it. -/
theorem MigrationCall.moves {before after : MigrationManifest} {call : MigrationCall Number}
    (formed : before.WellFormed platform) (applied : call.apply platform before = .ok after) :
    Moves platform before after := by
  have parsed := MigrationManifest.parse_toJson formed
  cases call with
  | begin input =>
      obtain ⟨current, pending, found, begins⟩ := begins_of_ok applied
      rw [parsed] at found
      cases found
      exact begins.moves formed
  | complete input =>
      obtain ⟨current, pending, _, _, found, completes⟩ := completes_of_ok applied
      rw [parsed] at found
      cases found
      exact completes.moves formed
  | abandon input =>
      obtain ⟨current, pending, _, _, found, abandons⟩ := abandons_of_ok applied
      rw [parsed] at found
      cases found
      exact abandons.moves formed

/-- A new manifest is planned and has nothing else yet. -/
theorem createMigrationManifest_ok {input : Json Number} {manifest : MigrationManifest}
    (created : createMigrationManifest platform input = .ok manifest) :
    manifest.WellFormed platform ∧ manifest.phase = .planned ∧ manifest.revision = 0 ∧
      manifest.previousManifestSha256 = none ∧ manifest.rollbackLineage.returnPhase = none := by
  simp only [createMigrationManifest, Except.bind_eq_ok, refuse_ok, orProtocolError_ok] at created
  obtain ⟨members, _, _, _, ⟨generationId, parentGenerationId, preservedSourceGenerationId, createdAt⟩, _,
    source, _, destination, _, sealed⟩ := created
  obtain ⟨consistent, rfl⟩ := sealMigrationManifest_ok.mp sealed
  exact ⟨⟨Nat.zero_le _, rfl, rfl, List.nodup_nil, List.nodup_nil,
    assertCrossFieldInvariants_ok.mpr consistent, rfl⟩, rfl, rfl, rfl, rfl⟩

section LegalEffects

variable {phase target : MigrationPhase} {kind : MigrationEffectKind} {recovery : MigrationRecovery}

theorem legal_active (legal : legalEffect phase kind = some ⟨.active, recovery⟩) :
    phase = .activating := by
  revert legal
  cases phase <;> cases kind <;> simp [legalEffect]

theorem legal_activating (legal : legalEffect phase kind = some ⟨.activating, recovery⟩) :
    phase = .verified := by
  revert legal
  cases phase <;> cases kind <;> simp [legalEffect]

theorem legal_aborted (legal : legalEffect phase kind = some ⟨.aborted, recovery⟩) :
    phase ∈ [.planned, .dryRunVerified, .copying, .copied, .verified] := by
  revert legal
  cases phase <;> cases kind <;> simp [legalEffect]

theorem legal_eligible (legal : legalEffect phase kind = some ⟨target, recovery⟩)
    (eligible : target.isEligible = true) :
    kind = .verifyGeneration ∨ phase.isEligible = true ∧ kind ≠ .abort := by
  cases phase <;> cases kind <;> cases legal <;> revert eligible <;> decide

theorem legal_from_active (legal : legalEffect .active kind = some ⟨target, recovery⟩) :
    kind = .prepareRollback ∧ target = .rollingBack := by
  revert legal
  cases kind <;> simp +contextual [legalEffect, eq_comm]

theorem legal_from_rollingBack (legal : legalEffect .rollingBack kind = some ⟨target, recovery⟩) :
    kind = .publishRollback ∧ target = .rolledBack := by
  revert legal
  cases kind <;> simp +contextual [legalEffect, eq_comm]

theorem legal_terminal (ended : phase.isTerminal = true) : legalEffect phase kind = none := by
  revert ended
  cases phase <;> cases kind <;> simp [legalEffect, MigrationPhase.isTerminal]

end LegalEffects

/-- A manifest whose verification makes it eligible for activation. -/
def IsVerified (manifest : MigrationManifest) : Prop :=
  manifest.phase = .verified ∧ manifest.activationEligible = true ∧ manifest.hasVerification = true

/-- A migration passed from a verified manifest through the activating phase. -/
def Activated (history : List MigrationManifest) : Prop :=
  ∃ activating verified, [activating, verified].Sublist history ∧ activating.phase = .activating ∧
    IsVerified verified

/-- What a run has kept to when it reaches a manifest. -/
structure Lawful (platform : MigrationPlatform Number) (newest : MigrationManifest)
    (earlier : List MigrationManifest) : Prop where
  formed : newest.WellFormed platform
  revision : newest.revision = earlier.length
  previous : newest.previousManifestSha256 = earlier.head?.map (·.checksumSha256)
  eligible : newest.phase.isEligible = true → newest.activationEligible = true
  verified : newest.phase = .activating → ∃ verified ∈ earlier, IsVerified verified
  activated : newest.phase = .active ∨ newest.rollbackLineage.returnPhase = some .active →
    Activated earlier
  final : ∀ before ∈ earlier, before.phase = .active → newest.phase = .active ∨
    newest.phase = .rolledBack ∨
      newest.phase = .rollingBack ∧ newest.rollbackLineage.returnPhase = some .active
  advances : ∀ before ∈ earlier, Advances before.checkpoints newest.checkpoints

namespace Lawful

variable {before after : MigrationManifest} {earlier : List MigrationManifest}

theorem isVerified (lawful : Lawful platform before earlier) (phase : before.phase = .verified) :
    IsVerified before := by
  have eligible := lawful.eligible (by rw [phase]; decide)
  have reported := lawful.formed.consistent.eligible
  rw [eligible, phase] at reported
  exact ⟨phase, eligible, by simpa [MigrationPhase.isEligible] using reported.symm⟩

/-- A phase keeps its eligibility, and the verification of a generation gives it. -/
theorem eligible_step (lawful : Lawful platform before earlier) (move : PhaseMove before after)
    (eligible : after.phase.isEligible = true) : after.activationEligible = true := by
  cases move with
  | begun kind allowed phase lineage same =>
      rw [same]
      exact lawful.eligible (phase ▸ eligible)
  | completed kind recovery legal returnPhase same =>
      rw [same]
      rcases legal_eligible legal eligible with rfl | ⟨earlierEligible, other⟩
      · rfl
      · unfold nextEligibility
        split
        · rfl
        · exact absurd rfl other
        · exact lawful.eligible earlierEligible
  | withdrawn activating verified lineage same =>
      rw [same]
      exact lawful.eligible (by rw [activating]; decide)
  | returned rollingBack phase lineage same =>
      rw [same]
      exact lawful.eligible (by rw [rollingBack]; decide)

theorem verified_step (lawful : Lawful platform before earlier) (move : PhaseMove before after)
    (activating : after.phase = .activating) : ∃ verified ∈ before :: earlier, IsVerified verified := by
  cases move with
  | begun kind allowed phase lineage same =>
      obtain ⟨verified, inside, holds⟩ := lawful.verified (phase.symm.trans activating)
      exact ⟨verified, List.mem_cons_of_mem _ inside, holds⟩
  | completed kind recovery legal returnPhase same =>
      rw [activating] at legal
      exact ⟨before, List.mem_cons_self, lawful.isVerified (legal_activating legal)⟩
  | withdrawn _ verified _ _ =>
      rw [activating] at verified
      cases verified
  | returned _ phase _ _ =>
      rw [activating] at phase
      obtain ⟨returnPhase, _, same⟩ := Option.map_eq_some_iff.mp phase
      cases returnPhase <;> cases same

theorem Activated.cons {history : List MigrationManifest} (activated : Activated history)
    (manifest : MigrationManifest) : Activated (manifest :: history) := by
  obtain ⟨activating, verified, inside, holds⟩ := activated
  exact ⟨activating, verified, inside.cons manifest, holds⟩

theorem activated_step (lawful : Lawful platform before earlier) (move : PhaseMove before after)
    (active : after.phase = .active ∨ after.rollbackLineage.returnPhase = some .active) :
    Activated (before :: earlier) := by
  have stays : before.phase = .active ∨ before.rollbackLineage.returnPhase = some .active →
      Activated (before :: earlier) := fun known => Activated.cons (lawful.activated known) before
  cases move with
  | begun kind allowed phase lineage same =>
      rw [phase, lineage] at active
      exact stays active
  | completed kind recovery legal returnPhase same =>
      rcases active with active | active
      · rw [active] at legal
        have activating := legal_active legal
        obtain ⟨verified, inside, holds⟩ := lawful.verified activating
        exact ⟨before, verified, (List.singleton_sublist.mpr inside).cons_cons before, activating, holds⟩
      · rw [returnPhase] at active
        split at active
        · split at active
          · next phase => exact stays (.inl phase)
          · cases active
        · exact stays (.inr active)
  | withdrawn _ verified lineage _ =>
      rw [verified, lineage] at active
      exact stays (.inr (active.resolve_left nofun))
  | returned rollingBack phase lineage same =>
      rw [lineage] at active
      have active := active.resolve_right nofun
      obtain ⟨returnPhase, known, same⟩ := Option.map_eq_some_iff.mp phase
      rw [active] at same
      cases returnPhase with
      | verified => cases same
      | active => exact stays (.inr known)

/-- Once active, a migration can only be rolled back. -/
theorem final_step (lawful : Lawful platform before earlier) (move : PhaseMove before after)
    (active : ∃ manifest ∈ before :: earlier, manifest.phase = .active) :
    after.phase = .active ∨ after.phase = .rolledBack ∨
      after.phase = .rollingBack ∧ after.rollbackLineage.returnPhase = some .active := by
  have phase : before.phase = .active ∨ before.phase = .rolledBack ∨
      before.phase = .rollingBack ∧ before.rollbackLineage.returnPhase = some .active := by
    obtain ⟨manifest, inside, active⟩ := active
    rcases List.mem_cons.mp inside with rfl | old
    · exact .inl active
    · exact lawful.final manifest old active
  cases move with
  | begun kind allowed same lineage _ =>
      rw [same, lineage]
      exact phase
  | completed kind recovery legal returnPhase _ =>
      rcases phase with active | rolledBack | ⟨rollingBack, _⟩
      · rw [active] at legal
        obtain ⟨rfl, target⟩ := legal_from_active legal
        rw [active] at returnPhase
        exact .inr (.inr ⟨target, returnPhase⟩)
      · rw [legal_terminal (by rw [rolledBack]; decide)] at legal
        cases legal
      · rw [rollingBack] at legal
        exact .inr (.inl (legal_from_rollingBack legal).2)
  | withdrawn activating _ _ _ =>
      rw [activating] at phase
      simp at phase
  | returned rollingBack returned _ _ =>
      rw [rollingBack] at phase
      have known : before.rollbackLineage.returnPhase = some .active := by simpa using phase
      rw [known] at returned
      exact .inl (Option.some.inj returned).symm

theorem step (lawful : Lawful platform before earlier) (moves : Moves platform before after) :
    Lawful platform after (before :: earlier) where
  formed := moves.formed
  revision := by rw [moves.revision, lawful.revision, List.length_cons]
  previous := moves.previous
  eligible := lawful.eligible_step moves.phase
  verified := lawful.verified_step moves.phase
  activated := lawful.activated_step moves.phase
  final manifest inside active := lawful.final_step moves.phase ⟨manifest, inside, active⟩
  advances manifest inside := by
    rcases List.mem_cons.mp inside with rfl | old
    · exact moves.advances
    · exact (lawful.advances manifest old).trans moves.advances

end Lawful

/-- Every manifest of a run is lawful, and each one moves to the next. -/
theorem lawful_of_reachable {history : List MigrationManifest}
    (reached : (migrationSystem platform).Reachable history) :
    ∃ newest earlier, history = newest :: earlier ∧ Lawful platform newest earlier ∧
      ∀ before rest, earlier = before :: rest →
        Lawful platform before rest ∧ Moves platform before newest := by
  induction reached with
  | start initial =>
      obtain ⟨input, manifest, created, rfl⟩ := initial
      obtain ⟨formed, phase, revision, previous, returnPhase⟩ := createMigrationManifest_ok created
      refine ⟨manifest, [], rfl, ⟨formed, revision, previous, ?_, ?_, ?_,
        fun _ outside => (List.not_mem_nil outside).elim,
          fun _ outside => (List.not_mem_nil outside).elim⟩, fun _ _ none => nomatch none⟩
      · rw [phase]
        exact nofun
      · rw [phase]
        exact nofun
      · rw [phase, returnPhase]
        rintro (active | active) <;> cases active
  | next _ moved ih =>
      obtain ⟨newest, earlier, rfl, lawful, _⟩ := ih
      obtain ⟨_, _, next, same, applied, rfl⟩ := moved
      obtain ⟨rfl, rfl⟩ := List.cons.inj same
      have moves : Moves platform newest next := MigrationCall.moves lawful.formed applied
      refine ⟨next, newest :: earlier, rfl, lawful.step moves, ?_⟩
      intro before rest parts
      obtain ⟨rfl, rfl⟩ := List.cons.inj parts
      exact ⟨lawful, moves⟩

theorem PhaseMove.not_terminal {before after : MigrationManifest} (move : PhaseMove before after) :
    before.phase.isTerminal = false := by
  by_contra ended
  have terminal : before.phase.isTerminal = true := by simpa using ended
  cases move with
  | begun kind allowed => exact allowed (legal_terminal terminal)
  | completed kind recovery legal =>
      rw [legal_terminal terminal] at legal
      cases legal
  | withdrawn activating =>
      rw [activating] at terminal
      cases terminal
  | returned rollingBack =>
      rw [rollingBack] at terminal
      cases terminal

theorem PhaseMove.to_active {before after : MigrationManifest} (move : PhaseMove before after)
    (active : after.phase = .active) : before.phase = .active ∨ before.phase = .activating ∨
      before.phase = .rollingBack ∧ before.rollbackLineage.returnPhase = some .active := by
  cases move with
  | begun _ _ phase => exact .inl (phase.symm.trans active)
  | completed _ _ legal =>
      rw [active] at legal
      exact .inr (.inl (legal_active legal))
  | withdrawn _ verified =>
      rw [active] at verified
      cases verified
  | returned rollingBack phase =>
      obtain ⟨returnPhase, known, same⟩ := Option.map_eq_some_iff.mp phase
      rw [active] at same
      cases returnPhase with
      | verified => cases same
      | active => exact .inr (.inr ⟨rollingBack, known⟩)

theorem PhaseMove.to_activating {before after : MigrationManifest} (move : PhaseMove before after)
    (activating : after.phase = .activating) :
    before.phase = .activating ∨ before.phase = .verified := by
  cases move with
  | begun _ _ phase => exact .inl (phase.symm.trans activating)
  | completed _ _ legal =>
      rw [activating] at legal
      exact .inr (legal_activating legal)
  | withdrawn _ verified =>
      rw [activating] at verified
      cases verified
  | returned rollingBack phase =>
      obtain ⟨returnPhase, _, same⟩ := Option.map_eq_some_iff.mp phase
      rw [activating] at same
      cases returnPhase <;> cases same

theorem PhaseMove.to_aborted {before after : MigrationManifest} (move : PhaseMove before after)
    (aborted : after.phase = .aborted) :
    before.phase ∈ [.planned, .dryRunVerified, .copying, .copied, .verified] := by
  have running := move.not_terminal
  cases move with
  | begun _ _ phase =>
      rw [← phase, aborted] at running
      cases running
  | completed _ _ legal =>
      rw [aborted] at legal
      exact legal_aborted legal
  | withdrawn _ verified =>
      rw [aborted] at verified
      cases verified
  | returned rollingBack phase =>
      obtain ⟨returnPhase, _, same⟩ := Option.map_eq_some_iff.mp phase
      rw [aborted] at same
      cases returnPhase <;> cases same

/-- Every manifest of a run parses to itself, is sealed over the one before it and follows the
protocol: an activation comes from a verified manifest, an end is final, a migration that was active
is never aborted, and checkpoints only advance. -/
theorem manifests_move_legally {newest : MigrationManifest} {earlier : List MigrationManifest}
    (reached : (migrationSystem platform).Reachable (newest :: earlier)) :
    parseMigrationManifest platform (newest.toJson platform) = .ok newest ∧
    newest.revision = earlier.length ∧
    newest.previousManifestSha256 = earlier.head?.map (·.checksumSha256) ∧
    (newest.phase = .active → newest.activationEligible = true ∧ newest.hasVerification = true ∧
      Activated earlier) ∧
    (newest.phase.isTerminal = true → ∀ call next,
      MigrationCall.apply platform newest call ≠ .ok next) ∧
    (∀ before ∈ earlier, before.phase = .active → newest.phase ≠ .aborted) ∧
    (∀ before ∈ earlier, Advances before.checkpoints newest.checkpoints) ∧
    ∀ before rest, earlier = before :: rest →
      newest.pendingEffect.isSome = !before.pendingEffect.isSome ∧
      (newest.phase = .active → before.phase = .active ∨ before.phase = .activating ∨
        before.phase = .rollingBack ∧ before.rollbackLineage.returnPhase = some .active) ∧
      (newest.phase = .activating → before.phase = .activating ∨ IsVerified before) ∧
      (newest.phase = .aborted →
        before.phase ∈ [.planned, .dryRunVerified, .copying, .copied, .verified]) := by
  obtain ⟨_, _, same, lawful, last⟩ := lawful_of_reachable reached
  obtain ⟨rfl, rfl⟩ := List.cons.inj same
  refine ⟨MigrationManifest.parse_toJson lawful.formed, lawful.revision, lawful.previous, ?_, ?_, ?_,
    lawful.advances, ?_⟩
  · intro active
    have eligible := lawful.eligible (by rw [active]; decide)
    have reported := lawful.formed.consistent.eligible
    rw [eligible, active] at reported
    exact ⟨eligible, by simpa [MigrationPhase.isEligible] using reported.symm,
      lawful.activated (.inl active)⟩
  · intro ended call next applied
    have running := (MigrationCall.moves lawful.formed applied).phase.not_terminal
    rw [ended] at running
    cases running
  · intro before inside active aborted
    have final := lawful.final before inside active
    rw [aborted] at final
    simp at final
  · intro before rest parts
    obtain ⟨lawfulBefore, moves⟩ := last before rest parts
    exact ⟨moves.alternates, moves.phase.to_active, fun activating =>
      (moves.phase.to_activating activating).imp_right lawfulBefore.isVerified,
        moves.phase.to_aborted⟩

def sampleHash : JsString := List.replicate 64 97

def sampleTime : JsString := js "2026-08-12T12:00:00.000Z"

def sampleReport (kind reportId : String) : JsString × Json Nat :=
  (js "report", .object [(js "kind", .string (js kind)), (js "reportId", .string (js reportId)),
    (js "reportSha256", .string sampleHash), (js "createdAt", .string sampleTime)])

def sampleGenesis : Json Nat :=
  let witness := fun backend : String => Json.object [(js "version", .number 1),
    (js "backend", .string (js backend)), (js "identitySha256", .string sampleHash),
    (js "schemaSha256", .string sampleHash), (js "contentSha256", .string sampleHash),
    (js "capturedAt", .string sampleTime)]
  .object [(js "generationId", .string (js "generation-1")), (js "source", witness "sqlite"),
    (js "destination", witness "postgresql"), (js "parentGenerationId", .null),
    (js "preservedSourceGenerationId", .string (js "generation-0")),
    (js "createdAt", .string sampleTime)]

/-- A migration that begins to publish its activation, abandons that and is aborted. -/
def sampleCalls : List (MigrationCall Nat) :=
  let begun := fun effectId kind : String => MigrationCall.begin (.object
    [(js "effectId", .string (js effectId)), (js "kind", .string (js kind)),
      (js "inputSha256", .string sampleHash), (js "startedAt", .string sampleTime)])
  let complete := fun (effectId : String) (evidence : RecordValue Nat) => MigrationCall.complete
    (.object ([(js "effectId", .string (js effectId)), (js "completedAt", .string sampleTime)] ++ evidence))
  let checkpoint := (js "checkpoint", Json.object [(js "domain", .string (js "messages")),
    (js "ordinal", .number 1), (js "recordCount", .number 12),
    (js "sourceCheckpointSha256", .string sampleHash), (js "destinationCommitSha256", .string sampleHash)])
  [begun "e1" "verify-dry-run", complete "e1" [sampleReport "dry-run" "r1"],
    begun "e2" "copy-batch", complete "e2" [checkpoint],
    begun "e3" "complete-copy", complete "e3" [],
    begun "e4" "verify-generation",
    complete "e4" [sampleReport "verification" "r2", (js "activationEligible", .boolean true)],
    begun "e5" "prepare-activation", complete "e5" [],
    begun "e6" "publish-activation",
    .abandon (.object [(js "effectId", .string (js "e6")), (js "abandonedAt", .string sampleTime),
      sampleReport "abandonment" "r3"]),
    begun "e7" "abort", complete "e7" [sampleReport "abort" "r4"]]

/-- The digests of the manifests of the sample run, by the lengths of their texts. -/
def sampleDigests : List (Nat × String) :=
  [(1053, "8c0971ff6f1c004b1ebe51a217d2828c1f8c9b2a7c9b31cceca3d8ca3fafe9c4"),
    (1357, "37c19cec8810d14307e8c90443da3d60a85267554a366ace3fae234c8d564baa"),
    (1279, "bd4d7666da8fb807a8525b68fb325eff3258f2a03efe55850fe33f3fb3bb8dd3"),
    (1532, "1ae3c4fecfd364c0ca8819ff3d061317aec8d7ea6ae923a8c341c282a244a2de"),
    (1505, "90abf5b672a00a4211aed638ba3b4cf1653233ac42f3e038ca0e6b474a9df348"),
    (1751, "cb7c3ba972187249635afc4a1d2d3154abe5cef5dd0d49e74080a26755c0b23c"),
    (1504, "4fa92a45ae463f061fa64d6095f68c021a1bcd030b01fcc44ca7d6883a189932"),
    (1740, "8f88b9e07aaa966f1059360302d1cd059cc6e76ae7f2815b76d815b1ecd6aeff"),
    (1666, "f3f401d247e643741acdaa19be318f871c43390a1aa73db9ed4d0af97998f855"),
    (1907, "7d5f158993a681830e3aa8a9f957c6206f103ff003d8dac7e9d022eb7c5b8ab0"),
    (1669, "1765a312c2100ef4b2834d6e39186e6aad77faf7868fac88d7adc25d165626b4"),
    (1923, "edb0101cb3e2beec3ecf51c0c18b62db5e03376b07b133bb07fe40caec05bdf0"),
    (1827, "19640a5ec1a30e7e8c3c4a9ddfa917fb387ad56e8bfed8ad01590c926fca99c6"),
    (2052, "5204ef6a840a65815c11858c99ce94d73ba9ca2d1051eee957660c01497c7699"),
    (1981, "8fd6e76601cb4eb41ee2870d2b448c7f4883f341161b22a52c4509f20ea6df66")]

def samplePlatform : MigrationPlatform Nat where
  numbers := naturalNumbers
  sha256 text :=
    let digest := js ((sampleDigests.lookup text.length).getD "")
    if valid : isHash digest = true then ⟨digest, valid⟩ else ⟨sampleHash, by decide⟩

def migrate (platform : MigrationPlatform Number) (history : List MigrationManifest)
    (call : MigrationCall Number) : Option (List MigrationManifest) :=
  match history with
  | [] => none
  | manifest :: _ => (call.apply platform manifest).toOption.map (· :: history)

def sampleHistory : Option (List MigrationManifest) := do
  let genesis ← (createMigrationManifest samplePlatform sampleGenesis).toOption
  sampleCalls.foldlM (migrate samplePlatform) [genesis]

/-- The manifests of the sample run that no effect is pending in, without their checksums. -/
def sampleUnsigned (revision : Nat) (phase : MigrationPhase) (reports : List MigrationReportReference)
    (eligible : Bool) (previous : Hash) : UnsignedMigrationManifest :=
  let hash : Hash := ⟨sampleHash, by decide⟩
  let time : IsoTimestamp := ⟨sampleTime, by decide⟩
  { generationId := ⟨js "generation-1", by decide⟩
    revision
    phase
    source := ⟨.sqlite, hash, hash, hash, time⟩
    destination := ⟨.postgresql none, hash, hash, hash, time⟩
    checkpoints := [⟨⟨js "messages", by decide⟩, ⟨1, by decide⟩, ⟨12, by decide⟩, hash, hash⟩]
    reports
    activationEligible := eligible
    rollbackLineage := ⟨none, ⟨js "generation-0", by decide⟩, none, none⟩
    pendingEffect := none
    previousManifestSha256 := some previous
    createdAt := time
    updatedAt := time }

def sampleReference (kind : MigrationReportKind) (reportId : Identifier) : MigrationReportReference :=
  ⟨kind, reportId, ⟨sampleHash, by decide⟩, ⟨sampleTime, by decide⟩⟩

def sampleCopying : MigrationManifest where
  toUnsignedMigrationManifest := sampleUnsigned 4 .copying
    [sampleReference .dryRun ⟨js "r1", by decide⟩] false
    ⟨js "1ae3c4fecfd364c0ca8819ff3d061317aec8d7ea6ae923a8c341c282a244a2de", by decide⟩
  checksumSha256 := ⟨js "90abf5b672a00a4211aed638ba3b4cf1653233ac42f3e038ca0e6b474a9df348", by decide⟩

def sampleVerified : MigrationManifest where
  toUnsignedMigrationManifest := sampleUnsigned 8 .verified
    [sampleReference .dryRun ⟨js "r1", by decide⟩, sampleReference .verification ⟨js "r2", by decide⟩] true
    ⟨js "8f88b9e07aaa966f1059360302d1cd059cc6e76ae7f2815b76d815b1ecd6aeff", by decide⟩
  checksumSha256 := ⟨js "f3f401d247e643741acdaa19be318f871c43390a1aa73db9ed4d0af97998f855", by decide⟩

def sampleAbandoned : MigrationManifest where
  toUnsignedMigrationManifest := sampleUnsigned 12 .verified
    [sampleReference .abandonment ⟨js "r3", by decide⟩, sampleReference .dryRun ⟨js "r1", by decide⟩,
      sampleReference .verification ⟨js "r2", by decide⟩] true
    ⟨js "edb0101cb3e2beec3ecf51c0c18b62db5e03376b07b133bb07fe40caec05bdf0", by decide⟩
  checksumSha256 := ⟨js "19640a5ec1a30e7e8c3c4a9ddfa917fb387ad56e8bfed8ad01590c926fca99c6", by decide⟩

/-- The newest manifest of a history, with the phases of all. -/
def progress (history : List MigrationManifest) : Option MigrationManifest × List MigrationPhase :=
  (history.head?, history.map (·.phase))

/-- The sample run in four parts, each from where the one before it ends. -/
theorem sample_parts :
    (((createMigrationManifest samplePlatform sampleGenesis).toOption.bind fun genesis =>
      (sampleCalls.take 4).foldlM (migrate samplePlatform) [genesis]).map progress =
        some (some sampleCopying, [.copying, .dryRunVerified, .dryRunVerified, .planned, .planned])) ∧
    ((((sampleCalls.drop 4).take 4).foldlM (migrate samplePlatform) [sampleCopying]).map progress =
        some (some sampleVerified, [.verified, .copied, .copied, .copying, .copying])) ∧
    ((((sampleCalls.drop 8).take 4).foldlM (migrate samplePlatform) [sampleVerified]).map progress =
        some (some sampleAbandoned, [.verified, .activating, .activating, .verified, .verified])) ∧
    ((sampleCalls.drop 12).foldlM (migrate samplePlatform) [sampleAbandoned]).map
      (fun history => history.map (·.phase)) = some [.aborted, .verified, .verified] := by
  refine ⟨?_, ?_, ?_, ?_⟩
  · decide +kernel
  · decide +kernel
  · decide +kernel
  · decide +kernel

theorem migrate_fold (platform : MigrationPlatform Number) (manifest : MigrationManifest)
    (rest : List MigrationManifest) (calls : List (MigrationCall Number)) :
    ∀ newer, calls.foldlM (migrate platform) (newer ++ manifest :: rest) =
      (calls.foldlM (migrate platform) (newer ++ [manifest])).map (· ++ rest) := by
  induction calls with
  | nil => simp
  | cons call calls ih =>
      intro newer
      cases newer with
      | nil =>
          simp only [List.nil_append, List.foldlM_cons, migrate]
          cases call.apply platform manifest with
          | error error => rfl
          | ok next => exact ih [next]
      | cons head newer =>
          simp only [List.cons_append, List.foldlM_cons, migrate]
          cases call.apply platform head with
          | error error => rfl
          | ok next => exact ih (next :: head :: newer)

/-- A run goes on from its newest manifest as if that were the only one. -/
theorem migrate_on (manifest : MigrationManifest) (rest : List MigrationManifest)
    (calls : List (MigrationCall Number)) :
    calls.foldlM (migrate platform) (manifest :: rest) =
      (calls.foldlM (migrate platform) [manifest]).map (· ++ rest) :=
  migrate_fold platform manifest rest calls []

theorem of_progress {result : Option (List MigrationManifest)} {next : MigrationManifest}
    {phases : List MigrationPhase} (ran : result.map progress = some (some next, phases)) :
    ∃ rest, result = some (next :: rest) ∧ next.phase :: rest.map (·.phase) = phases := by
  obtain ⟨history, rfl, same⟩ := Option.map_eq_some_iff.mp ran
  obtain ⟨head, shape⟩ := Prod.mk.inj same
  cases history with
  | nil => cases head
  | cons newest rest =>
      cases head
      exact ⟨rest, rfl, shape⟩

theorem sample_phases : sampleHistory.map (fun history => history.map (·.phase)) = some [.aborted,
    .verified, .verified, .activating, .activating, .verified, .verified, .copied, .copied, .copying,
    .copying, .dryRunVerified, .dryRunVerified, .planned, .planned] := by
  obtain ⟨firstPart, secondPart, thirdPart, lastPart⟩ := sample_parts
  obtain ⟨copying, copies, copyingPhases⟩ := of_progress firstPart
  obtain ⟨verified, verifies, verifiedPhases⟩ := of_progress secondPart
  obtain ⟨abandoned, abandons, abandonedPhases⟩ := of_progress thirdPart
  obtain ⟨aborted, aborts, abortedPhases⟩ := Option.map_eq_some_iff.mp lastPart
  have calls : sampleCalls = sampleCalls.take 4 ++ ((sampleCalls.drop 4).take 4 ++
      ((sampleCalls.drop 8).take 4 ++ sampleCalls.drop 12)) := rfl
  obtain ⟨genesis, created, copies⟩ := Option.bind_eq_some_iff.mp copies
  have ran : sampleHistory = some (aborted ++ abandoned ++ verified ++ copying) := by
    simp only [sampleHistory, created, Option.bind_eq_bind, Option.bind_some]
    rw [calls, List.foldlM_append, copies, Option.bind_eq_bind, Option.bind_some, List.foldlM_append,
      migrate_on, verifies, Option.map_some, Option.bind_eq_bind, Option.bind_some, List.foldlM_append,
      List.cons_append, migrate_on, abandons, Option.map_some, Option.bind_eq_bind, Option.bind_some,
      List.cons_append, migrate_on, aborts, Option.map_some]
    simp only [List.append_assoc]
  rw [ran, Option.map_some]
  simp only [List.map_append, abortedPhases, (List.cons.inj copyingPhases).2,
    (List.cons.inj verifiedPhases).2, (List.cons.inj abandonedPhases).2]
  rfl

theorem sampleHistory_reached : ∃ newest earlier,
    (migrationSystem samplePlatform).Reachable (newest :: earlier) ∧
      (newest :: earlier).map (·.phase) = [.aborted, .verified, .verified, .activating, .activating,
        .verified, .verified, .copied, .copied, .copying, .copying, .dryRunVerified, .dryRunVerified,
        .planned, .planned] := by
  obtain ⟨history, ran, same⟩ := Option.map_eq_some_iff.mp sample_phases
  simp only [sampleHistory, Option.bind_eq_bind, Option.bind_eq_some_iff] at ran
  obtain ⟨genesis, created, ran⟩ := ran
  have made : createMigrationManifest samplePlatform sampleGenesis = .ok genesis := by
    cases result : createMigrationManifest samplePlatform sampleGenesis with
    | error error =>
        rw [result] at created
        cases created
    | ok manifest =>
        rw [result] at created
        rw [Option.some.inj created]
  cases history with
  | nil => cases same
  | cons newest earlier =>
      refine ⟨newest, earlier, .run ?_ (.start ⟨_, _, made, rfl⟩) ran, same⟩
      intro before call after moved
      cases before with
      | nil => cases moved
      | cons manifest rest =>
          obtain ⟨next, applied, rfl⟩ := Option.map_eq_some_iff.mp moved
          refine ⟨manifest, rest, next, rfl, ?_, rfl⟩
          cases result : call.apply samplePlatform manifest with
          | error error =>
              rw [result] at applied
              cases applied
          | ok found =>
              rw [result] at applied
              rw [Option.some.inj applied]

/-- A migration whose activation had begun is aborted. -/
theorem aborted_after_activating : ∃ newest earlier,
    (migrationSystem samplePlatform).Reachable (newest :: earlier) ∧ newest.phase = .aborted ∧
      ∃ before ∈ earlier, before.phase = .activating := by
  obtain ⟨newest, earlier, reached, phases⟩ := sampleHistory_reached
  obtain ⟨aborted, rest⟩ := List.cons.inj phases
  refine ⟨newest, earlier, reached, aborted, ?_⟩
  apply List.mem_map.mp
  rw [rest]
  decide

theorem manifests_move_sample : ∃ (newest : MigrationManifest) (earlier : List MigrationManifest),
    newest.phase = .aborted ∧ newest.revision = 14 ∧
    parseMigrationManifest samplePlatform (newest.toJson samplePlatform) = .ok newest ∧
      newest.previousManifestSha256 = earlier.head?.map (·.checksumSha256) := by
  obtain ⟨newest, earlier, reached, phases⟩ := sampleHistory_reached
  obtain ⟨aborted, rest⟩ := List.cons.inj phases
  have legal := manifests_move_legally reached
  have length : earlier.length = 14 := by
    have mapped := congrArg List.length rest
    rwa [List.length_map] at mapped
  exact ⟨newest, earlier, aborted, legal.2.1.trans length, legal.1, legal.2.2.1⟩

end Lcm.Migration
