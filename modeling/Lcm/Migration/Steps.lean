import Lcm.Migration.RoundTrip

namespace Lcm.Migration
open Text

variable {Number : Type} {platform : MigrationPlatform Number}

/-- How the fields of a manifest fit together. -/
structure UnsignedMigrationManifest.Consistent (manifest : UnsignedMigrationManifest) : Prop where
  source : manifest.source.backend.isPostgreSql = false
  destination : manifest.destination.backend.isPostgreSql = true
  predecessor : manifest.revision = 0 ↔ manifest.previousManifestSha256 = none
  terminal : manifest.phase.isTerminal = true → manifest.pendingEffect = none
  pending : ∀ effect, manifest.pendingEffect = some effect → effect.fromPhase = manifest.phase ∧
    legalEffect manifest.phase effect.kind = some ⟨effect.targetPhase, effect.recovery⟩
  eligible : manifest.activationEligible = (manifest.phase.isEligible && manifest.hasVerification)
  returnPhase : manifest.rollbackLineage.returnPhase ≠ none ↔
    manifest.phase ∈ [.rollingBack, .rolledBack]
  mode : manifest.rollbackLineage.mode ≠ none ↔ manifest.phase = .rolledBack

theorem assertPendingEffect_ok {phase : MigrationPhase} {reason : MigrationProtocolReason}
    {pending : Option PendingMigrationEffect} {done : Unit} :
    assertPendingEffect phase reason pending = .ok done ↔ ∀ effect, pending = some effect →
      effect.fromPhase = phase ∧
        legalEffect phase effect.kind = some ⟨effect.targetPhase, effect.recovery⟩ := by
  cases pending with
  | none => simp [assertPendingEffect]
  | some effect => simp [assertPendingEffect, Except.bind_eq_ok, refuse_ok]

theorem assertCrossFieldInvariants_ok {manifest : UnsignedMigrationManifest}
    {reason : MigrationProtocolReason} {done : Unit} :
    assertCrossFieldInvariants manifest reason = .ok done ↔ manifest.Consistent := by
  simp only [assertCrossFieldInvariants, Except.bind_eq_ok, refuse_ok, assertPendingEffect_ok]
  constructor
  · rintro ⟨_, backends, _, predecessor, _, terminal, _, pending, _, eligible, _, outside, _, rolling,
      _, mode, _, rolledMode, rolledPhase⟩
    refine ⟨by simp_all, by simp_all, not_not.mp predecessor, ?_, pending, not_not.mp eligible, ?_, ?_⟩
    · intro ended
      by_contra unsettled
      exact terminal ⟨ended, unsettled⟩
    · simp only [List.mem_cons, List.not_mem_nil, or_false]
      constructor
      · intro known
        by_contra other
        exact outside ⟨known, other⟩
      · rintro (phase | phase) missing
        · exact rolling ⟨phase, missing⟩
        · exact rolledPhase ⟨phase, missing⟩
    · constructor
      · intro known
        by_contra other
        exact mode ⟨known, other⟩
      · exact fun phase missing => rolledMode ⟨phase, missing⟩
  · intro consistent
    have returns := consistent.returnPhase
    simp only [List.mem_cons, List.not_mem_nil, or_false] at returns
    refine ⟨(), ?_, (), not_not.mpr consistent.predecessor, (), ?_, (), consistent.pending, (),
      not_not.mpr consistent.eligible, (), ?_, (), ?_, (), ?_, (), ?_, ?_⟩
    · simp [consistent.source, consistent.destination]
    · exact fun unsettled => unsettled.2 (consistent.terminal unsettled.1)
    · exact fun outside => outside.2 (returns.mp outside.1)
    · exact fun rolling => returns.mpr (.inl rolling.1) rolling.2
    · exact fun mode => mode.2 (consistent.mode.mp mode.1)
    · exact fun rolled => consistent.mode.mpr rolled.1 rolled.2
    · exact fun rolled => returns.mpr (.inr rolled.1) rolled.2

/-- A sealed manifest is consistent and carries its own checksum. -/
theorem sealMigrationManifest_ok {payload : UnsignedMigrationManifest}
    {reason : MigrationProtocolReason} {manifest : MigrationManifest} :
    sealMigrationManifest platform payload reason = .ok manifest ↔ payload.Consistent ∧
      manifest = { payload with
        checksumSha256 := payload.migrationManifestCanonicalSha256 platform } := by
  simp only [sealMigrationManifest, Except.bind_eq_ok, assertCrossFieldInvariants_ok,
    Except.pure_eq_ok]
  constructor
  · rintro ⟨_, consistent, rfl⟩
    exact ⟨consistent, rfl⟩
  · rintro ⟨consistent, rfl⟩
    exact ⟨(), consistent, rfl⟩

theorem orProtocolError_ok {Value : Type} {value : Option Value} {reason : MigrationProtocolReason}
    {message : String} {result : Value} :
    orProtocolError value reason message = .ok result ↔ value = some result := by
  cases value with
  | none => simp [orProtocolError, protocolError]
  | some value => simp [orProtocolError]

/-- The manifest with an effect begun. -/
structure Begins (platform : MigrationPlatform Number) (current : MigrationManifest)
    (pending : PendingMigrationEffect) (next : MigrationManifest) : Prop where
  idle : current.pendingEffect = none
  fromPhase : pending.fromPhase = current.phase
  legal : legalEffect current.phase pending.kind = some ⟨pending.targetPhase, pending.recovery⟩
  revision : current.revision ≠ maxSafeNatural
  forward : current.updatedAt.time ≤ pending.startedAt.time
  sealed : sealMigrationSuccessor platform current pending.startedAt (fun payload => { payload with
    pendingEffect := some pending }) = .ok next

theorem begins_of_ok {manifest input : Json Number} {next : MigrationManifest}
    (begun : beginMigrationEffect platform manifest input = .ok next) :
    ∃ current pending, parseMigrationManifest platform manifest = .ok current ∧
      Begins platform current pending next := by
  simp only [beginMigrationEffect, Except.bind_eq_ok, refuse_ok, orProtocolError_ok] at begun
  obtain ⟨current, parsed, members, _, _, _, ⟨effectId, kind, inputSha256, startedAt⟩, _, _, idle, legal,
    allowed, _, revision, _, forward, sealed⟩ := begun
  exact ⟨current, _, parsed, not_not.mp idle, rfl, allowed, revision, not_lt.mp forward, sealed⟩

theorem ok_of_begins {manifest : Json Number} {current next : MigrationManifest}
    {pending : PendingMigrationEffect}
    (parsed : parseMigrationManifest platform manifest = .ok current)
    (begins : Begins platform current pending next) :
    beginMigrationEffect platform manifest (.object (beginInput pending)) = .ok next := by
  have names : (beginInput pending : RecordValue Number).map Prod.fst =
    ["effectId", "kind", "inputSha256", "startedAt"].map js := rfl
  have distinct : ((beginInput pending : RecordValue Number).map Prod.fst).Nodup := by
    rw [names]
    decide
  have keys : exactKeys (beginInput pending : RecordValue Number) ["effectId", "inputSha256", "kind",
    "startedAt"] = true := exactKeys_eq names (by decide)
  simp only [beginMigrationEffect, Except.bind_eq_ok, refuse_ok, orProtocolError_ok]
  refine ⟨current, parsed, _, rfl, (), not_not.mpr keys,
    (pending.effectId, pending.kind, pending.inputSha256, pending.startedAt), ?_, (),
      not_not.mpr begins.idle, _, begins.legal, (), begins.revision, (), not_lt.mpr begins.forward, ?_⟩
  · rw [own_at distinct 0 rfl, own_at distinct 1 rfl, own_at distinct 2 rfl, own_at distinct 3 rfl,
      readText_string, readText_string, readText_string, readName_effect]
    rfl
  · dsimp only
    rw [← begins.fromPhase]
    exact begins.sealed

/-- The manifest after a completion with its next collections. -/
def completed (current : MigrationManifest) (pending : PendingMigrationEffect)
    (evidence : CompletionEvidence) (checkpoints : List MigrationCheckpoint)
    (reports : List MigrationReportReference) (payload : UnsignedMigrationManifest) :
    UnsignedMigrationManifest :=
  { payload with
    phase := pending.targetPhase
    checkpoints
    reports
    activationEligible := nextEligibility current.activationEligible pending.kind
    rollbackLineage := nextLineage current.rollbackLineage pending evidence.rollbackMode
    pendingEffect := none }

/-- The manifest with its pending effect completed. -/
structure Completes (platform : MigrationPlatform Number) (current : MigrationManifest)
    (pending : PendingMigrationEffect) (completedAt : IsoTimestamp) (evidence : CompletionEvidence)
    (next : MigrationManifest) : Prop where
  begun : current.pendingEffect = some pending
  revision : current.revision ≠ maxSafeNatural
  forward : current.updatedAt.time ≤ completedAt.time
  valid : evidence.isValid pending.kind = true
  within : ∀ report, evidence.report = some report →
    reportWithin report pending.startedAt completedAt = true
  sealed : ∃ checkpoints reports,
    nextCheckpoints current.checkpoints evidence.checkpoint = .ok checkpoints ∧
      nextReports current.reports evidence.report = .ok reports ∧
        sealMigrationSuccessor platform current completedAt
          (completed current pending evidence checkpoints reports) = .ok next

theorem assertCompletionEvidence_ok {pending : PendingMigrationEffect} {input : RecordValue Number}
    {eligible : Option Bool} {mode : Option RollbackMode} {evidence : CompletionEvidence} :
    assertCompletionEvidence platform pending input eligible mode = .ok evidence ↔
      parseOptional (parseCheckpoint platform · .invalidInput) (own input "checkpoint") =
        .ok evidence.checkpoint ∧
      parseOptional (parseReport · .invalidInput) (own input "report") = .ok evidence.report ∧
        evidence.activationEligible = eligible ∧ evidence.rollbackMode = mode ∧
          evidence.isValid pending.kind = true := by
  simp only [assertCompletionEvidence, Except.bind_eq_ok, refuse_ok, Except.pure_eq_ok, not_not]
  constructor
  · rintro ⟨_, checkpoint, _, report, _, valid, rfl⟩
    exact ⟨checkpoint, report, rfl, rfl, valid⟩
  · rintro ⟨checkpoint, report, rfl, rfl, valid⟩
    exact ⟨_, checkpoint, _, report, (), valid, rfl⟩

theorem completes_of_ok {manifest input : Json Number} {next : MigrationManifest}
    (done : completeMigrationEffect platform manifest input = .ok next) :
    ∃ current pending completedAt evidence, parseMigrationManifest platform manifest = .ok current ∧
      Completes platform current pending completedAt evidence next := by
  simp only [completeMigrationEffect, Except.bind_eq_ok, refuse_ok, orProtocolError_ok] at done
  obtain ⟨current, parsed, members, _, _, _, ⟨effectId, completedAt, eligible, mode⟩, _, pending, matched,
    _, revision, _, forward, evidence, asserted, _, within, checkpoints, nextPoints, reports,
    nextReferences, sealed⟩ := done
  refine ⟨current, pending, completedAt, evidence, parsed, (Option.filter_eq_some_iff.mp matched).1,
    revision, not_lt.mp forward, (assertCompletionEvidence_ok.mp asserted).2.2.2.2, ?_, checkpoints, reports,
      nextPoints, nextReferences, sealed⟩
  intro report reported
  simpa [reported] using within

theorem parseOptional_toList {Value : Type} {write : Value → Json Number} {key : String}
    {parse : Option (Json Number) → Except MigrationProtocolError Value} {input : RecordValue Number}
    {value : Option Value} (found : own input key = value.map write)
    (each : ∀ value, parse (some (write value)) = .ok value) :
    parseOptional parse (own input key) = .ok value := by
  rw [found]
  cases value with
  | none => rfl
  | some value =>
      show (parse (some (write value))).map some = _
      rw [each]
      rfl

theorem own_optional {Value : Type} {write : Value → Json Number} {members : RecordValue Number}
    {key : String} {value : Option Value} (distinct : (members.map Prod.fst).Nodup)
    (present : ∀ given, value = some given → (js key, write given) ∈ members)
    (absent : value.isSome = false → js key ∉ members.map Prod.fst) :
    own members key = value.map write := by
  cases value with
  | none => exact own_none (absent rfl)
  | some given => exact own_eq distinct (present given rfl)

section CompleteInput

variable (pending : PendingMigrationEffect) (completedAt : IsoTimestamp)
  (evidence : CompletionEvidence)

theorem completeInput_names : (completeInput platform pending completedAt evidence).map Prod.fst =
    ["effectId", "completedAt"].map js ++ (if evidence.checkpoint.isSome then [js "checkpoint"] else []) ++
      (if evidence.report.isSome then [js "report"] else []) ++
        (if evidence.activationEligible.isSome then [js "activationEligible"] else []) ++
          (if evidence.rollbackMode.isSome then [js "rollbackMode"] else []) := by
  rw [completeInput]
  cases evidence.checkpoint <;> cases evidence.report <;> cases evidence.activationEligible <;>
    cases evidence.rollbackMode <;> rfl

theorem completeInput_distinct :
    ((completeInput platform pending completedAt evidence).map Prod.fst).Nodup := by
  rw [completeInput_names]
  generalize evidence.checkpoint.isSome = checkpoint, evidence.report.isSome = report,
    evidence.activationEligible.isSome = eligible, evidence.rollbackMode.isSome = mode
  revert checkpoint report eligible mode
  decide

theorem completeInput_allowed : (completeInput platform pending completedAt evidence).all
    (fun member => member.1 ∈ ["activationEligible", "checkpoint", "completedAt", "effectId", "report",
      "rollbackMode"].map js) = true := by
  have allowed : ((completeInput platform pending completedAt evidence).map Prod.fst).all
      (fun name => name ∈ ["activationEligible", "checkpoint", "completedAt", "effectId", "report",
        "rollbackMode"].map js) = true := by
    rw [completeInput_names]
    generalize evidence.checkpoint.isSome = checkpoint, evidence.report.isSome = report,
      evidence.activationEligible.isSome = eligible, evidence.rollbackMode.isSome = mode
    revert checkpoint report eligible mode
    decide
  rw [List.all_map] at allowed
  exact allowed

theorem completeInput_checkpoint : own (completeInput platform pending completedAt evidence)
    "checkpoint" = evidence.checkpoint.map (MigrationCheckpoint.toJson platform) := by
  apply own_optional (completeInput_distinct pending completedAt evidence)
  · intro given same
    simp [completeInput, same]
  · intro missing
    rw [completeInput_names, missing]
    generalize evidence.report.isSome = report, evidence.activationEligible.isSome = eligible,
      evidence.rollbackMode.isSome = mode
    revert report eligible mode
    decide

theorem completeInput_report : own (completeInput platform pending completedAt evidence) "report" =
    evidence.report.map MigrationReportReference.toJson := by
  apply own_optional (completeInput_distinct pending completedAt evidence)
  · intro given same
    simp [completeInput, same]
  · intro missing
    rw [completeInput_names, missing]
    generalize evidence.checkpoint.isSome = checkpoint, evidence.activationEligible.isSome = eligible,
      evidence.rollbackMode.isSome = mode
    revert checkpoint eligible mode
    decide

theorem completeInput_eligible : own (completeInput platform pending completedAt evidence)
    "activationEligible" = evidence.activationEligible.map Json.boolean := by
  apply own_optional (completeInput_distinct pending completedAt evidence)
  · intro given same
    simp [completeInput, same]
  · intro missing
    rw [completeInput_names, missing]
    generalize evidence.checkpoint.isSome = checkpoint, evidence.report.isSome = report,
      evidence.rollbackMode.isSome = mode
    revert checkpoint report mode
    decide

theorem completeInput_mode : own (completeInput platform pending completedAt evidence)
    "rollbackMode" = evidence.rollbackMode.map (writeName rollbackModes) := by
  apply own_optional (completeInput_distinct pending completedAt evidence)
  · intro given same
    simp [completeInput, same]
  · intro missing
    rw [completeInput_names, missing]
    generalize evidence.checkpoint.isSome = checkpoint, evidence.report.isSome = report,
      evidence.activationEligible.isSome = eligible
    revert checkpoint report eligible
    decide

end CompleteInput

theorem readOptional_map {Value : Type} {read : Option (Json Number) → Option Value}
    {write : Value → Json Number} (each : ∀ value, read (some (write value)) = some value)
    (value : Option Value) : readOptional read (value.map write) = some value := by
  cases value with
  | none => rfl
  | some value =>
      show (read (some (write value))).map some = _
      rw [each]
      rfl

theorem ok_of_completes {manifest : Json Number} {current next : MigrationManifest}
    {pending : PendingMigrationEffect} {completedAt : IsoTimestamp} {evidence : CompletionEvidence}
    (parsed : parseMigrationManifest platform manifest = .ok current)
    (completes : Completes platform current pending completedAt evidence next) :
    completeMigrationEffect platform manifest
      (.object (completeInput platform pending completedAt evidence)) = .ok next := by
  have distinct : ((completeInput platform pending completedAt evidence).map Prod.fst).Nodup :=
    completeInput_distinct pending completedAt evidence
  obtain ⟨checkpoints, reports, nextPoints, nextReferences, sealed⟩ := completes.sealed
  simp only [completeMigrationEffect, Except.bind_eq_ok, refuse_ok, orProtocolError_ok]
  refine ⟨current, parsed, _, rfl, (), ?_, (pending.effectId, completedAt, evidence.activationEligible,
    evidence.rollbackMode), ?_, pending, ?_, (), completes.revision, (), not_lt.mpr completes.forward,
      evidence, ?_, (), ?_, checkpoints, nextPoints, reports, nextReferences, sealed⟩
  · rw [completeInput_allowed, own_at distinct 0 rfl, own_at distinct 1 rfl]
    simp
  · rw [own_at distinct 0 rfl, own_at distinct 1 rfl, completeInput_eligible, completeInput_mode,
      readText_string, readText_string, readOptional_map fun _ => rfl,
      readOptional_map readName_rollbackMode]
    rfl
  · exact Option.filter_eq_some_iff.mpr ⟨completes.begun, decide_eq_true rfl⟩
  · refine assertCompletionEvidence_ok.mpr ⟨?_, ?_, rfl, rfl, completes.valid⟩
    · exact parseOptional_toList (completeInput_checkpoint pending completedAt evidence)
        fun checkpoint => parseCheckpoint_toJson checkpoint _
    · exact parseOptional_toList (completeInput_report pending completedAt evidence)
        fun report => parseReport_toJson report _
  · cases reported : evidence.report with
    | none => simp
    | some report => simp [completes.within report reported]

/-- The manifest with its pending publication abandoned. -/
structure Abandons (platform : MigrationPlatform Number) (current : MigrationManifest)
    (pending : PendingMigrationEffect) (abandonedAt : IsoTimestamp)
    (report : MigrationReportReference) (next : MigrationManifest) : Prop where
  begun : current.pendingEffect = some pending
  publication : pending.kind.isPublication = true
  kind : report.kind = .abandonment
  revision : current.revision ≠ maxSafeNatural
  forward : current.updatedAt.time ≤ abandonedAt.time
  within : reportWithin report pending.startedAt abandonedAt = true
  sealed : ∃ reports, nextReports current.reports (some report) = .ok reports ∧
    sealMigrationSuccessor platform current abandonedAt (fun payload => { payload with
      phase := if pending.kind = .publishActivation then .verified
        else current.rollbackLineage.returnPhase.elim .verified ReturnPhase.phase
      reports
      rollbackLineage := if pending.kind = .publishRollback then
          { current.rollbackLineage with returnPhase := none }
        else current.rollbackLineage
      pendingEffect := none }) = .ok next

theorem abandons_of_ok {manifest input : Json Number} {next : MigrationManifest}
    (done : abandonMigrationEffect platform manifest input = .ok next) :
    ∃ current pending abandonedAt report, parseMigrationManifest platform manifest = .ok current ∧
      Abandons platform current pending abandonedAt report next := by
  simp only [abandonMigrationEffect, Except.bind_eq_ok, refuse_ok, orProtocolError_ok] at done
  obtain ⟨current, parsed, members, _, _, _, ⟨effectId, abandonedAt⟩, _, report, _, _, kind, pending,
    matched, _, revision, _, forward, _, within, reports, nextReferences, sealed⟩ := done
  obtain ⟨begun, same⟩ := Option.filter_eq_some_iff.mp matched
  exact ⟨current, pending, abandonedAt, report, parsed, begun, (of_decide_eq_true same).2,
    not_not.mp kind, revision, not_lt.mp forward, not_not.mp within, reports, nextReferences, sealed⟩

theorem ok_of_abandons {manifest : Json Number} {current next : MigrationManifest}
    {pending : PendingMigrationEffect} {abandonedAt : IsoTimestamp}
    {report : MigrationReportReference}
    (parsed : parseMigrationManifest platform manifest = .ok current)
    (abandons : Abandons platform current pending abandonedAt report next) :
    abandonMigrationEffect platform manifest (.object (abandonInput pending abandonedAt report)) =
      .ok next := by
  have names : (abandonInput pending abandonedAt report : RecordValue Number).map Prod.fst =
    ["effectId", "abandonedAt", "report"].map js := rfl
  have distinct : ((abandonInput pending abandonedAt report : RecordValue Number).map
      Prod.fst).Nodup := by
    rw [names]
    decide
  have keys : exactKeys (abandonInput pending abandonedAt report : RecordValue Number) ["abandonedAt",
    "effectId", "report"] = true := exactKeys_eq names (by decide)
  obtain ⟨reports, nextReferences, sealed⟩ := abandons.sealed
  simp only [abandonMigrationEffect, Except.bind_eq_ok, refuse_ok, orProtocolError_ok]
  refine ⟨current, parsed, _, rfl, (), not_not.mpr keys, (pending.effectId, abandonedAt), ?_, report, ?_,
    (), not_not.mpr abandons.kind, pending, ?_, (), abandons.revision, (), not_lt.mpr abandons.forward,
      (), not_not.mpr abandons.within, reports, nextReferences, sealed⟩
  · rw [own_at distinct 0 rfl, own_at distinct 1 rfl, readText_string, readText_string]
    rfl
  · rw [own_at distinct 2 rfl]
    exact parseReport_toJson report _
  · exact Option.filter_eq_some_iff.mpr ⟨abandons.begun, decide_eq_true ⟨rfl, abandons.publication⟩⟩

end Lcm.Migration
