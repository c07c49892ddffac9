import Lcm.Migration.Protocol

namespace Lcm.Migration
open Text

variable {Number : Type} {platform : MigrationPlatform Number}

/-- A member of an object with distinct names is found under its name. -/
theorem own_eq {members : RecordValue Number} {key : String} {value : Json Number}
    (distinct : (members.map Prod.fst).Nodup) (inside : (js key, value) ∈ members) :
    own members key = some value := by
  rw [own]
  induction members with
  | nil => cases inside
  | cons member members ih =>
      rw [List.map_cons, List.nodup_cons] at distinct
      rw [List.lookup_cons]
      rcases List.mem_cons.mp inside with rfl | later
      · simp
      · have other : ¬ js key = member.1 := fun same =>
          distinct.1 (same ▸ List.mem_map_of_mem (f := Prod.fst) later)
        rw [beq_false_of_ne other]
        exact ih distinct.2 later

theorem own_at {members : RecordValue Number} (distinct : (members.map Prod.fst).Nodup) (index : Nat)
    {key : String} {value : Json Number} (placed : members[index]? = some (js key, value)) :
    own members key = some value :=
  own_eq distinct (List.mem_of_getElem? placed)

theorem own_none {members : RecordValue Number} {key : String}
    (missing : js key ∉ members.map Prod.fst) : own members key = none := by
  rw [own, List.lookup_eq_none_iff]
  intro member inside
  rw [bne_iff_ne]
  intro same
  rw [same] at missing
  exact missing (List.mem_map_of_mem inside)

theorem readText_string {check : JsString → Bool} (text : { text : JsString // check text = true }) :
    (readText (some (.string text.1 : Json Number)) : Option { text // check text = true }) =
      some text := by
  simp [readText, text.2]

theorem readName_writeName {Value : Type} [DecidableEq Value] {names : List (Value × JsString)}
    {value : Value} (named : ((names.find? fun entry =>
      entry.2 = (names.lookup value).getD []).map Prod.fst) = some value) :
    readName names (some (writeName names value : Json Number)) = some value := named

theorem readName_phase (phase : MigrationPhase) :
    readName phases (some (writeName phases phase : Json Number)) = some phase := by
  apply readName_writeName
  cases phase <;> decide

theorem readName_effect (effect : MigrationEffectKind) :
    readName effects (some (writeName effects effect : Json Number)) = some effect := by
  apply readName_writeName
  cases effect <;> decide

theorem readName_reportKind (kind : MigrationReportKind) :
    readName reportKinds (some (writeName reportKinds kind : Json Number)) = some kind := by
  apply readName_writeName
  cases kind <;> decide

theorem readName_recovery (recovery : MigrationRecovery) :
    readName recoveries (some (writeName recoveries recovery : Json Number)) = some recovery := by
  apply readName_writeName
  cases recovery <;> decide

theorem readName_rollbackMode (mode : RollbackMode) :
    readName rollbackModes (some (writeName rollbackModes mode : Json Number)) = some mode := by
  apply readName_writeName
  cases mode <;> decide

theorem readName_returnPhase (phase : ReturnPhase) :
    readName returnPhases (some (writeName returnPhases phase : Json Number)) = some phase := by
  apply readName_writeName
  cases phase <;> decide

theorem readNullable_writeNullable {Value : Type} {read : Option (Json Number) → Option Value}
    {write : Value → Json Number} {value : Option Value}
    (each : ∀ value, read (some (write value)) = some value) (solid : ∀ value, write value ≠ .null) :
    readNullable read (some (writeNullable write value)) = some value := by
  cases value with
  | none => rfl
  | some value =>
      show readNullable read (some (write value)) = some (some value)
      rw [readNullable, each]
      · rfl
      · exact fun same => solid value (Option.some.inj same)

theorem readNullable_text {check : JsString → Bool}
    (text : Option { text : JsString // check text = true }) :
    readNullable readText (some (writeNullable (fun text => Json.string text.1) text) :
      Option (Json Number)) = some text := readNullable_writeNullable readText_string nofun

theorem readNatural_writeNatural (value : SafeNatural) :
    readNatural platform (some (writeNatural platform value.1)) = some value := by
  have small : value.1 < 2 ^ 53 := lt_of_le_of_lt value.2 (by decide)
  have most : value.1 ≤ 9007199254740991 := value.2
  have safe : platform.numbers.toSafeInteger (platform.numbers.ofNat value.1) =
      some (.ofNat value.1) := by
    rw [JsNumbers.toSafeInteger, platform.numbers.toInteger_ofNat value.1 small, Option.filter_some,
      if_pos]
    · rfl
    · apply decide_eq_true
      rw [JsNumbers.maxSafe]
      omega
  rw [writeNatural, readNatural, safe]
  simp [value.2, platform.numbers.plain_ofNat]

theorem isVersionOne_writeNatural :
    isVersionOne platform (some (writeNatural platform 1)) = true := by
  rw [writeNatural, isVersionOne, platform.numbers.toInteger_ofNat 1 (by decide)]
  rfl

theorem assertExactObject_ok {members : RecordValue Number} {keys : List String} {label : String}
    {reason : MigrationProtocolReason} (exact' : exactKeys members keys = true) :
    assertExactObject (some (.object members)) keys label reason = .ok members := by
  rw [assertExactObject, if_pos exact']

/-- An object with given distinct names has exactly the keys of a list with the same names. -/
theorem exactKeys_eq {members : RecordValue Number} {names : List JsString} {keys : List String}
    (same : members.map Prod.fst = names) (listed : sortNames names = sortNames (keys.map js)) :
    exactKeys members keys = true := by
  rw [exactKeys, same, listed]
  exact beq_self_eq_true _

theorem parseCheckpoint_toJson (checkpoint : MigrationCheckpoint) (reason : MigrationProtocolReason) :
    parseCheckpoint platform (some (checkpoint.toJson platform)) reason = .ok checkpoint := by
  have names : (checkpoint.members platform).map Prod.fst = ["destinationCommitSha256", "domain",
    "ordinal", "recordCount", "sourceCheckpointSha256"].map js := rfl
  have distinct : ((checkpoint.members platform).map Prod.fst).Nodup := by
    rw [names]
    decide
  rw [parseCheckpoint, MigrationCheckpoint.toJson, assertExactObject_ok (exactKeys_eq names rfl),
    Except.bind_eq_ok]
  refine ⟨_, rfl, ?_⟩
  rw [own_at distinct 0 rfl, own_at distinct 1 rfl, own_at distinct 2 rfl, own_at distinct 3 rfl,
    own_at distinct 4 rfl, readText_string, readText_string, readText_string,
    readNatural_writeNatural, readNatural_writeNatural]
  rfl

theorem parseReport_toJson (report : MigrationReportReference) (reason : MigrationProtocolReason) :
    parseReport (some (report.toJson : Json Number)) reason = .ok report := by
  have names : (report.members : RecordValue Number).map Prod.fst =
    ["createdAt", "kind", "reportId", "reportSha256"].map js := rfl
  have distinct : ((report.members : RecordValue Number).map Prod.fst).Nodup := by
    rw [names]
    decide
  rw [parseReport, MigrationReportReference.toJson, assertExactObject_ok (exactKeys_eq names rfl),
    Except.bind_eq_ok]
  refine ⟨_, rfl, ?_⟩
  rw [own_at distinct 0 rfl, own_at distinct 1 rfl, own_at distinct 2 rfl, own_at distinct 3 rfl,
    readText_string, readText_string, readText_string, readName_reportKind]
  rfl

theorem parseRollbackLineage_toJson (lineage : MigrationRollbackLineage) :
    parseRollbackLineage (some (lineage.toJson : Json Number)) = .ok lineage := by
  have names : (lineage.members : RecordValue Number).map Prod.fst =
    ["mode", "parentGenerationId", "preservedSourceGenerationId", "returnPhase"].map js := rfl
  have distinct : ((lineage.members : RecordValue Number).map Prod.fst).Nodup := by
    rw [names]
    decide
  rw [parseRollbackLineage, MigrationRollbackLineage.toJson,
    assertExactObject_ok (exactKeys_eq names rfl), Except.bind_eq_ok]
  refine ⟨_, rfl, ?_⟩
  rw [own_at distinct 0 rfl, own_at distinct 1 rfl, own_at distinct 2 rfl, own_at distinct 3 rfl,
    readNullable_writeNullable readName_rollbackMode nofun,
    readNullable_text,
    readNullable_writeNullable readName_returnPhase nofun, readText_string]
  rfl

theorem parsePendingEffect_toJson (effect : Option PendingMigrationEffect) :
    parsePendingEffect (some (writeNullable PendingMigrationEffect.toJson effect : Json Number)) =
      .ok effect := by
  cases effect with
  | none => rfl
  | some effect =>
      have names : (effect.members : RecordValue Number).map Prod.fst = ["effectId", "fromPhase",
        "inputSha256", "kind", "recovery", "startedAt", "targetPhase"].map js := rfl
      have distinct : ((effect.members : RecordValue Number).map Prod.fst).Nodup := by
        rw [names]
        decide
      show parsePendingEffect (some (.object effect.members)) = _
      rw [parsePendingEffect, assertExactObject_ok (exactKeys_eq names rfl)]
      · rw [Except.bind_eq_ok]
        refine ⟨_, rfl, ?_⟩
        rw [own_at distinct 0 rfl, own_at distinct 1 rfl, own_at distinct 2 rfl,
          own_at distinct 3 rfl, own_at distinct 4 rfl, own_at distinct 5 rfl,
          own_at distinct 6 rfl, readText_string, readText_string, readText_string,
          readName_phase, readName_phase, readName_effect, readName_recovery]
        rfl
      · nofun

theorem MigrationStorageWitness.names (witness : MigrationStorageWitness) :
    (witness.members platform).map Prod.fst = ["backend", "capturedAt", "contentSha256",
      "identitySha256", "schemaSha256"].map js ++ (if witness.backend.systemIdentifier.isSome then
        [js "systemIdentifier"] else []) ++ [js "version"] := by
  rw [MigrationStorageWitness.members]
  cases witness.backend.systemIdentifier <;> rfl

theorem MigrationStorageWitness.distinct (witness : MigrationStorageWitness) :
    ((witness.members platform).map Prod.fst).Nodup := by
  rw [witness.names]
  cases witness.backend.systemIdentifier.isSome <;> decide

theorem MigrationStorageWitness.own_systemIdentifier (witness : MigrationStorageWitness) :
    own (witness.members platform) "systemIdentifier" =
      witness.backend.systemIdentifier.map fun systemIdentifier => .string systemIdentifier.1 := by
  cases recorded : witness.backend.systemIdentifier with
  | none =>
      apply own_none
      rw [witness.names, recorded]
      decide
  | some systemIdentifier =>
      apply own_eq witness.distinct
      rw [MigrationStorageWitness.members, recorded]
      simp

theorem readBackend_members (witness : MigrationStorageWitness) :
    readBackend (witness.members platform) = some witness.backend := by
  have named : own (witness.members platform) "backend" = some (.string witness.backend.text) :=
    own_at witness.distinct 0 rfl
  have sqlite : js "sqlite" ≠ js "postgresql" := by decide
  rw [readBackend, named, witness.own_systemIdentifier]
  cases witness.backend with
  | sqlite => exact if_pos rfl
  | postgresql systemIdentifier =>
      cases systemIdentifier with
      | none => exact (if_neg sqlite.symm).trans (if_pos rfl)
      | some systemIdentifier =>
          show (if js "postgresql" = js "postgresql" then _ else _) = _
          rw [if_pos rfl]
          exact congrArg (Option.map _) (readText_string systemIdentifier)

theorem parseWitness_toJson (witness : MigrationStorageWitness) (label : String)
    (reason : MigrationProtocolReason) :
    parseWitness platform (some (witness.toJson platform)) label reason = .ok witness := by
  have keys : exactKeys (witness.members platform) (if (own (witness.members platform)
      "systemIdentifier").isSome then witnessKeys ++ ["systemIdentifier"] else witnessKeys) = true := by
    apply exactKeys_eq witness.names
    rw [witness.own_systemIdentifier, Option.isSome_map]
    cases witness.backend.systemIdentifier.isSome <;> decide
  have version : own (witness.members platform) "version" = some (writeNatural platform 1) := by
    apply own_eq witness.distinct
    rw [MigrationStorageWitness.members]
    simp
  rw [MigrationStorageWitness.toJson, parseWitness, assertExactObject_ok keys, Except.bind_eq_ok]
  refine ⟨_, rfl, ?_⟩
  rw [readBackend_members, version, isVersionOne_writeNatural, own_at witness.distinct 1 rfl,
    own_at witness.distinct 2 rfl, own_at witness.distinct 3 rfl, own_at witness.distinct 4 rfl,
    readText_string, readText_string, readText_string, readText_string]
  rfl

theorem refuse_ok {condition : Prop} [Decidable condition] {reason : MigrationProtocolReason}
    {message : String} {done : Unit} : refuse condition reason message = .ok done ↔ ¬ condition := by
  by_cases holds : condition
  · simp [refuse, holds, protocolError]
  · simp [refuse, holds]

/-- The fields of a manifest that its parser demands. -/
structure MigrationManifest.WellFormed (platform : MigrationPlatform Number)
    (manifest : MigrationManifest) : Prop where
  revision : manifest.revision ≤ maxSafeNatural
  checkpoints : sortCheckpoints manifest.checkpoints = manifest.checkpoints
  reports : sortReports manifest.reports = manifest.reports
  domains : (manifest.checkpoints.map (·.domain)).Nodup
  reportIds : (manifest.reports.map (·.reportId)).Nodup
  cross : assertCrossFieldInvariants manifest.toUnsignedMigrationManifest .malformedManifest = .ok ()
  checksum : manifest.checksumSha256 =
    manifest.toUnsignedMigrationManifest.migrationManifestCanonicalSha256 platform

namespace MigrationManifest

theorem names (manifest : MigrationManifest) : (manifest.members platform
    [(js "checksumSha256", .string manifest.checksumSha256.1)]).map Prod.fst = manifestKeys.map js := rfl

theorem distinct (manifest : MigrationManifest) : ((manifest.members platform
    [(js "checksumSha256", .string manifest.checksumSha256.1)]).map Prod.fst).Nodup := by
  rw [manifest.names]
  decide

variable (platform) in
theorem readManifestFields_members (manifest : MigrationManifest)
    (revision : manifest.revision ≤ maxSafeNatural) :
    readManifestFields platform (manifest.members platform
      [(js "checksumSha256", .string manifest.checksumSha256.1)]) =
        some ⟨manifest.generationId, ⟨manifest.revision, revision⟩, manifest.phase,
          manifest.checkpoints.map (MigrationCheckpoint.toJson platform),
          manifest.reports.map MigrationReportReference.toJson, manifest.activationEligible,
          manifest.previousManifestSha256, manifest.createdAt, manifest.updatedAt,
          manifest.checksumSha256⟩ := by
  have distinct : ((manifest.members platform [(js "checksumSha256",
    .string manifest.checksumSha256.1)]).map Prod.fst).Nodup := manifest.distinct
  rw [readManifestFields, own_at distinct 0 rfl, own_at distinct 1 rfl, own_at distinct 2 rfl,
    own_at distinct 3 rfl, own_at distinct 5 rfl, own_at distinct 7 rfl, own_at distinct 8 rfl,
    own_at distinct 9 rfl, own_at distinct 10 rfl, own_at distinct 13 rfl, own_at distinct 14 rfl,
    readNatural_writeNatural ⟨_, revision⟩, readNullable_text, readText_string, readText_string,
    readText_string, readText_string, readName_phase, isVersionOne_writeNatural]
  rfl

theorem mapM_parse {Value : Type} {write : Value → Json Number}
    {parse : Json Number → Except MigrationProtocolError Value}
    (each : ∀ value, parse (write value) = .ok value) (values : List Value) :
    (values.map write).mapM parse = .ok values := by
  rw [Except.mapM_eq_ok, List.forall₂_map_left_iff]
  exact List.forall₂_same.mpr fun value _ => each value

/-- A well-formed manifest parses to itself. -/
theorem parse_toJson {manifest : MigrationManifest} (formed : manifest.WellFormed platform) :
    parseMigrationManifest platform (manifest.toJson platform) = .ok manifest := by
  have distinct : ((manifest.members platform [(js "checksumSha256",
    .string manifest.checksumSha256.1)]).map Prod.fst).Nodup := manifest.distinct
  have keys : exactKeys (manifest.members platform [(js "checksumSha256",
    .string manifest.checksumSha256.1)]) manifestKeys = true := exactKeys_eq manifest.names rfl
  have unique : assertUniqueCollections manifest.checkpoints manifest.reports = .ok () := by
    rw [assertUniqueCollections, if_neg (not_not.mpr formed.domains),
      if_neg (not_not.mpr formed.reportIds)]
  have fields := congrArg (orProtocolError · MigrationProtocolReason.malformedManifest
    "manifest is invalid") (readManifestFields_members platform manifest formed.revision)
  rw [toJson, parseMigrationManifest]
  simp only [Except.bind_eq_ok]
  refine ⟨_, rfl, _, rfl, _, assertExactObject_ok keys, _, fields, manifest.source, ?_, manifest.destination, ?_,
    manifest.checkpoints, ?_, manifest.reports, ?_, manifest.rollbackLineage, ?_,
    manifest.pendingEffect, ?_, (), ?_, (), ?_, (), ?_, ?_⟩
  · rw [own_at distinct 12 rfl]
    exact parseWitness_toJson manifest.source _ _
  · rw [own_at distinct 4 rfl]
    exact parseWitness_toJson manifest.destination _ _
  · exact mapM_parse (fun checkpoint => parseCheckpoint_toJson checkpoint _) manifest.checkpoints
  · exact mapM_parse (fun report => parseReport_toJson report _) manifest.reports
  · rw [own_at distinct 11 rfl]
    exact parseRollbackLineage_toJson manifest.rollbackLineage
  · rw [own_at distinct 6 rfl]
    exact parsePendingEffect_toJson manifest.pendingEffect
  · rw [formed.checkpoints, formed.reports]
    exact unique
  · rw [formed.checkpoints, formed.reports]
    exact formed.cross
  · rw [refuse_ok, formed.checkpoints, formed.reports, not_not]
    exact formed.checksum.symm
  · rw [formed.checkpoints, formed.reports]
    rfl

/-- Whatever parses is well formed. -/
theorem wellFormed_of_parse {value : Json Number} {manifest : MigrationManifest}
    (parsed : parseMigrationManifest platform value = .ok manifest) :
    manifest.WellFormed platform := by
  simp only [parseMigrationManifest, Except.bind_eq_ok, refuse_ok] at parsed
  obtain ⟨_, _, _, _, _, _, fields, _, source, _, destination, _, checkpoints, _, reports, _, lineage,
    _, pending, _, _, unique, _, cross, _, checksum, rest⟩ := parsed
  obtain rfl := Except.pure_eq_ok.mp rest
  rw [assertUniqueCollections] at unique
  split at unique
  · cases unique
  next domains =>
  split at unique
  · cases unique
  next reportIds =>
  exact ⟨fields.revision.2, SortedBy.idempotent _, SortedBy.idempotent _, not_not.mp domains,
    not_not.mp reportIds, cross, (not_not.mp checksum).symm⟩

end MigrationManifest

end Lcm.Migration
