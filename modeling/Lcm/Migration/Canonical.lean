import Lcm.Migration.Steps

namespace Lcm.Migration
open Text

variable {Number : Type} {platform : MigrationPlatform Number}

theorem canonicalElements_eq (elements : List (Json Number)) :
    canonicalElements platform elements = elements.map (canonicalValue platform) := by
  induction elements with
  | nil => rw [canonicalElements, List.map_nil]
  | cons element elements ih => rw [canonicalElements, ih, List.map_cons]

theorem canonicalMembers_eq (members : RecordValue Number) :
    canonicalMembers platform members =
      members.map fun member => (member.1, canonicalValue platform member.2) := by
  induction members with
  | nil => rw [canonicalMembers, List.map_nil]
  | cons member members ih => rw [canonicalMembers, ih, List.map_cons]

/-- A value that its canonical text gives back. -/
structure Plain (platform : MigrationPlatform Number) (value : Json Number) : Prop where
  canonical : canonicalValue platform value = value
  printable : Json.Printable platform.numbers.format value

/-- Plain values with one canonical text are the same. -/
theorem Plain.eq {first second : Json Number} (firstPlain : Plain platform first)
    (secondPlain : Plain platform second)
    (same : canonicalJson platform first = canonicalJson platform second) : first = second := by
  rw [canonicalJson, canonicalJson, firstPlain.canonical, secondPlain.canonical] at same
  have parsed := Json.parse_print firstPlain.printable
  rw [same, Json.parse_print secondPlain.printable] at parsed
  exact (Option.some.inj parsed).symm

theorem plain_null : Plain platform .null := ⟨by rw [canonicalValue] <;> nofun, .null⟩

theorem plain_boolean (value : Bool) : Plain platform (.boolean value) :=
  ⟨by rw [canonicalValue] <;> nofun, .boolean value⟩

theorem plain_string (text : JsString) : Plain platform (.string text) :=
  ⟨by rw [canonicalValue] <;> nofun, .string text⟩

theorem plain_natural (value : SafeNatural) : Plain platform (writeNatural platform value.1) := by
  have small : value.1 < 2 ^ 53 := lt_of_le_of_lt value.2 (by decide)
  refine ⟨?_, .number (platform.numbers.printable_ofNat small)⟩
  rw [writeNatural, canonicalValue, platform.numbers.plain_ofNat]
  rfl

theorem plain_nullable {Value : Type} {write : Value → Json Number}
    (each : ∀ value, Plain platform (write value)) (value : Option Value) :
    Plain platform (writeNullable write value) := by
  cases value with
  | none => exact plain_null
  | some value => exact each value

theorem plain_array {elements : List (Json Number)}
    (each : ∀ element ∈ elements, Plain platform element) : Plain platform (.array elements) := by
  refine ⟨?_, .array fun element inside => (each element inside).printable⟩
  rw [canonicalValue, canonicalElements_eq]
  congr 1
  exact List.map_congr_left (fun element inside => (each element inside).canonical) |>.trans
    (List.map_id elements)

/-- An object is plain when its names ascend and its values are plain. -/
theorem plain_object {members : RecordValue Number}
    (ascending : ((members.map Prod.fst).map fun name => name.map UInt16.toNat).Pairwise (· < ·))
    (each : ∀ member ∈ members, Plain platform member.2) : Plain platform (.object members) := by
  have kept : members.map (fun member => (member.1, canonicalValue platform member.2)) = members := by
    apply (List.map_congr_left fun member inside => ?_).trans (List.map_id members)
    rw [(each member inside).canonical]
    rfl
  constructor
  · rw [canonicalValue, canonicalMembers_eq, kept, SortedBy.eq_self]
    rw [List.map_map, List.pairwise_map] at ascending
    exact ascending.imp fun less => less.le
  · refine .object ?_ fun member inside => (each member inside).printable
    exact (ascending.imp fun less => less.ne).of_map _ fun _ _ other same => other (congrArg _ same)

theorem MigrationStorageWitness.plain (witness : MigrationStorageWitness) :
    Plain platform (witness.toJson platform) := by
  apply plain_object
  · rw [witness.names]
    cases witness.backend.systemIdentifier.isSome <;> decide
  · intro member inside
    simp only [members, List.mem_append, List.mem_cons, List.mem_map, List.not_mem_nil, or_false] at inside
    rcases inside with ((rfl | rfl | rfl | rfl | rfl) | ⟨_, _, rfl⟩) | rfl
    · exact plain_string _
    · exact plain_string _
    · exact plain_string _
    · exact plain_string _
    · exact plain_string _
    · exact plain_string _
    · exact plain_natural ⟨1, by decide⟩

theorem MigrationCheckpoint.plain (checkpoint : MigrationCheckpoint) :
    Plain platform (checkpoint.toJson platform) := by
  apply plain_object
  · show (List.map _ (List.map js ["destinationCommitSha256", "domain", "ordinal", "recordCount",
      "sourceCheckpointSha256"])).Pairwise _
    decide
  · intro member inside
    simp only [members, List.mem_cons, List.not_mem_nil, or_false] at inside
    rcases inside with rfl | rfl | rfl | rfl | rfl
    · exact plain_string _
    · exact plain_string _
    · exact plain_natural _
    · exact plain_natural _
    · exact plain_string _

theorem MigrationReportReference.plain (report : MigrationReportReference) :
    Plain platform report.toJson := by
  apply plain_object
  · show (List.map _ (List.map js ["createdAt", "kind", "reportId", "reportSha256"])).Pairwise _
    decide
  · intro member inside
    simp only [members, List.mem_cons, List.not_mem_nil, or_false] at inside
    rcases inside with rfl | rfl | rfl | rfl <;> exact plain_string _

theorem MigrationRollbackLineage.plain (lineage : MigrationRollbackLineage) :
    Plain platform lineage.toJson := by
  apply plain_object
  · show (List.map _ (List.map js ["mode", "parentGenerationId", "preservedSourceGenerationId",
      "returnPhase"])).Pairwise _
    decide
  · intro member inside
    simp only [members, List.mem_cons, List.not_mem_nil, or_false] at inside
    rcases inside with rfl | rfl | rfl | rfl
    · exact plain_nullable (fun _ => plain_string _) _
    · exact plain_nullable (fun _ => plain_string _) _
    · exact plain_string _
    · exact plain_nullable (fun _ => plain_string _) _

theorem PendingMigrationEffect.plain (effect : PendingMigrationEffect) :
    Plain platform effect.toJson := by
  apply plain_object
  · show (List.map _ (List.map js ["effectId", "fromPhase", "inputSha256", "kind", "recovery",
      "startedAt", "targetPhase"])).Pairwise _
    decide
  · intro member inside
    simp only [members, List.mem_cons, List.not_mem_nil, or_false] at inside
    rcases inside with rfl | rfl | rfl | rfl | rfl | rfl | rfl <;> exact plain_string _

theorem MigrationManifest.plain {manifest : MigrationManifest}
    (revision : manifest.revision ≤ maxSafeNatural) : Plain platform (manifest.toJson platform) := by
  apply plain_object
  · rw [manifest.names]
    decide
  · intro member inside
    simp only [UnsignedMigrationManifest.members, List.mem_append, List.mem_cons, List.not_mem_nil,
      or_false] at inside
    rcases inside with ((rfl | rfl) | rfl) | rfl | rfl | rfl | rfl | rfl | rfl | rfl | rfl | rfl | rfl |
      rfl | rfl
    · exact plain_boolean _
    · apply plain_array
      intro element listed
      obtain ⟨checkpoint, _, rfl⟩ := List.mem_map.mp listed
      exact checkpoint.plain
    · exact plain_string _
    · exact plain_string _
    · exact manifest.destination.plain
    · exact plain_string _
    · exact plain_nullable PendingMigrationEffect.plain _
    · exact plain_string _
    · exact plain_nullable (fun _ => plain_string _) _
    · apply plain_array
      intro element listed
      obtain ⟨report, _, rfl⟩ := List.mem_map.mp listed
      exact report.plain
    · exact plain_natural ⟨_, revision⟩
    · exact manifest.rollbackLineage.plain
    · exact manifest.source.plain
    · exact plain_string _
    · exact plain_natural ⟨1, by decide⟩

/-- Checkpoints with one canonical text are the same. -/
theorem checkpoint_eq {first second : MigrationCheckpoint}
    (same : canonicalJson platform (first.toJson platform) =
      canonicalJson platform (second.toJson platform)) : first = second := by
  have parsed : parseCheckpoint platform (some (first.toJson platform)) .invalidInput = .ok first :=
    parseCheckpoint_toJson first _
  rw [first.plain.eq second.plain same, parseCheckpoint_toJson] at parsed
  exact (Except.ok.inj parsed).symm

/-- Well-formed manifests are the same exactly when their canonical texts are. -/
theorem sameManifest_iff {first second : MigrationManifest} (firstFormed : first.WellFormed platform)
    (secondFormed : second.WellFormed platform) :
    sameManifest platform first second = true ↔ first = second := by
  rw [sameManifest, beq_iff_eq]
  constructor
  · intro same
    have parsed := MigrationManifest.parse_toJson firstFormed
    rw [(MigrationManifest.plain firstFormed.revision).eq
      (MigrationManifest.plain secondFormed.revision) same,
      MigrationManifest.parse_toJson secondFormed] at parsed
    exact (Except.ok.inj parsed).symm
  · rintro rfl
    rfl

end Lcm.Migration
