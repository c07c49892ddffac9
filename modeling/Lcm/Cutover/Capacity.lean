import Lcm.Cutover.Sizes

namespace Lcm.Cutover
open Text Publication Json

variable {platform : MaintenancePlatform} {manifest : BackendCutoverSetManifest}
  {cutoverSet : BackendCutoverSet} {journal : BackendMaintenanceJournal}

theorem isHash_hex : isHash hex = true := by decide

theorem isCanonicalUuid_longest : isCanonicalUuid longestCanonicalUuid = true := by decide

/-- The largest tuples are well formed. -/
theorem worstSelection_formed {selection : BackendCutoverSetAnySelection}
    (formed : FormedAnySelection manifest selection) :
    FormedAnySelection manifest (worstSelection manifest selection) := by
  cases selection with
  | activation selection =>
      refine ⟨isHash_hex, isHash_hex, isHash_hex, rfl, isHash_hex, rfl, ?_⟩
      rw [backendCutoverSetSelectionWorstCase, List.forall₂_map_left_iff, List.forall₂_same]
      exact fun member _ => isSelectionMember_iff.mpr ⟨rfl, rfl, isCanonicalUuid_longest, isHash_hex,
        isHash_hex, isHash_hex, isHash_hex, isHash_hex, Nat.le_refl _⟩
  | rollback selection =>
      have original : isPublicationId selection.originalSetId = true :=
        FormedRollbackSelection.originalSetId formed
      refine ⟨isHash_hex, isHash_hex, isHash_hex, isHash_hex, original, rfl, isHash_hex, rfl, ?_⟩
      rw [backendCutoverSetRollbackSelectionWorstCase, List.forall₂_map_left_iff, List.forall₂_same]
      exact fun member _ => isRollbackSelectionMember_iff.mpr ⟨rfl, rfl, isCanonicalUuid_longest, isHash_hex,
        isHash_hex, isHash_hex, isHash_hex⟩

theorem worstSet_formed (formed : FormedSet cutoverSet) : FormedSet (worstSet cutoverSet) where
  manifest := formed.manifest
  bindings := by
    rw [worstSet, boundWorstCase, List.forall₂_map_left_iff]
    refine formed.bindings.imp fun binding member fields => ⟨fields.generationId, isHash_hex, ?_⟩
    refine ⟨some (js "9223372036854775807"), rfl, isRosterEntry_iff.mpr ⟨formed.manifest.machineId, isHash_hex, ?_⟩⟩
    intro cutoff same
    cases same
    decide
  selection selection inside := by
    obtain ⟨tuple, stored, rfl⟩ := Option.map_eq_some_iff.mp inside
    exact worstSelection_formed (formed.selection tuple stored)

/-- The largest journal of a kind is one of its set. -/
theorem worstJournal_restates (formed : FormedSet cutoverSet) :
    Restates (worstJournal cutoverSet) (worstSet cutoverSet) := by
  have longest : PlainWithin longestIsoTimestamp 27 := ⟨by decide, by decide⟩
  have base : Restates (abortedWorstCase cutoverSet)
      { cutoverSet with bindings := boundWorstCase cutoverSet, selection := none } :=
    { stored := rfl
      formed := ⟨formed.manifest, (worstSet_formed formed).bindings, fun _ none => by cases none⟩
      publicationId := rfl
      generationId := rfl
      createdAt := longest
      updatedAt := longest
      sourceSelectionSha256 := isHash_hex
      queueEvidenceSha256 := isHash_hex
      checksumSha256 := isHash_hex
      roster := ⟨hex, isHash_hex, rfl⟩
      held := fun _ => ⟨rfl, rfl, rfl, .inr ⟨rfl, hex, isHash_hex, rfl⟩⟩
      selected := fun _ none => by cases none }
  have stored := worstJournal_set cutoverSet
  cases chosen : cutoverSet.selection with
  | none =>
      rw [worstSet, worstJournal, chosen]
      exact base
  | some selection =>
      have formedWorst := worstSet_formed formed
      rw [worstJournal, chosen] at stored ⊢
      exact
        { base with
          stored := stored
          formed := formedWorst
          held := by
            rw [worstSet, chosen]
            intro none
            cases none
          selected := by
            intro other same
            rw [worstSet, chosen] at same
            cases same
            exact ⟨rfl, rfl, rfl, rfl, rfl, hex, isHash_hex, rfl⟩ }

/-- A journal of a set is plain when the fields of its phase are. -/
theorem HoldsSet.plain (holds : HoldsSet journal cutoverSet)
    (ends : Plain (writeNullable journal.selectedGenerationId) ∧
      Plain (writeNullable journal.terminalEvidenceSha256) ∧
      Plain (writeNullable journal.abortEvidenceSha256)) : Plain journal.toJson := by
  have setId := isPublicationId_plain holds.formed.manifest.setId
  obtain ⟨evidence, evidenceHash, roster⟩ := holds.roster
  have rosterPlain : Plain (.array (journal.roster.map rosterEntryJson)) := by
    refine plain_map fun entry inside => rosterEntry_plain ?_
    rw [roster, List.mem_singleton] at inside
    rw [inside]
    exact isRosterEntry_iff.mpr ⟨holds.formed.manifest.machineId, evidenceHash, nofun⟩
  have target : Plain (writeNullable (journal.targetBackend.map backendName)) := by
    refine plain_nullable fun name inside => ?_
    obtain ⟨backend, _, rfl⟩ := Option.map_eq_some_iff.mp inside
    exact plain_backendName backend
  rw [BackendMaintenanceJournal.toJson, payload_eq holds.stored]
  have first : PlainMembers [(js "version", .number 3), (js "publicationId", .string journal.publicationId),
      (js "sourceBackend", .string (backendName journal.sourceBackend)),
      (js "targetBackend", writeNullable (journal.targetBackend.map backendName))] :=
    .cons (by decide) (plain_number 3) (.cons (by decide) (.string (holds.publicationId ▸ setId))
      (.cons (by decide) (.string (plain_backendName _)) (.cons (by decide) target .nil)))
  refine (first.append (.append (.cons (by decide) (.string (plain_phaseName _))
    (.cons (by decide) (.string holds.createdAt.plain)
      (.cons (by decide) (.string holds.updatedAt.plain)
        (.cons (by decide) (.string (holds.generationId ▸ setId))
          (.cons (by decide) (.string (isHash_within holds.sourceSelectionSha256).plain)
            (.cons (by decide) (.string (isHash_within holds.queueEvidenceSha256).plain)
              (.cons (by decide) rosterPlain
                (.cons (by decide) ends.1 (.cons (by decide) ends.2.1 .nil)))))))))
    (.cons (by decide) ends.2.2 (.cons (by decide) holds.formed.plain
      (.cons (by decide) (.string (isHash_within holds.checksumSha256).plain) .nil))))).object

theorem Restates.plain (restates : Restates journal cutoverSet) : Plain journal.toJson := by
  have setId := isPublicationId_plain restates.formed.manifest.setId
  apply restates.toHoldsSet.plain
  cases chosen : cutoverSet.selection with
  | none =>
      obtain ⟨_, selected, terminal, phase⟩ := restates.held chosen
      rw [selected, terminal]
      refine ⟨.null, .null, ?_⟩
      rcases phase with ⟨_, abort⟩ | ⟨_, evidence, hash, abort⟩
      · rw [abort]
        exact .null
      · rw [abort]
        exact .string (isHash_within hash).plain
  | some selection =>
      obtain ⟨_, _, _, selected, abort, evidence, hash, terminal⟩ := restates.selected selection chosen
      rw [selected, terminal, abort]
      exact ⟨.string setId, .string (isHash_within hash).plain, .null⟩

/-- The bytes of the largest journal of the kind of a set. -/
def worstBytes (cutoverSet : BackendCutoverSet) : Option BackendCutoverSetAnySelection → Nat
  | some (.rollback selection) => backendCutoverSetRollbackJournalCapacity cutoverSet selection.originalSetId
  | _ => backendCutoverSetJournalCapacity cutoverSet

/-- A journal of a set takes at most the bytes that the capacity of its kind allows. -/
theorem Restates.bytes_le (restates : Restates journal cutoverSet) :
    journalBytes journal ≤ worstBytes cutoverSet cutoverSet.selection := by
  have worst := worstJournal_restates restates.formed
  have bytes : journalBytes journal ≤ journalBytes (worstJournal cutoverSet) := by
    rw [journalBytes_eq restates.plain, journalBytes_eq worst.plain]
    exact Nat.add_le_add_right restates.size 1
  refine Nat.le_trans bytes ?_
  rw [worstJournal]
  rcases cutoverSet.selection with _ | _ | selection
  · exact Nat.le_max_left ..
  · exact Nat.le_max_right ..
  · exact Nat.le_max_right ..

/-- The capacity of a set depends on its manifest and the generations of its bindings alone. -/
theorem worstBytes_eq {entered : BackendCutoverSet} (sameManifest : entered.manifest = cutoverSet.manifest)
    (sameGenerations : entered.bindings.map (·.generationId) = cutoverSet.bindings.map (·.generationId))
    (selection : Option BackendCutoverSetAnySelection) :
    worstBytes entered selection = worstBytes cutoverSet selection := by
  have bindings : boundWorstCase entered = boundWorstCase cutoverSet := by
    have bound : ∀ cutoverSet : BackendCutoverSet, boundWorstCase cutoverSet =
        (cutoverSet.bindings.map (·.generationId)).map fun generationId =>
          ⟨generationId, hex, [⟨cutoverSet.manifest.machineId, some (js "9223372036854775807"), hex⟩]⟩ :=
      fun cutoverSet => by rw [List.map_map]; rfl
    rw [bound, bound, sameManifest, sameGenerations]
  have aborted : abortedWorstCase entered = abortedWorstCase cutoverSet := by
    rw [abortedWorstCase, abortedWorstCase, bindings, sameManifest]
  have selected : ∀ tuple, selectedWorstCase entered tuple = selectedWorstCase cutoverSet tuple := by
    intro tuple
    rw [selectedWorstCase, selectedWorstCase, aborted, bindings, sameManifest]
  unfold worstBytes
  split
  · rw [backendCutoverSetRollbackJournalCapacity, backendCutoverSetRollbackJournalCapacity, aborted,
      selected, sameManifest]
  · rw [backendCutoverSetJournalCapacity, backendCutoverSetJournalCapacity, aborted, selected, sameManifest]

/-- The largest journal of a set without a selection of its own. -/
def unselectedWorstCase (cutoverSet : BackendCutoverSet) : BackendMaintenanceJournal :=
  { abortedWorstCase cutoverSet with cutoverSet := some (worstSet cutoverSet) }

/-- A journal of a set without the fields of an end is smaller than the largest one with an abort. -/
theorem HoldsSet.open_bytes_le (holds : HoldsSet journal cutoverSet)
    (phase : journal.phase ∈ [.maintenanceEntering, .maintenanceHeld]) (target : journal.targetBackend = none)
    (selected : journal.selectedGenerationId = none) (terminal : journal.terminalEvidenceSha256 = none)
    (abort : journal.abortEvidenceSha256 = none) :
    journalBytes journal ≤ valueSize (unselectedWorstCase cutoverSet).toJson + 1 := by
  have plain : Plain journal.toJson := by
    apply holds.plain
    rw [selected, terminal, abort]
    exact ⟨.null, .null, .null⟩
  have both : valueSize (.string (phaseName journal.phase)) +
      valueSize (writeNullable journal.abortEvidenceSha256) ≤
        valueSize (.string (phaseName .maintenanceAborted)) + valueSize (writeNullable (some hex)) := by
    rw [abort]
    rcases List.mem_pair.mp phase with entering | held
    · rw [entering]
      decide
    · rw [held]
      decide
  have size : valueSize journal.toJson ≤ valueSize (unselectedWorstCase cutoverSet).toJson :=
    holds.size_le rfl ⟨rfl, rfl, rfl, rfl, rfl, rfl, rfl, rfl⟩ (backendName_size _) target selected
      (nullable_le terminal) both
  rw [journalBytes_eq plain]
  exact Nat.add_le_add_right size 1

end Lcm.Cutover
