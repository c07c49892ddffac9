import Lcm.Cutover.Maintenance
import Lcm.Library.Except
import Lcm.Publication.Soundness

namespace Lcm.Cutover
open Text Publication Json

theorem canonicalElements_eq (elements : List (Json Nat)) :
    canonicalElements elements = elements.map canonicalValue := by
  induction elements with
  | nil => rw [canonicalElements, List.map_nil]
  | cons element elements ih => rw [canonicalElements, ih, List.map_cons]

theorem canonicalMembers_eq (members : List (JsString × Json Nat)) :
    canonicalMembers members = members.map fun member => (member.1, canonicalValue member.2) := by
  induction members with
  | nil => rw [canonicalMembers, List.map_nil]
  | cons member members ih => rw [canonicalMembers, ih, List.map_cons]

abbrev Plain (value : Json Nat) : Prop := PlainValue naturalFormat value

abbrev valueSize (value : Json Nat) : Nat := size naturalFormat value

/-- The order of the members changes neither the size of a plain value nor that it is plain. -/
theorem canonicalValue_plain {value : Json Nat} (plain : Plain value) :
    Plain (canonicalValue value) ∧ valueSize (canonicalValue value) = valueSize value := by
  induction plain with
  | null => exact ⟨by rw [canonicalValue] <;> first | exact .null | nofun, by rw [canonicalValue] <;> nofun⟩
  | boolean value =>
      exact ⟨by rw [canonicalValue] <;> first | exact .boolean value | nofun, by rw [canonicalValue] <;> nofun⟩
  | number plain =>
      exact ⟨by rw [canonicalValue] <;> first | exact .number plain | nofun, by rw [canonicalValue] <;> nofun⟩
  | string plain =>
      exact ⟨by rw [canonicalValue] <;> first | exact .string plain | nofun, by rw [canonicalValue] <;> nofun⟩
  | @array elements _ ih =>
      rw [canonicalValue, canonicalElements_eq]
      constructor
      · refine .array fun element inside => ?_
        obtain ⟨source, listed, rfl⟩ := List.mem_map.mp inside
        exact (ih source listed).1
      · simp only [valueSize, size, elementsSize_eq, List.map_map]
        congr 3
        exact List.map_congr_left fun element inside => congrArg (· + 1) (ih element inside).2
  | @object members names _ ih =>
      rw [canonicalValue, canonicalMembers_eq]
      have sorted : (sortedBy (fun member : JsString × Json Nat => member.1.map UInt16.toNat)
          (members.map fun member => (member.1, canonicalValue member.2))).Perm _ := SortedBy.perm _
      constructor
      · refine .object (fun member inside => ?_) fun member inside => ?_
        · obtain ⟨source, listed, rfl⟩ := List.mem_map.mp (sorted.mem_iff.mp inside)
          exact names source listed
        · obtain ⟨source, listed, rfl⟩ := List.mem_map.mp (sorted.mem_iff.mp inside)
          exact (ih source listed).1
      · rw [valueSize, size_perm sorted]
        simp only [valueSize, size, membersSize_eq, List.map_map]
        congr 3
        exact List.map_congr_left fun member inside =>
          congrArg (fun size => member.1.length + 3 + size + 1) (ih member inside).2

/-- The file of a plain journal has one byte more than its value. -/
theorem journalBytes_eq {journal : BackendMaintenanceJournal} (plain : Plain journal.toJson) :
    journalBytes journal = valueSize journal.toJson + 1 := by
  have canonical := canonicalValue_plain plain
  have printed := canonical.1.print.append (⟨rfl, by decide⟩ : PlainPrint [10] 1)
  rw [journalBytes, canonicalJson, byteLength_ascii printed.ascii, printed.length]
  exact congrArg (· + 1) canonical.2

section Patterns

theorem isHash_within {text : JsString} (hash : isHash text = true) : PlainWithin text 64 := by
  rw [isHash, Bool.and_eq_true, beq_iff_eq, List.all_eq_true] at hash
  exact ⟨fun unit inside => plain_isHexDigit (hash.2 unit inside), Nat.le_of_eq hash.1⟩

theorem isCanonicalUuid_within {text : JsString} (uuid : isCanonicalUuid text = true) :
    PlainWithin text 36 := by
  rw [isCanonicalUuid, Bool.and_eq_true, isUuid, Bool.and_eq_true, beq_iff_eq, List.all_eq_true] at uuid
  refine ⟨fun unit inside => ?_, Nat.le_of_eq uuid.1.1⟩
  obtain ⟨index, found⟩ := List.mem_iff_getElem?.mp inside
  have digit := uuid.1.2 (unit, index) (List.mem_zipIdx_iff_getElem?.mpr found)
  dsimp only at digit
  split at digit
  · rw [eq_of_beq digit]
    decide
  · exact plain_isHexDigit digit

theorem isPublicationId_plain {text : JsString} (formed : isPublicationId text = true) : PlainText text := by
  intro unit inside
  rw [isPublicationId, Bool.and_eq_true, List.all_eq_true] at formed
  have allowed := formed.2 unit inside
  simp only [Bool.or_eq_true, Bool.and_eq_true, decide_eq_true_eq, UInt16.le_iff_toNat_le,
    UInt16.reduceToNat] at allowed
  rcases allowed with ((digit | upper) | lower) | mark
  · exact plain_unit (by omega) (by omega) (by omega)
  · exact plain_unit (by omega) (by omega) (by omega)
  · exact plain_unit (by omega) (by omega) (by omega)
  · exact (by decide : ∀ unit ∈ js "._:-", isPlainUnit unit = true) unit mark

theorem isPaddedSequence_within {text : JsString} (padded : isPaddedSequence text = true) :
    PlainWithin text 19 := by
  rw [isPaddedSequence, Bool.and_eq_true, beq_iff_eq, List.all_eq_true] at padded
  refine ⟨fun unit inside => ?_, Nat.le_of_eq padded.1⟩
  have digit := padded.2 unit inside
  simp only [Json.isDigit, Bool.and_eq_true, decide_eq_true_eq, UInt16.le_iff_toNat_le,
    UInt16.reduceToNat] at digit
  exact plain_unit (by omega) (by omega) (by omega)

theorem plain_string {text : JsString} (plain : PlainText text) : Plain (.string text) := .string plain

theorem plain_nullable {text : Option JsString} (plain : ∀ value ∈ text, PlainText value) :
    Plain (writeNullable text) := by
  cases text with
  | none => exact .null
  | some value => exact .string (plain value rfl)

theorem plain_number (value : Nat) : Plain (.number value) := .number (plain_digits _ _)

theorem plain_backendName (backend : StorageBackendName) : PlainText (backendName backend) := by
  cases backend <;> decide

theorem plain_phaseName (phase : MaintenancePhase) : PlainText (phaseName phase) := by
  cases phase <;> decide

theorem plain_modeName (mode : RollbackMode) : PlainText (modeName mode) := by
  cases mode <;> decide

end Patterns

/-- Members with plain names and plain values. -/
inductive PlainMembers : List (JsString × Json Nat) → Prop
  | nil : PlainMembers []
  | cons {name : JsString} {value : Json Nat} {rest : List (JsString × Json Nat)} (named : PlainText name)
      (plain : Plain value) (others : PlainMembers rest) : PlainMembers ((name, value) :: rest)

theorem PlainMembers.object {members : List (JsString × Json Nat)} (plain : PlainMembers members) :
    Plain (.object members) := by
  have each : ∀ member ∈ members, PlainText member.1 ∧ Plain member.2 := by
    induction plain with
    | nil => exact fun _ inside => absurd inside List.not_mem_nil
    | cons named plain _ ih => exact List.forall_mem_cons.mpr ⟨⟨named, plain⟩, ih⟩
  exact .object (fun member inside => (each member inside).1) fun member inside => (each member inside).2

theorem PlainMembers.append {first second : List (JsString × Json Nat)} (before : PlainMembers first)
    (after : PlainMembers second) : PlainMembers (first ++ second) := by
  induction before with
  | nil => exact after
  | cons named plain _ ih => exact .cons named plain ih

theorem plain_map {Item : Type} {items : List Item} {write : Item → Json Nat}
    (each : ∀ item ∈ items, Plain (write item)) : Plain (.array (items.map write)) := by
  refine .array fun element inside => ?_
  obtain ⟨item, listed, rfl⟩ := List.mem_map.mp inside
  exact each item listed

section Formed

theorem checkEach_ok {Item : Type} {check : Nat → Item → Except PublicationFailure Unit}
    {items : List Item} (checked : checkEach check items = .ok ()) :
    ∀ item ∈ items, ∃ index, check index item = .ok () := by
  have each : ∀ indexed : List (Item × Nat),
      indexed.forM (fun entry => check entry.2 entry.1) = (.ok () : Except PublicationFailure Unit) →
      ∀ entry ∈ indexed, check entry.2 entry.1 = .ok () := by
    intro indexed
    induction indexed with
    | nil => exact fun _ _ inside => absurd inside List.not_mem_nil
    | cons entry rest ih =>
        intro run
        obtain ⟨_, first, others⟩ := Except.bind_eq_ok.mp run
        exact List.forall_mem_cons.mpr ⟨first, ih others⟩
  intro item inside
  obtain ⟨index, found⟩ := List.mem_iff_getElem?.mp inside
  exact ⟨index, each _ checked (item, index) (List.mem_zipIdx_iff_getElem?.mpr found)⟩

variable {platform : MaintenancePlatform}

theorem parseMaintenanceRoster_ok {roster parsed : List BackendMaintenanceRosterEntry}
    (accepted : parseMaintenanceRoster platform roster = .ok parsed) :
    parsed = roster ∧ ∀ entry ∈ roster, isRosterEntry entry = true := by
  simp only [parseMaintenanceRoster, Except.bind_eq_ok, refuse_ok, Except.pure_eq_ok] at accepted
  obtain ⟨_, _, _, checked, _, _, rfl⟩ := accepted
  refine ⟨rfl, fun entry inside => ?_⟩
  obtain ⟨_, formed⟩ := checkEach_ok checked entry inside
  exact not_not.mp (refuse_ok.mp formed)

/-- A manifest that the parser accepts. -/
structure FormedManifest (manifest : BackendCutoverSetManifest) : Prop where
  setId : isPublicationId manifest.setId = true
  machineId : isCanonicalUuid manifest.machineId = true
  members : ∀ member ∈ manifest.members, isCutoverSetMember member = true

theorem parseManifest_ok {manifest parsed : BackendCutoverSetManifest}
    (accepted : parseBackendCutoverSetManifest manifest = .ok parsed) :
    parsed = manifest ∧ FormedManifest manifest := by
  simp only [parseBackendCutoverSetManifest, Except.bind_eq_ok, refuse_ok, not_or, not_not,
    Except.pure_eq_ok] at accepted
  obtain ⟨_, ⟨setId, machineId, _⟩, _, checked, _, _, _, _, rfl⟩ := accepted
  refine ⟨rfl, setId, machineId, fun member inside => ?_⟩
  obtain ⟨_, formed⟩ := checkEach_ok checked member inside
  exact not_not.mp (refuse_ok.mp formed)

/-- A binding that the parser accepts beside its member. -/
structure FormedBinding (manifest : BackendCutoverSetManifest) (binding : BackendCutoverSetBinding)
    (member : BackendCutoverSetMember) : Prop where
  generationId : binding.generationId = member.generationId
  queueEvidenceSha256 : isHash binding.queueEvidenceSha256 = true
  roster : ∃ cutoff, binding.roster = [⟨manifest.machineId, cutoff, binding.queueEvidenceSha256⟩] ∧
    isRosterEntry ⟨manifest.machineId, cutoff, binding.queueEvidenceSha256⟩ = true

theorem parseCutoverSetBinding_ok {manifest : BackendCutoverSetManifest} {index : Nat}
    {aligned : BackendCutoverSetBinding × BackendCutoverSetMember}
    (accepted : parseCutoverSetBinding platform manifest index aligned = .ok ()) :
    FormedBinding manifest aligned.1 aligned.2 := by
  simp only [parseCutoverSetBinding, Except.bind_eq_ok, refuse_ok, not_or, not_not] at accepted
  obtain ⟨_, ⟨generationId, hash⟩, roster, parsed, same⟩ := accepted
  obtain ⟨rfl, formed⟩ := parseMaintenanceRoster_ok parsed
  refine ⟨generationId, hash, ?_⟩
  obtain ⟨entry, entries, fields⟩ := List.map_eq_singleton_iff.mp same
  obtain ⟨machineId, cutoff, evidence⟩ := entry
  cases fields
  refine ⟨cutoff, entries, formed _ ?_⟩
  rw [entries]
  exact List.mem_singleton_self _

theorem parseCutoverSetBindings_ok {manifest : BackendCutoverSetManifest}
    {bindings parsed : List BackendCutoverSetBinding}
    (accepted : parseCutoverSetBindings platform bindings manifest = .ok parsed) :
    parsed = bindings ∧ List.Forall₂ (FormedBinding manifest) bindings manifest.members := by
  simp only [parseCutoverSetBindings, Except.bind_eq_ok, refuse_ok, not_not, Except.pure_eq_ok] at accepted
  obtain ⟨_, length, _, checked, rfl⟩ := accepted
  refine ⟨rfl, List.forall₂_iff_zip.mpr ⟨length, fun inside => ?_⟩⟩
  obtain ⟨_, formed⟩ := checkEach_ok checked _ inside
  exact parseCutoverSetBinding_ok formed

/-- An activation tuple that the parser accepts. -/
structure FormedSelection (selection : BackendCutoverSetSelection) (manifest : BackendCutoverSetManifest) :
    Prop where
  checkpointSha256 : isHash selection.checkpointSha256 = true
  checksumSha256 : isHash selection.checksumSha256 = true
  identityDigest : isHash selection.identityDigest = true
  setId : selection.setId = manifest.setId
  manifestSha256 : isHash selection.manifestSha256 = true
  publicationId : selection.publicationId = manifest.setId
  members : List.Forall₂ (fun member expected => isSelectionMember member expected = true)
    selection.members manifest.members

theorem parseSelection_ok {manifest : BackendCutoverSetManifest}
    {selection parsed : BackendCutoverSetSelection}
    (accepted : parseBackendCutoverSetSelection platform selection manifest = .ok parsed) :
    parsed = selection ∧ FormedSelection selection manifest := by
  simp only [parseBackendCutoverSetSelection, Except.bind_eq_ok, refuse_ok, not_or, not_not,
    Except.pure_eq_ok] at accepted
  obtain ⟨_, ⟨checkpoint, checksum, identity, setId, manifestSha256, publicationId, length⟩, _, checked,
    _, _, _, _, rfl⟩ := accepted
  refine ⟨rfl, checkpoint, checksum, identity, setId, ?_, publicationId, ?_⟩
  · rw [manifestSha256]
    exact platform.isHash_sha256 _
  · refine List.forall₂_iff_zip.mpr ⟨length, fun inside => ?_⟩
    obtain ⟨_, formed⟩ := checkEach_ok checked _ inside
    exact not_not.mp (refuse_ok.mp formed)

/-- A rollback tuple that the parser accepts. -/
structure FormedRollbackSelection (selection : BackendCutoverSetRollbackSelection)
    (manifest : BackendCutoverSetManifest) : Prop where
  checkpointSha256 : isHash selection.checkpointSha256 = true
  checksumSha256 : isHash selection.checksumSha256 = true
  identityDigest : isHash selection.identityDigest = true
  originalSelectionSha256 : isHash selection.originalSelectionSha256 = true
  originalSetId : isPublicationId selection.originalSetId = true
  setId : selection.setId = manifest.setId
  manifestSha256 : isHash selection.manifestSha256 = true
  publicationId : selection.publicationId = manifest.setId
  members : List.Forall₂ (fun member expected => isRollbackSelectionMember member expected = true)
    selection.members manifest.members

theorem parseRollbackSelection_ok {manifest : BackendCutoverSetManifest}
    {selection parsed : BackendCutoverSetRollbackSelection}
    (accepted : parseBackendCutoverSetRollbackSelection platform selection manifest = .ok parsed) :
    parsed = selection ∧ FormedRollbackSelection selection manifest := by
  simp only [parseBackendCutoverSetRollbackSelection, Except.bind_eq_ok, refuse_ok, not_or, not_not,
    Except.pure_eq_ok] at accepted
  obtain ⟨_, ⟨checkpoint, checksum, identity, original, originalSetId, _, setId, manifestSha256,
    publicationId, length⟩, _, checked, _, _, _, _, rfl⟩ := accepted
  refine ⟨rfl, checkpoint, checksum, identity, original, originalSetId, setId, ?_, publicationId, ?_⟩
  · rw [manifestSha256]
    exact platform.isHash_sha256 _
  · refine List.forall₂_iff_zip.mpr ⟨length, fun inside => ?_⟩
    obtain ⟨_, formed⟩ := checkEach_ok checked _ inside
    exact not_not.mp (refuse_ok.mp formed)

end Formed

section Plain

variable {platform : MaintenancePlatform} {manifest : BackendCutoverSetManifest}

theorem isRosterEntry_iff {entry : BackendMaintenanceRosterEntry} :
    isRosterEntry entry = true ↔ isCanonicalUuid entry.machineId = true ∧
      isHash entry.evidenceSha256 = true ∧ ∀ cutoff ∈ entry.queueCutoff, isPaddedSequence cutoff = true ∧
        cutoff.map UInt16.toNat ≤ (js "9223372036854775807").map UInt16.toNat := by
  simp only [isRosterEntry, Bool.and_eq_true, Option.all_eq_true, decide_eq_true_eq, and_assoc,
    Option.mem_def]

theorem rosterEntry_plain {entry : BackendMaintenanceRosterEntry} (formed : isRosterEntry entry = true) :
    Plain (rosterEntryJson entry) := by
  obtain ⟨machineId, evidence, cutoff⟩ := isRosterEntry_iff.mp formed
  exact PlainMembers.object (.cons (by decide) (.string (isCanonicalUuid_within machineId).plain)
    (.cons (by decide) (plain_nullable fun value stored => (isPaddedSequence_within (cutoff value stored).1).plain)
      (.cons (by decide) (.string (isHash_within evidence).plain) .nil)))

theorem FormedManifest.plain (formed : FormedManifest manifest) : Plain manifest.toJson := by
  have members : Plain (.array (manifest.members.map BackendCutoverSetMember.toJson)) := by
    refine plain_map fun member inside => ?_
    have fields := formed.members member inside
    simp only [isCutoverSetMember, Bool.and_eq_true] at fields
    exact PlainMembers.object (.cons (by decide) (.string (isHash_within fields.1.1).plain)
      (.cons (by decide) (.string (isPublicationId_plain fields.1.2))
        (.cons (by decide) (.string (isHash_within fields.2).plain) .nil)))
  exact PlainMembers.object (.cons (by decide) (plain_number 1)
    (.cons (by decide) (.string (isPublicationId_plain formed.setId))
      (.cons (by decide) (.string (isCanonicalUuid_within formed.machineId).plain)
        (.cons (by decide) members .nil))))

theorem FormedBinding.plain {binding : BackendCutoverSetBinding} {member : BackendCutoverSetMember}
    (formed : FormedBinding manifest binding member)
    (known : isCutoverSetMember member = true) : Plain binding.toJson := by
  obtain ⟨cutoff, roster, entry⟩ := formed.roster
  have generationId : isPublicationId binding.generationId = true := by
    simp only [isCutoverSetMember, Bool.and_eq_true] at known
    rw [formed.generationId]
    exact known.1.2
  have entries : Plain (.array (binding.roster.map rosterEntryJson)) := by
    refine plain_map fun other inside => ?_
    rw [roster, List.mem_singleton] at inside
    rw [inside]
    exact rosterEntry_plain entry
  exact PlainMembers.object (.cons (by decide) (.string (isPublicationId_plain generationId))
    (.cons (by decide) (.string (isHash_within formed.queueEvidenceSha256).plain)
      (.cons (by decide) entries .nil)))

theorem isSelectionMember_iff {member : BackendCutoverSetSelectionMember}
    {expected : BackendCutoverSetMember} :
    isSelectionMember member expected = true ↔ member.physicalProjectId = expected.physicalProjectId ∧
      member.generationId = expected.generationId ∧ isCanonicalUuid member.remoteProjectId = true ∧
      isHash member.copyBindingSha256 = true ∧ isHash member.epochId = true ∧
      isHash member.attemptId = true ∧ isHash member.epochManifestChecksumSha256 = true ∧
      isHash member.witnessChecksumSha256 = true ∧ member.epochManifestRevision ≤ maxSafeInteger := by
  simp only [isSelectionMember, Bool.and_eq_true, decide_eq_true_eq, and_assoc]

theorem isRollbackSelectionMember_iff {member : BackendCutoverSetRollbackSelectionMember}
    {expected : BackendCutoverSetMember} :
    isRollbackSelectionMember member expected = true ↔
      member.physicalProjectId = expected.physicalProjectId ∧
      member.generationId = expected.generationId ∧ isCanonicalUuid member.remoteProjectId = true ∧
      isHash member.epochId = true ∧ isHash member.attemptId = true ∧
      isHash member.witnessChecksumSha256 = true ∧ isHash member.installEvidenceSha256 = true := by
  simp only [isRollbackSelectionMember, Bool.and_eq_true, decide_eq_true_eq, and_assoc]

theorem member_plain {member : BackendCutoverSetMember} (formed : isCutoverSetMember member = true) :
    PlainWithin member.physicalProjectId 64 ∧ PlainText member.generationId := by
  simp only [isCutoverSetMember, Bool.and_eq_true] at formed
  exact ⟨isHash_within formed.1.1, isPublicationId_plain formed.1.2⟩

/-- An element of a list that is aligned with another stands beside one of that. -/
theorem aligned_mem {Item Other : Type} {items : List Item} {others : List Other}
    {formed : Item → Other → Prop} (aligned : List.Forall₂ formed items others) {item : Item}
    (inside : item ∈ items) : ∃ other ∈ others, formed item other := by
  induction aligned with
  | nil => exact absurd inside List.not_mem_nil
  | cons first _ ih =>
      rcases List.mem_cons.mp inside with rfl | later
      · exact ⟨_, List.mem_cons_self .., first⟩
      · obtain ⟨other, member, holds⟩ := ih later
        exact ⟨other, List.mem_cons_of_mem _ member, holds⟩

theorem FormedSelection.plain {selection : BackendCutoverSetSelection} (known : FormedManifest manifest)
    (formed : FormedSelection selection manifest) :
    Plain (BackendCutoverSetAnySelection.activation selection).toJson := by
  have members : Plain (.array (selection.members.map BackendCutoverSetSelectionMember.toJson)) := by
    refine plain_map fun member inside => ?_
    obtain ⟨expected, listed, fields⟩ := aligned_mem formed.members inside
    obtain ⟨projectId, generationId, remote, copyBinding, epoch, attempt, epochManifest, witness, _⟩ :=
      isSelectionMember_iff.mp fields
    obtain ⟨project, generation⟩ := member_plain (known.members expected listed)
    exact PlainMembers.object (.cons (by decide) (.string (projectId ▸ project.plain))
      (.cons (by decide) (.string (generationId ▸ generation))
        (.cons (by decide) (.string (isCanonicalUuid_within remote).plain)
          (.cons (by decide) (.string (isHash_within copyBinding).plain)
            (.cons (by decide) (.string (isHash_within epoch).plain)
              (.cons (by decide) (.string (isHash_within attempt).plain)
                (.cons (by decide) (plain_number _)
                  (.cons (by decide) (.string (isHash_within epochManifest).plain)
                    (.cons (by decide) (.string (isHash_within witness).plain) .nil)))))))))
  have setId : PlainText selection.setId := formed.setId ▸ isPublicationId_plain known.setId
  have publicationId : PlainText selection.publicationId :=
    formed.publicationId ▸ isPublicationId_plain known.setId
  exact PlainMembers.object (.cons (by decide) (plain_number 1)
    (.cons (by decide) (.string (by decide))
      (.cons (by decide) (.string (isHash_within formed.checkpointSha256).plain)
        (.cons (by decide) (.string setId)
          (.cons (by decide) (.string (isHash_within formed.manifestSha256).plain)
            (.cons (by decide) (.string publicationId)
              (.cons (by decide) (.string (isHash_within formed.identityDigest).plain)
                (.cons (by decide) (.string (by decide))
                  (.cons (by decide) (.string (by decide))
                    (.cons (by decide) members
                      (.cons (by decide) (.string (isHash_within formed.checksumSha256).plain)
                        .nil)))))))))))

theorem FormedRollbackSelection.plain {selection : BackendCutoverSetRollbackSelection}
    (known : FormedManifest manifest) (formed : FormedRollbackSelection selection manifest) :
    Plain (BackendCutoverSetAnySelection.rollback selection).toJson := by
  have members :
      Plain (.array (selection.members.map BackendCutoverSetRollbackSelectionMember.toJson)) := by
    refine plain_map fun member inside => ?_
    obtain ⟨expected, listed, fields⟩ := aligned_mem formed.members inside
    obtain ⟨projectId, generationId, remote, epoch, attempt, witness, install⟩ :=
      isRollbackSelectionMember_iff.mp fields
    obtain ⟨project, generation⟩ := member_plain (known.members expected listed)
    exact PlainMembers.object (.cons (by decide) (.string (projectId ▸ project.plain))
      (.cons (by decide) (.string (generationId ▸ generation))
        (.cons (by decide) (.string (isCanonicalUuid_within remote).plain)
          (.cons (by decide) (.string (plain_modeName _))
            (.cons (by decide) (.string (isHash_within epoch).plain)
              (.cons (by decide) (.string (isHash_within attempt).plain)
                (.cons (by decide) (.string (isHash_within witness).plain)
                  (.cons (by decide) (.string (isHash_within install).plain) .nil))))))))
  have setId : PlainText selection.setId := formed.setId ▸ isPublicationId_plain known.setId
  have publicationId : PlainText selection.publicationId :=
    formed.publicationId ▸ isPublicationId_plain known.setId
  exact PlainMembers.object (.cons (by decide) (plain_number 1)
    (.cons (by decide) (.string (by decide))
      (.cons (by decide) (.string setId)
        (.cons (by decide) (.string (isHash_within formed.manifestSha256).plain)
          (.cons (by decide) (.string publicationId)
            (.cons (by decide) (.string (isPublicationId_plain formed.originalSetId))
              (.cons (by decide) (.string (isHash_within formed.originalSelectionSha256).plain)
                (.cons (by decide) (.string (isHash_within formed.checkpointSha256).plain)
                  (.cons (by decide) (.string (isHash_within formed.identityDigest).plain)
                    (.cons (by decide) (.string (by decide))
                      (.cons (by decide) (.string (by decide))
                        (.cons (by decide) members
                          (.cons (by decide) (.string (isHash_within formed.checksumSha256).plain)
                            .nil)))))))))))))

/-- A tuple that the parser accepts. -/
def FormedAnySelection (manifest : BackendCutoverSetManifest) : BackendCutoverSetAnySelection → Prop
  | .activation selection => FormedSelection selection manifest
  | .rollback selection => FormedRollbackSelection selection manifest

/-- A set that the parser accepts. -/
structure FormedSet (cutoverSet : BackendCutoverSet) : Prop where
  manifest : FormedManifest cutoverSet.manifest
  bindings : List.Forall₂ (FormedBinding cutoverSet.manifest) cutoverSet.bindings
    cutoverSet.manifest.members
  selection : ∀ selection ∈ cutoverSet.selection, FormedAnySelection cutoverSet.manifest selection

theorem parseAnySelection_ok {selection parsed : BackendCutoverSetAnySelection}
    (accepted : parseBackendCutoverSetAnySelection platform manifest selection = .ok parsed) :
    parsed = selection ∧ FormedAnySelection manifest selection := by
  cases selection with
  | activation selection =>
      obtain ⟨inner, read, rfl⟩ := Except.map_eq_ok.mp accepted
      obtain ⟨rfl, formed⟩ := parseSelection_ok read
      exact ⟨rfl, formed⟩
  | rollback selection =>
      obtain ⟨inner, read, rfl⟩ := Except.map_eq_ok.mp accepted
      obtain ⟨rfl, formed⟩ := parseRollbackSelection_ok read
      exact ⟨rfl, formed⟩

theorem parseBackendCutoverSet_ok {cutoverSet parsed : BackendCutoverSet}
    (accepted : parseBackendCutoverSet platform cutoverSet = .ok parsed) :
    parsed = cutoverSet ∧ FormedSet cutoverSet := by
  simp only [parseBackendCutoverSet, Except.bind_eq_ok, Except.pure_eq_ok] at accepted
  obtain ⟨manifest, readManifest, bindings, readBindings, selection, readSelection, rfl⟩ := accepted
  obtain ⟨rfl, formedManifest⟩ := parseManifest_ok readManifest
  obtain ⟨rfl, formedBindings⟩ := parseCutoverSetBindings_ok readBindings
  cases stored : cutoverSet.selection with
  | none =>
      rw [stored] at readSelection
      cases readSelection
      refine ⟨?_, formedManifest, formedBindings, ?_⟩
      · rw [← stored]
      · rw [stored]
        exact fun _ inside => absurd inside (Option.not_mem_none _)
  | some tuple =>
      rw [stored] at readSelection
      obtain ⟨read, readTuple, same⟩ := Except.map_eq_ok.mp readSelection
      obtain ⟨rfl, formed⟩ := parseAnySelection_ok readTuple
      refine ⟨?_, formedManifest, formedBindings, ?_⟩
      · rw [← same, ← stored]
      · intro other inside
        rw [stored] at inside
        cases inside
        exact formed

theorem FormedSet.plain {cutoverSet : BackendCutoverSet} (formed : FormedSet cutoverSet) :
    Plain cutoverSet.toJson := by
  have bindings : Plain (.array (cutoverSet.bindings.map BackendCutoverSetBinding.toJson)) := by
    refine plain_map fun binding inside => ?_
    obtain ⟨member, listed, fields⟩ := aligned_mem formed.bindings inside
    exact fields.plain (formed.manifest.members member listed)
  have first : PlainMembers [(js "manifest", cutoverSet.manifest.toJson),
      (js "bindings", .array (cutoverSet.bindings.map BackendCutoverSetBinding.toJson))] :=
    .cons (by decide) formed.manifest.plain (.cons (by decide) bindings .nil)
  refine (first.append ?_).object
  cases stored : cutoverSet.selection with
  | none => exact .nil
  | some tuple =>
      refine .cons (by decide) ?_ .nil
      have fields := formed.selection tuple stored
      cases tuple with
      | activation selection => exact FormedSelection.plain formed.manifest fields
      | rollback selection => exact FormedRollbackSelection.plain formed.manifest fields

end Plain

section Bounds

variable {manifest : BackendCutoverSetManifest} {cutoverSet : BackendCutoverSet}

theorem hex_length : hex.length = 64 := List.length_replicate

theorem uuid_length : longestCanonicalUuid.length = 36 := by decide

theorem cutoff_length : (js "9223372036854775807").length = 19 := by decide

theorem timestamp_length : longestIsoTimestamp.length = 27 := by decide

/-- Aligned lists write arrays of the sizes of their elements. -/
theorem size_aligned_le {Item Other : Type} {items : List Item} {others : List Other} {write : Item → Json Nat}
    {bound : Other → Json Nat} (each : List.Forall₂ (fun item other =>
      valueSize (write item) ≤ valueSize (bound other)) items others) :
    valueSize (.array (items.map write)) ≤ valueSize (.array (others.map bound)) := by
  apply size_array_le
  rw [List.forall₂_map_left_iff, List.forall₂_map_right_iff]
  exact each

/-- Members whose values are smaller one by one. -/
abbrev Below (first second : List (JsString × Json Nat)) : Prop := @Json.Below _ naturalFormat first second

theorem Below.object {first second : List (JsString × Json Nat)} (below : Below first second) :
    valueSize (.object first) ≤ valueSize (.object second) := size_object_le (Json.Below.membersSize below)

theorem Below.cons {name : JsString} {value bound : Json Nat} {rest others : List (JsString × Json Nat)}
    (smaller : valueSize value ≤ valueSize bound) (below : Below rest others) :
    Below ((name, value) :: rest) ((name, bound) :: others) := List.Forall₂.cons ⟨rfl, smaller⟩ below

theorem Below.nil : Below [] [] := List.Forall₂.nil

theorem Below.append {first second rest others : List (JsString × Json Nat)} (before : Below first second)
    (behind : Below rest others) : Below (first ++ rest) (second ++ others) :=
  List.rel_append before behind

theorem string_le {text bound : JsString} (short : text.length ≤ bound.length) :
    valueSize (.string text) ≤ valueSize (.string bound) := Nat.add_le_add_right short 2

theorem hash_le {text : JsString} (hash : isHash text = true) :
    valueSize (.string text) ≤ valueSize (.string hex) := by
  apply string_le
  rw [hex_length]
  exact (isHash_within hash).short

theorem bindings_size (formed : FormedSet cutoverSet) :
    valueSize (.array (cutoverSet.bindings.map BackendCutoverSetBinding.toJson)) ≤
      valueSize (.array ((boundWorstCase cutoverSet).map BackendCutoverSetBinding.toJson)) := by
  rw [boundWorstCase, List.map_map]
  apply size_aligned_le
  rw [List.forall₂_same]
  intro binding inside
  obtain ⟨_, _, fields⟩ := aligned_mem formed.bindings inside
  obtain ⟨cutoff, roster, entry⟩ := fields.roster
  have evidence := hash_le fields.queueEvidenceSha256
  have cutoffSize : valueSize (writeNullable cutoff) ≤
      valueSize (writeNullable (some (js "9223372036854775807"))) := by
    cases cutoff with
    | none => decide
    | some value =>
        apply string_le
        rw [cutoff_length]
        exact (isPaddedSequence_within ((isRosterEntry_iff.mp entry).2.2 value rfl).1).short
  have entries : valueSize (.array (binding.roster.map rosterEntryJson)) ≤
      valueSize (.array ([⟨cutoverSet.manifest.machineId, some (js "9223372036854775807"), hex⟩].map
        rosterEntryJson)) := by
    rw [roster]
    apply size_array_le
    refine .cons ?_ .nil
    exact Below.object (.cons (Nat.le_refl _) (.cons cutoffSize (.cons evidence .nil)))
  exact Below.object (.cons (Nat.le_refl _) (.cons evidence (.cons entries .nil)))

theorem activation_size {selection : BackendCutoverSetSelection} (formed : FormedSelection selection manifest) :
    valueSize (BackendCutoverSetAnySelection.activation selection).toJson ≤
      valueSize (BackendCutoverSetAnySelection.activation
        (backendCutoverSetSelectionWorstCase manifest)).toJson := by
  have members : valueSize (.array (selection.members.map BackendCutoverSetSelectionMember.toJson)) ≤
      valueSize (.array ((backendCutoverSetSelectionWorstCase manifest).members.map
        BackendCutoverSetSelectionMember.toJson)) := by
    rw [backendCutoverSetSelectionWorstCase, List.map_map]
    apply size_aligned_le
    refine formed.members.imp fun member expected fields => ?_
    obtain ⟨projectId, generationId, remote, copyBinding, epoch, attempt, epochManifest, witness, revision⟩ :=
      isSelectionMember_iff.mp fields
    have remoteShort : member.remoteProjectId.length ≤ longestCanonicalUuid.length := by
      rw [uuid_length]
      exact (isCanonicalUuid_within remote).short
    have digitsShort : valueSize (.number member.epochManifestRevision) ≤
        valueSize (.number maxSafeInteger) :=
      digits_mono revision (Nat.lt_succ_self _) (Nat.lt_succ_self _)
    exact Below.object (.cons (string_le (Nat.le_of_eq (congrArg List.length projectId)))
      (.cons (string_le (Nat.le_of_eq (congrArg List.length generationId)))
        (.cons (string_le remoteShort)
          (.cons (hash_le copyBinding)
            (.cons (hash_le epoch)
              (.cons (hash_le attempt)
                (.cons digitsShort
                  (.cons (hash_le epochManifest)
                    (.cons (hash_le witness) .nil)))))))))
  exact Below.object (.cons (Nat.le_refl _)
    (.cons (Nat.le_refl _)
      (.cons (hash_le formed.checkpointSha256)
        (.cons (string_le (Nat.le_of_eq (congrArg List.length formed.setId)))
          (.cons (hash_le formed.manifestSha256)
            (.cons (string_le (Nat.le_of_eq (congrArg List.length formed.publicationId)))
              (.cons (hash_le formed.identityDigest)
                (.cons (Nat.le_refl _)
                  (.cons (Nat.le_refl _)
                    (.cons members
                      (.cons (hash_le formed.checksumSha256) .nil)))))))))))

theorem rollback_size {selection : BackendCutoverSetRollbackSelection}
    (formed : FormedRollbackSelection selection manifest) :
    valueSize (BackendCutoverSetAnySelection.rollback selection).toJson ≤
      valueSize (BackendCutoverSetAnySelection.rollback
        (backendCutoverSetRollbackSelectionWorstCase manifest selection.originalSetId)).toJson := by
  have modes : ∀ mode : RollbackMode, (modeName mode).length ≤ (modeName .postWrite).length := by
    intro mode
    cases mode <;> decide
  have members :
      valueSize (.array (selection.members.map BackendCutoverSetRollbackSelectionMember.toJson)) ≤
        valueSize (.array ((backendCutoverSetRollbackSelectionWorstCase manifest
          selection.originalSetId).members.map BackendCutoverSetRollbackSelectionMember.toJson)) := by
    rw [backendCutoverSetRollbackSelectionWorstCase, List.map_map]
    apply size_aligned_le
    refine formed.members.imp fun member expected fields => ?_
    obtain ⟨projectId, generationId, remote, epoch, attempt, witness, install⟩ :=
      isRollbackSelectionMember_iff.mp fields
    have remoteShort : member.remoteProjectId.length ≤ longestCanonicalUuid.length := by
      rw [uuid_length]
      exact (isCanonicalUuid_within remote).short
    exact Below.object (.cons (string_le (Nat.le_of_eq (congrArg List.length projectId)))
      (.cons (string_le (Nat.le_of_eq (congrArg List.length generationId)))
        (.cons (string_le remoteShort)
          (.cons (string_le (modes member.mode))
            (.cons (hash_le epoch)
              (.cons (hash_le attempt)
                (.cons (hash_le witness)
                  (.cons (hash_le install) .nil))))))))
  exact Below.object (.cons (Nat.le_refl _)
    (.cons (Nat.le_refl _)
      (.cons (string_le (Nat.le_of_eq (congrArg List.length formed.setId)))
        (.cons (hash_le formed.manifestSha256)
          (.cons (string_le (Nat.le_of_eq (congrArg List.length formed.publicationId)))
            (.cons (Nat.le_refl _)
              (.cons (hash_le formed.originalSelectionSha256)
                (.cons (hash_le formed.checkpointSha256)
                  (.cons (hash_le formed.identityDigest)
                    (.cons (Nat.le_refl _)
                      (.cons (Nat.le_refl _)
                        (.cons members
                          (.cons (hash_le formed.checksumSha256) .nil)))))))))))))

/-- The largest tuple of the kind of a selection. -/
def worstSelection (manifest : BackendCutoverSetManifest) :
    BackendCutoverSetAnySelection → BackendCutoverSetAnySelection
  | .activation _ => .activation (backendCutoverSetSelectionWorstCase manifest)
  | .rollback selection =>
      .rollback (backendCutoverSetRollbackSelectionWorstCase manifest selection.originalSetId)

theorem selection_size {selection : BackendCutoverSetAnySelection}
    (formed : FormedAnySelection manifest selection) :
    valueSize selection.toJson ≤ valueSize (worstSelection manifest selection).toJson := by
  cases selection with
  | activation selection => exact activation_size formed
  | rollback selection => exact rollback_size formed

/-- The set of the largest journal of a kind. -/
def worstSet (cutoverSet : BackendCutoverSet) : BackendCutoverSet :=
  { cutoverSet with
    bindings := boundWorstCase cutoverSet
    selection := cutoverSet.selection.map (worstSelection cutoverSet.manifest) }

theorem set_size (formed : FormedSet cutoverSet) :
    valueSize cutoverSet.toJson ≤ valueSize (worstSet cutoverSet).toJson := by
  have first : Below [(js "manifest", cutoverSet.manifest.toJson),
        (js "bindings", .array (cutoverSet.bindings.map BackendCutoverSetBinding.toJson))]
      [(js "manifest", cutoverSet.manifest.toJson),
        (js "bindings", .array ((boundWorstCase cutoverSet).map BackendCutoverSetBinding.toJson))] :=
    .cons (Nat.le_refl _) (.cons (bindings_size formed) .nil)
  refine (Below.append first ?_).object
  rw [worstSet]
  cases stored : cutoverSet.selection with
  | none => exact .nil
  | some tuple => exact .cons (selection_size (formed.selection tuple stored)) .nil

/-- The largest journal of the kind of a set. -/
def worstJournal (cutoverSet : BackendCutoverSet) : BackendMaintenanceJournal :=
  match cutoverSet.selection with
  | none => abortedWorstCase cutoverSet
  | some selection => selectedWorstCase cutoverSet (worstSelection cutoverSet.manifest selection)

theorem worstJournal_set (cutoverSet : BackendCutoverSet) :
    (worstJournal cutoverSet).cutoverSet = some (worstSet cutoverSet) := by
  cases stored : cutoverSet.selection <;>
    simp only [worstJournal, worstSet, stored, abortedWorstCase, selectedWorstCase, Option.map_none,
      Option.map_some]

/-- A journal of a set whose fields but for those of its phase have their forms. -/
structure HoldsSet (journal : BackendMaintenanceJournal) (cutoverSet : BackendCutoverSet) : Prop where
  stored : journal.cutoverSet = some cutoverSet
  formed : FormedSet cutoverSet
  publicationId : journal.publicationId = cutoverSet.manifest.setId
  generationId : journal.generationId = cutoverSet.manifest.setId
  createdAt : PlainWithin journal.createdAt 27
  updatedAt : PlainWithin journal.updatedAt 27
  sourceSelectionSha256 : isHash journal.sourceSelectionSha256 = true
  queueEvidenceSha256 : isHash journal.queueEvidenceSha256 = true
  checksumSha256 : isHash journal.checksumSha256 = true
  roster : ∃ evidence, isHash evidence = true ∧
    journal.roster = [⟨cutoverSet.manifest.machineId, none, evidence⟩]

/-- A journal that restates its set, with the fields of its phase. -/
structure Restates (journal : BackendMaintenanceJournal) (cutoverSet : BackendCutoverSet) : Prop
    extends HoldsSet journal cutoverSet where
  held : cutoverSet.selection = none → journal.targetBackend = none ∧
    journal.selectedGenerationId = none ∧ journal.terminalEvidenceSha256 = none ∧
      (journal.phase ∈ [.maintenanceEntering, .maintenanceHeld] ∧ journal.abortEvidenceSha256 = none ∨
        journal.phase = .maintenanceAborted ∧
          ∃ evidence, isHash evidence = true ∧ journal.abortEvidenceSha256 = some evidence)
  selected : ∀ selection, cutoverSet.selection = some selection →
    isSelectionPhase journal.phase = true ∧ journal.sourceBackend = selection.sourceBackend ∧
      journal.targetBackend = some selection.targetBackend ∧
      journal.selectedGenerationId = some cutoverSet.manifest.setId ∧
      journal.abortEvidenceSha256 = none ∧
        ∃ evidence, isHash evidence = true ∧ journal.terminalEvidenceSha256 = some evidence

theorem backendName_size (backend : StorageBackendName) :
    (backendName backend).length ≤ (backendName .postgresql).length := by
  cases backend <;> decide

/-- The members of a journal with a set around its phase and its abort. -/
theorem payload_eq {journal : BackendMaintenanceJournal} (stored : journal.cutoverSet = some cutoverSet) :
    journal.payload ++ [(js "checksumSha256", .string journal.checksumSha256)] =
      [(js "version", .number 3), (js "publicationId", .string journal.publicationId),
        (js "sourceBackend", .string (backendName journal.sourceBackend)),
        (js "targetBackend", writeNullable (journal.targetBackend.map backendName))] ++
      ((js "phase", .string (phaseName journal.phase)) ::
        [(js "createdAt", .string journal.createdAt), (js "updatedAt", .string journal.updatedAt),
          (js "generationId", .string journal.generationId),
          (js "sourceSelectionSha256", .string journal.sourceSelectionSha256),
          (js "queueEvidenceSha256", .string journal.queueEvidenceSha256),
          (js "roster", .array (journal.roster.map rosterEntryJson)),
          (js "selectedGenerationId", writeNullable journal.selectedGenerationId),
          (js "terminalEvidenceSha256", writeNullable journal.terminalEvidenceSha256)] ++
        ((js "abortEvidenceSha256", writeNullable journal.abortEvidenceSha256) ::
          [(js "cutoverSet", cutoverSet.toJson),
            (js "checksumSha256", .string journal.checksumSha256)])) := by
  rw [BackendMaintenanceJournal.payload, stored]
  rfl

variable {journal : BackendMaintenanceJournal}

theorem roster_le (holds : HoldsSet journal cutoverSet) :
    valueSize (.array (journal.roster.map rosterEntryJson)) ≤
      valueSize (.array ((abortedWorstCase cutoverSet).roster.map rosterEntryJson)) := by
  obtain ⟨evidence, evidenceHash, roster⟩ := holds.roster
  rw [roster]
  apply size_array_le
  refine .cons ?_ .nil
  exact Below.object (.cons (Nat.le_refl _) (.cons (Nat.le_refl _) (.cons (hash_le evidenceHash) .nil)))

theorem timestamp_le {text : JsString} (within : PlainWithin text 27) :
    valueSize (.string text) ≤ valueSize (.string longestIsoTimestamp) := by
  apply string_le
  rw [timestamp_length]
  exact within.short

theorem text_le {text bound : JsString} (same : text = bound) :
    valueSize (.string text) ≤ valueSize (.string bound) := by
  rw [same]

theorem nullable_le {text bound : Option JsString} (same : text = bound) :
    valueSize (writeNullable text) ≤ valueSize (writeNullable bound) := by
  rw [same]

/-- A larger value may stand before a smaller one when the two are smaller together. -/
theorem Below.around {first second middle between last final : List (JsString × Json Nat)}
    {name other : JsString} {phase bound abort limit : Json Nat} (before : Below first second)
    (inside : Below middle between) (behind : Below last final)
    (both : valueSize phase + valueSize abort ≤ valueSize bound + valueSize limit) :
    valueSize (.object (first ++ ((name, phase) :: middle ++ ((other, abort) :: last)))) ≤
      valueSize (.object (second ++ ((name, bound) :: between ++ ((other, limit) :: final)))) := by
  have beforeSize := Json.Below.membersSize before
  have insideSize := Json.Below.membersSize inside
  have behindSize := Json.Below.membersSize behind
  apply size_object_le
  simp only [membersSize_append, membersSize, valueSize] at both ⊢
  omega

/-- A journal is smaller than one of its set with a worst phase and end. -/
theorem HoldsSet.size_le (holds : HoldsSet journal cutoverSet) {worst : BackendMaintenanceJournal}
    (stored : worst.cutoverSet = some (worstSet cutoverSet))
    (base : worst.publicationId = cutoverSet.manifest.setId ∧ worst.createdAt = longestIsoTimestamp ∧
      worst.updatedAt = longestIsoTimestamp ∧ worst.generationId = cutoverSet.manifest.setId ∧
      worst.sourceSelectionSha256 = hex ∧ worst.queueEvidenceSha256 = hex ∧
      worst.roster = (abortedWorstCase cutoverSet).roster ∧ worst.checksumSha256 = hex)
    (backend : (backendName journal.sourceBackend).length ≤ (backendName worst.sourceBackend).length)
    (target : journal.targetBackend = worst.targetBackend)
    (selected : journal.selectedGenerationId = worst.selectedGenerationId)
    (terminal : valueSize (writeNullable journal.terminalEvidenceSha256) ≤
      valueSize (writeNullable worst.terminalEvidenceSha256))
    (both : valueSize (.string (phaseName journal.phase)) +
      valueSize (writeNullable journal.abortEvidenceSha256) ≤
        valueSize (.string (phaseName worst.phase)) + valueSize (writeNullable worst.abortEvidenceSha256)) :
    valueSize journal.toJson ≤ valueSize worst.toJson := by
  obtain ⟨publicationId, createdAt, updatedAt, generationId, source, queue, roster, checksum⟩ := base
  rw [BackendMaintenanceJournal.toJson, BackendMaintenanceJournal.toJson, payload_eq holds.stored,
    payload_eq stored, publicationId, createdAt, updatedAt, generationId, source, queue, roster, checksum]
  refine Below.around ?_ ?_ ?_ both
  · exact .cons (Nat.le_refl _) (.cons (text_le holds.publicationId) (.cons (string_le backend)
      (.cons (nullable_le (congrArg (Option.map backendName) target)) .nil)))
  · exact .cons (timestamp_le holds.createdAt) (.cons (timestamp_le holds.updatedAt)
      (.cons (text_le holds.generationId) (.cons (hash_le holds.sourceSelectionSha256)
        (.cons (hash_le holds.queueEvidenceSha256) (.cons (roster_le holds)
          (.cons (nullable_le selected) (.cons terminal .nil)))))))
  · exact .cons (set_size holds.formed) (.cons (hash_le holds.checksumSha256) .nil)

/-- A journal is smaller than the largest one of its kind. -/
theorem Restates.size (restates : Restates journal cutoverSet) :
    valueSize journal.toJson ≤ valueSize (worstJournal cutoverSet).toJson := by
  have stored := worstJournal_set cutoverSet
  rw [worstJournal] at stored ⊢
  cases chosen : cutoverSet.selection with
  | none =>
      rw [chosen] at stored
      obtain ⟨target, selectedId, terminal, phase⟩ := restates.held chosen
      refine restates.toHoldsSet.size_le stored ⟨rfl, rfl, rfl, rfl, rfl, rfl, rfl, rfl⟩ ?_ target selectedId
        (nullable_le terminal) ?_
      · show (backendName journal.sourceBackend).length ≤ (backendName .postgresql).length
        cases journal.sourceBackend <;> decide
      · show _ ≤ valueSize (.string (phaseName .maintenanceAborted)) + valueSize (writeNullable (some hex))
        -- Only the name of the entering phase is longer, by less than the evidence of an abort.
        rcases phase with ⟨phase, abort⟩ | ⟨phase, evidence, evidenceHash, abort⟩
        · rw [abort]
          rcases List.mem_pair.mp phase with entering | held
          · rw [entering]
            decide
          · rw [held]
            decide
        · rw [abort, phase]
          exact Nat.add_le_add_left (hash_le evidenceHash) _
  | some selection =>
      rw [chosen] at stored
      obtain ⟨phase, backend, target, selectedId, abort, evidence, evidenceHash, terminal⟩ :=
        restates.selected selection chosen
      have same : ∀ selection : BackendCutoverSetAnySelection,
          (worstSelection cutoverSet.manifest selection).sourceBackend = selection.sourceBackend ∧
            (worstSelection cutoverSet.manifest selection).targetBackend = selection.targetBackend := by
        rintro (_ | _) <;> exact ⟨rfl, rfl⟩
      refine restates.toHoldsSet.size_le stored ⟨rfl, rfl, rfl, rfl, rfl, rfl, rfl, rfl⟩ ?_ ?_ selectedId ?_ ?_
      · rw [backend, ← (same selection).1]
        exact Nat.le_refl _
      · rw [target, ← (same selection).2]
        rfl
      · rw [terminal]
        exact hash_le evidenceHash
      · rw [abort]
        refine Nat.add_le_add_right ?_ _
        show _ ≤ valueSize (.string (phaseName .selectionCompleted))
        rw [isSelectionPhase, decide_eq_true_eq] at phase
        rcases List.mem_pair.mp phase with prepared | completed
        · rw [prepared]
          decide
        · rw [completed]

end Bounds

end Lcm.Cutover
