import Lcm.Library.Except
import Lcm.Publication.Calls

namespace Lcm.Publication
open Text Interruptible

variable {Digest Remote : Type} [DecidableEq Digest]

theorem refuse_ok {refused : Prop} [Decidable refused] {reason : PublicationReason} {message : String}
    {done : Unit} : refuse refused reason message = .ok done ↔ ¬ refused := by
  rw [refuse]
  split <;> simp [fail, *]

/-- One file has the content that another witness tells of. -/
abbrev SameContent (actual expected : FileWitness Digest) : Prop :=
  contentWitnessMatches actual expected = true

theorem SameContent.trans {first second third : FileWitness Digest} (before : SameContent first second)
    (after : SameContent second third) : SameContent first third :=
  contentWitnessMatches_iff.mpr ((contentWitnessMatches_iff.mp before).trans
    (contentWitnessMatches_iff.mp after))

theorem SameContent.symm {first second : FileWitness Digest} (same : SameContent first second) :
    SameContent second first :=
  contentWitnessMatches_iff.mpr (contentWitnessMatches_iff.mp same).symm

theorem SameContent.of_eq {first second : FileWitness Digest} (same : first = second) :
    SameContent first second :=
  same ▸ contentWitnessMatches_refl first

/-- The shape of a witness is that of its content. -/
theorem SameContent.shape {first second : FileWitness Digest} (same : SameContent first second) :
    isWitnessShape first = isWitnessShape second := by
  have content := contentWitnessMatches_iff.mp same
  cases first with
  | none =>
      rw [Option.map_eq_none_iff.mp content.symm]
  | some first =>
      cases second with
      | none => cases content
      | some second =>
          have equal : first.content = second.content := Option.some.inj content
          simp [isWitnessShape, equal]

/-- How the two files lie in each phase, when nobody else changed them. -/
def Fits (phase : PublicationPhase) (source target files : LocalState (FileWitness Digest)) : Prop :=
  match phase with
  | .preparing | .prepared | .acquiring | .guarded =>
      files.config = source.config ∧ files.projectMap = source.projectMap
  | .mapPublishing => files.config = source.config ∧
      (files.projectMap = source.projectMap ∨ SameContent files.projectMap target.projectMap)
  | .mapPublished => files.config = source.config ∧ SameContent files.projectMap target.projectMap
  | .configPublishing =>
      (files.config = source.config ∨ SameContent files.config target.config) ∧
        SameContent files.projectMap target.projectMap
  | .configPublished | .releasing | .released | .completed =>
      SameContent files.config target.config ∧ SameContent files.projectMap target.projectMap
  | .aborting =>
      (files.config = source.config ∨ SameContent files.config target.config) ∧
        (files.projectMap = source.projectMap ∨ SameContent files.projectMap target.projectMap) ∧
          (files.config = source.config ∨ SameContent files.projectMap target.projectMap)
  | .configRestoring =>
      (SameContent files.config source.config ∨ SameContent files.config target.config) ∧
        SameContent files.projectMap target.projectMap
  | .mapRestoring => SameContent files.config source.config ∧
      (SameContent files.projectMap source.projectMap ∨ SameContent files.projectMap target.projectMap)
  | .abortReleasing | .aborted =>
      SameContent files.config source.config ∧ SameContent files.projectMap source.projectMap

/-- What a journal needs to show in a phase, beside its files. -/
inductive Requirement where
  | shaped
  | unsealed
  | sealed
  | recorded
  | material
  | cleaned
  | guarded
  | held
  | inactive
  | mapPublished
  | configPublished
  deriving DecidableEq

def PublicationPhase.requires (phase : PublicationPhase) : Requirement → Bool
  | .shaped => true
  | .unsealed => phase ∈ [.preparing]
  | .sealed => phase ∉ [.preparing, .aborted]
  | .recorded => phase ∈ [.aborted]
  | .material => phase ∉ [.preparing, .abortReleasing, .aborted]
  | .cleaned => phase ∈ [.abortReleasing, .aborted]
  | .guarded => phase ∈ guardRecordedForwardPhases
  | .held => phase ∈ [.guarded, .mapPublishing, .mapPublished, .configPublishing, .configPublished]
  | .inactive => phase ∈ [.released, .completed, .aborted]
  | .mapPublished => phase ∈ [.mapPublished, .configPublishing, .configPublished, .releasing, .released,
      .completed]
  | .configPublished => phase ∈ [.configPublished, .releasing, .released, .completed]

/-- The material of a home is that of the journal. -/
structure IsMaterial (platform : PublicationPlatform Digest) (home : PublicationHome Digest Remote)
    (journal : PublicationJournal Digest) (material : RecoveryMaterial) : Prop where
  found : home.materials journal.publicationId = some material
  reference : ∀ reference, journal.recoveryReference = some reference →
    reference = recoveryReference platform journal.publicationId material
  source : ∀ file, SameContent (recoveryFileWitness platform (material.source.get file))
    (journal.sourceState.get file)
  target : ∀ file, SameContent (recoveryFileWitness platform (material.target.get file))
    (journal.targetState.get file)

variable {platform : PublicationPlatform Digest}

theorem IsMaterial.frame {home later : PublicationHome Digest Remote}
    {journal : PublicationJournal Digest} {material : RecoveryMaterial}
    (is : IsMaterial platform home journal material) (materials : later.materials = home.materials) :
    IsMaterial platform later journal material :=
  ⟨materials ▸ is.found, is.reference, is.source, is.target⟩

theorem assertContentState_ok {actual expected : LocalState (FileWitness Digest)} {field : String}
    {done : Unit} : assertContentState actual expected field = .ok done ↔
      ∀ file, SameContent (actual.get file) (expected.get file) := by
  simp only [assertContentState, assertContentWitness, Except.bind_eq_ok, refuse_ok, not_not]
  constructor
  · rintro ⟨_, config, projectMap⟩ file
    cases file
    · exact config
    · exact projectMap
  · exact fun each => ⟨(), each .config, each .projectMap⟩

theorem authenticateMaterial_ok {home : PublicationHome Digest Remote}
    {journal : PublicationJournal Digest} {reference : RecoveryReference Digest}
    {material : RecoveryMaterial} :
    authenticateMaterial platform home journal = .ok (reference, material) ↔
      reference = recoveryReference platform journal.publicationId material ∧
        IsMaterial platform home journal material := by
  simp only [authenticateMaterial, Except.bind_eq_ok, refuse_ok, assertContentState_ok,
    Except.pure_eq_ok, LocalState.get_map]
  constructor
  · rintro ⟨_, _, found, read, _, matched, _, source, _, target, same⟩
    cases same
    refine ⟨rfl, ?_, ?_, source, target⟩
    · cases stored : home.materials journal.publicationId with
      | none =>
          rw [stored] at read
          cases read
      | some material =>
          rw [stored] at read
          cases read
          rfl
    · intro reference recorded
      simpa [recorded] using matched
  · rintro ⟨rfl, is⟩
    refine ⟨(), ?_, material, ?_, (), ?_, (), is.source, (), is.target, rfl⟩
    · cases recorded : journal.recoveryReference with
      | none => simp
      | some reference => simp [is.reference reference recorded, recoveryReference]
    · rw [is.found]
      rfl
    · cases recorded : journal.recoveryReference with
      | none => simp
      | some reference => simp [is.reference reference recorded]

/-- A fence that is recorded and not released. -/
def IsHeld (fence : Option (FenceRecord Digest)) : Prop :=
  ∃ held, fence = some held ∧ held.releasedAt = none

namespace Requirement

/-- A requirement is met by a journal in a home. -/
def Holds (platform : PublicationPlatform Digest) (shortcut : Prop)
    (home : PublicationHome Digest Remote) (journal : PublicationJournal Digest) : Requirement → Prop
  | .shaped => ∀ file, isWitnessShape (journal.sourceState.get file) = true ∧
      isWitnessShape (journal.targetState.get file) = true
  | .unsealed => journal.recoveryReference = none ∧ ∀ project ∈ journal.projects, project.fence = none
  | .sealed => ∃ reference, journal.recoveryReference = some reference ∧
      reference.relativePath = materialPath journal.publicationId
  | .recorded => (journal.recoveryReference = none → shortcut) ∧
      ∀ reference, journal.recoveryReference = some reference →
        reference.relativePath = materialPath journal.publicationId
  | .material => ∃ material, IsMaterial platform home journal material
  | .cleaned => home.materials journal.publicationId = none ∨
      ∃ material, IsMaterial platform home journal material
  | .guarded => ∀ project ∈ journal.projects, project.fence ≠ none
  | .held => ∀ project ∈ journal.projects, IsHeld project.fence
  | .inactive => ∀ project ∈ journal.projects, activeFence project.fence = false
  | .mapPublished => journal.publishedProjectMapSha256 = some journal.intendedProjectMapSha256
  | .configPublished => journal.publishedConfigSha256 = some journal.intendedConfigSha256

/-- Of a home only the materials matter. -/
theorem Holds.frame {shortcut : Prop} {home later : PublicationHome Digest Remote}
    {journal : PublicationJournal Digest} {requirement : Requirement}
    (holds : requirement.Holds platform shortcut home journal)
    (materials : later.materials = home.materials) :
    requirement.Holds platform shortcut later journal := by
  cases requirement with
  | material =>
      obtain ⟨material, is⟩ := holds
      exact ⟨material, is.frame materials⟩
  | cleaned =>
      rcases holds with missing | ⟨material, is⟩
      · exact .inl (materials ▸ missing)
      · exact .inr ⟨material, is.frame materials⟩
  | shaped | unsealed | sealed | recorded | guarded | held | inactive | mapPublished | configPublished =>
      exact holds

end Requirement

/-- Every guard is held, and the coordinator released none of them. -/
def HoldsGuards (home : PublicationHome Digest Remote) (journal : PublicationJournal Digest) : Prop :=
  home.released = false ∧ ∀ project ∈ journal.projects, IsHeld project.fence

/-- The phases whose files an abort may still restore. -/
def restoringPhases : List PublicationPhase := [.aborting, .configRestoring, .mapRestoring]

/-- The phases before a publication releases a guard. -/
def PublicationPhase.isUnreleased (phase : PublicationPhase) : Bool :=
  phase ∉ [.releasing, .released, .completed, .abortReleasing, .aborted]

/-- No guard is released before its phase, and an abort with files to restore holds every guard; unless
an abort was late, which came after a release. -/
structure Guards (platform : PublicationPlatform Digest) (late : Prop)
    (home : PublicationHome Digest Remote) (journal : PublicationJournal Digest) : Prop where
  unreleased : journal.phase.isUnreleased = true → late ∨ home.released = false
  restoring : journal.phase ∈ restoringPhases → late ∨
    (∀ project ∈ journal.projects, IsHeld project.fence) ∨
      (home.edited = false ∧ home.files.map (recoveryFileWitness platform) = journal.sourceState)

/-- A journal shows what its phase requires, and its files lie as they should unless somebody else
changed them. -/
structure Sound (platform : PublicationPlatform Digest) (shortcut late : Prop)
    (home : PublicationHome Digest Remote) (journal : PublicationJournal Digest) : Prop where
  evidence : ∀ requirement : Requirement, journal.phase.requires requirement = true →
    requirement.Holds platform shortcut home journal
  files : home.edited = false → Fits journal.phase journal.sourceState journal.targetState
    (home.files.map (recoveryFileWitness platform))
  guards : Guards platform late home journal

/-- A file is published over its source, and restored over its target. -/
def FileMutation.IsAppropriate (mutation : FileMutation Digest) : Prop :=
  match mutation.access with
  | .publish => mutation.before = mutation.journal.sourceState.get mutation.file
  | .restore => SameContent mutation.before (mutation.journal.targetState.get mutation.file) ∧
      mutation.before ≠ mutation.journal.sourceState.get mutation.file

/-- A file is written while every guard is recorded and none was released. -/
structure FileMutation.IsGuarded (mutation : FileMutation Digest) : Prop where
  unreleased : mutation.released = false
  held : ∀ project ∈ mutation.journal.projects, IsHeld project.fence

/-- What stays the same in the course of a call, and what excuses its failure. -/
structure Course where
  publicationId : JsString
  count : Nat
  edited : Bool
  shortcut : Prop
  late : Prop
  allowed : PublicationPhase → Prop
  excuse : Prop

/-- The home keeps the journal in the course of a call. -/
structure Kept (platform : PublicationPlatform Digest) (course : Course)
    (home : PublicationHome Digest Remote) (journal : PublicationJournal Digest) : Prop where
  stored : home.journal = some (.publication journal)
  publicationId : journal.publicationId = course.publicationId
  count : journal.projects.length = course.count
  edited : home.edited = course.edited
  allowed : course.allowed journal.phase
  spared : course.edited = true → course.late
  sound : Sound platform course.shortcut course.late home journal
  mutations : ∀ mutation ∈ home.mutations, mutation.IsAppropriate ∧ (course.late ∨ mutation.IsGuarded)

/-- The messages with which the coordinator refuses what a remote call answered. -/
def remoteMessages : List String :=
  ["remote guard is not active after acquisition",
    "backend publication remote fence identity does not match",
    "backend publication fencing token is invalid", "remote release evidence is missing",
    "remote release fence identity changed", "remote release fencing token regressed",
    "remote release fence successor is not active", "remote release successor is not active",
    "remote release reacquisition did not advance the fence",
    "remote release lacks authoritative readback", "remote release fence generation changed"]

/-- A failure that a remote call brought about, by failing or by its answer. -/
def PublicationFailure.isRemote : PublicationFailure → Bool
  | .remote => true
  | .journal .unexpectedState message => message ∈ remoteMessages
  | _ => false

/-- Where a call may stop before its end. -/
structure Halted (platform : PublicationPlatform Digest) (course : Course)
    (stop : Stop PublicationFailure) (home : PublicationHome Digest Remote) : Prop where
  kept : ∃ journal, Kept platform course home journal
  excused : ∀ failure, stop = .fault failure → failure.isRemote = true ∨ course.edited = true ∨
    course.excuse

section Steps

variable {course : Course} {home : PublicationHome Digest Remote} {journal : PublicationJournal Digest}

theorem Kept.crash (kept : Kept platform course home journal) : Halted platform course .crash home :=
  ⟨⟨journal, kept⟩, nofun⟩

theorem Kept.fault (kept : Kept platform course home journal) {failure : PublicationFailure}
    (excused : failure.isRemote = true ∨ course.edited = true ∨ course.excuse) :
    Halted platform course (.fault failure) home := by
  refine ⟨⟨journal, kept⟩, ?_⟩
  rintro _ same
  cases same
  exact excused

/-- The home with another journal. -/
def PublicationHome.store (home : PublicationHome Digest Remote) (journal : PublicationJournal Digest) :
    PublicationHome Digest Remote :=
  { home with journal := some (.publication journal) }

/-- A journal is written when the one before it is still there. -/
theorem writeJournal_meets {expected : Option (StoredJournal Digest)} {next : StoredJournal Digest}
    {record : PublicationHome Digest Remote → PublicationHome Digest Remote}
    (current : home.journal = expected) {after : Unit → PublicationHome Digest Remote → Prop}
    {stopped : Stop PublicationFailure → PublicationHome Digest Remote → Prop}
    (crash : stopped .crash home) (done : after () { record home with journal := some next }) :
    Meets (writeJournal expected next record) home after stopped := by
  rw [writeJournal]
  apply meets_effect crash
  · rintro _ later acted
    rw [if_pos current] at acted
    cases acted
    exact done
  · rintro _ later acted
    rw [if_pos current] at acted
    cases acted

/-- A transition stores the next journal. -/
theorem transition_meets (kept : Kept platform course home journal) {phase : PublicationPhase}
    {updates : PublicationJournal Digest → PublicationJournal Digest}
    {after : PublicationJournal Digest → PublicationHome Digest Remote → Prop}
    (done : after { updates journal with phase } (home.store { updates journal with phase })) :
    Meets (transition journal phase updates) home after (Halted platform course) := by
  rw [transition]
  apply meets_bind
  apply writeJournal_meets kept.stored kept.crash
  exact meets_pure done

theorem Kept.remotely (kept : Kept platform course home journal) (remote : Remote) {released : Bool}
    (early : journal.phase.isUnreleased = true → released = home.released) :
    Kept platform course { home with remote, released } journal := { kept with
  sound := {
    evidence := fun requirement needed => (kept.sound.evidence requirement needed).frame rfl
    files := kept.sound.files
    guards := {
      unreleased := fun unheld => early unheld ▸ kept.sound.guards.unreleased unheld
      restoring := kept.sound.guards.restoring } } }

/-- What a remote hook answers is its answer or the failure of the call. -/
theorem remote_of_elim {Answer : Type} {answer : Option Answer} {failure : PublicationFailure}
    (failed : answer.elim (.error .remote) .ok = (.error failure : Except PublicationFailure Answer)) :
    failure.isRemote = true := by
  cases answer with
  | none =>
      cases failed
      rfl
  | some answer => cases failed

/-- A remote call leaves the journal and the files. -/
theorem callRemote_keeps {Input Answer : Type} {hook : RemoteHook Remote Input Answer} {input : Input}
    (kept : Kept platform course home journal)
    {after : Answer → PublicationHome Digest Remote → Prop}
    (done : ∀ answer later, Kept platform course later journal → after answer later) :
    Meets (callRemote hook input) home after (Halted platform course) := by
  rw [callRemote]
  apply meets_effect kept.crash
  · rintro answer later acted
    rw [← (Prod.mk.inj acted).2]
    exact done _ _ (kept.remotely _ fun _ => rfl)
  · rintro failure later acted
    obtain ⟨failed, rfl⟩ := Prod.mk.inj acted
    exact (kept.remotely _ fun _ => rfl).fault (.inl (remote_of_elim failed))

/-- A guard is released only in the phases that do so. -/
theorem callRelease_keeps {Input Answer : Type} {hook : RemoteHook Remote Input Answer} {input : Input}
    (kept : Kept platform course home journal) (unheld : journal.phase.isUnreleased = false)
    {after : Answer → PublicationHome Digest Remote → Prop}
    (done : ∀ answer later, Kept platform course later journal → after answer later) :
    Meets (callRelease hook input) home after (Halted platform course) := by
  have early : ∀ {released : Bool}, journal.phase.isUnreleased = true → released = home.released := by
    intro _ early
    rw [unheld] at early
    cases early
  rw [callRelease]
  apply meets_effect kept.crash
  · rintro answer later acted
    rw [← (Prod.mk.inj acted).2]
    exact done _ _ (kept.remotely _ early)
  · rintro failure later acted
    obtain ⟨failed, rfl⟩ := Prod.mk.inj acted
    exact (kept.remotely _ early).fault (.inl (remote_of_elim failed))

/-- A check that holds lets the call go on. -/
theorem meets_require {refused : Prop} [Decidable refused] {reason : PublicationReason}
    {message : String} (kept : Kept platform course home journal)
    {after : Unit → PublicationHome Digest Remote → Prop}
    (excused : refused → (PublicationFailure.journal reason message).isRemote = true ∨
      course.edited = true ∨ course.excuse)
    (done : ¬ refused → after () home) :
    Meets (lift (refuse refused reason message)) home after (Halted platform course) := by
  by_cases holds : refused
  · rw [refuse, if_pos holds]
    exact meets_fault (kept.fault (excused holds))
  · rw [refuse, if_neg holds]
    exact meets_pure (done holds)

end Steps

end Lcm.Publication
