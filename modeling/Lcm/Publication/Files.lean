import Lcm.Publication.Soundness

namespace Lcm.Publication
open Interruptible

variable {Digest Remote : Type} [DecidableEq Digest]

/-- Two journals with one publication, one material and the same fences; what is published stays. -/
structure SameEvidence (journal next : PublicationJournal Digest) : Prop where
  publicationId : next.publicationId = journal.publicationId
  reference : next.recoveryReference = journal.recoveryReference
  source : ∀ file, SameContent (journal.sourceState.get file) (next.sourceState.get file)
  target : ∀ file, SameContent (journal.targetState.get file) (next.targetState.get file)
  projects : next.projects = journal.projects
  projectMap : journal.publishedProjectMapSha256 = some journal.intendedProjectMapSha256 →
    next.publishedProjectMapSha256 = some next.intendedProjectMapSha256
  config : journal.publishedConfigSha256 = some journal.intendedConfigSha256 →
    next.publishedConfigSha256 = some next.intendedConfigSha256

theorem SameEvidence.phase (journal : PublicationJournal Digest) (phase : PublicationPhase) :
    SameEvidence journal { journal with phase } :=
  ⟨rfl, rfl, fun _ => .of_eq rfl, fun _ => .of_eq rfl, rfl, id, id⟩

theorem SameEvidence.trans {first second third : PublicationJournal Digest}
    (before : SameEvidence first second) (after : SameEvidence second third) :
    SameEvidence first third :=
  ⟨after.publicationId.trans before.publicationId, after.reference.trans before.reference,
    fun file => (before.source file).trans (after.source file),
    fun file => (before.target file).trans (after.target file), after.projects.trans before.projects,
    fun published => after.projectMap (before.projectMap published),
    fun published => after.config (before.config published)⟩

variable {platform : PublicationPlatform Digest}

theorem IsMaterial.keep {home : PublicationHome Digest Remote} {journal next : PublicationJournal Digest}
    {material : RecoveryMaterial} (is : IsMaterial platform home journal material)
    (same : SameEvidence journal next) : IsMaterial platform home next material where
  found := same.publicationId ▸ is.found
  reference := by
    rw [same.reference, same.publicationId]
    exact is.reference
  source file := (is.source file).trans (same.source file)
  target file := (is.target file).trans (same.target file)

theorem Requirement.Holds.keep {shortcut : Prop} {home : PublicationHome Digest Remote}
    {journal next : PublicationJournal Digest} {requirement : Requirement}
    (holds : requirement.Holds platform shortcut home journal) (same : SameEvidence journal next) :
    requirement.Holds platform shortcut home next := by
  cases requirement with
  | shaped =>
      intro file
      rw [← (same.source file).shape, ← (same.target file).shape]
      exact holds file
  | unsealed =>
      rw [Requirement.Holds, same.reference, same.projects]
      exact holds
  | sealed =>
      rw [Requirement.Holds, same.reference, same.publicationId]
      exact holds
  | recorded =>
      rw [Requirement.Holds, same.reference, same.publicationId]
      exact holds
  | material =>
      obtain ⟨material, is⟩ := holds
      exact ⟨material, is.keep same⟩
  | cleaned =>
      rcases holds with missing | ⟨material, is⟩
      · exact .inl (same.publicationId ▸ missing)
      · exact .inr ⟨material, is.keep same⟩
  | guarded =>
      rw [Requirement.Holds, same.projects]
      exact holds
  | held =>
      rw [Requirement.Holds, same.projects]
      exact holds
  | inactive =>
      rw [Requirement.Holds, same.projects]
      exact holds
  | mapPublished => exact same.projectMap holds
  | configPublished => exact same.config holds

section Keeping

variable {course : Course} {home later : PublicationHome Digest Remote}
  {journal next : PublicationJournal Digest}

/-- Guards are kept by a journal with the same fences that is no nearer to a write. -/
theorem Guards.keep {late : Prop} (guards : Guards platform late home journal)
    (projects : next.projects = journal.projects)
    (unreleased : next.phase.isUnreleased = true → journal.phase.isUnreleased = true)
    (restoring : next.phase ∈ restoringPhases → journal.phase ∈ restoringPhases ∧
      (home.files.map (recoveryFileWitness platform) = journal.sourceState →
        next.sourceState = journal.sourceState)) :
    Guards platform late home next where
  unreleased early := guards.unreleased (unreleased early)
  restoring writes := by
    obtain ⟨before, sources⟩ := restoring writes
    rcases guards.restoring before with late | held | ⟨unedited, files⟩
    · exact .inl late
    · exact .inr (.inl (projects ▸ held))
    · exact .inr (.inr ⟨unedited, files.trans (sources files).symm⟩)

/-- The next journal is kept when it shows what its phase requires beyond the phase before. -/
theorem Kept.store (kept : Kept platform course home journal) (same : SameEvidence journal next)
    (allowed : course.allowed next.phase)
    (needs : ∀ requirement : Requirement, next.phase.requires requirement = true →
      journal.phase.requires requirement = true ∨
        requirement.Holds platform course.shortcut home next)
    (files : course.edited = false → Fits next.phase next.sourceState next.targetState
      (home.files.map (recoveryFileWitness platform)))
    (guards : Guards platform course.late home next) :
    Kept platform course (home.store next) next where
  stored := rfl
  publicationId := same.publicationId.trans kept.publicationId
  count := (congrArg List.length same.projects).trans kept.count
  edited := kept.edited
  allowed := allowed
  spared := kept.spared
  sound := {
    evidence := fun requirement needed => by
      rcases needs requirement needed with before | holds
      · exact ((kept.sound.evidence requirement before).keep same).frame rfl
      · exact holds.frame rfl
    files := fun unedited => files (kept.edited.symm.trans unedited)
    guards := ⟨guards.unreleased, guards.restoring⟩ }
  mutations := kept.mutations

theorem Kept.fits (kept : Kept platform course home journal) (unedited : course.edited = false) :
    Fits journal.phase journal.sourceState journal.targetState
      (home.files.map (recoveryFileWitness platform)) :=
  kept.sound.files (kept.edited.trans unedited)

/-- Each file has its source content or its target content. -/
theorem Fits.content {phase : PublicationPhase} {source target files : LocalState (FileWitness Digest)}
    (fits : Fits phase source target files) (file : LocalFile) :
    SameContent (files.get file) (source.get file) ∨ SameContent (files.get file) (target.get file) := by
  cases file with
  | config =>
      cases phase with
      | preparing | prepared | acquiring | guarded | mapPublishing | mapPublished =>
          exact .inl (.of_eq fits.1)
      | configPublishing | aborting => exact fits.1.imp_left .of_eq
      | configPublished | releasing | released | completed => exact .inr fits.1
      | configRestoring => exact fits.1
      | mapRestoring | abortReleasing | aborted => exact .inl fits.1
  | projectMap =>
      cases phase with
      | preparing | prepared | acquiring | guarded => exact .inl (.of_eq fits.2)
      | mapPublishing => exact fits.2.imp_left .of_eq
      | mapPublished | configPublishing | configPublished | releasing | released | completed
      | configRestoring => exact .inr fits.2
      | aborting => exact fits.2.1.imp_left .of_eq
      | mapRestoring => exact fits.2
      | abortReleasing | aborted => exact .inl fits.2

/-- A phase that is no nearer to a write than the one before. -/
def PublicationPhase.Recedes (phase next : PublicationPhase) : Prop :=
  (next.isUnreleased = true → phase.isUnreleased = true) ∧ next ∉ restoringPhases

/-- A journal moves on when it shows what the next phase requires beyond its own. -/
theorem moves (kept : Kept platform course home journal) {phase : PublicationPhase}
    (allowed : course.allowed phase) (recedes : journal.phase.Recedes phase)
    (needs : ∀ requirement : Requirement, phase.requires requirement = true →
      journal.phase.requires requirement = true ∨
        requirement.Holds platform course.shortcut home journal)
    (fits : ∀ source target files : LocalState (FileWitness Digest),
      Fits journal.phase source target files → Fits phase source target files) :
    Meets (transition journal phase id) home
      (fun next later => Kept platform course later next ∧ next.phase = phase)
      (Halted platform course) := by
  apply transition_meets kept
  refine ⟨kept.store (.phase _ _) allowed ?_ ?_ ?_, rfl⟩
  · intro requirement needed
    exact (needs requirement needed).imp_right fun holds => holds.keep (.phase _ _)
  · exact fun unedited => fits _ _ _ (kept.fits unedited)
  · apply kept.sound.guards.keep
    · rfl
    · exact recedes.1
    · exact fun restoring => (recedes.2 restoring).elim

theorem materialContext_meets (kept : Kept platform course home journal)
    (needed : journal.phase.requires .material = true)
    {after : RecoveryReference Digest × RecoveryMaterial → PublicationHome Digest Remote → Prop}
    (done : ∀ material, IsMaterial platform home journal material →
      after (recoveryReference platform journal.publicationId material, material) home) :
    Meets (materialContext platform journal) home after (Halted platform course) := by
  obtain ⟨material, is⟩ := kept.sound.evidence .material needed
  apply meets_bind
  apply meets_look
  rw [authenticateMaterial_ok.mpr ⟨rfl, is⟩]
  exact meets_pure (done material is)

/-- Files that nobody else changed have the shape that the coordinator asks for. -/
theorem observe_meets (kept : Kept platform course home journal)
    {after : LocalState (FileWitness Digest) → PublicationHome Digest Remote → Prop}
    (done : after (home.files.map (recoveryFileWitness platform)) home) :
    Meets (observe platform) home after (Halted platform course) := by
  have shaped : course.edited = false → ∀ file,
      isWitnessShape (recoveryFileWitness platform (home.files.get file)) = true := by
    intro unedited file
    have shapes := kept.sound.evidence .shaped rfl file
    rcases (kept.fits unedited).content file with same | same
    · rw [LocalState.get_map] at same
      rw [same.shape]
      exact shapes.1
    · rw [LocalState.get_map] at same
      rw [same.shape]
      exact shapes.2
  have excused : ∀ file, ¬ isWitnessShape (recoveryFileWitness platform (home.files.get file)) = true →
      course.edited = true := by
    intro file malformed
    by_contra unedited
    exact malformed (shaped (by simpa using unedited) file)
  apply meets_bind
  apply meets_look
  apply meets_bind
  cases checked : assertStateShape (home.files.map (recoveryFileWitness platform)) with
  | ok value => exact meets_pure (meets_pure done)
  | error failure =>
      apply meets_fault
      apply kept.fault
      rw [assertStateShape] at checked
      by_cases config : isWitnessShape (recoveryFileWitness platform home.files.config) = true
      · by_cases projectMap : isWitnessShape (recoveryFileWitness platform home.files.projectMap) = true
        · simp [LocalState.map, config, projectMap, refuse] at checked
          cases checked
        · exact .inr (.inl (excused .projectMap projectMap))
      · exact .inr (.inl (excused .config config))

/-- A write leaves a file with the content that was meant, and is recorded. -/
theorem mutate_meets {driver : PublicationDriver Digest Remote} {access : MutationAccess}
    {file : LocalFile} {content : RecoveryFile} {expected : FileWitness Digest} {field : String}
    (kept : Kept platform course home journal)
    (appropriate : FileMutation.IsAppropriate
      ⟨file, access, recoveryFileWitness platform (home.files.get file), journal, home.released⟩)
    (unreleased : journal.phase.isUnreleased = true)
    (held : course.late ∨ ∀ project ∈ journal.projects, IsHeld project.fence)
    (meant : SameContent (recoveryFileWitness platform content) expected)
    (fits : ∀ written, SameContent (recoveryFileWitness platform written) expected →
      course.edited = false → Fits journal.phase journal.sourceState journal.targetState
        ((home.files.set written file).map (recoveryFileWitness platform)))
    {after : Unit → PublicationHome Digest Remote → Prop}
    (done : ∀ later, Kept platform course later journal →
      SameContent (recoveryFileWitness platform (later.files.get file)) expected → after () later) :
    Meets (mutate platform driver access file journal content expected field) home after
      (Halted platform course) := by
  have moved : SameContent (recoveryFileWitness platform (content.map fun content =>
      { content with identity := driver.newIdentity home.files })) expected :=
    SameContent.trans (content_of_moved platform content _) meant
  have guarded : course.late ∨ FileMutation.IsGuarded
      ⟨file, access, recoveryFileWitness platform (home.files.get file), journal, home.released⟩ := by
    rcases kept.sound.guards.unreleased unreleased with late | unreleased
    · exact .inl late
    · exact held.imp_right fun held => ⟨unreleased, held⟩
  apply meets_bind
  apply meets_effect kept.crash
  · rintro _ later acted
    cases acted
    have written : Kept platform course (home.write file (content.map fun content =>
        { content with identity := driver.newIdentity home.files })
        ⟨file, access, recoveryFileWitness platform (home.files.get file), journal, home.released⟩)
        journal := {
      stored := kept.stored
      publicationId := kept.publicationId
      count := kept.count
      edited := kept.edited
      allowed := kept.allowed
      spared := kept.spared
      sound := {
        evidence := fun requirement needed => (kept.sound.evidence requirement needed).frame rfl
        files := fun unedited => fits _ moved (kept.edited.symm.trans unedited)
        guards := ⟨kept.sound.guards.unreleased, fun _ => held.imp_right .inl⟩ }
      mutations := List.forall_mem_cons.mpr ⟨⟨appropriate, guarded⟩, kept.mutations⟩ }
    apply meets_require written
    · exact fun differs => (differs moved).elim
    · intro _
      apply done _ written
      rw [PublicationHome.write, LocalState.get_set, if_pos rfl]
      exact moved
  · rintro _ later acted
    cases acted

end Keeping

section Publishing

variable {stage : PublishStage Digest} {course : Course} {home : PublicationHome Digest Remote}
  {journal : PublicationJournal Digest} {driver : PublicationDriver Digest Remote}

/-- What the phases of a publication of a file show and where they keep the files. -/
structure PublishStage.IsRegular (Remote : Type) (stage : PublishStage Digest) (shown : Requirement) :
    Prop where
  material : stage.start.requires .material = true ∧ stage.publishing.requires .material = true
  held : stage.start.requires .held = true ∧ stage.publishing.requires .held = true
  unreleased : stage.start.isUnreleased = true ∧ stage.publishing.isUnreleased = true
  forward : stage.publishing ∉ restoringPhases ∧ stage.published ∉ restoringPhases
  entering : ∀ requirement, stage.publishing.requires requirement = true →
    stage.start.requires requirement = true
  leaving : ∀ requirement, stage.published.requires requirement = true →
    stage.publishing.requires requirement = true ∨ requirement = shown
  evidence : ∀ journal : PublicationJournal Digest, SameEvidence journal (stage.record journal)
  source : ∀ journal, (stage.record journal).sourceState = journal.sourceState
  target : ∀ journal, (stage.record journal).targetState = journal.targetState
  shows : ∀ (platform : PublicationPlatform Digest) (shortcut : Prop)
    (home : PublicationHome Digest Remote) (journal : PublicationJournal Digest),
      shown.Holds platform shortcut home (stage.record journal)
  begins : ∀ source target files : LocalState (FileWitness Digest), Fits stage.start source target files →
    files.get stage.file = source.get stage.file ∧ Fits stage.publishing source target files
  works : ∀ source target files : LocalState (FileWitness Digest),
    Fits stage.publishing source target files → files.get stage.file = source.get stage.file ∨
      SameContent (files.get stage.file) (target.get stage.file)
  writes : ∀ (source target files : LocalState (FileWitness Digest)) (written : FileWitness Digest), Fits stage.publishing source target files →
    SameContent written (target.get stage.file) →
      Fits stage.publishing source target (files.set written stage.file)
  ends : ∀ source target files : LocalState (FileWitness Digest),
    Fits stage.publishing source target files →
      SameContent (files.get stage.file) (target.get stage.file) →
        Fits stage.published source (target.set (files.get stage.file) stage.file) files

theorem mapPublication_isRegular :
    (mapPublication : PublishStage Digest).IsRegular Remote .mapPublished where
  material := ⟨rfl, rfl⟩
  held := ⟨rfl, rfl⟩
  unreleased := ⟨rfl, rfl⟩
  forward := by
    show PublicationPhase.mapPublishing ∉ restoringPhases ∧
      PublicationPhase.mapPublished ∉ restoringPhases
    decide
  entering requirement := by
    show PublicationPhase.requires .mapPublishing requirement = true →
      PublicationPhase.requires .guarded requirement = true
    cases requirement <;> decide
  leaving requirement := by
    show PublicationPhase.requires .mapPublished requirement = true →
      PublicationPhase.requires .mapPublishing requirement = true ∨ requirement = .mapPublished
    cases requirement <;> decide
  evidence _ := ⟨rfl, rfl, fun _ => .of_eq rfl, fun _ => .of_eq rfl, rfl, fun _ => rfl, id⟩
  source _ := rfl
  target _ := rfl
  shows _ _ _ _ := rfl
  begins _ _ _ fits := ⟨fits.2, fits.1, .inl fits.2⟩
  works _ _ _ fits := fits.2
  writes _ _ _ _ fits written := ⟨fits.1, .inr written⟩
  ends _ _ _ fits _ := ⟨fits.1, .of_eq rfl⟩

theorem configPublication_isRegular :
    (configPublication : PublishStage Digest).IsRegular Remote .configPublished where
  material := ⟨rfl, rfl⟩
  held := ⟨rfl, rfl⟩
  unreleased := ⟨rfl, rfl⟩
  forward := by
    show PublicationPhase.configPublishing ∉ restoringPhases ∧
      PublicationPhase.configPublished ∉ restoringPhases
    decide
  entering requirement := by
    show PublicationPhase.requires .configPublishing requirement = true →
      PublicationPhase.requires .mapPublished requirement = true
    cases requirement <;> decide
  leaving requirement := by
    show PublicationPhase.requires .configPublished requirement = true →
      PublicationPhase.requires .configPublishing requirement = true ∨ requirement = .configPublished
    cases requirement <;> decide
  evidence _ := ⟨rfl, rfl, fun _ => .of_eq rfl, fun _ => .of_eq rfl, rfl, id, fun _ => rfl⟩
  source _ := rfl
  target _ := rfl
  shows _ _ _ _ := rfl
  begins _ _ _ fits := ⟨fits.1, .inl fits.1, fits.2⟩
  works _ _ _ fits := fits.1
  writes _ _ _ _ fits written := ⟨.inr written, fits.2⟩
  ends _ _ _ fits _ := ⟨.of_eq rfl, fits.2⟩

variable {shown : Requirement}

/-- The published file is recorded as it lies. -/
theorem finishPublish_meets (regular : stage.IsRegular Remote shown)
    (kept : Kept platform course home journal) (phase : journal.phase = stage.publishing ∨
      journal.phase = stage.start) (allowed : course.allowed stage.published)
    {target : LocalState (FileWitness Digest)} (targets : journal.targetState = target)
    (content : SameContent (recoveryFileWitness platform (home.files.get stage.file))
      (journal.targetState.get stage.file)) :
    Meets (transition journal stage.published fun current => stage.record { current with
        targetState := target.set ((home.files.map (recoveryFileWitness platform)).get stage.file)
          stage.file }) home
      (fun next later => Kept platform course later next ∧ next.phase = stage.published)
      (Halted platform course) := by
  subst targets
  rw [LocalState.get_map]
  let observed := recoveryFileWitness platform (home.files.get stage.file)
  have moved : SameEvidence journal { journal with
      targetState := journal.targetState.set observed stage.file } := by
    refine ⟨rfl, rfl, fun _ => .of_eq rfl, ?_, rfl, id, id⟩
    intro file
    rw [LocalState.get_set]
    split
    · next same => exact same ▸ content.symm
    · exact .of_eq rfl
  have same := (moved.trans (regular.evidence _)).trans (.phase _ stage.published)
  apply transition_meets kept
  refine ⟨kept.store same allowed ?_ ?_ ?_, rfl⟩
  · intro requirement needed
    rcases regular.leaving requirement needed with before | rfl
    · rcases phase with publishing | start
      · exact .inl (publishing ▸ before)
      · exact .inl (start ▸ regular.entering requirement before)
    · exact .inr ((regular.shows _ _ _ _).keep (.phase _ _))
  · intro unedited
    have fits := kept.fits unedited
    have working : Fits stage.publishing journal.sourceState journal.targetState
        (home.files.map (recoveryFileWitness platform)) := by
      rcases phase with publishing | start
      · exact publishing ▸ fits
      · rw [start] at fits
        exact (regular.begins _ _ _ fits).2
    have ended := regular.ends _ _ _ working (by rwa [LocalState.get_map])
    rw [LocalState.get_map] at ended
    dsimp only
    rwa [regular.source, regular.target]
  · apply kept.sound.guards.keep
    · exact same.projects
    · intro _
      rcases phase with publishing | start
      · exact publishing ▸ regular.unreleased.2
      · exact start ▸ regular.unreleased.1
    · exact fun restoring => (regular.forward.2 restoring).elim

theorem enterPublish_meets (regular : stage.IsRegular Remote shown)
    (kept : Kept platform course home journal) (phase : journal.phase = stage.publishing ∨
      journal.phase = stage.start) (allowed : course.allowed stage.publishing) :
    Meets (enterPhase (some stage.start) stage.publishing journal) home
      (fun current later => current = { journal with phase := stage.publishing } ∧
        Kept platform course later current ∧ later.files = home.files) (Halted platform course) := by
  rw [enterPhase]
  split
  · next start =>
      have start : stage.start = journal.phase := Option.some.inj start
      apply transition_meets kept
      refine ⟨rfl, kept.store (.phase _ _) allowed ?_ ?_ ?_, rfl⟩
      · exact fun requirement needed => .inl (start ▸ regular.entering requirement needed)
      · intro unedited
        have fits := kept.fits unedited
        rw [← start] at fits
        exact (regular.begins _ _ _ fits).2
      · apply kept.sound.guards.keep
        · rfl
        · exact fun _ => start ▸ regular.unreleased.1
        · exact fun restoring => (regular.forward.1 restoring).elim
  · next other =>
      have publishing : journal.phase = stage.publishing :=
        phase.resolve_right fun start => other (congrArg some start.symm)
      have same : journal = { journal with phase := stage.publishing } := by
        rw [← publishing]
      exact meets_pure ⟨same, kept, rfl⟩

/-- A file is published, from the phase before or from where a crash left it. -/
theorem publishFile_meets (regular : stage.IsRegular Remote shown)
    (kept : Kept platform course home journal) (phase : journal.phase = stage.publishing ∨
      journal.phase = stage.start) (allowed : ∀ phase, course.allowed phase) :
    Meets (publishFile platform driver stage journal) home
      (fun next later => Kept platform course later next ∧ next.phase = stage.published)
      (Halted platform course) := by
  have needed : journal.phase.requires .material = true := by
    rcases phase with publishing | start
    · rw [publishing]
      exact regular.material.2
    · rw [start]
      exact regular.material.1
  have held : ∀ project ∈ journal.projects, IsHeld project.fence := by
    apply kept.sound.evidence .held
    rcases phase with publishing | start
    · rw [publishing]
      exact regular.held.2
    · rw [start]
      exact regular.held.1
  rw [publishFile]
  apply meets_bind
  apply materialContext_meets kept needed
  intro material is
  apply meets_bind
  apply observe_meets kept
  rw [LocalState.get_map]
  split
  · next matched =>
      apply finishPublish_meets regular kept phase (allowed _) rfl
      rcases matched with logical | ⟨_, moved⟩
      · exact .of_eq (logicalWitnessMatches_iff.mp logical)
      · exact content_of_mutation moved
  · next differs =>
      -- Nobody else changed the file: it has its source, or a crash left its target.
      have source : course.edited = false →
          recoveryFileWitness platform (home.files.get stage.file) = journal.sourceState.get stage.file := by
        intro unedited
        have fits := kept.fits unedited
        rcases phase with publishing | start
        · rw [publishing] at fits
          rcases regular.works _ _ _ fits with same | content
          · rwa [LocalState.get_map] at same
          · rw [LocalState.get_map] at content
            rcases mutation_or_logical content with moved | same
            · exact (differs (.inr ⟨publishing, moved⟩)).elim
            · exact (differs (.inl (logicalWitnessMatches_iff.mpr same))).elim
        · rw [start] at fits
          have same := (regular.begins _ _ _ fits).1
          rwa [LocalState.get_map] at same
      apply meets_bind
      apply meets_require kept
      · intro differs
        refine .inr (.inl ?_)
        by_contra unedited
        exact differs (logicalWitnessMatches_iff.mpr (source (by simpa using unedited)))
      · intro matched
        have before := logicalWitnessMatches_iff.mp (not_not.mp matched)
        refine (enterPublish_meets regular kept phase (allowed _)).bind ?_
        rintro _ entered ⟨rfl, working, files⟩
        apply meets_bind
        apply mutate_meets working
        · exact (congrArg (fun files => recoveryFileWitness platform (files.get stage.file)) files).trans before
        · exact regular.unreleased.2
        · exact .inr held
        · exact is.target stage.file
        · intro written content unedited
          rw [LocalState.map_set]
          exact regular.writes _ _ _ _ (working.fits unedited) content
        · intro later written content
          apply meets_bind
          apply observe_meets written
          apply meets_bind
          rw [LocalState.get_map]
          apply meets_require written
          · exact fun differs => (differs content).elim
          · intro _
            exact finishPublish_meets regular written (.inl rfl) (allowed _) rfl content

end Publishing

section Restoring

variable {stage : RestoreStage} {course : Course} {home : PublicationHome Digest Remote}
  {journal : PublicationJournal Digest} {driver : PublicationDriver Digest Remote}

/-- What the phases of a restoration of a file show and where they keep the files. -/
structure RestoreStage.IsRegular (Digest : Type) [DecidableEq Digest] (stage : RestoreStage) : Prop where
  restoring : stage.restoring ∈ restoringPhases ∧ ∀ phase, stage.start = some phase →
    phase ∈ restoringPhases
  material : stage.restoring.requires .material = true ∧ ∀ phase, stage.start = some phase →
    phase.requires .material = true
  entering : ∀ phase, stage.start = some phase → ∀ requirement,
    stage.restoring.requires requirement = true → phase.requires requirement = true
  leaving : ∀ requirement, stage.restored.requires requirement = true →
    stage.restoring.requires requirement = true ∨ requirement = .cleaned
  restored : ∀ (phase : PublicationPhase) (source target files : LocalState (FileWitness Digest)),
    stage.start = some phase → Fits phase source target files →
      files.get stage.file = source.get stage.file → Fits stage.restored source target files
  changed : ∀ (phase : PublicationPhase) (source target files : LocalState (FileWitness Digest)),
    stage.start = some phase → Fits phase source target files →
      files.get stage.file ≠ source.get stage.file →
        SameContent (files.get stage.file) (target.get stage.file) ∧ Fits stage.restoring source target files
  writes : ∀ (source target files : LocalState (FileWitness Digest)) (written : FileWitness Digest),
    Fits stage.restoring source target files → SameContent written (source.get stage.file) →
      Fits stage.restoring source target (files.set written stage.file)
  ends : ∀ source target files : LocalState (FileWitness Digest),
    Fits stage.restoring source target files →
      SameContent (files.get stage.file) (source.get stage.file) →
        Fits stage.restored source target files
  records : ∀ source target files : LocalState (FileWitness Digest),
    Fits stage.restored source target files →
      Fits stage.restored (source.set (files.get stage.file) stage.file) target files

theorem configRestoration_isRegular : configRestoration.IsRegular Digest where
  restoring := by
    refine ⟨by decide, ?_⟩
    rintro _ same
    cases same
    decide
  material := by
    refine ⟨rfl, ?_⟩
    rintro _ same
    cases same
    rfl
  entering := by
    rintro _ same requirement
    cases same
    cases requirement <;> decide
  leaving requirement := by cases requirement <;> decide
  restored := by
    rintro _ source target files same fits restored
    cases same
    exact ⟨.of_eq restored, fits.2.1.imp_left SameContent.of_eq⟩
  changed := by
    rintro _ source target files same fits changed
    cases same
    have content := fits.1.resolve_left changed
    exact ⟨content, .inr content, fits.2.2.resolve_left changed⟩
  writes _ _ _ _ fits written := ⟨.inl written, fits.2⟩
  ends _ _ _ fits content := ⟨content, .inr fits.2⟩
  records _ _ _ fits := ⟨.of_eq rfl, fits.2⟩

theorem mapRestoration_isRegular : mapRestoration.IsRegular Digest where
  restoring := ⟨by decide, nofun⟩
  material := ⟨rfl, nofun⟩
  entering := nofun
  leaving requirement := by cases requirement <;> decide
  restored _ _ _ _ start := absurd start (by simp [mapRestoration])
  changed _ _ _ _ start := absurd start (by simp [mapRestoration])
  writes _ _ _ _ fits written := ⟨fits.1, .inl written⟩
  ends _ _ _ fits content := ⟨fits.1, content⟩
  records _ _ _ fits := ⟨fits.1, .of_eq rfl⟩

/-- The phases from which a file is restored. -/
def RestoreStage.Starts (stage : RestoreStage) (phase : PublicationPhase) : Prop :=
  phase = stage.restoring ∨ stage.start = some phase

theorem RestoreStage.Starts.restoring (regular : stage.IsRegular Digest)
    {phase : PublicationPhase} (starts : stage.Starts phase) : phase ∈ restoringPhases := by
  rcases starts with restoring | start
  · exact restoring ▸ regular.restoring.1
  · exact regular.restoring.2 _ start

theorem unreleased_of_restoring {phase : PublicationPhase} (restoring : phase ∈ restoringPhases) :
    phase.isUnreleased = true := by
  revert restoring
  cases phase <;> decide

/-- A restored file is recorded as it lies, or left as it was. -/
theorem finishRestore_meets (regular : stage.IsRegular Digest)
    (kept : Kept platform course home journal) (starts : stage.Starts journal.phase)
    (allowed : course.allowed stage.restored)
    {updates : PublicationJournal Digest → PublicationJournal Digest}
    (same : SameEvidence journal (updates journal))
    (fits : course.edited = false → Fits stage.restored (updates journal).sourceState
      (updates journal).targetState (home.files.map (recoveryFileWitness platform)))
    (sources : home.files.map (recoveryFileWitness platform) = journal.sourceState →
      (updates journal).sourceState = journal.sourceState) :
    Meets (transition journal stage.restored updates) home
      (fun next later => Kept platform course later next ∧ next.phase = stage.restored)
      (Halted platform course) := by
  apply transition_meets kept
  have restoring := RestoreStage.Starts.restoring regular starts
  refine ⟨kept.store (same.trans (.phase _ _)) allowed ?_ fits ?_, rfl⟩
  rotate_left
  · apply kept.sound.guards.keep
    · exact same.projects
    · exact fun _ => unreleased_of_restoring restoring
    · exact fun _ => ⟨restoring, sources⟩
  intro requirement needed
  have material : ∃ material, IsMaterial platform home journal material := by
    rcases starts with restoring | start
    · exact kept.sound.evidence .material (restoring ▸ regular.material.1)
    · exact kept.sound.evidence .material (regular.material.2 _ start)
  rcases regular.leaving requirement needed with before | rfl
  · rcases starts with restoring | start
    · exact .inl (restoring ▸ before)
    · exact .inl (regular.entering _ start requirement before)
  · obtain ⟨material, is⟩ := material
    exact .inr (.inr ⟨material, is.keep (same.trans (.phase _ _))⟩)

theorem enterRestore_meets (regular : stage.IsRegular Digest)
    (kept : Kept platform course home journal) (starts : stage.Starts journal.phase)
    (allowed : course.allowed stage.restoring)
    (changed : course.edited = false → (home.files.map (recoveryFileWitness platform)).get stage.file ≠
      journal.sourceState.get stage.file) :
    Meets (enterPhase stage.start stage.restoring journal) home
      (fun current later => current = { journal with phase := stage.restoring } ∧
        Kept platform course later current ∧ later.files = home.files) (Halted platform course) := by
  rw [enterPhase]
  split
  · next start =>
      apply transition_meets kept
      have restoring := RestoreStage.Starts.restoring regular starts
      refine ⟨rfl, kept.store (.phase _ _) allowed ?_ ?_ ?_, rfl⟩
      · exact fun requirement needed => .inl (regular.entering _ start requirement needed)
      · intro unedited
        exact (regular.changed _ _ _ _ start (kept.fits unedited) (changed unedited)).2
      · apply kept.sound.guards.keep
        · rfl
        · exact fun _ => unreleased_of_restoring restoring
        · exact fun _ => ⟨restoring, fun _ => rfl⟩
  · next other =>
      have restoring : journal.phase = stage.restoring := starts.resolve_right other
      have same : journal = { journal with phase := stage.restoring } := by
        rw [← restoring]
      exact meets_pure ⟨same, kept, rfl⟩

/-- A file is restored, from the phase before or from where a crash left it. -/
theorem restoreFile_meets (regular : stage.IsRegular Digest)
    (kept : Kept platform course home journal) (starts : stage.Starts journal.phase)
    (allowed : course.allowed stage.restoring ∧ course.allowed stage.restored) :
    Meets (restoreFile platform driver stage journal) home
      (fun next later => Kept platform course later next ∧ next.phase = stage.restored)
      (Halted platform course) := by
  have needed : journal.phase.requires .material = true := by
    rcases starts with restoring | start
    · rw [restoring]
      exact regular.material.1
    · exact regular.material.2 _ start
  let observed := recoveryFileWitness platform (home.files.get stage.file)
  rw [restoreFile]
  apply meets_bind
  apply materialContext_meets kept needed
  intro material is
  apply meets_bind
  apply observe_meets kept
  rw [LocalState.get_map]
  split
  · next matched =>
      have content := content_of_mutation matched.2
      have same : SameEvidence journal { journal with
          sourceState := journal.sourceState.set observed stage.file } := by
        refine ⟨rfl, rfl, ?_, fun _ => .of_eq rfl, rfl, id, id⟩
        intro file
        rw [LocalState.get_set]
        split
        · next same => exact same ▸ SameContent.symm content
        · exact .of_eq rfl
      apply finishRestore_meets regular kept starts allowed.2 same
      · intro unedited
        have fits := kept.fits unedited
        rw [matched.1] at fits
        have ended := regular.records _ _ _ (regular.ends _ _ _ fits (by rwa [LocalState.get_map]))
        rwa [LocalState.get_map] at ended
      · intro files
        dsimp only
        rw [← files]
        exact LocalState.set_get _ _ (LocalState.get_map ..)
  · next unmoved =>
      split
      · next matched =>
          have before := logicalWitnessMatches_iff.mp matched
          apply finishRestore_meets regular kept starts allowed.2 ⟨rfl, rfl, fun _ => .of_eq rfl,
            fun _ => .of_eq rfl, rfl, id, id⟩ _ fun _ => rfl
          intro unedited
          have fits := kept.fits unedited
          rcases starts with restoring | start
          · rw [restoring] at fits
            exact regular.ends _ _ _ fits (.of_eq (by rwa [LocalState.get_map]))
          · exact regular.restored _ _ _ _ start fits (by rwa [LocalState.get_map])
      · next differs =>
          have changed : observed ≠ journal.sourceState.get stage.file :=
            fun same => differs (logicalWitnessMatches_iff.mpr same)
          -- Nobody else changed the file, and it is not its source: it has its target.
          have target : course.edited = false →
              SameContent observed (journal.targetState.get stage.file) := by
            intro unedited
            have fits := kept.fits unedited
            rcases starts with restoring | start
            · rcases fits.content stage.file with content | content
              · rw [LocalState.get_map] at content
                rcases mutation_or_logical content with moved | same
                · exact (unmoved ⟨restoring, moved⟩).elim
                · exact (changed same).elim
              · rwa [LocalState.get_map] at content
            · have content := (regular.changed _ _ _ _ start fits (by rwa [LocalState.get_map])).1
              rwa [LocalState.get_map] at content
          -- An abort that finds a changed file holds every guard.
          have held : course.late ∨ ∀ project ∈ journal.projects, IsHeld project.fence := by
            have restoring := RestoreStage.Starts.restoring regular starts
            rcases kept.sound.guards.restoring restoring with late | held | ⟨_, files⟩
            · exact .inl late
            · exact .inr held
            · refine (changed ?_).elim
              rw [← files, LocalState.get_map]
          apply meets_bind
          apply meets_lift
          · intro _ checked
            have content : SameContent observed (journal.targetState.get stage.file) := by
              split at checked
              · next moved => exact content_of_mutation moved
              · next _ =>
                  rw [assertLogicalWitness, refuse_ok, not_not] at checked
                  exact .of_eq (logicalWitnessMatches_iff.mp checked)
            refine (enterRestore_meets regular kept starts allowed.1
              fun _ => by rwa [LocalState.get_map]).bind ?_
            rintro _ entered ⟨rfl, working, files⟩
            apply meets_bind
            apply mutate_meets working
            · rw [files]
              exact ⟨content, changed⟩
            · exact unreleased_of_restoring regular.restoring.1
            · exact held
            · exact is.source stage.file
            · intro written restored unedited
              rw [LocalState.map_set]
              exact regular.writes _ _ _ _ (working.fits unedited) restored
            · intro later written restored
              apply meets_bind
              apply observe_meets written
              apply meets_bind
              rw [LocalState.get_map]
              apply meets_require written
              · exact fun differs => (differs restored).elim
              · intro _
                apply finishRestore_meets regular written (.inl rfl) allowed.2 ⟨rfl, rfl,
                  fun _ => .of_eq rfl, fun _ => .of_eq rfl, rfl, id, id⟩ _ fun _ => rfl
                intro unedited
                exact regular.ends _ _ _ (written.fits unedited) (by rwa [LocalState.get_map])
          · intro failure refused
            apply kept.fault
            refine .inr (.inl ?_)
            by_contra unedited
            have content := target (by simpa using unedited)
            rcases mutation_or_logical content with moved | same
            · rw [if_pos moved] at refused
              cases refused
            · rw [assertLogicalWitness, refuse, if_neg (not_not.mpr (logicalWitnessMatches_iff.mpr same)),
                ite_self] at refused
              cases refused

end Restoring

end Lcm.Publication
