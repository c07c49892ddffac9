import Lcm.Publication.Recovery

namespace Lcm.Publication
open Text Interruptible

variable {Digest Remote : Type} [DecidableEq Digest] {platform : PublicationPlatform Digest}

/-- What holds of a home at every moment of its runs. -/
structure Upright (platform : PublicationPlatform Digest) (shortcut late : Prop)
    (home : PublicationHome Digest Remote) : Prop where
  mutations : ∀ mutation ∈ home.mutations, mutation.IsAppropriate ∧ (late ∨ mutation.IsGuarded)
  spared : home.edited = true → late
  sound : ∀ journal, home.journal = some (.publication journal) →
    Sound platform shortcut late home journal
  maintenance : ∀ journal, home.journal = some (.maintenance journal) →
    isTerminalMaintenancePhase journal.phase = true

theorem Kept.upright {course : Course} {home : PublicationHome Digest Remote}
    {journal : PublicationJournal Digest} (kept : Kept platform course home journal) :
    Upright platform course.shortcut course.late home where
  mutations := kept.mutations
  spared edited := kept.spared (kept.edited ▸ edited)
  sound other stored := by
    rw [kept.stored] at stored
    cases stored
    exact kept.sound
  maintenance other stored := by
    rw [kept.stored] at stored
    cases stored

theorem Upright.record {shortcut late : Prop} {home : PublicationHome Digest Remote}
    (upright : Upright platform shortcut late home) (history : List (StoredJournal Digest)) :
    Upright platform shortcut late { home with history } where
  mutations := upright.mutations
  spared := upright.spared
  sound journal stored := {
    evidence := fun requirement needed =>
      ((upright.sound journal stored).evidence requirement needed).frame rfl
    files := (upright.sound journal stored).files
    guards := ⟨(upright.sound journal stored).guards.unreleased,
      (upright.sound journal stored).guards.restoring⟩ }
  maintenance := upright.maintenance

/-- What a preparation needs in order to succeed. -/
structure Preparable (platform : PublicationPlatform Digest) (driver : PublicationDriver Digest Remote)
    (home : PublicationHome Digest Remote) (input : PreparePublication Digest) : Prop where
  valid : ∃ validated, validateInput platform input = .ok validated
  provided : input.projects = [] ∨ driver.hasCompleteGuardProvider = true
  ended : ∀ journal, home.journal = some journal → journal.isTerminal = true
  shaped : ∀ file, isWitnessShape (recoveryFileWitness platform (home.files.get file)) = true
  small : (platform.materialJson input.publicationId input.material).length ≤ maxMaterialBytes
  free : home.materials input.publicationId = none
  current : ∀ file, SameContent (recoveryFileWitness platform (input.material.source.get file))
    (recoveryFileWitness platform (home.files.get file))

section Prepare

variable {driver : PublicationDriver Digest Remote} {home : PublicationHome Digest Remote}
  {input validated : PreparePublication Digest} {shortcut late : Prop}

/-- A valid request keeps its publication and its material; only its projects are sorted. -/
structure Validates (input validated : PreparePublication Digest) : Prop where
  publicationId : validated.publicationId = input.publicationId
  material : validated.material = input.material
  count : validated.projects.length = input.projects.length
  target : ∀ file, isRecoveryFile (input.material.target.get file) = true

omit [DecidableEq Digest] in
theorem validateInput_ok (valid : validateInput platform input = .ok validated) :
    Validates input validated := by
  simp only [validateInput, Except.bind_eq_ok, refuse_ok, not_not, Except.pure_eq_ok] at valid
  obtain ⟨_, _, _, _, _, _, _, config, _, projectMap, _, _, same⟩ := valid
  subst same
  refine ⟨rfl, rfl, List.length_mergeSort _, ?_⟩
  intro file
  cases file
  · exact config
  · exact projectMap

omit [DecidableEq Digest] in
/-- A valid recovery file has the shape of one that a driver reports. -/
theorem isWitnessShape_of_isRecoveryFile {file : RecoveryFile} (valid : isRecoveryFile file = true) :
    isWitnessShape (recoveryFileWitness platform file) = true := by
  cases file with
  | none => rfl
  | some file =>
      rw [isRecoveryFile, Option.all_some] at valid
      simp only [Bool.and_eq_true, Bool.not_eq_true', List.isEmpty_eq_false_iff] at valid
      simp only [isWitnessShape, recoveryFileWitness, PrivateFile.witness, Option.map_some,
        Option.all_some, Bool.and_eq_true, decide_eq_true_eq]
      exact ⟨List.length_pos_iff.mpr valid.1.1.1, valid.1.2⟩

omit [DecidableEq Digest] in
theorem assertStateShape_ok {state : LocalState (FileWitness Digest)} {done : Unit} :
    assertStateShape state = .ok done ↔ ∀ file, isWitnessShape (state.get file) = true := by
  simp only [assertStateShape, Except.bind_eq_ok, refuse_ok, not_not]
  constructor
  · rintro ⟨_, config, projectMap⟩ file
    cases file
    · exact config
    · exact projectMap
  · exact fun each => ⟨(), each .config, each .projectMap⟩

/-- A terminal journal is archived, whatever comes after it. -/
theorem archiveExisting_meets {after : Unit → PublicationHome Digest Remote → Prop}
    {stopped : Stop PublicationFailure → PublicationHome Digest Remote → Prop}
    (crash : stopped .crash home)
    (unended : ∀ failure, (∃ journal, home.journal = some journal ∧ journal.isTerminal = false) →
      stopped (.fault failure) home)
    (done : ∀ history, (∀ journal, home.journal = some journal →
      journal.isTerminal = true ∧ journal ∈ history) → after () { home with history }) :
    Meets (archiveExisting home.journal) home after stopped := by
  apply meets_bind
  apply meets_lift
  · intro _ terminal
    rw [refuse_ok] at terminal
    cases stored : home.journal with
    | none =>
        apply meets_pure
        have unchanged := done home.history fun journal found => by
          rw [stored] at found
          cases found
        exact unchanged
    | some journal =>
        rw [stored] at terminal
        apply meets_change crash
        apply done
        intro other found
        rw [stored] at found
        cases found
        refine ⟨by simpa using terminal, ?_⟩
        split
        · next inside => exact inside
        · exact List.mem_append_right _ (List.mem_singleton_self _)
  · intro failure refused
    apply unended
    cases stored : home.journal with
    | none =>
        rw [stored, refuse, if_neg (by simp)] at refused
        cases refused
    | some journal =>
        refine ⟨journal, rfl, ?_⟩
        by_contra ended
        rw [stored, refuse, if_neg (by simpa using ended)] at refused
        cases refused

/-- While a journal is preparing its home may get material. -/
theorem Kept.materialize {course : Course} {journal : PublicationJournal Digest}
    (kept : Kept platform course home journal) (phase : journal.phase = .preparing)
    (materials : JsString → Option RecoveryMaterial) :
    Kept platform course { home with materials } journal where
  stored := kept.stored
  publicationId := kept.publicationId
  count := kept.count
  edited := kept.edited
  allowed := kept.allowed
  spared := kept.spared
  sound := {
    evidence := by
      intro requirement needed
      have holds := kept.sound.evidence requirement needed
      rw [phase] at needed
      cases requirement with
      | shaped | unsealed => exact holds
      | sealed | recorded | material | cleaned | guarded | held | inactive | mapPublished
      | configPublished => cases needed
    files := kept.sound.files
    guards := ⟨kept.sound.guards.unreleased, kept.sound.guards.restoring⟩ }
  mutations := kept.mutations

/-- The journal that a preparation starts with, kept before its material is sealed. -/
structure Starting (platform : PublicationPlatform Digest) (course : Course)
    (home : PublicationHome Digest Remote) (material : RecoveryMaterial)
    (journal : PublicationJournal Digest) : Prop where
  kept : Kept platform course home journal
  phase : journal.phase = .preparing
  target : journal.targetState = material.target.map (recoveryFileWitness platform)
  allowed : course.allowed .prepared
  large : maxMaterialBytes < (recoveryReference platform journal.publicationId material).byteLength →
    course.excuse
  taken : (home.materials journal.publicationId).isSome = true → course.excuse
  other : ¬ (∀ file, SameContent (recoveryFileWitness platform (material.source.get file))
    (journal.sourceState.get file)) → course.excuse

/-- Where a preparation may stop after it wrote its journal. -/
structure Unprepared (platform : PublicationPlatform Digest) (course : Course)
    (stop : Stop PublicationFailure) (home : PublicationHome Digest Remote) : Prop where
  kept : ∃ journal, Kept platform course home journal
  excused : ∀ failure, stop = .fault failure → course.excuse

/-- The material is sealed before it is read back. -/
theorem sealMaterial_meets {course : Course} {material : RecoveryMaterial}
    {journal : PublicationJournal Digest} (starting : Starting platform course home material journal) :
    Meets (sealMaterial platform journal.publicationId material) home
      (fun reference later => reference = recoveryReference platform journal.publicationId material ∧
        Kept platform course later journal ∧ later.history = home.history ∧
          later.materials journal.publicationId = some material) (Unprepared platform course) := by
  rw [sealMaterial]
  apply meets_bind
  apply meets_lift
  · intro _ _
    apply meets_effect ⟨⟨journal, starting.kept⟩, nofun⟩
    · intro reference later acted
      split at acted
      · cases acted
      · cases acted
        exact ⟨rfl, starting.kept.materialize starting.phase _, rfl, Function.update_self ..⟩
    · intro failure later acted
      split at acted
      · next taken =>
          cases acted
          exact ⟨⟨journal, starting.kept⟩, fun _ _ => starting.taken taken⟩
      · cases acted
  · intro failure refused
    rw [refuse] at refused
    split at refused
    · next large => exact ⟨⟨journal, starting.kept⟩, fun _ _ => starting.large large⟩
    · cases refused

/-- The journal is prepared when the material that was sealed is read back. -/
theorem sealPrepared_meets {course : Course} {material : RecoveryMaterial}
    {journal : PublicationJournal Digest} (starting : Starting platform course home material journal) :
    Meets (do
        let reference ← sealMaterial platform journal.publicationId material
        let sealed ← look
        let _ ← lift (authenticateMaterial platform sealed
          { journal with recoveryReference := some reference })
        transition journal .prepared fun journal => { journal with
          recoveryReference := some reference }) home
      (fun next later => (Kept platform course later next ∧ next.phase = .prepared) ∧
        later.history = home.history) (Unprepared platform course) := by
  refine (sealMaterial_meets starting).bind ?_
  rintro _ later ⟨rfl, kept, history, found⟩
  apply meets_bind
  apply meets_look
  apply meets_bind
  apply meets_lift
  · rintro ⟨reference, read⟩ authenticated
    obtain ⟨-, is⟩ := authenticateMaterial_ok.mp authenticated
    have same : read = material := Option.some.inj (is.found.symm.trans found)
    subst same
    have unsealed := (kept.sound.evidence .unsealed (starting.phase ▸ rfl)).1
    have material : IsMaterial platform later journal read := by
      refine ⟨found, ?_, is.source, is.target⟩
      intro reference recorded
      rw [unsealed] at recorded
      cases recorded
    rw [transition]
    apply meets_bind
    apply writeJournal_meets kept.stored ⟨⟨journal, kept⟩, fun _ none => by cases none⟩
    apply meets_pure
    exact ⟨⟨kept.seal starting.phase material starting.allowed rfl, rfl⟩, history⟩
  · intro failure failed
    refine ⟨⟨journal, kept⟩, fun _ _ => starting.other ?_⟩
    intro current
    have is : IsMaterial platform later { journal with
        recoveryReference := some (recoveryReference platform journal.publicationId material) }
        material := by
      refine ⟨found, ?_, current, ?_⟩
      · rintro _ same
        cases same
        rfl
      · intro file
        rw [starting.target, LocalState.get_map]
        exact .of_eq rfl
    rw [authenticateMaterial_ok.mpr ⟨rfl, is⟩] at failed
    cases failed

/-- The course of a preparation once its journal is written. -/
def prepareCourse (input : PreparePublication Digest) (shortcut late excuse : Prop) : Course where
  publicationId := input.publicationId
  count := input.projects.length
  edited := false
  shortcut := shortcut
  late := late
  allowed _ := True
  excuse := excuse

/-- The journal that a preparation writes first lies as its phase requires. -/
theorem Upright.prepare (upright : Upright platform shortcut late home) (valid : Validates input validated)
    (shaped : ∀ file, isWitnessShape (recoveryFileWitness platform (home.files.get file)) = true)
    {preparing : PublicationJournal Digest} (made : preparing = prospectiveJournal platform validated
      (home.files.map (recoveryFileWitness platform))
        (validated.material.target.map (recoveryFileWitness platform)))
    (excuse : Prop) (history : List (StoredJournal Digest)) :
    Kept platform (prepareCourse input shortcut late excuse)
      { home with
        history
        edited := false
        released := false
        journal := some (.publication preparing) } preparing := by
  subst made
  refine ⟨rfl, valid.publicationId, ?_, rfl, trivial, nofun, ⟨?_, fun _ => ⟨rfl, rfl⟩, ?_⟩,
    upright.mutations⟩
  · exact (List.length_map _).trans valid.count
  · intro requirement needed
    cases requirement with
    | shaped =>
        intro file
        refine ⟨?_, ?_⟩
        · rw [prospectiveJournal, LocalState.get_map]
          exact shaped file
        · rw [prospectiveJournal, LocalState.get_map, valid.material]
          exact isWitnessShape_of_isRecoveryFile (valid.target file)
    | unsealed =>
        refine ⟨rfl, ?_⟩
        intro project inside
        obtain ⟨given, _, rfl⟩ := List.mem_map.mp inside
        rfl
    | sealed | recorded | material | cleaned | guarded | held | inactive | mapPublished
    | configPublished => cases needed
  · have outside : PublicationPhase.preparing ∉ restoringPhases := by decide
    exact ⟨fun _ => .inr rfl, fun restoring => (outside restoring).elim⟩

/-- What a preparation leaves: its journal is prepared, and the one before it is archived. -/
structure Prepared (home : PublicationHome Digest Remote) (input : PreparePublication Digest)
    (journal : PublicationJournal Digest) (later : PublicationHome Digest Remote) : Prop where
  stored : later.journal = some (.publication journal)
  publicationId : journal.publicationId = input.publicationId
  phase : journal.phase = .prepared
  archived : ∀ existing, home.journal = some existing → existing ∈ later.history

/-- A preparation leaves the home upright wherever it stops, and does what it says when it can. -/
theorem prepare_meets (upright : Upright platform shortcut late home) :
    Meets (prepare platform driver input) home
      (fun next later => Upright platform shortcut late later ∧ Prepared home input next later)
      (fun stop later => Upright platform shortcut late later ∧
        ∀ failure, stop = .fault failure → ¬ Preparable platform driver home input) := by
  have stops : ∀ {stop : Stop PublicationFailure} (history : List (StoredJournal Digest)),
      ¬ Preparable platform driver home input →
        Upright platform shortcut late { home with history } ∧
          ∀ failure, stop = .fault failure → ¬ Preparable platform driver home input :=
    fun history refused => ⟨upright.record history, fun _ _ => refused⟩
  apply meets_bind
  apply meets_lift
  · intro validated valid
    have validates := validateInput_ok valid
    apply meets_bind
    by_cases provided : validated.projects.isEmpty = false ∧ ¬ driver.hasCompleteGuardProvider = true
    · rw [refuse, if_pos provided]
      apply meets_fault
      apply stops home.history
      intro preparable
      rcases preparable.provided with none | complete
      · have empty := validates.count
        rw [none, List.length_nil, List.length_eq_zero_iff] at empty
        rw [empty] at provided
        cases provided.1
      · exact provided.2 complete
    rw [refuse, if_neg provided]
    apply meets_pure
    apply meets_bind
    apply meets_look
    apply meets_bind
    apply archiveExisting_meets
    · exact ⟨upright, fun _ none => by cases none⟩
    · rintro failure ⟨journal, stored, unended⟩
      apply stops home.history
      intro preparable
      rw [preparable.ended journal stored] at unended
      cases unended
    · intro history archived
      rw [observe, bind_assoc]
      apply meets_bind
      apply meets_look
      rw [bind_assoc]
      apply meets_bind
      apply meets_lift
      · intro _ shaped
        rw [pure_bind]
        have shaped : ∀ file,
            isWitnessShape (recoveryFileWitness platform (home.files.get file)) = true := by
          intro file
          have shapes := assertStateShape_ok.mp shaped file
          rwa [LocalState.get_map] at shapes
        apply meets_bind
        apply writeJournal_meets
        · rfl
        · exact ⟨upright.record history, fun _ none => by cases none⟩
        · have kept := upright.prepare validates shaped rfl
            (¬ Preparable platform driver home input) history
          have starting : Starting platform (prepareCourse input shortcut late
              (¬ Preparable platform driver home input)) _ validated.material _ := {
            kept := kept
            phase := rfl
            target := rfl
            allowed := trivial
            large := by
              intro large preparable
              rw [validates.material] at large
              exact Nat.not_lt.mpr preparable.small (validates.publicationId ▸ large)
            taken := by
              intro taken preparable
              have free := preparable.free
              rw [← validates.publicationId] at free
              have taken : (home.materials validated.publicationId).isSome = true := taken
              rw [free] at taken
              cases taken
            other := by
              intro other preparable
              apply other
              intro file
              rw [validates.material, prospectiveJournal, LocalState.get_map]
              exact preparable.current file }
          apply (sealPrepared_meets starting).mono
          · rintro next later ⟨⟨kept, phase⟩, recorded⟩
            refine ⟨kept.upright, kept.stored, kept.publicationId, phase, ?_⟩
            intro existing stored
            rw [recorded]
            exact (archived existing stored).2
          · rintro stop later halted
            obtain ⟨journal, kept⟩ := halted.kept
            exact ⟨kept.upright, halted.excused⟩
      · intro failure malformed
        apply stops history
        intro preparable
        have shaped : assertStateShape (home.files.map (recoveryFileWitness platform)) = .ok () := by
          apply assertStateShape_ok.mpr
          intro file
          rw [LocalState.get_map]
          exact preparable.shaped file
        rw [shaped] at malformed
        cases malformed
  · intro failure refused
    apply stops home.history
    rintro ⟨⟨validated, valid⟩⟩
    rw [valid] at refused
    cases refused

/-- Over a publication that has not ended nothing is prepared. -/
theorem prepare_refused {journal : StoredJournal Digest} (stored : home.journal = some journal)
    (unended : journal.isTerminal = false) :
    Meets (prepare platform driver input) home (fun _ later => later = home)
      (fun _ later => later = home) := by
  apply meets_bind
  apply meets_lift _ fun _ _ => rfl
  intro validated _
  apply meets_bind
  apply meets_lift _ fun _ _ => rfl
  intro _ _
  apply meets_bind
  apply meets_look
  apply meets_bind
  apply archiveExisting_meets rfl fun _ _ => rfl
  intro history archived
  rw [(archived journal stored).1] at unended
  cases unended

end Prepare

end Lcm.Publication
