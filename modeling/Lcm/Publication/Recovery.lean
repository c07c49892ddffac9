import Lcm.Publication.Guards

namespace Lcm.Publication
open Interruptible

variable {Digest Remote : Type} [DecidableEq Digest] {platform : PublicationPlatform Digest}
  {course : Course} {home : PublicationHome Digest Remote} {journal : PublicationJournal Digest}
  {driver : PublicationDriver Digest Remote}

/-- The phases of an abort, the one where it ends too. -/
def PublicationPhase.isAbort (phase : PublicationPhase) : Bool := phase.isAborting || phase = .aborted

/-- A phase that shows no more than the one before and keeps the files as they lie. -/
structure PublicationPhase.Continues (Digest : Type) [DecidableEq Digest]
    (phase next : PublicationPhase) : Prop where
  recedes : phase.Recedes next
  requires : ∀ requirement, next.requires requirement = true → phase.requires requirement = true
  fits : ∀ source target files : LocalState (FileWitness Digest),
    Fits phase source target files → Fits next source target files

theorem prepared_continues : PublicationPhase.Continues Digest .prepared .acquiring where
  recedes := ⟨fun _ => rfl, by decide⟩
  requires requirement := by cases requirement <;> decide
  fits _ _ _ := id

theorem configPublished_continues : PublicationPhase.Continues Digest .configPublished .releasing where
  recedes := ⟨fun _ => rfl, by decide⟩
  requires requirement := by cases requirement <;> decide
  fits _ _ _ := id

/-- A journal written again in its own phase. -/
theorem Kept.again (kept : Kept platform course home journal) {phase : PublicationPhase}
    (same : journal.phase = phase) :
    Kept platform course (home.store { journal with phase }) { journal with phase } := by
  subst same
  exact kept.store (.phase _ _) kept.allowed (fun _ => .inl) kept.fits kept.sound.guards

theorem continues_meets (kept : Kept platform course home journal) {phase next : PublicationPhase}
    (same : journal.phase = phase) (continues : phase.Continues Digest next)
    (allowed : course.allowed next) :
    Meets (transition journal next id) home
      (fun last later => Kept platform course later last ∧ last.phase = next)
      (Halted platform course) := by
  subst same
  apply moves kept allowed continues.recedes _ continues.fits
  exact fun requirement needed => .inl (continues.requires requirement needed)

section Release

theorem releaseHooks_meets (kept : Kept platform course home journal)
    (complete : driver.hasCompleteGuardProvider = false → course.count = 0 ∨ course.excuse)
    {after : Unit → PublicationHome Digest Remote → Prop}
    (done : (driver.releaseHooks = none → ∀ project ∈ journal.projects, Inactive project.fence) →
      after () home) :
    Meets (lift (refuse (driver.releaseHooks.isNone = true ∧
        (journal.projects.any fun project => project.fence.isSome) = true) .unexpectedState
          "remote guard release requires a complete remote guard provider")) home after
      (Halted platform course) := by
  apply meets_require kept
  · intro refused
    have missing := Option.isNone_iff_eq_none.mp refused.1
    obtain ⟨project, inside, _⟩ := List.any_eq_true.mp refused.2
    exact .inr (.inr (kept.guardless (complete (releaseHooks_none missing)) inside))
  · intro accepted
    apply done
    intro missing project inside
    have unfenced : (journal.projects.any fun project => project.fence.isSome) = false := by
      simpa [missing] using accepted
    have none := List.any_eq_false.mp unfenced project inside
    rw [Bool.not_eq_true, Option.isSome_eq_false_iff, Option.isNone_iff_eq_none] at none
    rw [none]
    rfl

/-- An abort releases every fence and stays in its phase. -/
theorem releaseAborting_meets (kept : Kept platform course home journal)
    (phase : journal.phase = .abortReleasing)
    (complete : driver.hasCompleteGuardProvider = false → course.count = 0 ∨ course.excuse) :
    Meets (releaseAll driver true journal) home
      (fun next later => (Kept platform course later next ∧ next.phase = .abortReleasing) ∧
        ∀ project ∈ next.projects, Inactive project.fence) (Halted platform course) := by
  simp only [releaseAll, if_true]
  apply meets_bind
  apply releaseHooks_meets kept complete
  intro unfenced
  apply meets_bind
  apply transition_meets kept
  have again := kept.again phase
  split
  · next missing => exact meets_pure ⟨⟨again, rfl⟩, unfenced missing⟩
  · next hooks found =>
      have acquired : hooks.acquire = none → course.count = 0 ∨ course.excuse :=
        fun missing => complete (releaseHooks_acquire found missing)
      refine (releaseLoop_meets (.inr rfl) acquired again rfl).bind ?_
      intro last later released
      apply transition_meets released.1
      exact ⟨⟨released.1.again released.2.1, rfl⟩, released.2.2⟩

/-- A publication is released when no fence is active. -/
theorem transitionReleased_meets (kept : Kept platform course home journal)
    (phase : journal.phase = .releasing) (allowed : course.allowed .released)
    (inactive : ∀ project ∈ journal.projects, Inactive project.fence) :
    Meets (transition journal .released id) home
      (fun next later => Kept platform course later next ∧ next.phase = .released)
      (Halted platform course) := by
  apply moves kept allowed
  · rw [phase]
    exact ⟨nofun, by decide⟩
  · intro requirement needed
    rw [phase]
    cases requirement with
    | inactive => exact .inr inactive
    | shaped | sealed | material | guarded | mapPublished | configPublished => exact .inl rfl
    | unsealed | recorded | cleaned | held => cases needed
  · intro source target files fits
    rw [phase] at fits
    exact fits

theorem releasePublished_meets (kept : Kept platform course home journal)
    (phase : journal.phase = .releasing) (allowed : course.allowed .released)
    (complete : driver.hasCompleteGuardProvider = false → course.count = 0 ∨ course.excuse) :
    Meets (releaseAll driver false journal) home
      (fun next later => Kept platform course later next ∧ next.phase = .released)
      (Halted platform course) := by
  simp only [releaseAll, Bool.false_eq_true, if_false, pure_bind]
  apply meets_bind
  apply releaseHooks_meets kept complete
  intro unfenced
  split
  · next missing => exact transitionReleased_meets kept phase allowed (unfenced missing)
  · next hooks found =>
      have acquired : hooks.acquire = none → course.count = 0 ∨ course.excuse :=
        fun missing => complete (releaseHooks_acquire found missing)
      refine (releaseLoop_meets (.inl rfl) acquired kept phase).bind ?_
      intro last later released
      exact transitionReleased_meets released.1 released.2.1 allowed released.2.2

end Release

section Abort

/-- At the end of an abort its material may go. -/
theorem Kept.clean (kept : Kept platform course home journal) (phase : journal.phase = .abortReleasing)
    {later : PublicationHome Digest Remote} (stored : later.journal = home.journal)
    (files : later.files = home.files) (edited : later.edited = home.edited)
    (mutations : later.mutations = home.mutations) (released : later.released = home.released)
    (materials : later.materials journal.publicationId = none ∨ later.materials = home.materials) :
    Kept platform course later journal where
  stored := stored.trans kept.stored
  publicationId := kept.publicationId
  count := kept.count
  edited := edited.trans kept.edited
  allowed := kept.allowed
  spared := kept.spared
  sound := {
    evidence := by
      intro requirement needed
      rcases materials with removed | same
      · have holds := kept.sound.evidence requirement needed
        rw [phase] at needed
        cases requirement with
        | cleaned => exact .inl removed
        | shaped | sealed => exact holds
        | unsealed | recorded | material | guarded | held | inactive | mapPublished | configPublished =>
            cases needed
      · exact (kept.sound.evidence requirement needed).frame same
    files := by
      rw [files, edited]
      exact kept.sound.files
    guards := {
      unreleased := released ▸ kept.sound.guards.unreleased
      restoring := by
        rw [files, edited]
        exact kept.sound.guards.restoring } }
  mutations := mutations ▸ kept.mutations

omit [DecidableEq Digest] in
theorem removeMaterial_gone (publicationId : Text.JsString) (home : PublicationHome Digest Remote) :
    (removeMaterial publicationId home).materials publicationId = none :=
  Function.update_self ..

/-- A journal that is sealed misses its material only when that is gone. -/
theorem authenticateMaterial_missing (missing : home.materials journal.publicationId = none)
    (path : ∀ reference, journal.recoveryReference = some reference →
      reference.relativePath = materialPath journal.publicationId) :
    authenticateMaterial platform home journal = .error .missing := by
  have known : ¬ (journal.recoveryReference.any fun reference =>
      reference.relativePath ≠ materialPath journal.publicationId) = true := by
    cases recorded : journal.recoveryReference with
    | none => simp
    | some reference => simp [path reference recorded]
  rw [authenticateMaterial, refuse, if_neg known, missing]
  rfl

theorem cleanupMaterial_meets (kept : Kept platform course home journal)
    (phase : journal.phase = .abortReleasing) {after : Unit → PublicationHome Digest Remote → Prop}
    (done : ∀ later, Kept platform course later journal → after () later) :
    Meets (cleanupMaterial platform driver journal) home after (Halted platform course) := by
  rw [cleanupMaterial]
  apply meets_bind
  apply meets_look
  rcases kept.sound.evidence .cleaned (phase ▸ rfl) with missing | ⟨material, is⟩
  · obtain ⟨reference, recorded, path⟩ := kept.sound.evidence .sealed (phase ▸ rfl)
    have unread : authenticateMaterial platform home journal = .error .missing := by
      apply authenticateMaterial_missing missing
      intro other same
      rw [recorded] at same
      cases same
      exact path
    simp only [unread, phase, and_self, if_true]
    exact meets_pure (done home kept)
  · simp only [authenticateMaterial_ok.mpr ⟨rfl, is⟩]
    split
    · next cleanup _ =>
        have cleaned : Kept platform course (
            if (cleanup journal home.remote).2 then
              removeMaterial journal.publicationId { home with remote := (cleanup journal home.remote).1.2 }
            else { home with remote := (cleanup journal home.remote).1.2 }) journal := by
          split
          · exact kept.clean phase rfl rfl rfl rfl rfl (.inl (removeMaterial_gone _ _))
          · exact kept.clean phase rfl rfl rfl rfl rfl (.inr rfl)
        apply meets_effect kept.crash
        · intro _ later acted
          rw [← (Prod.mk.inj acted).2]
          exact done _ cleaned
        · intro failure later acted
          obtain ⟨failed, rfl⟩ := Prod.mk.inj acted
          refine cleaned.fault (.inl ?_)
          cases answered : (cleanup journal home.remote).1.1 with
          | none =>
              rw [answered] at failed
              cases failed
              rfl
          | some answer =>
              rw [answered] at failed
              cases failed
    · apply meets_change kept.crash
      exact done _ (kept.clean phase rfl rfl rfl rfl rfl (.inl (removeMaterial_gone _ _)))

/-- An abort ends when no fence is active and the material is gone or kept by its driver. -/
theorem finishAbort_meets (kept : Kept platform course home journal)
    (phase : journal.phase = .abortReleasing) (allowed : course.allowed .aborted)
    (inactive : ∀ project ∈ journal.projects, Inactive project.fence) :
    Meets (finishAbort platform driver journal) home
      (fun next later => Kept platform course later next ∧ next.phase = .aborted)
      (Halted platform course) := by
  apply meets_bind
  apply cleanupMaterial_meets kept phase
  intro later kept
  apply moves kept allowed
  · rw [phase]
    exact ⟨nofun, by decide⟩
  · intro requirement needed
    rw [phase]
    cases requirement with
    | inactive => exact .inr inactive
    | recorded =>
        obtain ⟨reference, recorded, path⟩ := kept.sound.evidence .sealed (phase ▸ rfl)
        refine .inr ⟨?_, ?_⟩
        · intro missing
          rw [missing] at recorded
          cases recorded
        · intro other same
          rw [recorded] at same
          cases same
          exact path
    | shaped | cleaned => exact .inl rfl
    | unsealed | sealed | material | guarded | held | mapPublished | configPublished => cases needed
  · intro source target files fits
    rw [phase] at fits
    exact fits

/-- Wherever a publication stands, its files lie as at the start of an abort. -/
theorem Fits.abort {phase : PublicationPhase} {source target files : LocalState (FileWitness Digest)}
    (fits : Fits phase source target files) (forward : phase.isAbort = false) :
    Fits .aborting source target files := by
  cases phase with
  | preparing | prepared | acquiring | guarded => exact ⟨.inl fits.1, .inl fits.2, .inl fits.1⟩
  | mapPublishing => exact ⟨.inl fits.1, fits.2, .inl fits.1⟩
  | mapPublished => exact ⟨.inl fits.1, .inr fits.2, .inl fits.1⟩
  | configPublishing => exact ⟨fits.1, .inr fits.2, .inr fits.2⟩
  | configPublished | releasing | released | completed =>
      exact ⟨.inr fits.1, .inr fits.2, .inr fits.2⟩
  | aborting | configRestoring | mapRestoring | abortReleasing | aborted => cases forward

/-- The phases from which an abort with material restores the files. -/
def PublicationPhase.isRestorable (phase : PublicationPhase) : Bool :=
  phase ∉ [.preparing, .abortReleasing, .aborted, .completed]

theorem PublicationPhase.isRestorable_cases {phase : PublicationPhase}
    (restorable : phase.isRestorable = true) :
    phase.requires .material = true ∧ (phase ∈ restoringPhases ∨ phase.isAbort = false) := by
  revert restorable
  cases phase <;> decide

/-- An abort that is not late holds every guard, or has nothing to restore. -/
theorem Kept.abortGuards (kept : Kept platform course home journal)
    (restorable : journal.phase.isRestorable = true) (forward : journal.phase.isAbort = false)
    (late : journal.phase.isUnreleased = false → course.late ∨ HoldsGuards home journal) :
    Guards platform course.late home { journal with phase := .aborting } := by
  have stands : journal.phase.isUnreleased = false ∨ journal.phase.requires .held = true ∨
      journal.phase ∈ [.prepared, .acquiring] := by
    revert restorable forward
    cases journal.phase <;> decide
  rcases stands with released | held | early
  · rcases late released with late | ⟨unreleased, held⟩
    · exact ⟨fun _ => .inl late, fun _ => .inl late⟩
    · exact ⟨fun _ => .inr unreleased, fun _ => .inr (.inl held)⟩
  · refine ⟨fun _ => kept.sound.guards.unreleased ?_, fun _ => .inr (.inl ?_)⟩
    · revert held
      cases journal.phase <;> decide
    · exact kept.sound.evidence .held held
  · refine ⟨fun _ => kept.sound.guards.unreleased ?_, fun _ => ?_⟩
    · revert early
      cases journal.phase <;> decide
    · by_cases edited : course.edited = true
      · exact .inl (kept.spared edited)
      · have unedited : course.edited = false := Bool.not_eq_true _ ▸ edited
        have fits : Fits .prepared journal.sourceState journal.targetState
            (home.files.map (recoveryFileWitness platform)) := by
          have fits := kept.fits unedited
          rcases List.mem_cons.mp early with prepared | acquiring
          · rwa [prepared] at fits
          · rw [List.mem_singleton.mp acquiring] at fits
            exact fits
        refine .inr (.inr ⟨kept.edited.trans unedited, ?_⟩)
        exact LocalState.ext fits.1 fits.2

theorem startAbort_meets (kept : Kept platform course home journal)
    (restorable : journal.phase.isRestorable = true) (allowed : course.allowed .aborting)
    (late : journal.phase.isUnreleased = false → course.late ∨ HoldsGuards home journal) :
    Meets (startAbort journal) home
      (fun next later => Kept platform course later next ∧ next.phase ∈ restoringPhases)
      (Halted platform course) := by
  obtain ⟨material, starts⟩ := PublicationPhase.isRestorable_cases restorable
  rw [startAbort]
  split
  · next begun => exact meets_pure ⟨kept, begun⟩
  · next unbegun =>
      have forward : journal.phase.isAbort = false := starts.resolve_left unbegun
      have sealed : journal.phase.requires .sealed = true := by
        revert restorable
        cases journal.phase <;> decide
      apply transition_meets kept
      refine ⟨kept.store (.phase _ _) allowed ?_ ?_ (kept.abortGuards restorable forward late), .head _⟩
      · intro requirement needed
        cases requirement with
        | shaped => exact .inl rfl
        | sealed => exact .inl sealed
        | material => exact .inl material
        | unsealed | recorded | cleaned | guarded | held | inactive | mapPublished | configPublished =>
            cases needed
      · exact fun unedited => (kept.fits unedited).abort forward

/-- A stage is passed over in the phases that come after it. -/
theorem inPhase_meets {phases rest : List PublicationPhase} {ended : PublicationPhase}
    {advance : PublicationJournal Digest → Coordinator Digest Remote (PublicationJournal Digest)}
    (kept : Kept platform course home journal) (phase : journal.phase ∈ phases ++ rest)
    (inside : ended ∈ rest)
    (advances : journal.phase ∈ phases → Meets (advance journal) home
      (fun next later => Kept platform course later next ∧ next.phase = ended)
      (Halted platform course)) :
    Meets (inPhase phases advance journal) home
      (fun next later => Kept platform course later next ∧ next.phase ∈ rest)
      (Halted platform course) := by
  rw [inPhase]
  split
  · next here =>
      apply (advances here).mono
      · exact fun next later reached => ⟨reached.1, reached.2 ▸ inside⟩
      · exact fun _ _ => id
  · next passed => exact meets_pure ⟨kept, (List.mem_append.mp phase).resolve_left passed⟩

/-- The end of an abort, once both files are restored. -/
theorem releaseAbort_meets (kept : Kept platform course home journal)
    (phase : journal.phase = .abortReleasing) (allowed : course.allowed .aborted)
    (complete : driver.hasCompleteGuardProvider = false → course.count = 0 ∨ course.excuse) :
    Meets (releaseAll driver true journal >>= finishAbort platform driver) home
      (fun next later => Kept platform course later next ∧ next.phase = .aborted)
      (Halted platform course) := by
  refine (releaseAborting_meets kept phase complete).bind ?_
  rintro released later ⟨⟨kept, phase⟩, inactive⟩
  exact finishAbort_meets kept phase allowed inactive

/-- An abort restores the config, then the map, then releases every fence. -/
theorem restoreAll_meets (kept : Kept platform course home journal)
    (restorable : journal.phase.isRestorable = true)
    (allowed : ∀ phase : PublicationPhase, phase.isAbort = true → course.allowed phase)
    (complete : driver.hasCompleteGuardProvider = false → course.count = 0 ∨ course.excuse)
    (late : journal.phase.isUnreleased = false → course.late ∨ HoldsGuards home journal) :
    Meets (restoreAll platform driver journal) home
      (fun next later => Kept platform course later next ∧ next.phase = .aborted)
      (Halted platform course) := by
  refine (startAbort_meets kept restorable (allowed _ rfl) late).bind ?_
  intro begun later started
  have config : Meets (inPhase [.aborting, .configRestoring] (restoreConfig platform driver) begun) later
      (fun next later => Kept platform course later next ∧ next.phase ∈ [.mapRestoring])
      (Halted platform course) := by
    apply inPhase_meets started.1 started.2 (List.mem_singleton.mpr rfl)
    intro here
    apply restoreFile_meets configRestoration_isRegular started.1
    · rcases List.mem_cons.mp here with aborting | restoring
      · exact .inr (congrArg some aborting.symm)
      · exact .inl (List.mem_singleton.mp restoring)
    · exact ⟨allowed _ rfl, allowed _ rfl⟩
  refine config.bind ?_
  rintro restored later ⟨kept, phase⟩
  have map : Meets (restoreMap platform driver restored) later
      (fun next later => Kept platform course later next ∧ next.phase = .abortReleasing)
      (Halted platform course) :=
    restoreFile_meets mapRestoration_isRegular kept (.inl (List.mem_singleton.mp phase))
      ⟨allowed _ rfl, allowed _ rfl⟩
  refine map.bind ?_
  rintro restored later ⟨kept, phase⟩
  exact releaseAbort_meets kept phase (allowed _ rfl) complete

/-- The material that a preparing journal finds is its own, unless that is excused. -/
def Unstale (platform : PublicationPlatform Digest) (course : Course)
    (home : PublicationHome Digest Remote) (journal : PublicationJournal Digest) : Prop :=
  ∀ material, home.materials journal.publicationId = some material →
    IsMaterial platform home journal material ∨ course.excuse

/-- A journal that takes the reference of its material is prepared. -/
theorem Kept.seal (kept : Kept platform course home journal) (phase : journal.phase = .preparing)
    {material : RecoveryMaterial} (is : IsMaterial platform home journal material)
    (allowed : course.allowed .prepared) {next : PublicationJournal Digest}
    (same : next = { journal with
      recoveryReference := some (recoveryReference platform journal.publicationId material)
      phase := .prepared }) :
    Kept platform course (home.store next) next := by
  subst same
  refine ⟨rfl, kept.publicationId, kept.count, kept.edited, allowed, kept.spared, ⟨?_, ?_, ?_⟩,
    kept.mutations⟩
  · intro requirement needed
    cases requirement with
    | shaped => exact kept.sound.evidence .shaped rfl
    | sealed => exact ⟨_, rfl, rfl⟩
    | material =>
        refine ⟨material, is.found, ?_, is.source, is.target⟩
        rintro _ same
        cases same
        rfl
    | unsealed | recorded | cleaned | guarded | held | inactive | mapPublished | configPublished =>
        cases needed
  · intro unedited
    have fits := kept.sound.files unedited
    rw [phase] at fits
    exact fits
  · have guards : Guards platform course.late home { journal with
        recoveryReference := some (recoveryReference platform journal.publicationId material)
        phase := .prepared } := by
      apply kept.sound.guards.keep
      · rfl
      · exact fun _ => phase ▸ rfl
      · have outside : PublicationPhase.prepared ∉ restoringPhases := by decide
        exact fun restoring => (outside restoring).elim
    exact ⟨guards.unreleased, guards.restoring⟩

theorem seal_meets (kept : Kept platform course home journal) (phase : journal.phase = .preparing)
    {material : RecoveryMaterial} (is : IsMaterial platform home journal material)
    (allowed : course.allowed .prepared) {reference : RecoveryReference Digest}
    (same : reference = recoveryReference platform journal.publicationId material) :
    Meets (transition journal .prepared fun journal => { journal with
        recoveryReference := some reference }) home
      (fun next later => Kept platform course later next ∧ next.phase = .prepared)
      (Halted platform course) := by
  subst same
  apply transition_meets kept
  exact ⟨kept.seal phase is allowed rfl, rfl⟩

theorem refuse_found {refused : Prop} [Decidable refused] {reason : PublicationReason}
    {message : String} : (refuse refused reason message).Avoids (· = .missing) := by
  intro failure failed
  rw [refuse] at failed
  split at failed
  · cases failed
    intro same
    cases same
  · cases failed

theorem assertContentState_found (actual expected : LocalState (FileWitness Digest)) (field : String) :
    (assertContentState actual expected field).Avoids (· = .missing) :=
  .bind refuse_found fun _ _ => refuse_found

/-- Material that is there is not missing. -/
theorem authenticateMaterial_found {material : RecoveryMaterial}
    (found : home.materials journal.publicationId = some material) :
    (authenticateMaterial platform home journal).Avoids (· = .missing) := by
  rw [authenticateMaterial, found]
  apply Except.Avoids.bind refuse_found
  intro _ _
  apply Except.Avoids.bind (Except.Avoids.ok material)
  intro _ _
  apply Except.Avoids.bind refuse_found
  intro _ _
  apply Except.Avoids.bind (assertContentState_found _ _ _)
  intro _ _
  apply Except.Avoids.bind (assertContentState_found _ _ _)
  intro _ _
  exact Except.Avoids.ok _

/-- A journal without material shows what an aborted one does, when the shortcut is taken. -/
theorem abortMissing_meets (kept : Kept platform course home journal)
    (phase : journal.phase = .preparing) (missing : home.materials journal.publicationId = none)
    (shortcut : course.shortcut) (allowed : course.allowed .aborted) :
    Meets (transition journal .aborted id) home
      (fun next later => Kept platform course later next ∧ next.phase = .aborted)
      (Halted platform course) := by
  obtain ⟨unsealed, unfenced⟩ := kept.sound.evidence .unsealed (phase ▸ rfl)
  apply moves kept allowed
  · exact ⟨nofun, by decide⟩
  · intro requirement needed
    cases requirement with
    | shaped => exact .inl rfl
    | recorded =>
        refine .inr ⟨fun _ => shortcut, ?_⟩
        intro reference recorded
        rw [unsealed] at recorded
        cases recorded
    | cleaned => exact .inr (.inl missing)
    | inactive =>
        refine .inr fun project inside => ?_
        rw [unfenced project inside]
        rfl
    | unsealed | sealed | material | guarded | held | mapPublished | configPublished => cases needed
  · intro source target files fits
    rw [phase] at fits
    exact ⟨.of_eq fits.1, .of_eq fits.2⟩

theorem abortUnsealed_meets (kept : Kept platform course home journal)
    (phase : journal.phase = .preparing)
    (missing : home.materials journal.publicationId = none → course.shortcut)
    (unstale : Unstale platform course home journal) (allowed : ∀ phase, course.allowed phase)
    (complete : driver.hasCompleteGuardProvider = false → course.count = 0 ∨ course.excuse) :
    Meets (abortUnsealed platform driver journal) home
      (fun next later => Kept platform course later next ∧ next.phase = .aborted)
      (Halted platform course) := by
  rw [abortUnsealed]
  apply meets_bind
  apply meets_look
  split
  · next reference material authenticated =>
      obtain ⟨same, is⟩ := authenticateMaterial_ok.mp authenticated
      refine (seal_meets kept phase is (allowed _) same).bind ?_
      rintro sealed later ⟨kept, phase⟩
      apply restoreAll_meets kept (phase ▸ rfl) (fun _ _ => allowed _) complete
      rw [phase]
      intro same
      cases same
  · next failure failed =>
      cases found : home.materials journal.publicationId with
      | none =>
          have unsealed := (kept.sound.evidence .unsealed (phase ▸ rfl)).1
          have unread : authenticateMaterial platform home journal = .error .missing := by
            apply authenticateMaterial_missing found
            intro reference recorded
            rw [unsealed] at recorded
            cases recorded
          rw [unread] at failed
          cases failed
          exact abortMissing_meets kept phase found (missing found) (allowed _)
      | some material =>
          rw [if_neg (authenticateMaterial_found found failure failed)]
          apply meets_fault
          apply kept.fault
          rcases unstale material found with is | excuse
          · rw [authenticateMaterial_ok.mpr ⟨rfl, is⟩] at failed
            cases failed
          · exact .inr (.inr excuse)

/-- What an abort asks of the phase and of the material that it starts from. -/
structure Abortable (platform : PublicationPlatform Digest) (driver : PublicationDriver Digest Remote)
    (course : Course) (home : PublicationHome Digest Remote) (journal : PublicationJournal Digest) :
    Prop where
  allowed : ∀ phase : PublicationPhase, journal.phase.isAbort = false ∨ phase.isAbort = true →
    course.allowed phase
  complete : driver.hasCompleteGuardProvider = false → course.count = 0 ∨ course.excuse
  missing : journal.phase = .preparing → home.materials journal.publicationId = none → course.shortcut
  unstale : journal.phase = .preparing → Unstale platform course home journal
  late : journal.phase ∈ [.releasing, .released] → course.late ∨ HoldsGuards home journal

theorem abortJournal_meets (kept : Kept platform course home journal)
    (abortable : Abortable platform driver course home journal) :
    Meets (abortJournal platform driver journal) home
      (fun next later => Kept platform course later next ∧ next.phase.isTerminal = true)
      (Halted platform course) := by
  have allowed : ∀ phase : PublicationPhase, phase.isAbort = true → course.allowed phase :=
    fun phase abort => abortable.allowed phase (.inr abort)
  have ends : ∀ {program : Coordinator Digest Remote (PublicationJournal Digest)}, Meets program home
      (fun next later => Kept platform course later next ∧ next.phase = .aborted)
        (Halted platform course) → Meets program home
      (fun next later => Kept platform course later next ∧ next.phase.isTerminal = true)
        (Halted platform course) := by
    intro program meets
    apply meets.mono
    · exact fun next later reached => ⟨reached.1, reached.2 ▸ rfl⟩
    · exact fun _ _ => id
  rw [abortJournal]
  split
  · next ended => exact meets_pure ⟨kept, ended⟩
  · next unended =>
      split
      · next releasing =>
          exact ends (releaseAbort_meets kept releasing (allowed _ rfl) abortable.complete)
      · next restoring =>
          split
          · next unsealed =>
              apply ends
              apply abortUnsealed_meets kept unsealed.1 (abortable.missing unsealed.1)
                (abortable.unstale unsealed.1) _ abortable.complete
              exact fun phase => abortable.allowed phase (.inl (unsealed.1 ▸ rfl))
          · next sealed =>
              have prepared : journal.phase ≠ .preparing := by
                intro phase
                exact sealed ⟨phase, (kept.sound.evidence .unsealed (phase ▸ rfl)).1⟩
              have restorable : journal.phase.isRestorable = true := by
                revert unended restoring prepared
                cases journal.phase <;> decide
              apply ends
              apply restoreAll_meets kept restorable allowed abortable.complete
              intro released
              apply abortable.late
              revert unended restoring released
              cases journal.phase <;> decide

end Abort

section Resume

theorem recoverMaterial_meets (kept : Kept platform course home journal)
    (phase : journal.phase = .preparing) (allowed : course.allowed .prepared)
    (missing : home.materials journal.publicationId = none → course.excuse)
    (unstale : Unstale platform course home journal) :
    Meets (recoverMaterial platform journal) home
      (fun next later => Kept platform course later next ∧ next.phase = .prepared)
      (Halted platform course) := by
  have excused : (∃ material, IsMaterial platform home journal material) ∨ course.excuse := by
    cases found : home.materials journal.publicationId with
    | none => exact .inr (missing found)
    | some material => exact (unstale material found).imp_left fun is => ⟨material, is⟩
  rw [recoverMaterial, materialContext, bind_assoc]
  apply meets_bind
  apply meets_look
  apply meets_bind
  apply meets_lift
  · rintro ⟨reference, material⟩ authenticated
    obtain ⟨same, is⟩ := authenticateMaterial_ok.mp authenticated
    exact seal_meets kept phase is allowed same
  · intro failure failed
    apply kept.fault
    rcases excused with ⟨material, is⟩ | excuse
    · rw [authenticateMaterial_ok.mpr ⟨rfl, is⟩] at failed
      cases failed
    · exact .inr (.inr excuse)

/-- A released publication is completed; its driver may be told to keep the material. -/
theorem finalize_meets (kept : Kept platform course home journal) (phase : journal.phase = .released)
    (allowed : course.allowed .completed) :
    Meets (finalize platform driver journal) home
      (fun next later => Kept platform course later next ∧ next.phase = .completed)
      (Halted platform course) := by
  have complete : ∀ later : PublicationHome Digest Remote, Kept platform course later journal →
      Meets (transition journal .completed id) later
        (fun next later => Kept platform course later next ∧ next.phase = .completed)
        (Halted platform course) := by
    intro later kept
    apply moves kept allowed
    · rw [phase]
      exact ⟨nofun, by decide⟩
    · intro requirement needed
      rw [phase]
      cases requirement with
      | shaped | sealed | material | inactive | mapPublished | configPublished => exact .inl rfl
      | unsealed | recorded | cleaned | guarded | held => cases needed
    · intro source target files fits
      rw [phase] at fits
      exact fits
  apply meets_bind
  apply materialContext_meets kept (phase ▸ rfl)
  intro _ _
  split
  · apply meets_bind
    exact callRemote_keeps kept fun _ => complete
  · exact complete home kept

/-- What a resumption asks of the phase and of the material that it starts from. -/
structure Resumable (platform : PublicationPlatform Digest) (driver : PublicationDriver Digest Remote)
    (course : Course) (home : PublicationHome Digest Remote) (journal : PublicationJournal Digest) :
    Prop where
  allowed : ∀ phase : PublicationPhase, journal.phase.isAbort = false ∨ phase.isAbort = true →
    course.allowed phase
  complete : driver.hasCompleteGuardProvider = false → course.count = 0 ∨ course.excuse
  missing : journal.phase = .preparing → home.materials journal.publicationId = none → course.excuse
  unstale : journal.phase = .preparing → Unstale platform course home journal

theorem guardedCheck_meets (kept : Kept platform course home journal)
    {after : Unit → PublicationHome Digest Remote → Prop} (done : after () home) :
    Meets (lift (refuse (journal.phase ∈ guardRecordedForwardPhases ∧
        (journal.projects.any fun project => project.fence.isNone) = true) .unexpectedState
          "backend publication journal lacks a recorded remote guard fence")) home after
      (Halted platform course) := by
  apply meets_require kept
  · rintro ⟨recorded, unfenced⟩
    have guarded := kept.sound.evidence .guarded (decide_eq_true recorded)
    obtain ⟨project, inside, none⟩ := List.any_eq_true.mp unfenced
    exact (guarded project inside (Option.isNone_iff_eq_none.mp none)).elim
  · exact fun _ => done

/-- The phases of a publication that goes on, in their order. -/
def forwardPhases : List PublicationPhase :=
  [.preparing, .prepared, .acquiring, .guarded, .mapPublishing, .mapPublished, .configPublishing,
    .configPublished, .releasing, .released]

/-- A publication that has passed the first phases. -/
structure Advanced (platform : PublicationPlatform Digest) (course : Course) (passed : Nat)
    (journal : PublicationJournal Digest) (home : PublicationHome Digest Remote) : Prop where
  kept : Kept platform course home journal
  phase : journal.phase ∈ forwardPhases.drop passed

/-- A stage of a publication ends in the phase that follows its own. -/
theorem stage_meets {passed : Nat} (phases : List PublicationPhase) (ended : PublicationPhase)
    {advance : PublicationJournal Digest → Coordinator Digest Remote (PublicationJournal Digest)}
    (advanced : Advanced platform course passed journal home)
    (split : forwardPhases.drop passed = phases ++ forwardPhases.drop (passed + phases.length))
    (inside : ended ∈ forwardPhases.drop (passed + phases.length))
    (advances : journal.phase ∈ phases → Meets (advance journal) home
      (fun next later => Kept platform course later next ∧ next.phase = ended)
      (Halted platform course)) :
    Meets (inPhase phases advance journal) home (Advanced platform course (passed + phases.length))
      (Halted platform course) := by
  have staged := inPhase_meets advanced.kept (split ▸ advanced.phase) inside advances
  exact staged.mono (fun next later reached => ⟨reached.1, reached.2⟩) fun _ _ => id

/-- A publication that goes on is completed. -/
theorem advanceJournal_meets (kept : Kept platform course home journal)
    (resumable : Resumable platform driver course home journal)
    (phase : journal.phase ∈ forwardPhases) :
    Meets (advanceJournal platform driver journal) home
      (fun next later => Kept platform course later next ∧ next.phase = .completed)
      (Halted platform course) := by
  have forward : journal.phase.isAbort = false := by
    revert phase
    cases journal.phase <;> decide
  have allowed : ∀ phase, course.allowed phase := fun phase => resumable.allowed phase (.inl forward)
  have start : Advanced platform course 0 journal home := ⟨kept, phase⟩
  refine (stage_meets [.preparing] .prepared start rfl (by decide) fun here => ?_).bind ?_
  · have preparing := List.mem_singleton.mp here
    exact recoverMaterial_meets kept preparing (allowed _) (resumable.missing preparing)
      (resumable.unstale preparing)
  intro journal home advanced
  refine (stage_meets [.prepared] .acquiring advanced rfl (by decide) fun here => ?_).bind ?_
  · exact continues_meets advanced.kept (List.mem_singleton.mp here) prepared_continues (allowed _)
  intro journal home advanced
  refine (stage_meets [.acquiring] .guarded advanced rfl (by decide) fun here => ?_).bind ?_
  · exact acquireAll_meets advanced.kept (List.mem_singleton.mp here) allowed resumable.complete
  intro journal home advanced
  apply meets_bind
  apply guardedCheck_meets advanced.kept
  refine (stage_meets [.guarded, .mapPublishing] .mapPublished advanced rfl (by decide)
    fun here => ?_).bind ?_
  · apply publishFile_meets mapPublication_isRegular advanced.kept _ allowed
    rcases List.mem_cons.mp here with guarded | publishing
    · exact .inr guarded
    · exact .inl (List.mem_singleton.mp publishing)
  intro journal home advanced
  refine (stage_meets [.mapPublished, .configPublishing] .configPublished advanced rfl (by decide)
    fun here => ?_).bind ?_
  · apply publishFile_meets configPublication_isRegular advanced.kept _ allowed
    rcases List.mem_cons.mp here with published | publishing
    · exact .inr published
    · exact .inl (List.mem_singleton.mp publishing)
  intro journal home advanced
  refine (stage_meets [.configPublished] .releasing advanced rfl (by decide) fun here => ?_).bind ?_
  · exact continues_meets advanced.kept (List.mem_singleton.mp here) configPublished_continues (allowed _)
  intro journal home advanced
  refine (stage_meets [.releasing] .released advanced rfl (by decide) fun here => ?_).bind ?_
  · exact releasePublished_meets advanced.kept (List.mem_singleton.mp here) (allowed _)
      resumable.complete
  intro journal home advanced
  exact finalize_meets advanced.kept (List.mem_singleton.mp advanced.phase) (allowed _)

theorem resumeJournal_meets (kept : Kept platform course home journal)
    (resumable : Resumable platform driver course home journal) :
    Meets (resumeJournal platform driver journal) home
      (fun next later => Kept platform course later next ∧ next.phase.isTerminal = true)
      (Halted platform course) := by
  rw [resumeJournal]
  split
  · next ended => exact meets_pure ⟨kept, ended⟩
  · next unended =>
      split
      · next aborting =>
          have prepared : journal.phase ≠ .preparing := by
            intro phase
            rw [phase] at aborting
            cases aborting
          have early : journal.phase ∉ [.releasing, .released] := by
            revert aborting
            cases journal.phase <;> decide
          exact abortJournal_meets kept ⟨resumable.allowed, resumable.complete,
            fun phase => (prepared phase).elim, fun phase => (prepared phase).elim,
            fun late => (early late).elim⟩
      · next forward =>
          have phase : journal.phase ∈ forwardPhases := by
            revert unended forward
            cases journal.phase <;> decide
          apply (advanceJournal_meets kept resumable phase).mono
          · exact fun next later reached => ⟨reached.1, reached.2 ▸ rfl⟩
          · exact fun _ _ => id

end Resume

end Lcm.Publication
