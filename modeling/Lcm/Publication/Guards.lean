import Lcm.Publication.Files

namespace Lcm.Publication
open Interruptible

variable {Digest Remote : Type} [DecidableEq Digest] {platform : PublicationPlatform Digest}
  {course : Course} {home : PublicationHome Digest Remote} {journal : PublicationJournal Digest}

/-- A check that fails only for what a remote call answered. -/
abbrev ChecksRemote {Value : Type} (check : Except PublicationFailure Value) : Prop :=
  check.Avoids fun failure => failure.isRemote = false

theorem refuse_remote {refused : Prop} [Decidable refused] {message : String}
    (remote : message ∈ remoteMessages) : ChecksRemote (refuse refused .unexpectedState message) := by
  intro failure failed
  rw [Publication.refuse] at failed
  split at failed
  · cases failed
    rw [Bool.not_eq_false]
    exact decide_eq_true remote
  · cases failed

theorem assertFence_remote (fence : FenceRecord Digest) (journal : PublicationJournal Digest)
    (project : ProjectRecord Digest) : ChecksRemote (assertFence fence journal project) :=
  .bind (refuse_remote (by decide)) fun _ _ => refuse_remote (by decide)

theorem assertReleaseFence_remote (persisted authoritative : FenceRecord Digest)
    (journal : PublicationJournal Digest) (project : ProjectRecord Digest) :
    ChecksRemote (assertReleaseFence persisted authoritative journal project) :=
  .bind (assertFence_remote _ _ _) fun _ _ => .bind (refuse_remote (by decide)) fun _ _ =>
    refuse_remote (by decide)

theorem meets_check {Value : Type} {check : Except PublicationFailure Value}
    (kept : Kept platform course home journal) (remote : ChecksRemote check)
    {after : Value → PublicationHome Digest Remote → Prop}
    (done : ∀ value, check = .ok value → after value home) :
    Meets (lift check) home after (Halted platform course) :=
  meets_lift done fun failure failed => kept.fault (.inl (Bool.not_eq_false _ ▸ remote failure failed))

theorem meets_fail {Value : Type} {message : String} (kept : Kept platform course home journal)
    (remote : message ∈ remoteMessages) {after : Value → PublicationHome Digest Remote → Prop} :
    Meets (lift (fail .unexpectedState message)) home after (Halted platform course) :=
  meets_fault (kept.fault (.inl (decide_eq_true remote)))

/-- A driver that may miss hooks without an excuse finds no project to guard. -/
theorem Kept.guardless (kept : Kept platform course home journal)
    (complete : course.count = 0 ∨ course.excuse) {project : ProjectRecord Digest}
    (inside : project ∈ journal.projects) : course.excuse := by
  apply complete.resolve_left
  intro none
  rw [List.eq_nil_of_length_eq_zero (kept.count.trans none)] at inside
  cases inside

/-- The phases in which fences change. -/
def PublicationPhase.IsFencing (phase : PublicationPhase) : Prop :=
  phase = .acquiring ∨ phase = .releasing ∨ phase = .abortReleasing

theorem PublicationPhase.IsFencing.outside {phase : PublicationPhase} (fencing : phase.IsFencing) :
    phase ∉ restoringPhases := by
  rcases fencing with rfl | rfl | rfl <;> decide

/-- The phases in which fences are released. -/
def PublicationPhase.IsReleasing (phase : PublicationPhase) : Prop :=
  phase = .releasing ∨ phase = .abortReleasing

/-- A fence may change while fences are acquired or released. -/
theorem Kept.setFence (kept : Kept platform course home journal) (fencing : journal.phase.IsFencing)
    (index : Nat) (fence : FenceRecord Digest) :
    Kept platform course (home.store (journal.setFence index fence)) (journal.setFence index fence) where
  stored := rfl
  publicationId := kept.publicationId
  count := (List.length_modify ..).trans kept.count
  edited := kept.edited
  allowed := kept.allowed
  spared := kept.spared
  sound := {
    evidence := by
      intro requirement needed
      have holds := (kept.sound.evidence requirement needed).frame
        (rfl : (home.store (journal.setFence index fence)).materials = home.materials)
      cases requirement with
      | material =>
          obtain ⟨material, is⟩ := holds
          exact ⟨material, is.found, is.reference, is.source, is.target⟩
      | cleaned =>
          rcases holds with missing | ⟨material, is⟩
          · exact .inl missing
          · exact .inr ⟨material, is.found, is.reference, is.source, is.target⟩
      | guarded =>
          intro project inside
          obtain ⟨position, found⟩ := List.mem_iff_getElem?.mp inside
          rw [PublicationJournal.setFence, List.getElem?_modify] at found
          obtain ⟨before, stored, rfl⟩ := Option.map_eq_some_iff.mp found
          split
          · exact nofun
          · exact holds before (List.mem_of_getElem? stored)
      | unsealed | held | inactive =>
          have needed : journal.phase.requires _ = true := needed
          rcases fencing with phase | phase | phase <;> rw [phase] at needed <;> cases needed
      | shaped | sealed | recorded | mapPublished | configPublished => exact holds
    files := kept.sound.files
    guards := {
      unreleased := kept.sound.guards.unreleased
      restoring := fun restoring => (fencing.outside restoring).elim } }
  mutations := kept.mutations

theorem setFence_meets (kept : Kept platform course home journal) {phase : PublicationPhase}
    (same : journal.phase = phase) (fencing : phase.IsFencing) {index : Nat} {fence : FenceRecord Digest}
    {after : PublicationJournal Digest → PublicationHome Digest Remote → Prop}
    (done : ∀ later, Kept platform course later (journal.setFence index fence) →
      after (journal.setFence index fence) later) :
    Meets (transition journal phase fun journal => journal.setFence index fence) home after
      (Halted platform course) := by
  subst same
  exact transition_meets kept (done _ (kept.setFence fencing index fence))

/-- The projects below an index have their fences settled. -/
structure Guarding (platform : PublicationPlatform Digest) (course : Course) (phase : PublicationPhase)
    (count : Nat) (settled : Option (FenceRecord Digest) → Prop) (index : Nat)
    (journal : PublicationJournal Digest) (home : PublicationHome Digest Remote) : Prop where
  kept : Kept platform course home journal
  phase : journal.phase = phase
  count : journal.projects.length = count
  settled : ∀ position < index, ∀ project, journal.projects[position]? = some project →
    settled project.fence

section Guarding

variable {phase : PublicationPhase} {count index : Nat} {settled : Option (FenceRecord Digest) → Prop}
  {fence : FenceRecord Digest}

omit [DecidableEq Digest] in
theorem setFence_at {project : ProjectRecord Digest} (found : journal.projects[index]? = some project) :
    (journal.setFence index fence).projects[index]? = some { project with fence := some fence } := by
  rw [PublicationJournal.setFence, List.getElem?_modify, found]
  simp

theorem Guarding.setFence (guarding : Guarding platform course phase count settled index journal home)
    {later : PublicationHome Digest Remote}
    (kept : Kept platform course later (journal.setFence index fence)) :
    Guarding platform course phase count settled index (journal.setFence index fence) later where
  kept := kept
  phase := guarding.phase
  count := by
    rw [PublicationJournal.setFence, List.length_modify]
    exact guarding.count
  settled position below project found := by
    have other : index ≠ position := Nat.ne_of_gt below
    rw [PublicationJournal.setFence, List.getElem?_modify] at found
    simp only [other, if_false, id_map'] at found
    exact guarding.settled position below project found

/-- The next project is settled too. -/
theorem Guarding.next (guarding : Guarding platform course phase count settled index journal home)
    (last : ∀ project, journal.projects[index]? = some project → settled project.fence) :
    Guarding platform course phase count settled (index + 1) journal home where
  kept := guarding.kept
  phase := guarding.phase
  count := guarding.count
  settled position below project found := by
    rcases Nat.lt_succ_iff_lt_or_eq.mp below with earlier | rfl
    · exact guarding.settled position earlier project found
    · exact last project found

theorem Guarding.all (guarding : Guarding platform course phase count settled count journal home) :
    ∀ project ∈ journal.projects, settled project.fence := by
  intro project inside
  obtain ⟨position, below, found⟩ := List.mem_iff_getElem.mp inside
  exact guarding.settled position (guarding.count ▸ below) project
    (List.getElem?_eq_some_iff.mpr ⟨below, found⟩)

theorem Guarding.settle (guarding : Guarding platform course phase count settled index journal home)
    {project : ProjectRecord Digest} (found : journal.projects[index]? = some project)
    (last : settled (some fence)) {later : PublicationHome Digest Remote}
    (kept : Kept platform course later (journal.setFence index fence)) :
    Guarding platform course phase count settled (index + 1) (journal.setFence index fence) later := by
  apply (guarding.setFence kept).next
  intro other same
  rw [setFence_at found] at same
  cases same
  exact last

end Guarding

section Acquire

variable {driver : PublicationDriver Digest Remote} {count index : Nat}

theorem acquiredFence_meets {hooks : AcquireHooks Digest Remote} {context : RemoteContext Digest}
    (kept : Kept platform course home journal)
    {after : Option (FenceRecord Digest) → PublicationHome Digest Remote → Prop}
    (done : ∀ fence later, Kept platform course later journal → after fence later) :
    Meets (acquiredFence hooks context) home after (Halted platform course) := by
  apply meets_bind
  apply callRemote_keeps kept
  intro fence later kept
  split
  · exact meets_pure (done fence later kept)
  · apply meets_bind
    apply callRemote_keeps kept
    intro _ acquired kept
    exact callRemote_keeps kept done

theorem acquireProject_meets {hooks : AcquireHooks Digest Remote}
    (guarding : Guarding platform course .acquiring count IsHeld index journal home) :
    Meets (acquireProject hooks journal index) home
      (Guarding platform course .acquiring count IsHeld (index + 1)) (Halted platform course) := by
  rw [acquireProject]
  split
  · next missing =>
      apply meets_pure (guarding.next _)
      intro project found
      rw [missing] at found
      cases found
  · next project found =>
      apply meets_bind
      apply acquiredFence_meets guarding.kept
      intro fence later kept
      split
      · exact meets_fail kept (by decide)
      · next fence active =>
          apply meets_bind
          apply meets_check kept (assertFence_remote _ _ _)
          intro _ _
          apply setFence_meets kept guarding.phase (.inl rfl)
          intro last fenced
          have held : fence.releasedAt = none := by
            have active : activeFence (some fence) = true := (Option.filter_eq_some_iff.mp active).2
            rw [activeFence, Option.any_some, Bool.and_eq_true] at active
            exact Option.isNone_iff_eq_none.mp active.1
          exact guarding.settle found ⟨fence, rfl, held⟩ fenced

/-- Every project gets a fence, when the driver has the hooks to acquire one. -/
theorem acquireAll_meets (kept : Kept platform course home journal) (phase : journal.phase = .acquiring)
    (allowed : ∀ phase, course.allowed phase)
    (complete : driver.hasCompleteGuardProvider = false → course.count = 0 ∨ course.excuse) :
    Meets (acquireAll driver journal) home
      (fun next later => Kept platform course later next ∧ next.phase = .guarded)
      (Halted platform course) := by
  have finish : ∀ (journal : PublicationJournal Digest) (home : PublicationHome Digest Remote),
      Kept platform course home journal → journal.phase = .acquiring →
        (∀ project ∈ journal.projects, IsHeld project.fence) →
          Meets (transition journal .guarded id) home
            (fun next later => Kept platform course later next ∧ next.phase = .guarded)
            (Halted platform course) := by
    intro journal home kept phase held
    apply moves kept (allowed _)
    · rw [phase]
      exact ⟨fun _ => rfl, by decide⟩
    · intro requirement needed
      rw [phase]
      cases requirement with
      | held => exact .inr held
      | guarded =>
          refine .inr fun project inside => ?_
          obtain ⟨fence, same, _⟩ := held project inside
          rw [same]
          simp
      | shaped | sealed | material => exact .inl rfl
      | unsealed | recorded | cleaned | inactive | mapPublished | configPublished => cases needed
    · intro source target files fits
      rw [phase] at fits
      exact fits
  rw [acquireAll]
  split
  · next missing =>
      have incomplete : driver.hasCompleteGuardProvider = false := by
        rw [PublicationDriver.acquireHooks] at missing
        rw [PublicationDriver.hasCompleteGuardProvider]
        cases acquire : driver.acquireRemoteGuard with
        | none => rfl
        | some acquire =>
            cases read : driver.readRemoteGuard with
            | none => rfl
            | some read => simp [acquire, read] at missing
      apply meets_bind
      apply meets_require kept
      · intro guarded
        obtain ⟨project, inside⟩ := List.exists_mem_of_ne_nil _ guarded
        exact .inr (.inr (kept.guardless (complete incomplete) inside))
      · intro none
        apply finish journal home kept phase
        rw [not_not.mp none]
        exact fun _ outside => (List.not_mem_nil outside).elim
  · next hooks found =>
      refine (meets_foldlM_range (Guarding platform course .acquiring journal.projects.length
        IsHeld) ⟨kept, phase, rfl, fun index small => absurd small (Nat.not_lt_zero index)⟩ ?_).bind ?_
      · exact fun index _ journal home guarding => acquireProject_meets guarding
      · intro last later guarding
        exact finish last later guarding.kept guarding.phase guarding.all

end Acquire

/-- A fence that is not active. -/
def Inactive (fence : Option (FenceRecord Digest)) : Prop := activeFence fence = false

section Release

variable {driver : PublicationDriver Digest Remote} {hooks : ReleaseHooks Digest Remote}
  {phase : PublicationPhase} {count index : Nat} {project : ProjectRecord Digest}
  {persisted authoritative : FenceRecord Digest}

omit [DecidableEq Digest] in
theorem inactive_of_released {fence : FenceRecord Digest} (released : fence.releasedAt.isSome = true) :
    Inactive (some fence) := by
  cases known : fence.releasedAt with
  | none =>
      rw [known] at released
      cases released
  | some time => simp [Inactive, activeFence, known]

theorem readReleaseEvidence_meets {context : RemoteContext Digest}
    (kept : Kept platform course home journal)
    {after : Option (FenceRecord Digest) → PublicationHome Digest Remote → Prop}
    (done : ∀ fence later, Kept platform course later journal → after fence later) :
    Meets (readReleaseEvidence hooks context) home after (Halted platform course) := by
  rw [readReleaseEvidence]
  split <;> exact callRemote_keeps kept done

theorem recordSupersededRelease_meets (releasing : phase.IsReleasing)
    (guarding : Guarding platform course phase count Inactive index journal home)
    (found : journal.projects[index]? = some project) (fenced : project.fence = some persisted) :
    Meets (recordSupersededRelease phase journal index persisted authoritative) home
      (Guarding platform course phase count Inactive (index + 1)) (Halted platform course) := by
  rw [recordSupersededRelease]
  split
  · next released =>
      apply meets_pure (guarding.next _)
      intro other same
      rw [found] at same
      cases same
      rw [fenced]
      exact inactive_of_released released
  · apply setFence_meets guarding.kept guarding.phase (.inr releasing)
    intro later kept
    exact guarding.settle found (inactive_of_released rfl) kept

theorem confirmRelease_meets (releasing : phase.IsReleasing)
    (guarding : Guarding platform course phase count Inactive index journal home)
    (found : journal.projects[index]? = some project)
    (released : authoritative.releasedAt.isSome = true) :
    Meets (confirmRelease phase journal index persisted authoritative) home
      (Guarding platform course phase count Inactive (index + 1)) (Halted platform course) := by
  apply meets_bind
  apply meets_check guarding.kept (refuse_remote (by decide))
  intro _ _
  apply setFence_meets guarding.kept guarding.phase (.inr releasing)
  intro later kept
  exact guarding.settle found (inactive_of_released released) kept

/-- The fence that a journal holds for the project of an index. -/
structure Holding (platform : PublicationPlatform Digest) (course : Course) (phase : PublicationPhase)
    (count index : Nat) (persisted : FenceRecord Digest) (journal : PublicationJournal Digest)
    (home : PublicationHome Digest Remote) : Prop where
  guarding : Guarding platform course phase count Inactive index journal home
  found : ∃ project, journal.projects[index]? = some project ∧ project.fence = some persisted

theorem adoptSuccessor_meets (releasing : phase.IsReleasing)
    (holding : Holding platform course phase count index persisted journal home) :
    Meets (adoptSuccessor phase journal index persisted authoritative) home
      (fun adopted later => Holding platform course phase count index adopted.2 adopted.1 later)
      (Halted platform course) := by
  obtain ⟨project, found, _⟩ := holding.found
  rw [adoptSuccessor]
  split
  · apply meets_bind
    apply meets_check holding.guarding.kept (refuse_remote (by decide))
    intro _ _
    apply meets_bind
    apply setFence_meets holding.guarding.kept holding.guarding.phase (.inr releasing)
    intro later kept
    exact meets_pure ⟨holding.guarding.setFence kept, _, setFence_at found, rfl⟩
  · exact meets_pure holding

theorem reacquire_meets (releasing : phase.IsReleasing) (complete : hooks.acquire = none → course.count = 0 ∨ course.excuse)
    (holding : Holding platform course phase count index persisted journal home) :
    Meets (reacquire hooks phase journal index project persisted authoritative) home
      (fun result later => Holding platform course phase count index result.2.1 result.1 later)
      (Halted platform course) := by
  obtain ⟨stored, found, _⟩ := holding.found
  have kept := holding.guarding.kept
  rw [reacquire]
  split
  · split
    · next missing =>
        have excuse := kept.guardless (complete missing) (List.mem_of_getElem? found)
        exact meets_fault (kept.fault (.inr (.inr excuse)))
    · apply meets_bind
      apply callRemote_keeps kept
      intro _ acquired kept
      apply meets_bind
      apply readReleaseEvidence_meets kept
      intro evidence read kept
      split
      · exact meets_fail kept (by decide)
      · apply meets_bind
        apply meets_check kept (assertFence_remote _ _ _)
        intro _ _
        apply meets_bind
        apply meets_check kept (refuse_remote (by decide))
        intro _ _
        apply meets_bind
        apply setFence_meets kept holding.guarding.phase (.inr releasing)
        intro later kept
        exact meets_pure ⟨holding.guarding.setFence kept, _, setFence_at found, rfl⟩
  · exact meets_pure holding

theorem releaseFence_meets (releasing : phase.IsReleasing) (complete : hooks.acquire = none → course.count = 0 ∨ course.excuse)
    (holding : Holding platform course phase count index persisted journal home) :
    Meets (releaseFence hooks phase journal index project persisted authoritative) home
      (Guarding platform course phase count Inactive (index + 1)) (Halted platform course) := by
  refine (reacquire_meets releasing complete holding).bind ?_
  rintro ⟨journal, persisted, authoritative⟩ acquired holding
  obtain ⟨stored, found, fenced⟩ := holding.found
  have unheld : journal.phase.isUnreleased = false := by
    rw [holding.guarding.phase]
    rcases releasing with phase | phase <;> rw [phase] <;> rfl
  apply meets_bind
  apply callRelease_keeps holding.guarding.kept unheld
  intro _ released kept
  apply meets_bind
  apply readReleaseEvidence_meets kept
  intro evidence read kept
  have guarding : Guarding platform course phase count Inactive index journal read :=
    ⟨kept, holding.guarding.phase, holding.guarding.count, holding.guarding.settled⟩
  split
  · exact meets_fail kept (by decide)
  · next evidence =>
      split
      · exact recordSupersededRelease_meets releasing guarding found fenced
      · apply meets_bind
        apply meets_check kept (refuse_remote (by decide))
        intro _ known
        have known : evidence.releasedAt.isSome = true := by
          rw [refuse_ok, Bool.not_eq_true, Option.isNone_eq_false_iff] at known
          exact known
        apply meets_bind
        apply meets_check kept (assertFence_remote _ _ _)
        intro _ _
        exact confirmRelease_meets releasing guarding found known

theorem releaseEvidence_meets (releasing : phase.IsReleasing) (complete : hooks.acquire = none → course.count = 0 ∨ course.excuse)
    (holding : Holding platform course phase count index persisted journal home) :
    Meets (releaseEvidence hooks phase journal index project persisted authoritative) home
      (Guarding platform course phase count Inactive (index + 1)) (Halted platform course) := by
  obtain ⟨stored, found, fenced⟩ := holding.found
  rw [releaseEvidence]
  split
  · exact recordSupersededRelease_meets releasing holding.guarding found fenced
  · apply meets_bind
    apply meets_check holding.guarding.kept (assertReleaseFence_remote _ _ _ _)
    intro _ _
    refine (adoptSuccessor_meets releasing holding).bind ?_
    rintro ⟨journal, persisted⟩ adopted holding
    obtain ⟨stored, found, fenced⟩ := holding.found
    dsimp only
    split
    · exact releaseFence_meets releasing complete holding
    · next released =>
        apply confirmRelease_meets releasing holding.guarding found
        rw [Bool.not_eq_true, Option.isNone_eq_false_iff] at released
        exact released

theorem releaseProject_meets (releasing : phase.IsReleasing) (complete : hooks.acquire = none → course.count = 0 ∨ course.excuse)
    (guarding : Guarding platform course phase count Inactive index journal home) :
    Meets (releaseProject hooks phase journal index) home
      (Guarding platform course phase count Inactive (index + 1)) (Halted platform course) := by
  rw [releaseProject]
  split
  · next missing =>
      apply meets_pure (guarding.next _)
      intro project found
      rw [missing] at found
      cases found
  · next project found =>
      split
      · next unfenced =>
          apply meets_pure (guarding.next _)
          intro other same
          rw [found] at same
          cases same
          rw [unfenced]
          rfl
      · next persisted fenced =>
          apply meets_bind
          apply readReleaseEvidence_meets guarding.kept
          intro evidence later kept
          split
          · exact meets_fail kept (by decide)
          · exact releaseEvidence_meets releasing complete
              ⟨⟨kept, guarding.phase, guarding.count, guarding.settled⟩, project, found, fenced⟩

omit [DecidableEq Digest] in
/-- A driver without the hooks that release fences is no complete guard provider. -/
theorem releaseHooks_none (missing : driver.releaseHooks = none) :
    driver.hasCompleteGuardProvider = false := by
  rw [PublicationDriver.releaseHooks] at missing
  rw [PublicationDriver.hasCompleteGuardProvider]
  cases release : driver.releaseRemoteGuard with
  | none => simp
  | some release =>
      cases read : driver.readRemoteGuard with
      | none => simp
      | some read => simp [release, read] at missing

omit [DecidableEq Digest] in
theorem releaseHooks_acquire (found : driver.releaseHooks = some hooks) (missing : hooks.acquire = none) :
    driver.hasCompleteGuardProvider = false := by
  simp only [PublicationDriver.releaseHooks, Option.bind_eq_bind, Option.bind_eq_some_iff] at found
  obtain ⟨_, _, _, _, same⟩ := found
  cases same
  dsimp only at missing
  rw [PublicationDriver.hasCompleteGuardProvider, missing]
  rfl

theorem releaseLoop_meets (releasing : phase.IsReleasing) (complete : hooks.acquire = none → course.count = 0 ∨ course.excuse)
    (kept : Kept platform course home journal) (same : journal.phase = phase) :
    Meets ((List.range journal.projects.length).foldlM (releaseProject hooks phase) journal) home
      (fun last later => Kept platform course later last ∧ last.phase = phase ∧
        ∀ project ∈ last.projects, Inactive project.fence) (Halted platform course) := by
  have loop : Meets ((List.range journal.projects.length).foldlM (releaseProject hooks phase) journal)
      home (Guarding platform course phase journal.projects.length Inactive journal.projects.length)
      (Halted platform course) := by
    apply meets_foldlM_range (Guarding platform course phase journal.projects.length Inactive)
    · exact ⟨kept, same, rfl, nofun⟩
    · exact fun index _ journal home guarding => releaseProject_meets releasing complete guarding
  exact loop.mono (fun last later guarding => ⟨guarding.kept, guarding.phase, guarding.all⟩)
    fun _ _ => id

end Release

end Lcm.Publication
