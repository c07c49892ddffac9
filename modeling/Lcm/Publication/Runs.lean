import Lcm.Publication.Preparation

namespace Lcm.Publication
open Text Interruptible

variable {Digest Remote : Type} [DecidableEq Digest] {platform : PublicationPlatform Digest}
  {driver : PublicationDriver Digest Remote} {home : PublicationHome Digest Remote}
  {journal : PublicationJournal Digest} {shortcut late : Prop}

/-- How a request ends the publication that it finds; a preparation ends none. -/
def PublicationRequest.disposition : PublicationRequest Digest → Option RecoveryDisposition
  | .prepare _ => none
  | .resume => some .resume
  | .abort => some .abort
  | .recoverPending disposition => some disposition

def recoverJournal (platform : PublicationPlatform Digest) (driver : PublicationDriver Digest Remote)
    (journal : PublicationJournal Digest) : RecoveryDisposition →
      Coordinator Digest Remote (PublicationJournal Digest)
  | .resume => resumeJournal platform driver journal
  | .abort => abortJournal platform driver journal

/-- What keeps an uninterrupted call from ending a publication: a driver that cannot guard its projects,
and material that a preparation did not seal. Missing material keeps only a resumption from it. -/
def Obstructed (platform : PublicationPlatform Digest) (driver : PublicationDriver Digest Remote)
    (home : PublicationHome Digest Remote) (journal : PublicationJournal Digest)
    (disposition : RecoveryDisposition) : Prop :=
  (driver.hasCompleteGuardProvider = false ∧ journal.projects ≠ []) ∨
    (journal.phase = .preparing ∧ (∀ material, ¬ IsMaterial platform home journal material) ∧
      (disposition = .abort → home.materials journal.publicationId ≠ none))

/-- The course of a call on the publication that a home keeps; an abort is never left. -/
def recoveryCourse (home : PublicationHome Digest Remote) (journal : PublicationJournal Digest)
    (shortcut late excuse : Prop) : Course where
  publicationId := journal.publicationId
  count := journal.projects.length
  edited := home.edited
  shortcut := shortcut
  late := late
  allowed phase := journal.phase.isAbort = true → phase.isAbort = true
  excuse := excuse

theorem Upright.kept (upright : Upright platform shortcut late home)
    (stored : home.journal = some (.publication journal)) (excuse : Prop) :
    Kept platform (recoveryCourse home journal shortcut late excuse) home journal :=
  ⟨stored, rfl, rfl, rfl, id, upright.spared, upright.sound journal stored, upright.mutations⟩

/-- An abort without material is a shortcut. -/
def TakesShortcut (home : PublicationHome Digest Remote) (journal : PublicationJournal Digest)
    (disposition : RecoveryDisposition) : Prop :=
  disposition = .abort ∧ journal.phase = .preparing ∧ home.materials journal.publicationId = none

/-- An abort after the release of a guard is late. -/
def IsLate (home : PublicationHome Digest Remote) (journal : PublicationJournal Digest)
    (disposition : RecoveryDisposition) : Prop :=
  disposition = .abort ∧ journal.phase ∈ [.releasing, .released] ∧ ¬ HoldsGuards home journal

theorem recoverJournal_meets (upright : Upright platform shortcut late home)
    (stored : home.journal = some (.publication journal)) {disposition : RecoveryDisposition}
    (shortcuts : TakesShortcut home journal disposition → shortcut)
    (lates : IsLate home journal disposition → late) :
    Meets (recoverJournal platform driver journal disposition) home
      (fun next later => Kept platform (recoveryCourse home journal shortcut late
        (Obstructed platform driver home journal disposition)) later next ∧
          next.phase.isTerminal = true)
      (Halted platform (recoveryCourse home journal shortcut late
        (Obstructed platform driver home journal disposition))) := by
  have kept := upright.kept stored (Obstructed platform driver home journal disposition)
  have allowed : ∀ phase : PublicationPhase, journal.phase.isAbort = false ∨ phase.isAbort = true →
      journal.phase.isAbort = true → phase.isAbort = true := by
    intro phase either abort
    apply either.resolve_left
    rw [abort]
    exact nofun
  have complete : driver.hasCompleteGuardProvider = false → journal.projects.length = 0 ∨
      Obstructed platform driver home journal disposition := by
    intro incomplete
    by_cases none : journal.projects = []
    · exact .inl (congrArg List.length none)
    · exact .inr (.inl ⟨incomplete, none⟩)
  have unstale : journal.phase = .preparing → Unstale platform (recoveryCourse home journal shortcut late
      (Obstructed platform driver home journal disposition)) home journal := by
    intro preparing material found
    by_cases is : IsMaterial platform home journal material
    · exact .inl is
    · refine .inr (.inr ⟨preparing, ?_, ?_⟩)
      · intro other its
        have same : other = material := Option.some.inj (its.found.symm.trans found)
        exact is (same ▸ its)
      · intro _ missing
        rw [missing] at found
        cases found
  cases disposition with
  | resume =>
      apply resumeJournal_meets kept
      refine ⟨allowed, complete, ?_, unstale⟩
      intro preparing missing
      refine .inr ⟨preparing, ?_, nofun⟩
      intro material is
      rw [is.found] at missing
      cases missing
  | abort =>
      apply abortJournal_meets kept
      exact ⟨allowed, complete, fun preparing missing => shortcuts ⟨rfl, preparing, missing⟩, unstale,
        fun released => (Classical.em (HoldsGuards home journal)).symm.imp_left fun unheld =>
          lates ⟨rfl, released, unheld⟩⟩

omit [DecidableEq Digest] in
theorem readJournal_meets (stored : home.journal = some (.publication journal))
    {after : PublicationJournal Digest → PublicationHome Digest Remote → Prop}
    {stopped : Stop PublicationFailure → PublicationHome Digest Remote → Prop}
    (done : after journal home) : Meets readJournal home after stopped := by
  apply meets_bind
  apply meets_look
  rw [stored]
  exact meets_pure done

/-- Every request but a preparation recovers the publication that it finds. -/
theorem request_meets {request : PublicationRequest Digest} {disposition : RecoveryDisposition}
    (recovers : request.disposition = some disposition)
    (stored : home.journal = some (.publication journal))
    {after : Option (PublicationJournal Digest) → PublicationHome Digest Remote → Prop}
    {stopped : Stop PublicationFailure → PublicationHome Digest Remote → Prop}
    (done : Meets (recoverJournal platform driver journal disposition) home
      (fun next => after (some next)) stopped) :
    Meets (request.run platform driver) home after stopped := by
  have resumes : disposition = .resume → Meets (some <$> resume platform driver) home after stopped := by
    rintro rfl
    apply Meets.map
    apply meets_bind
    exact readJournal_meets stored done
  have aborts : disposition = .abort → Meets (some <$> abort platform driver) home after stopped := by
    rintro rfl
    apply Meets.map
    apply meets_bind
    exact readJournal_meets stored done
  cases request with
  | prepare input => cases recovers
  | resume =>
      cases recovers
      exact resumes rfl
  | abort =>
      cases recovers
      exact aborts rfl
  | recoverPending other =>
      cases recovers
      apply meets_bind
      apply meets_look
      rw [stored]
      cases disposition with
      | resume => exact resumes rfl
      | abort => exact aborts rfl

/-- What a preparation keeps holds after a request for one. -/
theorem prepare_keeps {input : PreparePublication Digest}
    {holds : PublicationHome Digest Remote → Prop}
    (meets : Meets (prepare platform driver input) home (fun _ => holds) fun _ => holds)
    (budget : Option Nat) :
    holds ((PublicationRequest.prepare input).run platform driver home budget).2.1 := by
  have mapped : Meets ((PublicationRequest.prepare input).run platform driver) home (fun _ => holds)
      fun _ => holds := by
    apply Meets.map
    exact meets
  exact mapped.last budget

/-- Without a publication there is nothing to recover. -/
theorem request_idle {request : PublicationRequest Digest} {disposition : RecoveryDisposition}
    (recovers : request.disposition = some disposition)
    (unpublished : ∀ journal, home.journal ≠ some (.publication journal)) :
    Meets (request.run platform driver) home (fun _ later => later = home)
      (fun _ later => later = home) := by
  have unread : Meets (readJournal : Coordinator Digest Remote (PublicationJournal Digest)) home
      (fun _ _ => False) (fun _ later => later = home) := by
    apply meets_bind
    apply meets_look
    cases stored : home.journal with
    | none => exact meets_fault rfl
    | some found =>
        cases found with
        | maintenance journal => exact meets_fault rfl
        | publication journal => exact (unpublished journal stored).elim
  have resumes : Meets (some <$> resume platform driver) home (fun _ later => later = home)
      (fun _ later => later = home) := by
    apply Meets.map
    exact unread.bind fun _ _ => False.elim
  have aborts : Meets (some <$> abort platform driver) home (fun _ later => later = home)
      (fun _ later => later = home) := by
    apply Meets.map
    exact unread.bind fun _ _ => False.elim
  cases request with
  | prepare input => cases recovers
  | resume => exact resumes
  | abort => exact aborts
  | recoverPending other =>
      apply meets_bind
      apply meets_look
      split
      · exact meets_pure rfl
      · cases other with
        | resume => exact resumes
        | abort => exact aborts

/-- An action that is no shortcut, unless these are counted in, and neither a late abort nor a change by
somebody else, unless these are. -/
def HomeAction.Spares (shortcut late : Prop) (home : PublicationHome Digest Remote) :
    HomeAction Digest Remote → Prop
  | .call _ request _ => ∀ disposition, request.disposition = some disposition → ∀ journal,
      home.journal = some (.publication journal) →
        (TakesShortcut home journal disposition → shortcut) ∧ (IsLate home journal disposition → late)
  | .edit _ => late

/-- Whatever happens to it, a home stays upright. -/
theorem Upright.step (upright : Upright platform shortcut late home) {action : HomeAction Digest Remote}
    (spares : action.Spares shortcut late home) : Upright platform shortcut late (action.apply platform home) := by
  cases action with
  | edit files =>
      refine ⟨upright.mutations, fun _ => spares, ?_, upright.maintenance⟩
      intro journal stored
      refine ⟨fun requirement needed => ?_, nofun, fun _ => .inl spares, fun _ => .inl spares⟩
      exact ((upright.sound journal stored).evidence requirement needed).frame rfl
  | call driver request budget =>
      cases recovers : request.disposition with
      | none =>
          cases request with
          | prepare input =>
              have meets : Meets (Publication.prepare platform driver input) home
                  (fun _ => Upright platform shortcut late) (fun _ => Upright platform shortcut late) := by
                apply (prepare_meets upright).mono
                · exact fun _ _ prepared => prepared.1
                · exact fun _ _ stopped => stopped.1
              exact prepare_keeps meets budget
          | resume | abort | recoverPending => cases recovers
      | some disposition =>
          by_cases published : ∃ journal, home.journal = some (.publication journal)
          · obtain ⟨journal, stored⟩ := published
            have meets : Meets (request.run platform driver) home
                (fun _ => Upright platform shortcut late) (fun _ => Upright platform shortcut late) := by
              apply request_meets recovers stored
              have spares := spares _ recovers _ stored
              apply (recoverJournal_meets upright stored spares.1 spares.2).mono
              · exact fun _ _ reached => reached.1.upright
              · exact fun _ _ halted => halted.kept.elim fun _ kept => kept.upright
            exact meets.last budget
          · have idle : Meets (request.run platform driver) home (fun _ later => later = home)
                (fun _ later => later = home) :=
              request_idle recovers fun journal stored => published ⟨journal, stored⟩
            have same := idle.last budget
            rwa [HomeAction.apply, same]

theorem start_upright (starts : (publicationSystem platform).start home) :
    Upright platform shortcut late home where
  mutations := by
    rw [starts.1]
    exact fun _ outside => (List.not_mem_nil outside).elim
  spared edited := by
    rw [starts.2.1] at edited
    cases edited
  sound journal stored := by
    obtain ⟨maintenance, same, _⟩ := starts.2.2 _ stored
    cases same
  maintenance journal stored := by
    obtain ⟨maintenance, same, ended⟩ := starts.2.2 _ stored
    cases same
    exact ended

/-- In every run a home stays upright, with the shortcuts counted in. -/
theorem reachable_upright (reached : (publicationSystem platform).Reachable home) :
    Upright platform True True home := by
  apply reached.invariant
  · exact fun _ => start_upright
  · rintro before action after _ upright rfl
    apply upright.step
    cases action with
    | edit files => trivial
    | call driver request budget => exact fun _ _ _ _ => ⟨fun _ => trivial, fun _ => trivial⟩

/-- The config changes only while the map has its target, and both files have what an end says. -/
structure IsAtomic (journal : PublicationJournal Digest) (files : LocalState (FileWitness Digest)) :
    Prop where
  config : SameContent files.config journal.sourceState.config ∨
    SameContent files.projectMap journal.targetState.projectMap
  completed : journal.phase = .completed → ∀ file,
    SameContent (files.get file) (journal.targetState.get file)
  aborted : journal.phase = .aborted → ∀ file,
    SameContent (files.get file) (journal.sourceState.get file)

theorem Fits.isAtomic {files : LocalState (FileWitness Digest)}
    (fits : Fits journal.phase journal.sourceState journal.targetState files) :
    IsAtomic journal files where
  config := by
    revert fits
    cases journal.phase with
    | preparing | prepared | acquiring | guarded | mapPublishing | mapPublished =>
        exact fun fits => .inl (.of_eq fits.1)
    | configPublishing | configPublished | releasing | released | completed | configRestoring =>
        exact fun fits => .inr fits.2
    | aborting => exact fun fits => fits.2.2.imp_left SameContent.of_eq
    | mapRestoring | abortReleasing | aborted => exact fun fits => .inl fits.1
  completed ended file := by
    rw [ended] at fits
    cases file
    · exact fits.1
    · exact fits.2
  aborted ended file := by
    rw [ended] at fits
    cases file
    · exact fits.1
    · exact fits.2

/-- The publication that a home keeps is in an abort. -/
def IsAborting (home : PublicationHome Digest Remote) : Prop :=
  ∃ journal, home.journal = some (.publication journal) ∧ journal.phase.isAbort = true

def HomeAction.isPreparation : HomeAction Digest Remote → Bool
  | .call _ (.prepare _) _ => true
  | _ => false

/-- No action leaves an abort; after its end a publication may be prepared. -/
theorem isAborting_step (upright : Upright platform True True home)
    (stored : home.journal = some (.publication journal)) (aborts : journal.phase.isAbort = true)
    (action : HomeAction Digest Remote) :
    IsAborting (action.apply platform home) ∨
      (journal.phase = .aborted ∧ action.isPreparation = true) := by
  cases action with
  | edit files => exact .inl ⟨journal, stored, aborts⟩
  | call driver request budget =>
      cases recovers : request.disposition with
      | none =>
          cases request with
          | prepare input =>
              by_cases ended : journal.phase = .aborted
              · exact .inr ⟨ended, rfl⟩
              · have unended : (StoredJournal.publication journal).isTerminal = false := by
                  rw [StoredJournal.isTerminal]
                  revert aborts ended
                  cases journal.phase <;> decide
                have aborting : IsAborting home := ⟨journal, stored, aborts⟩
                have keeps : Meets (prepare platform driver input) home (fun _ => IsAborting)
                    (fun _ => IsAborting) := by
                  apply (prepare_refused stored unended).mono
                  · exact fun _ _ same => same ▸ aborting
                  · exact fun _ _ same => same ▸ aborting
                exact .inl (prepare_keeps keeps budget)
          | resume | abort | recoverPending => cases recovers
      | some disposition =>
          have meets : Meets (request.run platform driver) home (fun _ => IsAborting)
              (fun _ => IsAborting) := by
            apply request_meets recovers stored
            apply (recoverJournal_meets upright stored (fun _ => trivial) fun _ => trivial).mono
            · exact fun next _ reached => ⟨next, reached.1.stored, reached.1.allowed aborts⟩
            · rintro _ _ ⟨⟨next, kept⟩, _⟩
              exact ⟨next, kept.stored, kept.allowed aborts⟩
          exact .inl (meets.last budget)

/-- How an uninterrupted call ends: its publication has ended, or a remote call made it fail. -/
inductive Concludes (journal : PublicationJournal Digest) :
    Except (Stop PublicationFailure) (Option (PublicationJournal Digest)) ×
      PublicationHome Digest Remote × Option Nat → Prop
  | ended {next : PublicationJournal Digest} {later : PublicationHome Digest Remote}
      (stored : later.journal = some (.publication next))
      (publicationId : next.publicationId = journal.publicationId)
      (terminal : next.phase.isTerminal = true) : Concludes journal (.ok (some next), later, none)
  | failed {failure : PublicationFailure} {later : PublicationHome Digest Remote} {rest : Option Nat}
      (remote : failure.isRemote = true) : Concludes journal (.error (.fault failure), later, rest)

theorem request_concludes (upright : Upright platform True True home)
    (stored : home.journal = some (.publication journal)) (unedited : home.edited = false)
    {request : PublicationRequest Digest} {disposition : RecoveryDisposition}
    (recovers : request.disposition = some disposition)
    (clear : ¬ Obstructed platform driver home journal disposition) :
    Concludes journal (request.run platform driver home none) := by
  have ends : Meets (request.run platform driver) home
      (fun result later => ∃ next, result = some next ∧ Kept platform (recoveryCourse home journal True True
        (Obstructed platform driver home journal disposition)) later next ∧
          next.phase.isTerminal = true)
      (Halted platform (recoveryCourse home journal True True
        (Obstructed platform driver home journal disposition))) := by
    apply request_meets recovers stored
    apply (recoverJournal_meets upright stored (fun _ => trivial) fun _ => trivial).mono
    · exact fun next _ reached => ⟨next, rfl, reached⟩
    · exact fun _ _ => id
  rcases ends.uninterrupted with ⟨_, later, ran, next, rfl, kept, terminal⟩ | ⟨_, _, _, ran, halted⟩
  · rw [ran]
    exact .ended kept.stored kept.publicationId terminal
  · rw [ran]
    rcases halted.excused _ rfl with remote | edited | excuse
    · exact .failed remote
    · have edited : home.edited = true := edited
      rw [unedited] at edited
      cases edited
    · exact (clear excuse).elim

section Sample

def samplePlatform : PublicationPlatform (List UInt8) where
  sha256 := id
  semanticSha256 := id
  materialJson _ _ := [1]
  localeLe _ _ := true
  isCutoverSetEntry _ := true

def sampleFile (content : List UInt8) (ino : Nat) : PrivateFile :=
  ⟨content, 0o600, 1000, 1000, 1, ⟨1, ino, 1, 1⟩⟩

/-- A driver with a complete guard provider that has nothing to guard. -/
def sampleDriver : PublicationDriver (List UInt8) Unit where
  newIdentity _ := ⟨1, 9, 1, 1⟩
  acquireRemoteGuard := some fun _ remote => (none, remote)
  readRemoteGuard := some fun _ remote => (none, remote)
  releaseRemoteGuard := some fun _ remote => (some (), remote)
  readRemoteGuardForReleaseReconciliation := none
  retainCompletedMaterial := none
  cleanupAbortedMaterial := none

def sampleHome : PublicationHome (List UInt8) Unit where
  files := ⟨some (sampleFile [1] 1), none⟩
  materials _ := none
  journal := none
  history := []
  remote := ()
  mutations := []
  edited := false
  released := false

/-- A publication that changes only the map. -/
def samplePreparation : PreparePublication (List UInt8) where
  publicationId := js "p1"
  sourceBackend := .sqlite
  targetBackend := .postgresql
  material := ⟨⟨some (sampleFile [1] 1), none⟩, ⟨some (sampleFile [1] 2), some (sampleFile [2] 3)⟩⟩
  projects := []

/-- The home after a preparation that makes so many effects. -/
def samplePrepared (budget : Option Nat) : PublicationHome (List UInt8) Unit :=
  (HomeAction.call sampleDriver (.prepare samplePreparation) budget).apply samplePlatform sampleHome

theorem sampleHome_starts : (publicationSystem samplePlatform).start sampleHome := by
  refine ⟨rfl, rfl, ?_⟩
  intro journal stored
  cases stored

theorem samplePrepared_reachable (budget : Option Nat) :
    (publicationSystem samplePlatform).Reachable (samplePrepared budget) :=
  .next (.start sampleHome_starts) rfl

/-- The journal of a home with a publication. -/
def PublicationHome.publication (home : PublicationHome Digest Remote) :
    Option (PublicationJournal Digest) :=
  match home.journal with
  | some (.publication journal) => some journal
  | _ => none

omit [DecidableEq Digest] in
theorem publication_some (found : home.publication = some journal) :
    home.journal = some (.publication journal) := by
  rw [PublicationHome.publication] at found
  split at found
  · next other stored =>
      cases found
      exact stored
  · cases found

/-- The journal that a preparation of the sample leaves. -/
theorem samplePrepared_journal {budget : Option Nat} {phase : PublicationPhase}
    (reached : (samplePrepared budget).publication.map (·.phase) = some phase) :
    ∃ journal, (samplePrepared budget).journal = some (.publication journal) ∧ journal.phase = phase := by
  obtain ⟨journal, found, same⟩ := Option.map_eq_some_iff.mp reached
  exact ⟨journal, publication_some found, same⟩

end Sample

end Lcm.Publication
