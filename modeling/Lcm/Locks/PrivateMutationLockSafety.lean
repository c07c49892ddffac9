import Lcm.Locks.PrivateMutationLock

namespace Lcm.Locks

variable {world : LockWorld} {process other : Nat} {state : LockProcess}
  {own existing claimant : PrivateMutationLockOwner}

/-- The process of an owner is dead. -/
def LockWorld.IsDead (world : LockWorld) (owner : PrivateMutationLockOwner) : Prop :=
  (world.processes owner.process).alive = false

/-- An owner has the claim of a nonce. -/
def LockWorld.Claims (world : LockWorld) (own : PrivateMutationLockOwner) (nonce : Nat) : Prop :=
  world.files.claims nonce = some (some own)

/-- Of a claimant that was read: it released its claim, it still has it, or it lies in its tombstone. -/
def LockWorld.Claimed (world : LockWorld) (claimant : PrivateMutationLockOwner) (nonce : Nat) : Prop :=
  claimant ∈ world.released ∨ world.Claims claimant nonce ∨
    ∃ owner, world.files.tombstones nonce claimant.nonce = some (some owner)

/-- The owner whose call an activity belongs to. -/
def LockActivity.caller : LockActivity → Option PrivateMutationLockOwner
  | .idle => none
  | .mainLockPublish own _ | .mainLockOwnerRead own _ | .absenceCheck own _
  | .abandonedLockDelete own _ | .mainLockProbe own _ | .claimMkdir own _ _ | .reclaimOwnerPublish own _
  | .claimRmdir own _ | .claimOwnerRead own _ | .claimProbe own _ _ | .claimRename own _ _
  | .claimRemovalRead own _ | .staleLockRead own _ | .staleLockDelete own _ | .successorLockCreate own _
  | .claimReleaseRead own _ _ | .claimReleaseDelete own _ _ | .claimReleaseRmdir own _ _
  | .mainLockReleaseRead own | .mainLockReleaseDelete own | .recoveryRead own | .recoveryDelete own =>
      some own

/-- What a process knows of the files in an activity. -/
def LockActivity.Knows (world : LockWorld) (state : LockProcess) : LockActivity → Prop
  | .abandonedLockDelete _ existing => state.abandoned = some existing ∧ world.files.lock = some existing
  | .claimMkdir _ existing _ | .reclaimOwnerPublish _ existing | .claimOwnerRead _ existing =>
      world.IsDead existing
  | .claimProbe _ existing claimant => world.IsDead existing ∧ world.Claimed claimant existing.nonce
  | .claimRename _ existing claimant => world.IsDead existing ∧ world.Claimed claimant existing.nonce ∧
      world.IsDead claimant
  | .claimRemovalRead own existing | .staleLockRead own existing =>
      world.IsDead existing ∧ world.Claims own existing.nonce
  | .staleLockDelete own existing => world.IsDead existing ∧ world.Claims own existing.nonce ∧
      world.files.lock = some existing
  | .successorLockCreate own existing => world.Claims own existing.nonce
  | .claimReleaseRead own existing successorPublished
  | .claimReleaseDelete own existing successorPublished => world.Claims own existing.nonce ∧
      (successorPublished = true → world.files.lock = some own)
  | .claimReleaseRmdir own _ successorPublished =>
      successorPublished = true → world.files.lock = some own
  | .mainLockReleaseRead own | .mainLockReleaseDelete own | .recoveryRead own | .recoveryDelete own =>
      world.files.lock = some own
  | .idle | .mainLockPublish .. | .mainLockOwnerRead .. | .absenceCheck .. | .mainLockProbe ..
  | .claimRmdir .. => True

/-- An owner that a process drew. -/
structure Drawn (world : LockWorld) (process : Nat) (own : PrivateMutationLockOwner) : Prop where
  process : own.process = process
  nonce : own.nonce ∈ world.nonces

/-- The owners of a process are distinct, and its callback has the lock. -/
structure KeepsOwners (world : LockWorld) (process : Nat) (state : LockProcess) : Prop where
  callbacks : ∀ own ∈ state.callbacks, Drawn world process own ∧ world.files.lock = some own
  abandoned : ∀ own, state.abandoned = some own → Drawn world process own ∧ own ∉ state.callbacks
  caller : ∀ own, state.activity.caller = some own →
    Drawn world process own ∧ own ∉ state.callbacks ∧ state.abandoned ≠ some own

/-- A process keeps its owners apart and knows what it needs. -/
structure IsSound (world : LockWorld) (process : Nat) (state : LockProcess) : Prop where
  owners : KeepsOwners world process state
  knows : state.activity.Knows world state

/-- An effect that a process may have without harm to others. -/
def FileEffect.Allowed (world : LockWorld) (process : Nat) : FileEffect → Prop
  | .nothing => True
  | .createLock _ => world.files.lock = none
  | .deleteLock => ∀ owner, world.files.lock = some owner → owner.process = process ∨
      (world.IsDead owner ∧ ∃ own : PrivateMutationLockOwner, own.process = process ∧
        world.Claims own owner.nonce)
  | .makeClaim nonce => world.files.claims nonce = none
  | .publishClaim nonce _ => ∀ owner, ¬ world.Claims owner nonce
  | .deleteClaimOwner nonce => ∃ own : PrivateMutationLockOwner, own.process = process ∧
      world.Claims own nonce
  | .removeClaim nonce => world.files.claims nonce = some none
  | .renameClaim nonce stale => ∃ owner, world.IsDead owner ∧ owner.nonce = stale ∧
      world.Claims owner nonce

section Frame

variable {effect : FileEffect}

@[simp] theorem change_processes : (world.change process effect).processes = world.processes := by
  cases effect <;> rfl

@[simp] theorem change_nonces : (world.change process effect).nonces = world.nonces := by
  cases effect <;> rfl

/-- The lock of another process that is alive stays. -/
theorem change_lock (allowed : effect.Allowed world process) (lock : world.files.lock = some own)
    (foreign : own.process ≠ process) (alive : ¬ world.IsDead own) :
    (world.change process effect).files.lock = some own := by
  cases effect with
  | createLock another =>
      have free : world.files.lock = none := allowed
      rw [lock] at free
      cases free
  | deleteLock =>
      rcases allowed own lock with mine | ⟨dead, _⟩
      · exact (foreign mine).elim
      · exact (alive dead).elim
  | nothing | makeClaim | publishClaim | deleteClaimOwner | removeClaim | renameClaim => exact lock

/-- A claim goes away only when its own process or a process that found it dead takes it away. -/
theorem change_claims (allowed : effect.Allowed world process) {nonce : Nat}
    (claims : world.Claims own nonce) :
    (world.change process effect).Claims own nonce ∨ (own.process = process ∧
      effect = .deleteClaimOwner nonce) ∨ (world.IsDead own ∧ effect = .renameClaim nonce own.nonce) := by
  have known : world.files.claims nonce = some (some own) := claims
  cases effect with
  | nothing | createLock | deleteLock => exact .inl claims
  | makeClaim changed =>
      have free : world.files.claims changed = none := allowed
      refine .inl ((Function.update_of_ne ?_ _ _).trans known)
      rintro rfl
      rw [known] at free
      cases free
  | publishClaim changed owner =>
      refine .inl ((Function.update_of_ne ?_ _ _).trans known)
      rintro rfl
      exact allowed own claims
  | removeClaim changed =>
      have empty : world.files.claims changed = some none := allowed
      refine .inl ((Function.update_of_ne ?_ _ _).trans known)
      rintro rfl
      rw [known] at empty
      cases empty
  | deleteClaimOwner changed =>
      obtain ⟨owner, mine, claimed⟩ := allowed
      by_cases same : nonce = changed
      · subst same
        have equal : own = owner := Option.some.inj (Option.some.inj (known.symm.trans claimed))
        exact .inr (.inl ⟨equal ▸ mine, rfl⟩)
      · exact .inl ((Function.update_of_ne same _ _).trans known)
  | renameClaim changed stale =>
      obtain ⟨owner, dead, rfl, claimed⟩ := allowed
      by_cases same : nonce = changed
      · subst same
        have equal : own = owner := Option.some.inj (Option.some.inj (known.symm.trans claimed))
        exact .inr (.inr ⟨equal ▸ dead, equal ▸ rfl⟩)
      · exact .inl ((Function.update_of_ne same _ _).trans known)

/-- The claim of another process that is alive stays. -/
theorem change_foreign (allowed : effect.Allowed world process) {nonce : Nat}
    (claims : world.Claims own nonce) (foreign : own.process ≠ process) (alive : ¬ world.IsDead own) :
    (world.change process effect).Claims own nonce := by
  rcases change_claims allowed claims with stays | ⟨mine, _⟩ | ⟨dead, _⟩
  · exact stays
  · exact (foreign mine).elim
  · exact (alive dead).elim

theorem change_released (released : own ∈ world.released) :
    own ∈ (world.change process effect).released := by
  cases effect with
  | deleteClaimOwner nonce => exact List.mem_append_right _ released
  | nothing | createLock | deleteLock | makeClaim | publishClaim | removeClaim | renameClaim =>
      exact released

/-- A tombstone with an owner keeps one. -/
theorem change_tombstones (allowed : effect.Allowed world process) {nonce stale : Nat}
    (buried : ∃ owner, world.files.tombstones nonce stale = some (some owner)) :
    ∃ owner, (world.change process effect).files.tombstones nonce stale = some (some owner) := by
  cases effect with
  | renameClaim changed name =>
      obtain ⟨owner, _, _, claimed⟩ := allowed
      have claimed : world.files.claims changed = some (some owner) := claimed
      show ∃ owner, (Function.update world.files.tombstones changed (Function.update
        (world.files.tombstones changed) name (world.files.claims changed))) nonce stale =
          some (some owner)
      by_cases same : nonce = changed
      · subst same
        rw [Function.update_self]
        by_cases here : stale = name
        · subst here
          rw [Function.update_self]
          exact ⟨owner, claimed⟩
        · rw [Function.update_of_ne here]
          exact buried
      · rw [Function.update_of_ne same]
        exact buried
  | nothing | createLock | deleteLock | makeClaim | publishClaim | deleteClaimOwner | removeClaim =>
      exact buried

/-- A claimant that was read stays accounted for. -/
theorem change_claimed (allowed : effect.Allowed world process) {nonce : Nat}
    (claimed : world.Claimed claimant nonce) : (world.change process effect).Claimed claimant nonce := by
  rcases claimed with released | claims | buried
  · exact .inl (change_released released)
  · have known : world.files.claims nonce = some (some claimant) := claims
    rcases change_claims allowed claims with stays | ⟨_, rfl⟩ | ⟨_, rfl⟩
    · exact .inr (.inl stays)
    · refine .inl (List.mem_append_left _ ?_)
      rw [LockWorld.claimOwner, known]
      exact List.mem_singleton.mpr rfl
    · refine .inr (.inr ⟨claimant, ?_⟩)
      show Function.update world.files.tombstones nonce _ nonce claimant.nonce = _
      rw [Function.update_self, Function.update_self]
      exact known
  · exact .inr (.inr (change_tombstones allowed buried))

end Frame

/-- What the steps of others leave to a process. -/
structure Evolves (world later : LockWorld) (process : Nat) : Prop where
  dead : ∀ owner, world.IsDead owner → later.IsDead owner
  nonces : world.nonces ⊆ later.nonces
  lock : ∀ own : PrivateMutationLockOwner, own.process = process → world.files.lock = some own →
    later.files.lock = some own
  claims : ∀ (own : PrivateMutationLockOwner) (nonce : Nat), own.process = process →
    world.Claims own nonce → later.Claims own nonce
  stale : ∀ own existing : PrivateMutationLockOwner, own.process = process → world.IsDead existing →
    world.Claims own existing.nonce → world.files.lock = some existing → later.files.lock = some existing
  claimed : ∀ claimant nonce, world.Claimed claimant nonce → later.Claimed claimant nonce

theorem KeepsOwners.evolve {later : LockWorld} (owners : KeepsOwners world process state)
    (evolves : Evolves world later process) : KeepsOwners later process state where
  callbacks own inside := by
    obtain ⟨drawn, lock⟩ := owners.callbacks own inside
    exact ⟨⟨drawn.process, evolves.nonces drawn.nonce⟩, evolves.lock own drawn.process lock⟩
  abandoned own known := by
    obtain ⟨drawn, outside⟩ := owners.abandoned own known
    exact ⟨⟨drawn.process, evolves.nonces drawn.nonce⟩, outside⟩
  caller own known := by
    obtain ⟨drawn, outside⟩ := owners.caller own known
    exact ⟨⟨drawn.process, evolves.nonces drawn.nonce⟩, outside⟩

/-- A process stays sound while others make steps. -/
theorem IsSound.evolve {later : LockWorld} (sound : IsSound world process state)
    (evolves : Evolves world later process) : IsSound later process state := by
  refine ⟨sound.owners.evolve evolves, ?_⟩
  have mine : ∀ own, state.activity.caller = some own → own.process = process :=
    fun own known => (sound.owners.caller own known).1.process
  have knows := sound.knows
  revert knows mine
  cases state.activity with
  | idle | mainLockPublish | mainLockOwnerRead | absenceCheck | mainLockProbe | claimRmdir =>
      exact fun _ _ => trivial
  | abandonedLockDelete own existing =>
      rintro mine ⟨abandoned, lock⟩
      exact ⟨abandoned, evolves.lock _ (sound.owners.abandoned _ abandoned).1.process lock⟩
  | claimMkdir own existing | reclaimOwnerPublish own existing | claimOwnerRead own existing =>
      exact fun _ dead => evolves.dead _ dead
  | claimProbe own existing claimant =>
      exact fun _ known => ⟨evolves.dead _ known.1, evolves.claimed _ _ known.2⟩
  | claimRename own existing claimant =>
      exact fun _ known => ⟨evolves.dead _ known.1, evolves.claimed _ _ known.2.1, evolves.dead _ known.2.2⟩
  | claimRemovalRead own existing | staleLockRead own existing =>
      exact fun mine known => ⟨evolves.dead _ known.1, evolves.claims _ _ (mine own rfl) known.2⟩
  | staleLockDelete own existing =>
      rintro mine ⟨dead, claims, lock⟩
      exact ⟨evolves.dead _ dead, evolves.claims _ _ (mine own rfl) claims,
        evolves.stale _ _ (mine own rfl) dead claims lock⟩
  | successorLockCreate own existing =>
      exact fun mine claims => evolves.claims _ _ (mine own rfl) claims
  | claimReleaseRead own existing | claimReleaseDelete own existing =>
      exact fun mine known => ⟨evolves.claims _ _ (mine own rfl) known.1,
        fun published => evolves.lock _ (mine own rfl) (known.2 published)⟩
  | claimReleaseRmdir own existing =>
      exact fun mine known published => evolves.lock _ (mine own rfl) (known published)
  | mainLockReleaseRead own | mainLockReleaseDelete own | recoveryRead own | recoveryDelete own =>
      exact fun mine lock => evolves.lock _ (mine own rfl) lock

/-- A process that changes only its own state, and does not rise again, leaves everything to itself and
others. -/
theorem setProcess_evolves (gone : (world.processes process).alive = false → state.alive = false)
    (reader : Nat) :
    Evolves world (world.setProcess process state) reader where
  dead owner dead := by
    show (Function.update world.processes process state owner.process).alive = false
    rw [Function.update_apply]
    split
    · next same =>
        apply gone
        rw [← same]
        exact dead
    · exact dead
  nonces := List.Subset.refl _
  lock _ _ lock := lock
  claims _ _ _ claims := claims
  stale _ _ _ _ _ lock := lock
  claimed _ _ claimed := claimed

/-- An effect that is allowed leaves the others what they need. -/
theorem change_evolves {effect : FileEffect} (allowed : effect.Allowed world process)
    (actor : (world.processes process).alive = true) (alive : (world.processes other).alive = true)
    (different : other ≠ process) : Evolves world (world.change process effect) other where
  dead owner dead := by
    rw [LockWorld.IsDead, change_processes]
    exact dead
  nonces := by
    rw [change_nonces]
    exact List.Subset.refl _
  lock own mine lock := by
    apply change_lock allowed lock
    · rw [mine]
      exact different
    · rw [LockWorld.IsDead, mine, alive]
      exact nofun
  claims own nonce mine claims := by
    apply change_foreign allowed claims
    · rw [mine]
      exact different
    · rw [LockWorld.IsDead, mine, alive]
      exact nofun
  stale own existing mine dead claims lock := by
    cases effect with
    | createLock another =>
        have free : world.files.lock = none := allowed
        rw [lock] at free
        cases free
    | deleteLock =>
        rcases allowed existing lock with same | ⟨_, claimer, same, claimed⟩
        · rw [LockWorld.IsDead, same, actor] at dead
          cases dead
        · have equal : own = claimer := Option.some.inj (Option.some.inj (claims.symm.trans claimed))
          exact (different (mine.symm.trans ((congrArg _ equal).trans same))).elim
    | nothing | makeClaim | publishClaim | deleteClaimOwner | removeClaim | renameClaim => exact lock
  claimed _ _ claimed := change_claimed allowed claimed

section Step

variable {fate : CallFate} {answer : LockOwnerState} {activity : LockActivity}

/-- The result of a step of a process: an effect without harm, and a sound process. -/
structure Goes (world : LockWorld) (process : Nat) (state : LockProcess)
    (result : FileEffect × LockProcess) : Prop where
  allowed : result.1.Allowed world process
  sound : IsSound (world.change process result.1) process result.2
  alive : result.2.alive = state.alive

theorem KeepsOwners.goOn (owners : KeepsOwners world process state)
    (caller : activity.caller = none ∨ activity.caller = state.activity.caller) :
    KeepsOwners world process { state with activity } where
  callbacks := owners.callbacks
  abandoned := owners.abandoned
  caller own known := by
    have known : activity.caller = some own := known
    rcases caller with idle | same
    · rw [idle] at known
      cases known
    · exact owners.caller own (same ▸ known)

theorem KeepsOwners.forgets (owners : KeepsOwners world process state)
    (caller : activity.caller = none ∨ activity.caller = state.activity.caller) :
    KeepsOwners world process (state.forgets activity) where
  callbacks := owners.callbacks
  abandoned _ known := nomatch known
  caller own known := by
    obtain ⟨drawn, outside, _⟩ := (owners.goOn caller).caller own known
    exact ⟨drawn, outside, nofun⟩

theorem IsSound.goes (sound : IsSound world process state)
    (caller : activity.caller = none ∨ activity.caller = state.activity.caller)
    (knows : activity.Knows world { state with activity }) :
    Goes world process state (state.goOn activity) :=
  ⟨trivial, ⟨sound.owners.goOn caller, knows⟩, rfl⟩

theorem IsSound.throws (sound : IsSound world process state) :
    Goes world process state state.throws :=
  sound.goes (.inl rfl) trivial

/-- A process that forgets its abandoned lock goes on. -/
theorem IsSound.forgets (sound : IsSound world process state)
    (caller : activity.caller = none ∨ activity.caller = state.activity.caller)
    (knows : activity.Knows world (state.forgets activity)) :
    Goes world process state (.nothing, state.forgets activity) :=
  ⟨trivial, ⟨sound.owners.forgets caller, knows⟩, rfl⟩

theorem IsSound.abandons (sound : IsSound world process state)
    (caller : state.activity.caller = some own) :
    Goes world process state (.nothing, state.abandons own) := by
  obtain ⟨drawn, outside, _⟩ := sound.owners.caller own caller
  refine ⟨trivial, ⟨⟨sound.owners.callbacks, ?_, nofun⟩, trivial⟩, rfl⟩
  rintro _ ⟨⟩
  exact ⟨drawn, outside⟩

/-- The callback of a call begins under the lock. -/
theorem KeepsOwners.enters (owners : KeepsOwners world process state)
    (caller : state.activity.caller = some own) (lock : world.files.lock = some own) :
    KeepsOwners world process (state.enters own) := by
  obtain ⟨drawn, outside, distinct⟩ := owners.caller own caller
  refine ⟨?_, ?_, nofun⟩
  · intro another inside
    rcases List.mem_cons.mp inside with rfl | inside
    · exact ⟨drawn, lock⟩
    · exact owners.callbacks another inside
  · intro abandoned known
    obtain ⟨drawn, elsewhere⟩ := owners.abandoned abandoned known
    refine ⟨drawn, ?_⟩
    intro inside
    rcases List.mem_cons.mp inside with rfl | inside
    · exact distinct known
    · exact elsewhere inside

theorem IsSound.settles (sound : IsSound world process state)
    (caller : state.activity.caller = some own) {successorPublished : Bool}
    (lock : successorPublished = true → world.files.lock = some own) :
    Goes world process state (.nothing, state.settles own successorPublished) := by
  cases successorPublished with
  | false => exact sound.throws
  | true => exact ⟨trivial, ⟨sound.owners.enters caller (lock rfl), trivial⟩, rfl⟩

/-- No callback runs in a process while another owner has the lock. -/
theorem KeepsOwners.quiet (owners : KeepsOwners world process state)
    (elsewhere : ∀ own, world.files.lock = some own → own ∉ state.callbacks) : state.callbacks = [] := by
  rw [List.eq_nil_iff_forall_not_mem]
  intro own inside
  exact elsewhere own (owners.callbacks own inside).2 inside

/-- Without a callback the owners of a process do not depend on the files. -/
theorem KeepsOwners.change {effect : FileEffect} (owners : KeepsOwners world process state)
    (same : state.callbacks = [] ∨ (world.change process effect).files.lock = world.files.lock) :
    KeepsOwners (world.change process effect) process state := by
  have drawn : ∀ {own}, Drawn world process own → Drawn (world.change process effect) process own := by
    intro own drawn
    refine ⟨drawn.process, ?_⟩
    rw [change_nonces]
    exact drawn.nonce
  refine ⟨?_, ?_, ?_⟩
  · intro own inside
    rcases same with quiet | same
    · rw [quiet] at inside
      cases inside
    · rw [same]
      exact ⟨drawn (owners.callbacks own inside).1, (owners.callbacks own inside).2⟩
  · exact fun own known => ⟨drawn (owners.abandoned own known).1, (owners.abandoned own known).2⟩
  · exact fun own known => ⟨drawn (owners.caller own known).1, (owners.caller own known).2⟩

theorem retryDisappeared_goes (sound : IsSound world process state) {retries : Nat}
    (caller : state.activity.caller = some own) :
    Goes world process state (retryDisappeared state own retries) := by
  rw [retryDisappeared]
  split
  · exact sound.throws
  · exact sound.goes (.inr caller.symm) trivial

theorem readExisting_goes (sound : IsSound world process state)
    (caller : state.activity.caller = some own) (lock : world.files.lock = some existing) :
    Goes world process state (readExisting state own existing) := by
  rw [readExisting]
  split
  · exact sound.goes (.inr caller.symm) trivial
  · next abandoned known =>
      split
      · next same =>
          rw [← same] at known
          exact sound.goes (.inr caller.symm) ⟨known, lock⟩
      · exact sound.forgets (.inr caller.symm) trivial

theorem isNone_lock (free : world.files.lock.isNone = true) : world.files.lock = none :=
  Option.isNone_iff_eq_none.mp free

theorem acquire_goes (sound : IsSound world process state)
    (truthful : answer = .stale → ∀ own existing, state.activity = .mainLockProbe own existing →
      world.IsDead existing) :
    Goes world process state (acquireStep world.files state fate answer) := by
  have owners := sound.owners
  have knows := sound.knows
  rw [acquireStep]
  cases doing : state.activity with
  | mainLockPublish own retries =>
      have caller : state.activity.caller = some own := doing ▸ rfl
      dsimp only
      split
      · exact sound.throws
      · split
        · next free =>
            have free := isNone_lock free
            have quiet : state.callbacks = [] := owners.quiet fun own lock => by
              rw [free] at lock
              cases lock
            have entered : KeepsOwners (world.change process (.createLock own)) process
                (state.enters own) :=
              (owners.change (.inl quiet)).enters caller rfl
            refine ⟨free, ⟨⟨entered.callbacks, nofun, nofun⟩, trivial⟩, rfl⟩
        · exact sound.goes (.inr caller.symm) trivial
  | mainLockOwnerRead own retries =>
      have caller : state.activity.caller = some own := doing ▸ rfl
      cases fate with
      | failed => exact sound.throws
      | identityChanged => exact sound.goes (.inr caller.symm) trivial
      | performed =>
          cases lock : world.files.lock with
          | none => exact retryDisappeared_goes sound caller
          | some existing => exact readExisting_goes sound caller lock
  | absenceCheck own retries =>
      have caller : state.activity.caller = some own := doing ▸ rfl
      dsimp only
      split
      · exact retryDisappeared_goes sound caller
      · exact sound.throws
  | abandonedLockDelete own existing =>
      have caller : state.activity.caller = some own := doing ▸ rfl
      rw [doing] at knows
      obtain ⟨abandoned, lock⟩ := knows
      obtain ⟨drawn, outside⟩ := owners.abandoned existing abandoned
      dsimp only
      split
      · exact sound.throws
      · have quiet : state.callbacks = [] := owners.quiet fun another found => by
          rw [lock] at found
          cases found
          exact outside
        refine ⟨?_, ⟨(owners.change (.inl quiet)).forgets (.inr caller.symm), trivial⟩, rfl⟩
        intro owner found
        rw [lock] at found
        cases found
        exact .inl drawn.process
  | mainLockProbe own existing =>
      have caller : state.activity.caller = some own := doing ▸ rfl
      dsimp only
      split
      · next stale => exact sound.goes (.inr caller.symm) (truthful stale own existing doing)
      · exact sound.throws
  | idle | claimMkdir | reclaimOwnerPublish | claimRmdir | claimOwnerRead | claimProbe | claimRename
  | claimRemovalRead | staleLockRead | staleLockDelete | successorLockCreate | claimReleaseRead
  | claimReleaseDelete | claimReleaseRmdir | mainLockReleaseRead | mainLockReleaseDelete
  | recoveryRead | recoveryDelete => exact ⟨trivial, sound, rfl⟩

/-- A claimant that is renamed still has its claim, unless it released it before. -/
theorem claim_goes (sound : IsSound world process state)
    (truthful : answer = .stale → ∀ own existing claimant,
      state.activity = .claimProbe own existing claimant → world.IsDead claimant)
    (spared : ∀ own existing claimant, state.activity = .claimRename own existing claimant →
      claimant ∈ world.released → world.files.claims existing.nonce = none) :
    Goes world process state (claimStep world.files state fate answer) := by
  have owners := sound.owners
  have knows := sound.knows
  rw [claimStep]
  cases doing : state.activity with
  | claimMkdir own existing renamed =>
      have caller : state.activity.caller = some own := doing ▸ rfl
      rw [doing] at knows
      dsimp only
      split
      · exact sound.throws
      · split
        · next free =>
            exact ⟨Option.isNone_iff_eq_none.mp free,
              ⟨(owners.change (.inr rfl)).goOn (.inr caller.symm), knows⟩, rfl⟩
        · split
          · exact sound.throws
          · exact sound.goes (.inr caller.symm) knows
  | reclaimOwnerPublish own existing =>
      have caller : state.activity.caller = some own := doing ▸ rfl
      rw [doing] at knows
      dsimp only
      split
      · next free =>
          refine ⟨?_, ⟨(owners.change (.inr rfl)).goOn (.inr caller.symm), knows, ?_⟩, rfl⟩
          · intro owner claims
            have claims : world.files.claims existing.nonce = some (some owner) := claims
            rw [claims] at free
            exact nomatch free.2
          · exact Function.update_self ..
      · exact sound.goes (.inr caller.symm) trivial
  | claimRmdir own existing =>
      dsimp only
      split
      · next empty => exact ⟨empty.2, ⟨(owners.change (.inr rfl)).goOn (.inl rfl), trivial⟩, rfl⟩
      · exact sound.throws
  | claimOwnerRead own existing =>
      have caller : state.activity.caller = some own := doing ▸ rfl
      rw [doing] at knows
      dsimp only
      split
      · next claimant claims => exact sound.goes (.inr caller.symm) ⟨knows, .inr (.inl claims)⟩
      · exact sound.throws
  | claimProbe own existing claimant =>
      have caller : state.activity.caller = some own := doing ▸ rfl
      rw [doing] at knows
      dsimp only
      split
      · next stale =>
          exact sound.goes (.inr caller.symm) ⟨knows.1, knows.2, truthful stale own existing claimant doing⟩
      · exact sound.throws
  | claimRename own existing claimant =>
      have caller : state.activity.caller = some own := doing ▸ rfl
      rw [doing] at knows
      obtain ⟨dead, claimed, gone⟩ := knows
      dsimp only
      split
      · next renames =>
          obtain ⟨_, present, unburied⟩ := renames
          refine ⟨⟨claimant, gone, rfl, ?_⟩, ⟨(owners.change (.inr rfl)).goOn (.inr caller.symm), dead⟩, rfl⟩
          rcases claimed with released | claims | ⟨owner, buried⟩
          · rw [spared own existing claimant doing released] at present
            cases present
          · exact claims
          · rw [buried] at unburied
            cases unburied
      · exact sound.throws
  | idle | mainLockPublish | mainLockOwnerRead | absenceCheck | abandonedLockDelete | mainLockProbe
  | claimRemovalRead | staleLockRead | staleLockDelete | successorLockCreate | claimReleaseRead
  | claimReleaseDelete | claimReleaseRmdir | mainLockReleaseRead | mainLockReleaseDelete
  | recoveryRead | recoveryDelete => exact ⟨trivial, sound, rfl⟩

/-- A stale lock is replaced only under the claim on it. -/
theorem reclaim_goes (sound : IsSound world process state)
    (alive : (world.processes process).alive = true) :
    Goes world process state (reclaimStep world.files state fate) := by
  have owners := sound.owners
  have knows := sound.knows
  rw [reclaimStep]
  cases doing : state.activity with
  | claimRemovalRead own existing =>
      have caller : state.activity.caller = some own := doing ▸ rfl
      rw [doing] at knows
      dsimp only
      split
      · exact sound.goes (.inr caller.symm) knows
      · exact sound.goes (.inr caller.symm) ⟨knows.2, nofun⟩
  | staleLockRead own existing =>
      have caller : state.activity.caller = some own := doing ▸ rfl
      rw [doing] at knows
      dsimp only
      split
      · next read => exact sound.goes (.inr caller.symm) ⟨knows.1, knows.2, read.2⟩
      · exact sound.goes (.inr caller.symm) ⟨knows.2, nofun⟩
  | staleLockDelete own existing =>
      have caller : state.activity.caller = some own := doing ▸ rfl
      rw [doing] at knows
      obtain ⟨dead, claims, lock⟩ := knows
      dsimp only
      split
      · have quiet : state.callbacks = [] := owners.quiet fun another found inside => by
          rw [lock] at found
          cases found
          have mine := (owners.callbacks existing inside).1.process
          rw [LockWorld.IsDead, mine, alive] at dead
          cases dead
        refine ⟨?_, ⟨(owners.change (.inl quiet)).goOn (.inr caller.symm), claims⟩, rfl⟩
        intro owner found
        rw [lock] at found
        cases found
        exact .inr ⟨dead, own, (owners.caller own caller).1.process, claims⟩
      · exact sound.goes (.inr caller.symm) ⟨claims, nofun⟩
  | successorLockCreate own existing =>
      have caller : state.activity.caller = some own := doing ▸ rfl
      rw [doing] at knows
      dsimp only
      split
      · next free =>
          have free := isNone_lock free.2
          have quiet : state.callbacks = [] := owners.quiet fun own lock => by
            rw [free] at lock
            cases lock
          exact ⟨free, ⟨(owners.change (.inl quiet)).goOn (.inr caller.symm), knows, fun _ => rfl⟩, rfl⟩
      · exact sound.goes (.inr caller.symm) ⟨knows, nofun⟩
  | claimReleaseRead own existing successorPublished =>
      have caller : state.activity.caller = some own := doing ▸ rfl
      rw [doing] at knows
      dsimp only
      split
      · exact sound.goes (.inr caller.symm) knows
      · exact sound.settles caller knows.2
  | claimReleaseDelete own existing successorPublished =>
      have caller : state.activity.caller = some own := doing ▸ rfl
      rw [doing] at knows
      dsimp only
      split
      · exact ⟨⟨own, (owners.caller own caller).1.process, knows.1⟩,
          ⟨(owners.change (.inr rfl)).goOn (.inr caller.symm), knows.2⟩, rfl⟩
      · exact sound.settles caller knows.2
  | claimReleaseRmdir own existing successorPublished =>
      have caller : state.activity.caller = some own := doing ▸ rfl
      rw [doing] at knows
      have settled := sound.settles caller knows
      dsimp only
      split
      · next empty =>
          have changed : IsSound (world.change process (.removeClaim existing.nonce)) process state :=
            ⟨owners.change (.inr rfl), doing ▸ knows⟩
          have later := changed.settles caller knows
          exact ⟨empty.2, later.sound, later.alive⟩
      · exact settled
  | idle | mainLockPublish | mainLockOwnerRead | absenceCheck | abandonedLockDelete | mainLockProbe
  | claimMkdir | reclaimOwnerPublish | claimRmdir | claimOwnerRead | claimProbe | claimRename
  | mainLockReleaseRead | mainLockReleaseDelete | recoveryRead | recoveryDelete =>
      exact ⟨trivial, sound, rfl⟩

/-- A process that releases its lock deletes no other one. -/
theorem IsSound.deletes (sound : IsSound world process state)
    (caller : state.activity.caller = some own) (lock : world.files.lock = some own) :
    Goes world process state (.deleteLock, state.forgets .idle) := by
  obtain ⟨drawn, outside, _⟩ := sound.owners.caller own caller
  have quiet : state.callbacks = [] := sound.owners.quiet fun another found => by
    rw [lock] at found
    cases found
    exact outside
  refine ⟨?_, ⟨(sound.owners.change (.inl quiet)).forgets (.inl rfl), trivial⟩, rfl⟩
  intro owner found
  rw [lock] at found
  cases found
  exact .inl drawn.process

theorem release_goes (sound : IsSound world process state) :
    Goes world process state (releaseStep world.files state fate) := by
  have knows := sound.knows
  rw [releaseStep]
  cases doing : state.activity with
  | mainLockReleaseRead own =>
      have caller : state.activity.caller = some own := doing ▸ rfl
      rw [doing] at knows
      dsimp only
      split <;> exact sound.goes (.inr caller.symm) knows
  | mainLockReleaseDelete own =>
      have caller : state.activity.caller = some own := doing ▸ rfl
      rw [doing] at knows
      dsimp only
      split
      · exact sound.deletes caller knows
      · exact sound.goes (.inr caller.symm) knows
  | recoveryRead own =>
      have caller : state.activity.caller = some own := doing ▸ rfl
      rw [doing] at knows
      dsimp only
      split
      · exact sound.abandons caller
      · split
        · exact sound.goes (.inr caller.symm) knows
        · exact sound.forgets (.inl rfl) trivial
  | recoveryDelete own =>
      have caller : state.activity.caller = some own := doing ▸ rfl
      rw [doing] at knows
      dsimp only
      split
      · exact sound.abandons caller
      · exact sound.deletes caller knows
  | idle | mainLockPublish | mainLockOwnerRead | absenceCheck | abandonedLockDelete | mainLockProbe
  | claimMkdir | reclaimOwnerPublish | claimRmdir | claimOwnerRead | claimProbe | claimRename
  | claimRemovalRead | staleLockRead | staleLockDelete | successorLockCreate | claimReleaseRead
  | claimReleaseDelete | claimReleaseRmdir => exact ⟨trivial, sound, rfl⟩

end Step

/-- The claim that a process is about to rename, with the claimant that it read. -/
def LockAction.renamed (world : LockWorld) (process : Nat) : Option (Nat × PrivateMutationLockOwner) :=
  match (world.processes process).activity with
  | .claimRename _ existing claimant => some (existing.nonce, claimant)
  | _ => none

/-- No process renames a claim that another one took after the stale owner that it read had released it. -/
def SparesClaims (world : LockWorld) : LockAction → Prop
  | .advance process _ _ => ∀ claim ∈ LockAction.renamed world process, claim.2 ∈ world.released →
      world.files.claims claim.1 = none
  | .call .. | .finish .. | .die _ => True

instance (world : LockWorld) : (action : LockAction) → Decidable (SparesClaims world action)
  | .advance .. => by
      unfold SparesClaims
      infer_instance
  | .call .. | .finish .. | .die _ => inferInstanceAs (Decidable True)

theorem step_goes {fate : CallFate} {answer : LockOwnerState}
    (sound : IsSound world process (world.processes process))
    (enabled : LockAction.Enabled world (.advance process fate answer))
    (spares : SparesClaims world (.advance process fate answer)) :
    Goes world process (world.processes process)
      ((world.processes process).step world.files fate answer) := by
  obtain ⟨alive, truthful⟩ := enabled
  have acquired : Goes world process (world.processes process)
      (acquireStep world.files (world.processes process) fate answer) := by
    apply acquire_goes sound
    intro stale own existing doing
    apply truthful stale
    rw [LockAction.probed, doing]
    rfl
  have claimed : Goes world process (world.processes process)
      (claimStep world.files (world.processes process) fate answer) := by
    apply claim_goes sound
    · intro stale own existing claimant doing
      apply truthful stale
      rw [LockAction.probed, doing]
      rfl
    · intro own existing claimant doing released
      apply spares (existing.nonce, claimant) _ released
      rw [LockAction.renamed, doing]
      rfl
  have reclaimed : Goes world process (world.processes process)
      (reclaimStep world.files (world.processes process) fate) := reclaim_goes sound alive
  have released : Goes world process (world.processes process)
      (releaseStep world.files (world.processes process) fate) := release_goes sound
  rw [LockProcess.step]
  cases doing : (world.processes process).activity with
  | idle => exact ⟨trivial, sound, rfl⟩
  | mainLockPublish | mainLockOwnerRead | absenceCheck | abandonedLockDelete | mainLockProbe =>
      exact acquired
  | claimMkdir | reclaimOwnerPublish | claimRmdir | claimOwnerRead | claimProbe | claimRename =>
      exact claimed
  | claimRemovalRead | staleLockRead | staleLockDelete | successorLockCreate | claimReleaseRead
  | claimReleaseDelete | claimReleaseRmdir => exact reclaimed
  | mainLockReleaseRead | mainLockReleaseDelete | recoveryRead | recoveryDelete => exact released

/-- A removed owner is the remover's own, or its process was dead. -/
def LockRemoval.IsHarmless (removal : LockRemoval) : Prop :=
  removal.owner.process = removal.remover ∨ removal.live = false

/-- Every process that is alive is sound, and every removal was harmless. -/
structure LockWorld.IsSafe (world : LockWorld) : Prop where
  processes : ∀ process, (world.processes process).alive = true →
    IsSound world process (world.processes process)
  removals : ∀ removal ∈ world.removals, removal.IsHarmless

/-- An effect that is allowed removes nothing that a process still needs. -/
theorem change_removals {effect : FileEffect} (allowed : effect.Allowed world process)
    (removals : ∀ removal ∈ world.removals, removal.IsHarmless) :
    ∀ removal ∈ (world.change process effect).removals, removal.IsHarmless := by
  have removes : ∀ removed : Option PrivateMutationLockOwner,
      (∀ owner, removed = some owner → owner.process = process ∨ world.IsDead owner) →
        ∀ removal ∈ (world.remove process removed).removals, removal.IsHarmless := by
    intro removed harmless removal inside
    rcases List.mem_append.mp inside with fresh | before
    · obtain ⟨owner, found, rfl⟩ := List.mem_map.mp fresh
      exact harmless owner (Option.mem_toList.mp found)
    · exact removals removal before
  have owned : ∀ {nonce : Nat} {owner : PrivateMutationLockOwner}, world.Claims owner nonce →
      ∀ another, world.claimOwner nonce = some another → another = owner := by
    intro nonce owner claims another found
    have claims : world.files.claims nonce = some (some owner) := claims
    rw [LockWorld.claimOwner, claims] at found
    exact (Option.some.inj found).symm
  cases effect with
  | nothing | createLock | makeClaim | publishClaim | removeClaim => exact removals
  | deleteLock =>
      apply removes
      intro owner found
      exact (allowed owner found).imp_right And.left
  | deleteClaimOwner nonce =>
      obtain ⟨owner, mine, claims⟩ := allowed
      apply removes
      intro another found
      rw [owned claims another found]
      exact .inl mine
  | renameClaim nonce stale =>
      obtain ⟨owner, dead, _, claims⟩ := allowed
      apply removes
      intro another found
      rw [owned claims another found]
      exact .inr dead

theorem Evolves.trans {middle later : LockWorld} (first : Evolves world middle other)
    (second : Evolves middle later other) : Evolves world later other where
  dead owner dead := second.dead owner (first.dead owner dead)
  nonces := List.Subset.trans first.nonces second.nonces
  lock own mine lock := second.lock own mine (first.lock own mine lock)
  claims own nonce mine claims := second.claims own nonce mine (first.claims own nonce mine claims)
  stale own existing mine dead claims lock := second.stale own existing mine (first.dead _ dead)
    (first.claims own _ mine claims) (first.stale own existing mine dead claims lock)
  claimed claimant nonce claimed := second.claimed claimant nonce (first.claimed claimant nonce claimed)

/-- A world stays safe when one process acts soundly and leaves the others what they need. -/
theorem LockWorld.IsSafe.step {later : LockWorld} (safe : world.IsSafe) (process : Nat)
    (untouched : ∀ other, other ≠ process → later.processes other = world.processes other)
    (evolves : ∀ other, other ≠ process → (world.processes other).alive = true →
      Evolves world later other)
    (acts : (later.processes process).alive = true →
      IsSound later process (later.processes process))
    (removals : ∀ removal ∈ later.removals, removal.IsHarmless) : later.IsSafe := by
  refine ⟨?_, removals⟩
  intro other alive
  by_cases same : other = process
  · subst same
    exact acts alive
  · rw [untouched other same] at alive ⊢
    exact (safe.processes other alive).evolve (evolves other same alive)

theorem setProcess_other (different : other ≠ process) :
    (world.setProcess process state).processes other = world.processes other :=
  Function.update_of_ne different ..

theorem setProcess_self : (world.setProcess process state).processes process = state :=
  Function.update_self ..

/-- A nonce is drawn for a call. -/
theorem LockWorld.IsSafe.call (safe : world.IsSafe) {nonce : Nat}
    (enabled : LockAction.Enabled world (.call process nonce)) :
    (LockAction.apply world (.call process nonce)).IsSafe := by
  obtain ⟨alive, idle, fresh⟩ := enabled
  have owners := (safe.processes process alive).owners
  have grows : ∀ {own}, Drawn world process own →
      Drawn (LockAction.apply world (.call process nonce)) process own :=
    fun drawn => ⟨drawn.process, List.mem_cons_of_mem _ drawn.nonce⟩
  apply safe.step process
  · exact fun other different => setProcess_other different
  · intro other _ _
    have evolves : Evolves world (world.setProcess process { world.processes process with
        activity := .mainLockPublish ⟨process, nonce⟩ 0 }) other := by
      apply setProcess_evolves
      exact fun dead => dead
    exact { evolves with nonces := List.subset_cons_self _ _ }
  · intro _
    show IsSound _ process (Function.update world.processes process _ process)
    rw [Function.update_self]
    refine ⟨⟨?_, ?_, ?_⟩, trivial⟩
    · exact fun own inside => ⟨grows (owners.callbacks own inside).1, (owners.callbacks own inside).2⟩
    · exact fun own known => ⟨grows (owners.abandoned own known).1, (owners.abandoned own known).2⟩
    · rintro _ ⟨⟩
      refine ⟨⟨rfl, List.mem_cons_self ..⟩, ?_, ?_⟩
      · exact fun inside => fresh (owners.callbacks _ inside).1.nonce
      · exact fun known => fresh (owners.abandoned _ known).1.nonce
  · exact safe.removals

/-- After its callback a call releases the lock that it has. -/
theorem LockWorld.IsSafe.finish (safe : world.IsSafe)
    (enabled : LockAction.Enabled world (.finish process own)) :
    (LockAction.apply world (.finish process own)).IsSafe := by
  obtain ⟨alive, idle, inside⟩ := enabled
  have owners := (safe.processes process alive).owners
  apply safe.step process
  · exact fun other different => setProcess_other different
  · intro other _ _
    apply setProcess_evolves
    exact fun dead => dead
  · intro _
    rw [LockAction.apply, setProcess_self]
    refine IsSound.evolve ?_ (setProcess_evolves (by exact fun dead => dead) process)
    refine ⟨⟨?_, ?_, ?_⟩, (owners.callbacks own inside).2⟩
    · exact fun another remains => owners.callbacks another (List.mem_filter.mp remains).1
    · intro another known
      obtain ⟨drawn, outside⟩ := owners.abandoned another known
      exact ⟨drawn, fun remains => outside (List.mem_filter.mp remains).1⟩
    · rintro _ ⟨⟩
      refine ⟨(owners.callbacks own inside).1, ?_, ?_⟩
      · intro remains
        exact of_decide_eq_true (List.mem_filter.mp remains).2 rfl
      · exact fun known => (owners.abandoned own known).2 inside
  · exact safe.removals

theorem LockWorld.IsSafe.advance (safe : world.IsSafe) {fate : CallFate} {answer : LockOwnerState}
    (enabled : LockAction.Enabled world (.advance process fate answer))
    (spares : SparesClaims world (.advance process fate answer)) :
    (LockAction.apply world (.advance process fate answer)).IsSafe := by
  have alive := enabled.1
  have goes := step_goes (safe.processes process alive) enabled spares
  rw [LockAction.apply]
  generalize (world.processes process).step world.files fate answer = result at goes
  have same : ((world.change process result.1).processes process).alive = false →
      result.2.alive = false := by
    rw [change_processes, goes.alive]
    exact fun dead => dead
  apply safe.step process
  · intro other different
    exact (setProcess_other different).trans (congrFun change_processes other)
  · intro other different living
    exact (change_evolves goes.allowed alive living different).trans (setProcess_evolves same other)
  · intro _
    rw [setProcess_self]
    exact goes.sound.evolve (setProcess_evolves same process)
  · exact change_removals goes.allowed safe.removals

theorem LockWorld.IsSafe.die (safe : world.IsSafe) : (LockAction.apply world (.die process)).IsSafe := by
  apply safe.step process
  · exact fun other different => setProcess_other different
  · exact fun other _ _ => setProcess_evolves (fun _ => rfl) other
  · intro alive
    rw [LockAction.apply, setProcess_self] at alive
    cases alive
  · exact safe.removals

/-- In every run in which no process renames a claim that another one took after the stale owner that it
read had released it, at most one call of a process that is alive has its callback running, and no lock
and no claim of another process that is alive is ever removed. -/
theorem private_mutation_exclusive
    (reached : (lockSystem.restrict SparesClaims).Reachable world) :
    (∀ first second, (world.processes first).alive = true → (world.processes second).alive = true →
      ∀ own ∈ (world.processes first).callbacks, ∀ another ∈ (world.processes second).callbacks,
        first = second ∧ own = another) ∧
      ∀ removal ∈ world.removals, removal.IsHarmless := by
  have safe : world.IsSafe := by
    apply reached.invariant
    · rintro world ⟨files, removals, idle⟩
      refine ⟨?_, ?_⟩
      · intro process _
        obtain ⟨abandoned, callbacks, activity⟩ := idle process
        refine ⟨⟨?_, ?_, ?_⟩, ?_⟩
        · rw [callbacks]
          exact fun _ outside => (List.not_mem_nil outside).elim
        · rw [abandoned]
          exact nofun
        · rw [activity]
          exact nofun
        · rw [activity]
          trivial
      · rw [removals]
        exact fun _ outside => (List.not_mem_nil outside).elim
    · rintro before action after _ safe ⟨spares, enabled, rfl⟩
      cases action with
      | call process nonce => exact safe.call enabled
      | advance process fate answer => exact safe.advance enabled spares
      | finish process own => exact safe.finish enabled
      | die process => exact safe.die
  refine ⟨?_, safe.removals⟩
  intro first second firstAlive secondAlive own inside another within
  obtain ⟨drawn, lock⟩ := (safe.processes first firstAlive).owners.callbacks own inside
  obtain ⟨later, same⟩ := (safe.processes second secondAlive).owners.callbacks another within
  have equal : own = another := Option.some.inj (lock.symm.trans same)
  exact ⟨drawn.process.symm.trans ((congrArg _ equal).trans later.process), equal⟩

section Sample

def sampleWorld : LockWorld where
  files := ⟨none, fun _ => none, fun _ _ => none⟩
  processes _ := ⟨true, none, [], .idle⟩
  nonces := []
  released := []
  removals := []

theorem sampleWorld_starts : lockSystem.start sampleWorld :=
  ⟨rfl, rfl, fun _ => ⟨rfl, rfl, rfl⟩⟩

/-- The steps that an action leads to, when it is enabled. -/
def LockAction.act (world : LockWorld) (action : LockAction) : Option LockWorld :=
  if action.Enabled world then some (action.apply world) else none

theorem act_steps (before : LockWorld) (action : LockAction) (after : LockWorld)
    (acted : action.act before = some after) : lockSystem.step before action after := by
  rw [LockAction.act] at acted
  split at acted
  · next enabled =>
      cases acted
      exact ⟨enabled, rfl⟩
  · cases acted

/-- A process makes so many steps, in which it finds every owner stale that it can. -/
def advances (process count : Nat) : List LockAction :=
  List.replicate count (.advance process .performed .stale)

/-- The first process dies with the lock, and the second one reclaims it. -/
def sampleReclaim : List LockAction :=
  [.call 0 0] ++ advances 0 1 ++ [.die 0, .call 1 1] ++ advances 1 12

def sampleRun (actions : List LockAction) : Option LockWorld :=
  actions.foldlM LockAction.act sampleWorld

/-- A run that spares the claims of others. -/
def sparingRun (actions : List LockAction) : Option LockWorld :=
  actions.foldlM (fun before action => if SparesClaims before action then action.act before else none)
    sampleWorld

theorem private_mutation_exclusive_sample : ∃ world, sparingRun sampleReclaim = some world ∧
    (world.processes 1).callbacks = [⟨1, 1⟩] ∧ ∀ removal ∈ world.removals, removal.IsHarmless := by
  have ran : (sparingRun sampleReclaim).any (fun world =>
      (world.processes 1).callbacks = [⟨1, 1⟩]) = true := by
    decide
  obtain ⟨world, found, holds⟩ := (Option.any_eq_true _ _).mp ran
  have reached : (lockSystem.restrict SparesClaims).Reachable world :=
    .run_restrict act_steps (.start sampleWorld_starts) found
  exact ⟨world, found, of_decide_eq_true holds, (private_mutation_exclusive reached).2⟩

/-- The first process dies with the lock; the third one finds it stale, the second one takes the claim,
and the fourth one reads that claim. -/
def sampleContention : List LockAction :=
  [.call 0 0] ++ advances 0 1 ++ [.die 0, .call 2 2] ++ advances 2 3 ++ [.call 1 1] ++ advances 1 5 ++
    [.call 3 3] ++ advances 3 5

/-- The second process gets the lock, releases its claim and dies; the third one takes the claim, the
fourth one renames it and takes it anew, and the third one deletes the owner file of the fourth. -/
def sampleRenamed : List LockAction :=
  sampleContention ++ advances 1 7 ++ [.die 1] ++ advances 2 5 ++ advances 3 4 ++ advances 2 1

/-- When the second process fails to delete the stale lock, the third one and the fourth one both get it. -/
def sampleShared : List LockAction :=
  sampleContention ++ advances 1 2 ++ [.advance 1 .failed .live] ++ advances 1 3 ++ [.die 1] ++
    advances 2 4 ++ advances 3 11 ++ advances 2 3

/-- What a run leads to is reachable. -/
theorem sampleRun_any {actions : List LockAction} {holds : LockWorld → Bool}
    (ran : (sampleRun actions).any holds = true) :
    ∃ world, lockSystem.Reachable world ∧ holds world = true := by
  obtain ⟨world, found, held⟩ := (Option.any_eq_true _ _).mp ran
  exact ⟨world, .run act_steps (.start sampleWorld_starts) found, held⟩

/-- A process may delete the claim of another one that is alive; and where a stale lock could not be
deleted once, two processes may have the lock. -/
theorem renamed_claim_shared :
    (∃ world, lockSystem.Reachable world ∧ ⟨2, ⟨3, 3⟩, true⟩ ∈ world.removals) ∧
      ∃ world, lockSystem.Reachable world ∧ (world.processes 2).alive = true ∧
        (world.processes 3).alive = true ∧ (world.processes 2).callbacks = [⟨2, 2⟩] ∧
          (world.processes 3).callbacks = [⟨3, 3⟩] := by
  constructor
  · have removed : (sampleRun sampleRenamed).any (fun world =>
        ⟨2, ⟨3, 3⟩, true⟩ ∈ world.removals) = true := by
      decide
    obtain ⟨world, reached, holds⟩ := sampleRun_any removed
    exact ⟨world, reached, of_decide_eq_true holds⟩
  · have shared : (sampleRun sampleShared).any (fun world => (world.processes 2).alive = true ∧
        (world.processes 3).alive = true ∧ (world.processes 2).callbacks = [⟨2, 2⟩] ∧
          (world.processes 3).callbacks = [⟨3, 3⟩]) = true := by
      decide
    obtain ⟨world, reached, holds⟩ := sampleRun_any shared
    exact ⟨world, reached, of_decide_eq_true holds⟩

end Sample

end Lcm.Locks
