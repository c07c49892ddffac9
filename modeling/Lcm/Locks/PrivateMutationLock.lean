import Mathlib.Logic.Function.Basic
import Lcm.Library.StepSystem

namespace Lcm.Locks

/-- The content of a lock file. A nonce is drawn anew for every call, and a process is told from another
one with its number by its start time. -/
structure PrivateMutationLockOwner where
  process : Nat
  nonce : Nat
  deriving DecidableEq

/-- What the probe of an owner answers. -/
inductive LockOwnerState where
  | live
  | stale
  | ambiguous
  deriving DecidableEq

/-- Whether a call of the file system is performed. A read may also find that the file was replaced. -/
inductive CallFate where
  | performed
  | failed
  | identityChanged
  deriving DecidableEq

/-- A claim directory, which is empty or has the file of its owner. -/
abbrev ClaimDirectory := Option PrivateMutationLockOwner

/-- The lock file, the reclaim claims under the nonce of the stale owner, and the claims that were
renamed, under the nonce of their own stale owner too. -/
structure LockFiles where
  lock : Option PrivateMutationLockOwner
  claims : Nat → Option ClaimDirectory
  tombstones : Nat → Nat → Option ClaimDirectory

/-- The call of the file system that a process makes next, or its probe of an owner. -/
inductive LockActivity where
  | idle
  | mainLockPublish (own : PrivateMutationLockOwner) (retries : Nat)
  | mainLockOwnerRead (own : PrivateMutationLockOwner) (retries : Nat)
  | absenceCheck (own : PrivateMutationLockOwner) (retries : Nat)
  | abandonedLockDelete (own existing : PrivateMutationLockOwner)
  | mainLockProbe (own existing : PrivateMutationLockOwner)
  | claimMkdir (own existing : PrivateMutationLockOwner) (renamed : Bool)
  | reclaimOwnerPublish (own existing : PrivateMutationLockOwner)
  | claimRmdir (own existing : PrivateMutationLockOwner)
  | claimOwnerRead (own existing : PrivateMutationLockOwner)
  | claimProbe (own existing claimant : PrivateMutationLockOwner)
  | claimRename (own existing claimant : PrivateMutationLockOwner)
  | claimRemovalRead (own existing : PrivateMutationLockOwner)
  | staleLockRead (own existing : PrivateMutationLockOwner)
  | staleLockDelete (own existing : PrivateMutationLockOwner)
  | successorLockCreate (own existing : PrivateMutationLockOwner)
  | claimReleaseRead (own existing : PrivateMutationLockOwner) (successorPublished : Bool)
  | claimReleaseDelete (own existing : PrivateMutationLockOwner) (successorPublished : Bool)
  | claimReleaseRmdir (own existing : PrivateMutationLockOwner) (successorPublished : Bool)
  | mainLockReleaseRead (own : PrivateMutationLockOwner)
  | mainLockReleaseDelete (own : PrivateMutationLockOwner)
  | recoveryRead (own : PrivateMutationLockOwner)
  | recoveryDelete (own : PrivateMutationLockOwner)
  deriving DecidableEq

/-- A process with the entry of its abandoned lock, the owners of the calls whose callback is running, and
what it does now. -/
structure LockProcess where
  alive : Bool
  abandoned : Option PrivateMutationLockOwner
  callbacks : List PrivateMutationLockOwner
  activity : LockActivity

/-- What a call changes in the file system. -/
inductive FileEffect where
  | nothing
  | createLock (own : PrivateMutationLockOwner)
  | deleteLock
  | makeClaim (nonce : Nat)
  | publishClaim (nonce : Nat) (own : PrivateMutationLockOwner)
  | deleteClaimOwner (nonce : Nat)
  | removeClaim (nonce : Nat)
  | renameClaim (nonce stale : Nat)

namespace LockProcess

variable (process : LockProcess)

/-- A call goes on with another activity. -/
def goOn (activity : LockActivity) : FileEffect × LockProcess := (.nothing, { process with activity })

/-- A call throws. -/
def throws : FileEffect × LockProcess := process.goOn .idle

/-- The callback of a call begins. -/
def enters (own : PrivateMutationLockOwner) : LockProcess :=
  { process with callbacks := own :: process.callbacks, activity := .idle }

/-- The owner of a lock that could not be deleted is kept for the next call of the process. -/
def abandons (own : PrivateMutationLockOwner) : LockProcess :=
  { process with abandoned := some own, activity := .idle }

def forgets (activity : LockActivity) : LockProcess := { process with abandoned := none, activity }

/-- A call whose successor is published succeeds even if it leaves its claim behind. -/
def settles (own : PrivateMutationLockOwner) (successorPublished : Bool) : LockProcess :=
  if successorPublished then process.enters own else { process with activity := .idle }

end LockProcess

def maxDisappearedOwnerReadRetries : Nat := 1

/-- A lock that disappeared is tried again, but not for ever. -/
def retryDisappeared (process : LockProcess) (own : PrivateMutationLockOwner) (retries : Nat) :
    FileEffect × LockProcess :=
  if maxDisappearedOwnerReadRetries ≤ retries then process.throws
  else process.goOn (.mainLockPublish own (retries + 1))

section Next

variable (files : LockFiles) (process : LockProcess) (fate : CallFate)

/-- The owner that was read may be one that this process abandoned. -/
def readExisting (own existing : PrivateMutationLockOwner) : FileEffect × LockProcess :=
  match process.abandoned with
  | none => process.goOn (.mainLockProbe own existing)
  | some abandoned =>
      if existing = abandoned then process.goOn (.abandonedLockDelete own existing)
      else (.nothing, process.forgets (.mainLockProbe own existing))

def acquireStep (answer : LockOwnerState) : FileEffect × LockProcess :=
  match process.activity with
  | .mainLockPublish own retries =>
      if fate ≠ .performed then process.throws
      else if files.lock.isNone then (.createLock own, { process.enters own with abandoned := none })
      else process.goOn (.mainLockOwnerRead own retries)
  | .mainLockOwnerRead own retries =>
      match fate, files.lock with
      | .failed, _ => process.throws
      | .identityChanged, _ => process.goOn (.absenceCheck own retries)
      | .performed, none => retryDisappeared process own retries
      | .performed, some existing => readExisting process own existing
  | .absenceCheck own retries =>
      if fate = .performed ∧ files.lock.isNone then retryDisappeared process own retries
      else process.throws
  | .abandonedLockDelete own _ =>
      if fate ≠ .performed then process.throws
      else (.deleteLock, process.forgets (.mainLockPublish own 0))
  | .mainLockProbe own existing =>
      if answer = .stale then process.goOn (.claimMkdir own existing false) else process.throws
  | _ => (.nothing, process)

/-- The claim on a stale lock is taken, from a stale claimant too. -/
def claimStep (answer : LockOwnerState) : FileEffect × LockProcess :=
  match process.activity with
  | .claimMkdir own existing renamed =>
      if fate ≠ .performed then process.throws
      else if (files.claims existing.nonce).isNone then
        (.makeClaim existing.nonce, { process with activity := .reclaimOwnerPublish own existing })
      else if renamed then process.throws
      else process.goOn (.claimOwnerRead own existing)
  | .reclaimOwnerPublish own existing =>
      if fate = .performed ∧ (files.claims existing.nonce).all Option.isNone then
        (.publishClaim existing.nonce own, { process with activity := .claimRemovalRead own existing })
      else process.goOn (.claimRmdir own existing)
  | .claimRmdir _ existing =>
      if fate = .performed ∧ files.claims existing.nonce = some none then
        (.removeClaim existing.nonce, { process with activity := .idle })
      else process.throws
  | .claimOwnerRead own existing =>
      match fate, files.claims existing.nonce with
      | .performed, some (some claimant) => process.goOn (.claimProbe own existing claimant)
      | _, _ => process.throws
  | .claimProbe own existing claimant =>
      if answer = .stale then process.goOn (.claimRename own existing claimant) else process.throws
  | .claimRename own existing claimant =>
      if fate = .performed ∧ (files.claims existing.nonce).isSome ∧
          (files.tombstones existing.nonce claimant.nonce).all Option.isNone then
        (.renameClaim existing.nonce claimant.nonce,
          { process with activity := .claimMkdir own existing true })
      else process.throws
  | _ => (.nothing, process)

/-- The stale lock is replaced under the claim, which is released in any case. -/
def reclaimStep : FileEffect × LockProcess :=
  match process.activity with
  | .claimRemovalRead own existing =>
      if fate = .performed ∧ files.claims existing.nonce = some (some own) then
        process.goOn (.staleLockRead own existing)
      else process.goOn (.claimReleaseRead own existing false)
  | .staleLockRead own existing =>
      if fate = .performed ∧ files.lock = some existing then process.goOn (.staleLockDelete own existing)
      else process.goOn (.claimReleaseRead own existing false)
  | .staleLockDelete own existing =>
      if fate = .performed ∧ files.lock.isSome then
        (.deleteLock, { process with activity := .successorLockCreate own existing })
      else process.goOn (.claimReleaseRead own existing false)
  | .successorLockCreate own existing =>
      if fate = .performed ∧ files.lock.isNone then
        (.createLock own, { process with activity := .claimReleaseRead own existing true })
      else process.goOn (.claimReleaseRead own existing false)
  | .claimReleaseRead own existing successorPublished =>
      if fate = .performed ∧ files.claims existing.nonce = some (some own) then
        process.goOn (.claimReleaseDelete own existing successorPublished)
      else (.nothing, process.settles own successorPublished)
  | .claimReleaseDelete own existing successorPublished =>
      if fate = .performed ∧ (files.claims existing.nonce).any Option.isSome then
        (.deleteClaimOwner existing.nonce,
          { process with activity := .claimReleaseRmdir own existing successorPublished })
      else (.nothing, process.settles own successorPublished)
  | .claimReleaseRmdir own existing successorPublished =>
      (if fate = .performed ∧ files.claims existing.nonce = some none then
        .removeClaim existing.nonce else .nothing, process.settles own successorPublished)
  | _ => (.nothing, process)

def releaseStep : FileEffect × LockProcess :=
  match process.activity with
  | .mainLockReleaseRead own =>
      if fate = .performed ∧ files.lock = some own then process.goOn (.mainLockReleaseDelete own)
      else process.goOn (.recoveryRead own)
  | .mainLockReleaseDelete own =>
      if fate = .performed ∧ files.lock.isSome then (.deleteLock, process.forgets .idle)
      else process.goOn (.recoveryRead own)
  | .recoveryRead own =>
      if fate ≠ .performed then (.nothing, process.abandons own)
      else if files.lock = some own then process.goOn (.recoveryDelete own)
      else (.nothing, process.forgets .idle)
  | .recoveryDelete own =>
      if fate ≠ .performed then (.nothing, process.abandons own)
      else (.deleteLock, process.forgets .idle)
  | _ => (.nothing, process)

/-- The activities of one call, one after another. -/
def LockProcess.step (answer : LockOwnerState) : FileEffect × LockProcess :=
  match process.activity with
  | .idle => (.nothing, process)
  | .mainLockPublish .. | .mainLockOwnerRead .. | .absenceCheck .. | .abandonedLockDelete ..
  | .mainLockProbe .. => acquireStep files process fate answer
  | .claimMkdir .. | .reclaimOwnerPublish .. | .claimRmdir .. | .claimOwnerRead .. | .claimProbe ..
  | .claimRename .. => claimStep files process fate answer
  | .claimRemovalRead .. | .staleLockRead .. | .staleLockDelete .. | .successorLockCreate ..
  | .claimReleaseRead .. | .claimReleaseDelete .. | .claimReleaseRmdir .. => reclaimStep files process fate
  | .mainLockReleaseRead .. | .mainLockReleaseDelete .. | .recoveryRead .. | .recoveryDelete .. =>
      releaseStep files process fate

end Next

/-- An owner whose file was deleted, or renamed with its claim, and whether its process was alive. -/
structure LockRemoval where
  remover : Nat
  owner : PrivateMutationLockOwner
  live : Bool
  deriving DecidableEq

/-- The processes over the files of one lock. For proofs the world records the nonces that were drawn, the
claims that their owners released, and the owners that were removed. -/
structure LockWorld where
  files : LockFiles
  processes : Nat → LockProcess
  nonces : List Nat
  released : List PrivateMutationLockOwner
  removals : List LockRemoval

namespace LockWorld

def remove (world : LockWorld) (remover : Nat) (owner : Option PrivateMutationLockOwner) : LockWorld :=
  { world with removals := owner.toList.map (fun owner =>
      ⟨remover, owner, (world.processes owner.process).alive⟩) ++ world.removals }

def setClaim (world : LockWorld) (nonce : Nat) (claim : Option ClaimDirectory) : LockWorld :=
  { world with files := { world.files with
      claims := Function.update world.files.claims nonce claim } }

def setTombstone (world : LockWorld) (nonce stale : Nat) (claim : Option ClaimDirectory) : LockWorld :=
  { world with files := { world.files with
      tombstones := Function.update world.files.tombstones nonce
        (Function.update (world.files.tombstones nonce) stale claim) } }

/-- The owner that a claim directory names. -/
def claimOwner (world : LockWorld) (nonce : Nat) : Option PrivateMutationLockOwner :=
  (world.files.claims nonce).join

/-- A process changes the files. -/
def change (world : LockWorld) (process : Nat) : FileEffect → LockWorld
  | .nothing => world
  | .createLock own => { world with files := { world.files with lock := some own } }
  | .deleteLock =>
      let removed := world.remove process world.files.lock
      { removed with files := { world.files with lock := none } }
  | .makeClaim nonce => world.setClaim nonce (some none)
  | .publishClaim nonce own => world.setClaim nonce (some (some own))
  | .deleteClaimOwner nonce =>
      let removed := world.remove process (world.claimOwner nonce)
      { removed.setClaim nonce (some none) with
        released := (world.claimOwner nonce).toList ++ world.released }
  | .removeClaim nonce => world.setClaim nonce none
  | .renameClaim nonce stale =>
      let removed := world.remove process (world.claimOwner nonce)
      (removed.setTombstone nonce stale (world.files.claims nonce)).setClaim nonce none

def setProcess (world : LockWorld) (process : Nat) (state : LockProcess) : LockWorld :=
  { world with processes := Function.update world.processes process state }

end LockWorld

/-- A call of a process begins, goes on, or its callback ends; or the process dies. -/
inductive LockAction where
  | call (process nonce : Nat)
  | advance (process : Nat) (fate : CallFate) (answer : LockOwnerState)
  | finish (process : Nat) (own : PrivateMutationLockOwner)
  | die (process : Nat)

namespace LockAction

/-- The owner that a process is about to probe. -/
def probed (world : LockWorld) (process : Nat) : Option PrivateMutationLockOwner :=
  match (world.processes process).activity with
  | .mainLockProbe _ existing => some existing
  | .claimProbe _ _ claimant => some claimant
  | _ => none

/-- Only a process that is alive acts, one call at a time; nonces are distinct, and only the owner of a
process that is dead is found stale. -/
def Enabled (world : LockWorld) : LockAction → Prop
  | .call process nonce => (world.processes process).alive = true ∧
      (world.processes process).activity = .idle ∧ nonce ∉ world.nonces
  | .advance process _ answer => (world.processes process).alive = true ∧
      (answer = .stale → ∀ owner ∈ probed world process, (world.processes owner.process).alive = false)
  | .finish process own => (world.processes process).alive = true ∧
      (world.processes process).activity = .idle ∧ own ∈ (world.processes process).callbacks
  | .die process => (world.processes process).alive = true

instance (world : LockWorld) : (action : LockAction) → Decidable (action.Enabled world)
  | .call .. | .advance .. | .finish .. | .die _ => by
      unfold Enabled
      infer_instance

def apply (world : LockWorld) : LockAction → LockWorld
  | .call process nonce =>
      let state := world.processes process
      { world.setProcess process { state with activity := .mainLockPublish ⟨process, nonce⟩ 0 } with
        nonces := nonce :: world.nonces }
  | .advance process fate answer =>
      let (effect, state) := (world.processes process).step world.files fate answer
      (world.change process effect).setProcess process state
  | .finish process own =>
      let state := world.processes process
      world.setProcess process { state with
        callbacks := state.callbacks.filter (· ≠ own)
        activity := .mainLockReleaseRead own }
  | .die process => world.setProcess process { world.processes process with alive := false }

end LockAction

/-- The runs that start without a lock. -/
def lockSystem : StepSystem LockWorld LockAction where
  start world := world.files = ⟨none, fun _ => none, fun _ _ => none⟩ ∧ world.removals = [] ∧
    ∀ process, (world.processes process).abandoned = none ∧ (world.processes process).callbacks = [] ∧
      (world.processes process).activity = .idle
  step world action after := action.Enabled world ∧ after = action.apply world

end Lcm.Locks
