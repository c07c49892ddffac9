import Lcm.Publication.Leases
import Lcm.Publication.Runs

namespace Lcm.Publication
open Text Interruptible

section Runs

variable {Digest Remote : Type} [DecidableEq Digest] {platform : PublicationPlatform Digest}
  {home : PublicationHome Digest Remote}

/-- The calls that abort no publication after the release of a guard. -/
def KeepsGuards (home : PublicationHome Digest Remote) : HomeAction Digest Remote → Prop :=
  HomeAction.Spares True False home

/-- In every run of calls without a late abort, a file is written only while every guard is held. -/
theorem files_change_under_guards
    (reached : ((publicationSystem platform).restrict KeepsGuards).Reachable home) :
    ∀ mutation ∈ home.mutations, mutation.IsGuarded := by
  have upright : Upright platform True False home := by
    apply reached.invariant
    · exact fun _ => start_upright
    · rintro before action after _ upright ⟨spares, rfl⟩
      exact upright.step spares
  intro mutation inside
  exact (upright.mutations mutation inside).2.resolve_left id

end Runs

section Sample

def sampleServer : LeaseServer (List UInt8) where
  rows _ := none
  lastToken := 0
  now := js "t0"
  expiry := js "t1"
  schedule := []
  changed := []

def sampleLeases : PublicationDriver (List UInt8) (LeaseServer (List UInt8)) :=
  leaseDriver (js "m1") (fun _ => ⟨1, 9, 1, 1⟩) true

def leasedHome (server : LeaseServer (List UInt8)) :
    PublicationHome (List UInt8) (LeaseServer (List UInt8)) where
  files := ⟨some (sampleFile [1] 1), none⟩
  materials _ := none
  journal := none
  history := []
  remote := server
  mutations := []
  edited := false
  released := false

/-- A publication that changes both files and guards a project. -/
def guardedPreparation : PreparePublication (List UInt8) where
  publicationId := js "p1"
  sourceBackend := .sqlite
  targetBackend := .postgresql
  material := ⟨⟨some (sampleFile [1] 1), none⟩, ⟨some (sampleFile [3] 2), some (sampleFile [2] 3)⟩⟩
  projects := [⟨js "local", js "remote", [7]⟩]

/-- The calls of some requests, each with its budget. -/
def leasedCalls (requests : List (PublicationRequest (List UInt8) × Option Nat)) :
    List (HomeAction (List UInt8) (LeaseServer (List UInt8))) :=
  requests.map fun request => .call sampleLeases request.1 request.2

/-- The home after the calls of some requests. -/
def leasedRun (home : PublicationHome (List UInt8) (LeaseServer (List UInt8)))
    (requests : List (PublicationRequest (List UInt8) × Option Nat)) :
    PublicationHome (List UInt8) (LeaseServer (List UInt8)) :=
  (leasedCalls requests).foldl (HomeAction.apply samplePlatform) home

theorem leasedHome_starts (server : LeaseServer (List UInt8)) :
    (publicationSystem samplePlatform).start (leasedHome server) := by
  refine ⟨rfl, rfl, ?_⟩
  intro journal stored
  cases stored

theorem leasedRun_reachable (server : LeaseServer (List UInt8))
    (requests : List (PublicationRequest (List UInt8) × Option Nat)) :
    (publicationSystem samplePlatform).Reachable (leasedRun (leasedHome server) requests) :=
  .fold (fun _ _ => rfl) _ (.start (leasedHome_starts server))

/-- Requests that abort nothing keep the guards. -/
theorem leasedRun_keepsGuards (server : LeaseServer (List UInt8))
    (requests : List (PublicationRequest (List UInt8) × Option Nat))
    (forward : ∀ request ∈ requests, request.1.disposition ≠ some .abort) :
    ((publicationSystem samplePlatform).restrict KeepsGuards).Reachable
      (leasedRun (leasedHome server) requests) := by
  apply StepSystem.Reachable.fold_restrict
  · exact fun _ _ => rfl
  · intro action inside home
    obtain ⟨request, requested, rfl⟩ := List.mem_map.mp inside
    intro disposition recovers journal stored
    refine ⟨fun _ => trivial, ?_⟩
    rintro ⟨aborts, _⟩
    exact forward request requested (recovers.trans (congrArg some aborts))
  · exact .start (leasedHome_starts server)

theorem files_change_under_guards_sample :
    let home := leasedRun (leasedHome sampleServer) [(.prepare guardedPreparation, none), (.resume, none)]
    home.mutations.length = 2 ∧ ∀ mutation ∈ home.mutations, mutation.IsGuarded :=
  ⟨by decide +kernel, files_change_under_guards (leasedRun_keepsGuards _ _ (by decide))⟩

/-- An abort after a release restores both files, while another machine may publish already. -/
theorem late_abort_unguarded :
    let home := leasedRun (leasedHome sampleServer)
      [(.prepare guardedPreparation, none), (.resume, some 15), (.abort, none)]
    (publicationSystem samplePlatform).Reachable home ∧
      (home.mutations.filter fun mutation => mutation.access = .restore ∧ mutation.released = true ∧
        mutation.journal.projects ≠ []).length = 2 ∧
        ¬ ∀ mutation ∈ home.mutations, mutation.IsGuarded := by
  have restored : ((leasedRun (leasedHome sampleServer)
      [(.prepare guardedPreparation, none), (.resume, some 15), (.abort, none)]).mutations.any
        fun mutation => mutation.released) = true := by
    decide +kernel
  refine ⟨leasedRun_reachable _ _, by decide +kernel, ?_⟩
  intro guarded
  obtain ⟨mutation, inside, released⟩ := List.any_eq_true.mp restored
  rw [(guarded mutation inside).unreleased] at released
  cases released

end Sample

end Lcm.Publication
