import Lcm.Daemon.InvocationCoordinator
import Lcm.Library.StepSystem

namespace Lcm.Daemon
open Text

/-- A synchronous step on a coordinator; calls may come from abort listeners, timers may not. -/
inductive CoordinatorAction where
  | start (now : Int) (input : InvocationInput)
  | heartbeat (now : Int) (input : InvocationInput)
  | admitWork (now : Int) (input : InvocationInput)
  | acquireCommit (now : Int) (input : InvocationInput)
  | release (now : Int) (index : Nat)
  | cancel (now : Int) (input : InvocationInput)
  | finish (now : Int) (input : InvocationInput)
  | snapshot (now : Int) (invocationId : InvocationId)
  | shutdown (now : Int)
  | leaseTimer (now : Int) (record : RecordRef)
  | reaperTimer (now : Int)
  | abortWait (record : RecordRef) (call : CallId)
  | resume (now : Int)

/-- A timer that is not set and listeners that do not run have no step. -/
def coordinatorAct (options : CoordinatorOptions) (state : Coordinator) :
    CoordinatorAction → Option Coordinator
  | .start now input => some (state.start options now input).1
  | .heartbeat now input => some (state.heartbeat options now input).1
  | .admitWork now input => some (state.admitWork options now input).1
  | .acquireCommit now input => some (state.acquireCommit options now input).1
  | .release now index => some (state.release options now index)
  | .cancel now input => some (state.cancel options now input).1
  | .finish now input => some (state.finish options now input).1
  | .snapshot now invocationId => some (state.snapshot options now invocationId).1
  | .shutdown now => some (state.shutdown options now)
  | .leaseTimer now record =>
      if state.stack = [] ∧ (state.heap record).leaseTimer = true then
        some (state.leaseTimer options now record)
      else none
  | .reaperTimer now =>
      if state.stack = [] ∧ state.reaperTimer = true then some (state.reap now) else none
  | .abortWait record call => if state.stack = [] then some (state.abortWait record call) else none
  | .resume now => if state.stack = [] then none else some (state.resume options now)

/-- The coordinator system starts without records. -/
def coordinatorSystem (options : CoordinatorOptions) : StepSystem Coordinator CoordinatorAction where
  start state := state = .empty
  step before action after := coordinatorAct options before action = some after

/-- A cancel, an expired lease or a shutdown hit a record before it drained. -/
def hitBeforeDrain (record : RecordRef) : List Event → Bool
  | [] => false
  | .hit other _ :: rest => if other = record then true else hitBeforeDrain record rest
  | .drained other _ :: rest => if other = record then false else hitBeforeDrain record rest

namespace Coordinator

/-- No later invocation was started under the identifier of a record. -/
def Newest (state : Coordinator) (record : RecordRef) : Prop :=
  ∀ other < state.created,
    (state.heap other).invocationId = (state.heap record).invocationId → other ≤ record

instance (state : Coordinator) (record : RecordRef) : Decidable (state.Newest record) :=
  inferInstanceAs (Decidable (∀ other < state.created, _ → _))

/-- A record that a transition still has to cancel is the newest one of its identifier, and it is
registered or was drained as a cancelled one. -/
def Settleable (state : Coordinator) (record : RecordRef) : Prop :=
  state.Newest record ∧
    (state.registered record = true ∨ (state.heap record).drainState = some .cancelled)

instance (state : Coordinator) (record : RecordRef) : Decidable (state.Settleable record) :=
  inferInstanceAs (Decidable (_ ∧ _))

end Coordinator

/-- The records that an interrupted call still has to cancel. -/
def Frame.unsettled : Frame → List RecordRef
  | .shutdownSignal => []
  | .transition record (.shutdown rest) => record :: rest
  | .transition record _ => [record]

/-- A call goes on after its listeners only while all its records can be settled. -/
def ListenersKept (state : Coordinator) : CoordinatorAction → Prop
  | .resume _ => ∀ frame ∈ state.stack.head?, ∀ record ∈ frame.unsettled, state.Settleable record
  | _ => True

instance (state : Coordinator) (action : CoordinatorAction) :
    Decidable (ListenersKept state action) := by
  cases action <;> unfold ListenersKept <;> infer_instance

end Lcm.Daemon
