import Lcm.Library.PromiseChains
import Lcm.Library.StepSystem

namespace Lcm.Publication

abbrev LockToken := Nat

inductive AdmissionKind where
  | barrier
  | retained
  deriving DecidableEq

/-- Where a frame stands between its installation and its `finally` block. -/
inductive FramePhase where
  | installed
  | waiting
  | attempting
  | entered (token : LockToken)
  | callback (token : LockToken)
  | leaving (token : LockToken)
  | retrying
  | ended
  deriving DecidableEq

/-- An entry of the map of tails; the index of its frame is its identity. -/
structure AppendBarrierTail where
  frame : Nat
  tail : Promise Nat
  holdsPublicationAdmission : Bool
  latestAdmittedFrame : Option (Promise Nat)
  deriving DecidableEq

structure Frame where
  kind : AdmissionKind
  token : Option LockToken
  bounded : Bool
  holdsPublicationAdmission : Bool
  entry : AppendBarrierTail
  predecessorToWait : Option (Promise Nat)
  previousSettled : Bool
  phase : FramePhase
  deriving DecidableEq

/-- The append admission of one home in one process. -/
structure Admission where
  activePublicationLockTokens : List LockToken
  revokedTokens : List LockToken
  activeAppendBarrierTokens : List LockToken
  frames : List Frame
  appendBarrierTail : Option AppendBarrierTail
  settled : List (Promise Nat × Promise Nat)
  deriving DecidableEq

structure AppendBarrierContext where
  sameHome : Bool
  token : LockToken
  deriving DecidableEq

structure AdmissionCall where
  kind : AdmissionKind
  inherited : Option AppendBarrierContext
  lockToken : Option LockToken
  bounded : Bool
  invalidOptions : Bool
  deriving DecidableEq

/-- What the clock and the signal of a call say when they are read. -/
structure AdmissionReading where
  past : Bool
  aborted : Bool
  deriving DecidableEq

inductive AdmissionEvent where
  | grant (token : LockToken)
  | revoke (token : LockToken)
  | call (call : AdmissionCall) (reading : AdmissionReading)
  | settle (first second : Promise Nat)
  | notice (frame : Nat)
  | resume (frame : Nat) (reading : AdmissionReading)
  | wake (frame : Nat) (reading : AdmissionReading)
  | giveUp (frame : Nat) (aborted : Bool)
  | enter (frame : Nat) (token : LockToken)
  | effects (frame : Nat) (reading : AdmissionReading)
  | fail (frame : Nat) (contention : Bool) (reading : AdmissionReading)
  | retry (frame : Nat) (reading : AdmissionReading)
  | return (frame : Nat)
  | finish (frame : Nat)
  | clean (frame : Nat)
  deriving DecidableEq

namespace Frame

/-- The promise of a frame is resolved by its `finally` block. -/
def ended (frame : Frame) : Bool :=
  frame.phase = .ended

/-- Whether a frame is in its admission attempts. -/
def started (frame : Frame) : Bool :=
  match frame.phase with
  | .attempting | .entered _ | .callback _ | .leaving _ | .retrying => true
  | .installed | .waiting | .ended => false

/-- A call stops at its deadline if it has one; only retained calls have a signal. -/
def stops (frame : Frame) (reading : AdmissionReading) : Bool :=
  (frame.kind = .retained && reading.aborted) || (frame.bounded && reading.past)

/-- What a frame waits for, resolved where there is nothing. -/
def predecessor (frame : Frame) : Promise Nat :=
  frame.predecessorToWait.getD .resolved

end Frame

namespace Admission

def ended (state : Admission) (index : Nat) : Bool :=
  state.frames[index]?.any Frame.ended

def isSettled (state : Admission) (promise : Promise Nat) : Bool :=
  promise.isSettled state.ended state.settled

def holdsActivePublicationLock (state : Admission) (token : LockToken) : Bool :=
  token ∈ state.activePublicationLockTokens

/-- `none` stands for a permit mismatch. -/
def contextualAppendLockToken (state : Admission) (inherited : Option AppendBarrierContext)
    (explicit : Option LockToken) : Option (Option LockToken) :=
  match inherited with
  | none => some explicit
  | some context =>
      if !context.sameHome || explicit.any (· ≠ context.token) then none
      else if !state.holdsActivePublicationLock context.token then none
      else if context.token ∈ state.activeAppendBarrierTokens then some (some context.token)
      else none

/-- How a call goes on: it fails, it runs its callback at once, or it installs a frame. -/
inductive Entry where
  | failed
  | direct (token : LockToken)
  | queued (token : Option LockToken)
  deriving DecidableEq

def barrierEntry (state : Admission) (call : AdmissionCall) : Entry :=
  match state.contextualAppendLockToken call.inherited call.lockToken with
  | none => .failed
  | some contextual =>
      match contextual.filter (· ∈ state.activeAppendBarrierTokens) with
      | some token => if state.holdsActivePublicationLock token then .direct token else .failed
      | none => if call.invalidOptions then .failed else .queued contextual

def retainedEntry (state : Admission) (call : AdmissionCall) (reading : AdmissionReading) : Entry :=
  if call.invalidOptions || reading.aborted || (call.bounded && reading.past) then .failed
  else
    match call.lockToken with
    | none => .queued none
    | some token =>
        if !state.holdsActivePublicationLock token then .failed
        else if token ∈ state.activeAppendBarrierTokens then .direct token
        else .queued (some token)

def entryOf (state : Admission) (call : AdmissionCall) (reading : AdmissionReading) : Entry :=
  match call.kind with
  | .barrier => state.barrierEntry call
  | .retained => state.retainedEntry call reading

/-- A call that is not direct installs its frame behind the tail of the home. -/
def install (state : Admission) (call : AdmissionCall) (token : Option LockToken) : Frame :=
  let holdsPublicationAdmission := token.any state.holdsActivePublicationLock
  let predecessor := state.appendBarrierTail
  let previous := (predecessor.map AppendBarrierTail.tail).getD .resolved
  let previousAdmittedFrame := predecessor.bind AppendBarrierTail.latestAdmittedFrame
  let current : Promise Nat := .pending state.frames.length
  let predecessorToWait := if holdsPublicationAdmission then previousAdmittedFrame else some previous
  { kind := call.kind
    token := token
    bounded := call.bounded
    holdsPublicationAdmission := holdsPublicationAdmission
    entry :=
      { frame := state.frames.length
        tail := .chained previous current
        holdsPublicationAdmission := holdsPublicationAdmission
        latestAdmittedFrame :=
          if holdsPublicationAdmission then
            some ((previousAdmittedFrame.map fun admitted => .chained admitted current).getD current)
          else previousAdmittedFrame }
    predecessorToWait := predecessorToWait
    -- A reaction of a settled promise runs before the frame resumes.
    previousSettled := state.isSettled (predecessorToWait.getD .resolved)
    phase := .installed }

def enqueue (state : Admission) (frame : Frame) : Admission :=
  { state with frames := state.frames ++ [frame], appendBarrierTail := some frame.entry }

def receive (state : Admission) (call : AdmissionCall) (reading : AdmissionReading) : Admission :=
  match state.entryOf call reading with
  | .failed | .direct _ => state
  | .queued token => state.enqueue (state.install call token)

/-- One frame goes on where the change applies to it. -/
def onFrame (state : Admission) (index : Nat) (change : Frame → Option Frame) : Option Admission :=
  (state.frames[index]?.bind change).map fun next => { state with frames := state.frames.set index next }

def granted (state : Admission) (token : LockToken) : Option Admission :=
  if token ∈ state.activePublicationLockTokens ∨ token ∈ state.revokedTokens then none
  else some { state with activePublicationLockTokens := token :: state.activePublicationLockTokens }

def revoked (state : Admission) (token : LockToken) : Admission :=
  { state with
    activePublicationLockTokens := state.activePublicationLockTokens.filter (· ≠ token)
    revokedTokens := token :: state.revokedTokens }

end Admission

namespace Frame

/-- After the microtask behind the installation a frame waits for its predecessor unless that is settled;
only a retained call is checked again when it does not wait. -/
def resumed (frame : Frame) (reading : AdmissionReading) : Option Frame :=
  if frame.phase ≠ .installed then none
  else if frame.previousSettled then
    some { frame with phase := if frame.kind = .retained && frame.stops reading then .ended else .attempting }
  else some { frame with phase := if frame.stops reading then .ended else .waiting }

/-- The predecessor settled first. -/
def woken (settled : Promise Nat → Bool) (reading : AdmissionReading) (frame : Frame) : Option Frame :=
  if frame.phase = .waiting ∧ settled frame.predecessor then
    some { frame with phase := if frame.stops reading then .ended else .attempting }
  else none

/-- The signal or the timer was first. -/
def gaveUp (aborted : Bool) (frame : Frame) : Option Frame :=
  if frame.phase = .waiting ∧ (if aborted then frame.kind = .retained else frame.bounded) then
    some { frame with phase := .ended }
  else none

def noticed (settled : Promise Nat → Bool) (frame : Frame) : Option Frame :=
  if settled frame.predecessor then some { frame with previousSettled := true } else none

/-- The attempt holds the publication lock: with the token of the call, or with one of its own. -/
def admitted (token : LockToken) (frame : Frame) : Option Frame :=
  if frame.phase = .attempting ∧ frame.token.all (· = token) then
    some { frame with phase := .entered token }
  else none

/-- The attempt also holds the append lock; a retained call is checked before its callback starts. -/
def inEffects (reading : AdmissionReading) (frame : Frame) : Option Frame :=
  match frame.phase with
  | .entered token =>
      if frame.kind = .retained && frame.stops reading then none
      else some { frame with phase := .callback token }
  | _ => none

/-- An attempt that failed before its callback; only a barrier with a deadline waits out a contention. -/
def failed (contention : Bool) (reading : AdmissionReading) (frame : Frame) : Option Frame :=
  match frame.phase with
  | .attempting | .entered _ =>
      some { frame with
        phase :=
          if frame.kind = .barrier && contention && frame.bounded && !reading.past then .retrying
          else .ended }
  | _ => none

def retried (reading : AdmissionReading) (frame : Frame) : Option Frame :=
  if frame.phase = .retrying then
    some { frame with phase := if reading.past then .ended else .attempting }
  else none

def returned (frame : Frame) : Option Frame :=
  match frame.phase with
  | .callback token => some { frame with phase := .leaving token }
  | _ => none

def finished (frame : Frame) : Option Frame :=
  match frame.phase with
  | .leaving _ => some { frame with phase := .ended }
  | _ => none

/-- The token that a frame's attempt holds. -/
def held (frame : Frame) : Option LockToken :=
  match frame.phase with
  | .entered token | .callback token | .leaving token => some token
  | .installed | .waiting | .attempting | .retrying | .ended => none

/-- The token that the attempt of a tokenless frame made. -/
def own (frame : Frame) : Option LockToken :=
  if frame.token.isNone then frame.held else none

end Frame

namespace Admission

/-- An attempt that ends revokes the token that it made. -/
def revokeOwn (state : Admission) (index : Nat) : Admission :=
  match state.frames[index]?.bind Frame.own with
  | none => state
  | some token => state.revoked token

def entering (state : Admission) (index : Nat) (token : LockToken) : Option Admission :=
  match state.frames[index]?.bind Frame.token with
  | some _ => if state.holdsActivePublicationLock token then some state else none
  | none => state.granted token

/-- The cleanup behind a tail deletes the entry of the map only if it is still its own. -/
def cleaned (state : Admission) (index : Nat) : Option Admission :=
  match state.frames[index]? with
  | none => none
  | some frame =>
      if state.isSettled frame.entry.tail then
        some { state with appendBarrierTail := state.appendBarrierTail.filter (· ≠ frame.entry) }
      else none

def act (state : Admission) : AdmissionEvent → Option Admission
  | .grant token => state.granted token
  | .revoke token => some (state.revoked token)
  | .call call reading => some (state.receive call reading)
  | .settle first second =>
      if state.isSettled first ∧ state.isSettled second then
        some { state with settled := (first, second) :: state.settled }
      else none
  | .notice index => state.onFrame index (Frame.noticed state.isSettled)
  | .resume index reading => state.onFrame index (Frame.resumed · reading)
  | .wake index reading => state.onFrame index (Frame.woken state.isSettled reading)
  | .giveUp index aborted => state.onFrame index (Frame.gaveUp aborted)
  | .enter index token => (state.entering index token).bind (·.onFrame index (Frame.admitted token))
  | .effects index reading =>
      (state.onFrame index (Frame.inEffects reading)).map fun next =>
        { next with
          activeAppendBarrierTokens :=
            (state.frames[index]?.bind Frame.held).toList ++ next.activeAppendBarrierTokens }
  | .fail index contention reading =>
      (state.revokeOwn index).onFrame index (Frame.failed contention reading)
  | .retry index reading => state.onFrame index (Frame.retried reading)
  | .return index =>
      (state.onFrame index Frame.returned).map fun next =>
        { next with
          activeAppendBarrierTokens := next.activeAppendBarrierTokens.filter
            fun token => some token ≠ state.frames[index]?.bind Frame.held }
  | .finish index => (state.revokeOwn index).onFrame index Frame.finished
  | .clean index => state.cleaned index

/-- Nothing is queued at first. -/
def initial : Admission :=
  { activePublicationLockTokens := []
    revokedTokens := []
    activeAppendBarrierTokens := []
    frames := []
    appendBarrierTail := none
    settled := [] }

/-- Calls, locks, timers, signals and microtasks in any order. -/
def system : StepSystem Admission AdmissionEvent where
  start state := state = initial
  step before event after := before.act event = some after

end Admission

end Lcm.Publication
