import Lcm.Library.KeyedTable
import Lcm.Text.JsString

namespace Lcm.Daemon
open Text

inductive InvocationCommand where
  | compact
  deriving DecidableEq, Repr

inductive InvocationLiveState where
  | active
  | cancelling
  deriving DecidableEq, Repr

inductive InvocationTerminalState where
  | finished
  | cancelled
  deriving DecidableEq, Repr

inductive InvocationState where
  | live (state : InvocationLiveState)
  | terminal (state : InvocationTerminalState)
  deriving DecidableEq, Repr

abbrev InvocationId := JsString

/-- The value of one field of a request. -/
inductive FieldValue where
  | undefined
  | null
  | string (value : JsString)
  | other
  deriving DecidableEq

structure InvocationInput where
  isObject : Bool
  invocationId : FieldValue
  invocation_id : FieldValue
  command : FieldValue
  daemonInstanceId : FieldValue
  daemon_instance_id : FieldValue
  deriving DecidableEq

structure InvocationTarget where
  invocationId : InvocationId
  command : InvocationCommand
  daemonInstanceId : JsString
  deriving DecidableEq

structure InvocationSnapshot where
  invocationId : InvocationId
  command : InvocationCommand
  daemonInstanceId : JsString
  state : InvocationState
  activeCount : Int
  workCount : Int
  commitCount : Int
  leaseExpiresAt : Option Int
  deriving DecidableEq

inductive CoordinatorErrorCode where
  | invalidInput
  | wrongInstance
  | unknownInvocation
  | duplicate
  | cancelled
  | shutdown
  deriving DecidableEq, Repr

structure InvocationCoordinatorError where
  code : CoordinatorErrorCode
  message : JsString
  statusCode : Nat
  deriving DecidableEq

/-- A call throws an error of the coordinator or the abort error of its signal. -/
inductive Failure where
  | coordinator (error : InvocationCoordinatorError)
  | aborted
  deriving DecidableEq

def Failure.of (code : CoordinatorErrorCode) (message : String) (statusCode : Nat) : Failure :=
  .coordinator ⟨code, js message, statusCode⟩

/-- The validated options of a coordinator; no lifetime stands for an unbounded one. -/
structure CoordinatorOptions where
  daemonInstanceId : JsString
  leaseMs : Nat
  tombstoneTtlMs : Option Nat
  maxTombstones : Nat

/-- Records are objects, and a reference tells two records of one identifier apart. -/
abbrev RecordRef := Nat

/-- A pending call of cancel or finish. -/
abbrev CallId := Nat

inductive PermitKind where
  | work
  | commit
  deriving DecidableEq, Repr

structure InvocationRecord where
  invocationId : InvocationId
  command : InvocationCommand
  daemonInstanceId : JsString
  state : InvocationLiveState
  aborted : Bool
  workCount : Int
  commitCount : Int
  leaseExpiresAt : Int
  leaseTimer : Bool
  drainState : Option InvocationTerminalState
  zeroWaiters : List CallId

/-- A tombstone also names the record that it stands for. -/
structure Tombstone where
  snapshot : InvocationSnapshot
  expiresAt : Option Int
  record : RecordRef

structure Permit where
  record : RecordRef
  kind : PermitKind
  released : Bool
  deriving DecidableEq

/-- What ends the life of an invocation before it is finished. -/
inductive Cause where
  | cancel
  | lease
  | shutdown
  deriving DecidableEq, Repr

/-- The history of the records: what hit them, and the snapshots with which they drained. -/
inductive Event where
  | hit (record : RecordRef) (cause : Cause)
  | drained (record : RecordRef) (snapshot : InvocationSnapshot)
  deriving DecidableEq

/-- A call of cancel or finish that resolved with a snapshot. -/
structure Resolution where
  call : CallId
  record : RecordRef
  snapshot : InvocationSnapshot
  deriving DecidableEq

/-- The rest of a transition, once the abort listeners of its record have returned. -/
inductive Caller where
  | lease
  | heartbeat
  | cancel (call : CallId)
  | shutdown (rest : List RecordRef)
  deriving DecidableEq

/-- A dispatch of abort listeners that is in progress. -/
inductive Frame where
  | shutdownSignal
  | transition (record : RecordRef) (caller : Caller)
  deriving DecidableEq

/-- The state of a coordinator between two synchronous steps; the innermost dispatch comes first. -/
structure Coordinator where
  heap : RecordRef → InvocationRecord
  created : RecordRef
  records : KeyedTable InvocationId RecordRef
  tombstones : KeyedTable InvocationId Tombstone
  permits : List Permit
  shuttingDown : Bool
  shutdownAborted : Bool
  shutdownPromise : Option Nat
  globalZeroWaiters : List Nat
  settled : List Nat
  promises : Nat
  reaperTimer : Bool
  calls : CallId
  resolved : List Resolution
  history : List Event
  stack : List Frame

def canonicalUuid (value : JsString) : Bool :=
  value.length = 36 && value.zipIdx.all fun (unit, index) =>
    if index ∈ [8, 13, 18, 23] then unit == 45 else isHexDigit unit

/-- The first of two fields that has a value. -/
def FieldValue.orElse (first second : FieldValue) : FieldValue :=
  match first with
  | .undefined | .null => second
  | _ => first

/-- A request names a canonical invocation of this daemon. -/
def normalizeTarget (options : CoordinatorOptions) (input : InvocationInput) :
    Except Failure InvocationTarget :=
  if !input.isObject then
    .error (.of .invalidInput "invalid invocation control input" 400)
  else
    match input.invocationId.orElse input.invocation_id,
      input.daemonInstanceId.orElse input.daemon_instance_id with
    | .string invocationId, .string daemonInstanceId =>
        if !canonicalUuid invocationId || !canonicalUuid daemonInstanceId then
          .error (.of .invalidInput "invocation identifiers must be canonical UUIDs" 400)
        else if input.command ≠ .string (js "compact") then
          .error (.of .invalidInput "unsupported invocation command" 400)
        else if daemonInstanceId ≠ options.daemonInstanceId then
          .error (.of .wrongInstance "invocation belongs to another daemon instance" 409)
        else .ok ⟨invocationId, .compact, daemonInstanceId⟩
    | _, _ => .error (.of .invalidInput "invocation identifiers must be canonical UUIDs" 400)

namespace InvocationRecord

def activeCount (record : InvocationRecord) : Int := record.workCount + record.commitCount

def snapshot (record : InvocationRecord) : InvocationSnapshot where
  invocationId := record.invocationId
  command := record.command
  daemonInstanceId := record.daemonInstanceId
  state := .live record.state
  activeCount := record.activeCount
  workCount := record.workCount
  commitCount := record.commitCount
  leaseExpiresAt := some record.leaseExpiresAt

def terminal (record : InvocationRecord) (state : InvocationTerminalState) : InvocationSnapshot :=
  { record.snapshot with state := .terminal state, leaseExpiresAt := none }

end InvocationRecord

namespace Coordinator

/-- A coordinator starts without records. -/
def empty : Coordinator where
  heap _ := ⟨[], .compact, [], .active, false, 0, 0, 0, false, none, []⟩
  created := 0
  records := .empty
  tombstones := .empty
  permits := []
  shuttingDown := false
  shutdownAborted := false
  shutdownPromise := none
  globalZeroWaiters := []
  settled := []
  promises := 0
  reaperTimer := false
  calls := 0
  resolved := []
  history := []
  stack := []

/-- An update of one record. -/
def update (state : Coordinator) (record : RecordRef) (change : InvocationRecord → InvocationRecord) :
    Coordinator :=
  { state with heap := Function.update state.heap record (change (state.heap record)) }

/-- A record is registered while the map holds it under its identifier. -/
def registered (state : Coordinator) (record : RecordRef) : Bool :=
  state.records.get? (state.heap record).invocationId = some record

def clearLeaseTimer (state : Coordinator) (record : RecordRef) : Coordinator :=
  state.update record fun fields => { fields with leaseTimer := false }

def scheduleLease (state : Coordinator) (record : RecordRef) : Coordinator :=
  state.update record fun fields => { fields with leaseTimer := true }

def globalZero (state : Coordinator) : Bool :=
  state.records.rows.all fun record => (state.heap record).activeCount = 0

/-- The shutdown calls that wait resolve when no record is in use, and the first one stops the
reaper. -/
def resolveGlobalZero (state : Coordinator) : Coordinator :=
  if state.globalZero then
    { state with
      globalZeroWaiters := []
      settled := state.settled ++ state.globalZeroWaiters
      reaperTimer := state.reaperTimer && state.globalZeroWaiters.isEmpty }
  else state

/-- The reaper runs while a tombstone has an end. -/
def scheduleReaper (state : Coordinator) : Coordinator :=
  { state with
    reaperTimer := state.reaperTimer || state.tombstones.rows.any (·.expiresAt.isSome) }

def expiry (options : CoordinatorOptions) (now : Int) : Option Int :=
  options.tombstoneTtlMs.map fun lifetime => now + lifetime

/-- A drained record leaves the map, a tombstone takes its place, and its waiters resolve. -/
def terminalize (options : CoordinatorOptions) (now : Int) (state : Coordinator)
    (record : RecordRef) (terminalState : InvocationTerminalState) :
    Coordinator × InvocationSnapshot :=
  let fields := state.heap record
  let terminal := fields.terminal terminalState
  let buried := state.tombstones.put fields.invocationId ⟨terminal, expiry options now, record⟩
  let cleared := state.update record fun fields =>
    { fields with leaseTimer := false, state := .cancelling, zeroWaiters := [] }
  let moved : Coordinator := { cleared with
    records := state.records.erase fields.invocationId
    tombstones := buried.dropOldest (buried.entries.length - options.maxTombstones)
    resolved := state.resolved ++ fields.zeroWaiters.map fun call => ⟨call, record, terminal⟩
    history := state.history ++ [.drained record terminal] }
  (moved.scheduleReaper.resolveGlobalZero, terminal)

def maybeDrainRecord (options : CoordinatorOptions) (now : Int) (state : Coordinator)
    (record : RecordRef) : Coordinator × InvocationSnapshot :=
  let fields := state.heap record
  if fields.activeCount ≠ 0 then (state.resolveGlobalZero, fields.snapshot)
  else match fields.drainState with
    | none => (state.resolveGlobalZero, fields.snapshot)
    | some drainState => state.terminalize options now record drainState

/-- The part of a cancelling transition before the abort listeners run. -/
def markCancelling (state : Coordinator) (record : RecordRef)
    (drainState : InvocationTerminalState) (cause : Cause) : Coordinator :=
  { state.update record fun fields =>
      { fields with leaseTimer := false, state := .cancelling, drainState := some drainState } with
    history := state.history ++ [.hit record cause] }

/-- The abort listeners of a record start, and the rest of the transition waits for them. -/
def dispatch (state : Coordinator) (record : RecordRef) (caller : Caller) : Coordinator :=
  { state.update record fun fields => { fields with aborted := true } with
    stack := .transition record caller :: state.stack }

/-- A call of cancel or finish resolves with the snapshot of a record that left the map, and waits
otherwise. -/
def settleCall (state : Coordinator) (record : RecordRef) (call : CallId)
    (transitioned : InvocationSnapshot) : Coordinator :=
  if state.registered record then
    state.update record fun fields => { fields with zeroWaiters := fields.zeroWaiters ++ [call] }
  else { state with resolved := state.resolved ++ [⟨call, record, transitioned⟩] }

/-- The end of a shutdown call, once it has cancelled every record. -/
def shutdownEnd (state : Coordinator) : Coordinator :=
  if state.globalZero then
    { state with
      reaperTimer := false
      shutdownPromise := some state.promises
      promises := state.promises + 1
      settled := state.settled ++ [state.promises] }
  else
    { state with
      shutdownPromise := some state.promises
      promises := state.promises + 1
      globalZeroWaiters := state.globalZeroWaiters ++ [state.promises] }.resolveGlobalZero

/-- A shutdown cancels the given records in order and stops at each one that has listeners. -/
def shutdownLoop (options : CoordinatorOptions) (now : Int) :
    Coordinator → List RecordRef → Coordinator
  | state, [] => state.shutdownEnd
  | state, record :: rest =>
      let marked := state.markCancelling record .cancelled .shutdown
      if (state.heap record).aborted then
        shutdownLoop options now (marked.maybeDrainRecord options now record).1 rest
      else marked.dispatch record (.shutdown rest)

/-- The rest of a transition after the abort listeners of its record. -/
def completeTransition (options : CoordinatorOptions) (now : Int) (state : Coordinator)
    (record : RecordRef) (caller : Caller) : Coordinator :=
  let (drained, transitioned) := state.maybeDrainRecord options now record
  match caller with
  | .lease | .heartbeat => drained
  | .cancel call => drained.settleCall record call transitioned
  | .shutdown rest => shutdownLoop options now drained rest

/-- A transition to cancelling aborts the signal of its record once. -/
def transitionToCancel (options : CoordinatorOptions) (now : Int) (state : Coordinator)
    (record : RecordRef) (drainState : InvocationTerminalState) (cause : Cause) (caller : Caller) :
    Coordinator :=
  let marked := state.markCancelling record drainState cause
  if (state.heap record).aborted then marked.completeTransition options now record caller
  else marked.dispatch record caller

/-- A found tombstone lives on and becomes the newest one. -/
def refreshTombstone (options : CoordinatorOptions) (now : Int) (state : Coordinator)
    (invocationId : InvocationId) (tombstone : Tombstone) : Coordinator :=
  { state with
    tombstones := (state.tombstones.erase invocationId).put invocationId
      { tombstone with expiresAt := expiry options now } }

/-- What the maps hold under an identifier. -/
inductive Found where
  | record (record : RecordRef)
  | tombstone (tombstone : Tombstone)

def lookup (options : CoordinatorOptions) (now : Int) (state : Coordinator)
    (invocationId : InvocationId) : Coordinator × Except Failure Found :=
  match state.records.get? invocationId with
  | some record => (state, .ok (.record record))
  | none =>
      match state.tombstones.get? invocationId with
      | some tombstone =>
          (state.refreshTombstone options now invocationId tombstone, .ok (.tombstone tombstone))
      | none => (state, .error (.of .unknownInvocation "unknown invocation" 404))

def start (options : CoordinatorOptions) (now : Int) (state : Coordinator)
    (input : InvocationInput) : Coordinator × Except Failure InvocationSnapshot :=
  match normalizeTarget options input with
  | .error failure => (state, .error failure)
  | .ok target =>
      if state.shuttingDown then
        (state, .error (.of .shutdown "daemon shutdown is in progress" 503))
      else if (state.records.get? target.invocationId).isSome ||
          (state.tombstones.get? target.invocationId).isSome then
        (state, .error (.of .duplicate "invocation is already active or replayed" 409))
      else
        let fields : InvocationRecord :=
          ⟨target.invocationId, target.command, target.daemonInstanceId, .active, false, 0, 0,
            now + options.leaseMs, false, none, []⟩
        let registered := { state with
          heap := Function.update state.heap state.created fields
          created := state.created + 1
          records := state.records.put target.invocationId state.created }
        (registered.scheduleLease state.created, .ok fields.snapshot)

def heartbeat (options : CoordinatorOptions) (now : Int) (state : Coordinator)
    (input : InvocationInput) : Coordinator × Except Failure InvocationSnapshot :=
  match normalizeTarget options input with
  | .error failure => (state, .error failure)
  | .ok target =>
      match state.lookup options now target.invocationId with
      | (looked, .error failure) => (looked, .error failure)
      | (looked, .ok (.tombstone _)) =>
          (looked, .error (.of .cancelled "invocation is terminal" 409))
      | (looked, .ok (.record record)) =>
          let fields := looked.heap record
          if fields.state ≠ .active then
            (looked, .error (.of .cancelled "invocation is cancelling" 409))
          else if now ≥ fields.leaseExpiresAt then
            (looked.transitionToCancel options now record .cancelled .lease .heartbeat,
              .error (.of .cancelled "invocation lease has expired" 409))
          else
            let renewed := (looked.update record fun fields =>
              { fields with leaseExpiresAt := now + options.leaseMs }).scheduleLease record
            (renewed, .ok (renewed.heap record).snapshot)

/-- One more or one less permit of a kind. -/
def addCount (kind : PermitKind) (change : Int) (fields : InvocationRecord) : InvocationRecord :=
  match kind with
  | .work => { fields with workCount := fields.workCount + change }
  | .commit => { fields with commitCount := fields.commitCount + change }

/-- An active invocation admits work or a commit under a permit. -/
def admitPermit (options : CoordinatorOptions) (now : Int) (state : Coordinator) (input : InvocationInput)
    (kind : PermitKind) : Coordinator × Except Failure Permit :=
  match normalizeTarget options input with
  | .error failure => (state, .error failure)
  | .ok target =>
      if state.shutdownAborted then (state, .error .aborted)
      else match state.lookup options now target.invocationId with
        | (looked, .error failure) => (looked, .error failure)
        | (looked, .ok (.tombstone _)) =>
            (looked, .error (.of .cancelled "invocation is already terminal" 409))
        | (looked, .ok (.record record)) =>
            if (looked.heap record).state ≠ .active then
              (looked, .error (.of .cancelled "invocation is cancelling" 409))
            else
              ({ looked.update record (addCount kind 1) with
                permits := looked.permits ++ [⟨record, kind, false⟩] }, .ok ⟨record, kind, false⟩)

def admitWork (options : CoordinatorOptions) (now : Int) (state : Coordinator)
    (input : InvocationInput) : Coordinator × Except Failure Permit :=
  state.admitPermit options now input .work

def acquireCommit (options : CoordinatorOptions) (now : Int) (state : Coordinator)
    (input : InvocationInput) : Coordinator × Except Failure Permit :=
  state.admitPermit options now input .commit

/-- A permit is released once. -/
def release (options : CoordinatorOptions) (now : Int) (state : Coordinator) (index : Nat) :
    Coordinator :=
  match state.permits[index]? with
  | none => state
  | some permit =>
      if permit.released then state
      else
        let counted := { state.update permit.record (addCount permit.kind (-1)) with
          permits := state.permits.modify index fun permit => { permit with released := true } }
        (counted.maybeDrainRecord options now permit.record).1

def cancel (options : CoordinatorOptions) (now : Int) (state : Coordinator)
    (input : InvocationInput) : Coordinator × Except Failure CallId :=
  match normalizeTarget options input with
  | .error failure => (state, .error failure)
  | .ok target =>
      match state.lookup options now target.invocationId with
      | (looked, .error failure) => (looked, .error failure)
      | (looked, .ok (.tombstone tombstone)) =>
          ({ looked with
            calls := looked.calls + 1
            resolved := looked.resolved ++ [⟨looked.calls, tombstone.record, tombstone.snapshot⟩] },
            .ok looked.calls)
      | (looked, .ok (.record record)) =>
          ({ looked with calls := looked.calls + 1 }.transitionToCancel options now record .cancelled
            .cancel (.cancel looked.calls), .ok looked.calls)

def finish (options : CoordinatorOptions) (now : Int) (state : Coordinator)
    (input : InvocationInput) : Coordinator × Except Failure CallId :=
  match normalizeTarget options input with
  | .error failure => (state, .error failure)
  | .ok target =>
      match state.lookup options now target.invocationId with
      | (looked, .error failure) => (looked, .error failure)
      | (looked, .ok (.tombstone tombstone)) =>
          ({ looked with
            calls := looked.calls + 1
            resolved := looked.resolved ++ [⟨looked.calls, tombstone.record, tombstone.snapshot⟩] },
            .ok looked.calls)
      | (looked, .ok (.record record)) =>
          let called := { looked with calls := looked.calls + 1 }.clearLeaseTimer record
          let marked :=
            if (called.heap record).drainState = some .cancelled then called
            else called.update record fun fields =>
              { fields with state := .cancelling, drainState := some .finished }
          let (drained, transitioned) := marked.maybeDrainRecord options now record
          (drained.settleCall record looked.calls transitioned, .ok looked.calls)

def snapshot (options : CoordinatorOptions) (now : Int) (state : Coordinator)
    (invocationId : InvocationId) : Coordinator × Except Failure InvocationSnapshot :=
  if !canonicalUuid invocationId then
    (state, .error (.of .invalidInput "invocation identifier must be a canonical UUID" 400))
  else match state.lookup options now invocationId with
    | (looked, .error failure) => (looked, .error failure)
    | (looked, .ok (.record record)) => (looked, .ok (looked.heap record).snapshot)
    | (looked, .ok (.tombstone tombstone)) => (looked, .ok tombstone.snapshot)

/-- Only a first call of shutdown runs; later ones wait for its promise. -/
def shutdown (options : CoordinatorOptions) (now : Int) (state : Coordinator) : Coordinator :=
  if state.shutdownPromise.isSome then state
  else
    let began := { state with shuttingDown := true, shutdownAborted := true }
    if state.shutdownAborted then shutdownLoop options now began began.records.rows
    else { began with stack := .shutdownSignal :: began.stack }

/-- The timer of a lease fires. -/
def leaseTimer (options : CoordinatorOptions) (now : Int) (state : Coordinator)
    (record : RecordRef) : Coordinator :=
  let fired := state.clearLeaseTimer record
  if !fired.registered record || (fired.heap record).state ≠ .active then fired
  else if now < (fired.heap record).leaseExpiresAt then fired.scheduleLease record
  else fired.transitionToCancel options now record .cancelled .lease .lease

/-- The timer of the reaper fires. -/
def reap (now : Int) (state : Coordinator) : Coordinator :=
  { state with
    reaperTimer := false
    tombstones := state.tombstones.retain fun entry =>
      !entry.2.expiresAt.any fun expiresAt => expiresAt ≤ now }.scheduleReaper

/-- An aborted wait leaves the waiters of its record. -/
def abortWait (state : Coordinator) (record : RecordRef) (call : CallId) : Coordinator :=
  state.update record fun fields => { fields with zeroWaiters := fields.zeroWaiters.erase call }

/-- The innermost abort listeners return and the interrupted call goes on. -/
def resume (options : CoordinatorOptions) (now : Int) (state : Coordinator) : Coordinator :=
  match state.stack with
  | [] => state
  | .shutdownSignal :: rest =>
      shutdownLoop options now { state with stack := rest } state.records.rows
  | .transition record caller :: rest =>
      { state with stack := rest }.completeTransition options now record caller

end Coordinator

end Lcm.Daemon
