import Lcm.Library.KeyedTable
import Lcm.Text.JsString

namespace Lcm.Daemon
open Text

structure PassiveEventProcessorDefaults where
  priorityDelayMs : Nat
  debounceMs : Nat
  activeProjectThreshold : Nat
  backgroundBatchLimit : Nat
  positive : 0 < backgroundBatchLimit

def eventsUnprocessedBatchLimit : Nat := 500

structure PassiveEventNotification where
  cwd : JsString
  priority : Option Int
  pendingCount : Option Int

/-- A local outbox. No project stands for a missing or an empty one. -/
structure EventSidecar where
  path : JsString
  cwd : Option JsString
  unprocessed : Nat
  scanError : Bool
  scanSkipped : Bool
  deriving DecidableEq

structure PromoteResult where
  terminal : Bool
  noUnprocessedEvents : Bool
  promoted : Nat
  skipped : Nat
  errors : Nat
  deriving DecidableEq

structure PassiveEventReplicationResult where
  uploaded : Nat
  applied : Nat
  acknowledged : Nat
  quarantined : Nat
  pruned : Nat
  backlog : Bool
  deriving DecidableEq

abbrev TimerHandle := Nat

inductive TimerCallback
  | debounce (cwd : JsString)
  | sweep
  | sweepInterval
  | followUp
  deriving DecidableEq

/-- What a running drain, sweep or follow-up waits for. The projects of a drain that it has not begun wait with it. -/
inductive Activity
  | promoting (cwd : JsString) (batch : Nat) (waiting : List JsString)
  | logging (waiting : List JsString)
  | haltLogging (waiting : List JsString)
  | nextProject (waiting : List JsString)
  | drainThrown
  | scanning
  | sweepPromoting (rest all : List EventSidecar)
  | sweepLogging (rest all : List EventSidecar)
  | sweepHaltLogging
  | replicating (sidecar : EventSidecar) (rest : List EventSidecar)
  | replicateLogging (rest : List EventSidecar)
  | sweepEnding
  deriving DecidableEq

/-- The projects that wait in the list of a drain. -/
def Activity.waiting : Activity → List JsString
  | .promoting _ _ waiting | .logging waiting | .haltLogging waiting | .nextProject waiting => waiting
  | _ => []

/-- A rejection, which may be the refusal of a frozen backend. -/
structure Rejection where
  frozenBackendMismatch : Bool
  deriving DecidableEq

/-- How what an activity waits for is settled. -/
inductive Answer
  | promotion (outcome : Except Rejection PromoteResult)
  | logger (rejects : Bool)
  | scan (sidecars : Option (List EventSidecar))
  | replication (outcome : Except Rejection (Option PassiveEventReplicationResult))
  | resumed

/-- The processor with the armed timers of the event loop and what runs. The notified projects are those without
a promotion attempt since. -/
structure PassiveEventProcessor where
  debounceTimers : KeyedTable JsString TimerHandle
  debounceDeadlines : KeyedTable JsString Int
  queuedProjects : List JsString
  draining : Bool
  stopped : Bool
  halted : Bool
  sweepTimer : Option TimerHandle
  sweepInterval : Option TimerHandle
  sweepStartIndex : Nat
  replicationBacklog : KeyedTable JsString EventSidecar
  followUpTimer : Option TimerHandle
  followUpDeferred : Bool
  timers : KeyedTable TimerHandle TimerCallback
  nextHandle : TimerHandle
  running : List Activity
  notified : List JsString

namespace PassiveEventProcessor

def initial : PassiveEventProcessor :=
  ⟨.empty, .empty, [], false, false, false, none, none, 0, .empty, none, false, .empty, 0, [], []⟩

section Timers

variable (processor : PassiveEventProcessor)

def clearTimers (handles : List TimerHandle) : PassiveEventProcessor :=
  { processor with timers := processor.timers.retain fun timer => timer.1 ∉ handles }

/-- A timer may fire at any time once it is set. -/
def setTimer (callback : TimerCallback) : PassiveEventProcessor :=
  { processor with
    timers := processor.timers.put processor.nextHandle callback, nextHandle := processor.nextHandle + 1 }

def scheduleProject (cwd : JsString) (delayMs : Nat) (now : Int) : PassiveEventProcessor :=
  let deadline := now + delayMs
  if (processor.debounceDeadlines.get? cwd).any (· ≤ deadline) then processor
  else
    let armed := (processor.clearTimers (processor.debounceTimers.get? cwd).toList).setTimer (.debounce cwd)
    { armed with
      debounceTimers := armed.debounceTimers.put cwd processor.nextHandle,
      debounceDeadlines := armed.debounceDeadlines.put cwd deadline }

/-- The projects of a list are scheduled one after another. -/
def scheduleProjects (projects : List JsString) (delayMs : Nat) (now : Int) : PassiveEventProcessor :=
  projects.foldl (fun processor cwd => processor.scheduleProject cwd delayMs now) processor

def scheduleSweep : PassiveEventProcessor :=
  { (processor.clearTimers processor.sweepTimer.toList).setTimer .sweep with
    sweepTimer := some processor.nextHandle }

def scheduleReplicationFollowUp (deferred : Bool) : PassiveEventProcessor :=
  let cleared := { processor.clearTimers processor.followUpTimer.toList with followUpTimer := none }
  if cleared.stopped || cleared.halted || cleared.replicationBacklog.entries.isEmpty then cleared
  else
    { cleared.setTimer .followUp with
      followUpDeferred := deferred, followUpTimer := some cleared.nextHandle }

def clearScheduledWork : PassiveEventProcessor :=
  let handles := processor.debounceTimers.rows ++ processor.followUpTimer.toList ++ processor.sweepTimer.toList ++
    processor.sweepInterval.toList
  { processor.clearTimers handles with
    debounceTimers := .empty, debounceDeadlines := .empty, queuedProjects := [], replicationBacklog := .empty,
    followUpTimer := none, sweepTimer := none, sweepInterval := none }

/-- The halt before it is logged. -/
def haltForBackendMismatch : PassiveEventProcessor := { processor with halted := true }.clearScheduledWork

def stop : PassiveEventProcessor := { processor with stopped := true }.clearScheduledWork

def start : PassiveEventProcessor :=
  if processor.stopped then processor
  else
    let swept := processor.scheduleSweep
    { swept.setTimer .sweepInterval with sweepInterval := some swept.nextHandle }

/-- An attempt to promote a project begins. -/
def attempt (cwd : JsString) : PassiveEventProcessor :=
  { processor with notified := processor.notified.filter (· ≠ cwd) }

def queue (cwd : JsString) : PassiveEventProcessor :=
  { processor with
    queuedProjects :=
      if cwd ∈ processor.queuedProjects then processor.queuedProjects else processor.queuedProjects ++ [cwd] }

end Timers

section Activities

variable (defaults : PassiveEventProcessorDefaults) (replicates : Bool) (processor : PassiveEventProcessor)
variable (now : Int)

def finishDrain : PassiveEventProcessor :=
  let ended := { processor with draining := false }
  if ended.stopped then ended else ended.scheduleProjects ended.queuedProjects defaults.debounceMs now

/-- The end of a sweep or a follow-up. -/
def finishSweep : PassiveEventProcessor := (processor.finishDrain defaults now).scheduleReplicationFollowUp false

/-- The loop of a drain over its projects. -/
def drainProjects (waiting : List JsString) : PassiveEventProcessor × Option Activity :=
  match waiting with
  | [] => (processor.finishDrain defaults now, none)
  | cwd :: waiting =>
      if processor.halted then (processor.finishDrain defaults now, none)
      else (processor.attempt cwd, some (.promoting cwd 0 waiting))

def drainQueuedProjects : PassiveEventProcessor × Option Activity :=
  if processor.stopped then (processor, none)
  else if processor.draining then
    (processor.scheduleProjects processor.queuedProjects defaults.debounceMs now, none)
  else
    { processor with draining := true, queuedProjects := [] }.drainProjects defaults now processor.queuedProjects

/-- A promotion of a drain is settled. -/
def promotionSettled (cwd : JsString) (batch : Nat) (waiting : List JsString)
    (outcome : Except Rejection PromoteResult) : PassiveEventProcessor × Option Activity :=
  match outcome with
  | .error error =>
      if error.frozenBackendMismatch then (processor.haltForBackendMismatch, some (.haltLogging waiting))
      else (processor, some (.logging waiting))
  | .ok result =>
      let remaining := eventsUnprocessedBatchLimit ≤ result.promoted + result.skipped ∨ 0 < result.errors
      if result.terminal ∨ result.noUnprocessedEvents ∨ ¬ remaining then (processor, some (.nextProject waiting))
      else if batch + 1 < defaults.backgroundBatchLimit then
        (processor.attempt cwd, some (.promoting cwd (batch + 1) waiting))
      else (if processor.stopped then processor else processor.queue cwd, some (.nextProject waiting))

/-- The loop of a replication over the sidecars. -/
def replicateRest : List EventSidecar → PassiveEventProcessor × Option Activity
  | [] => (processor, some .sweepEnding)
  | sidecar :: rest =>
      if processor.stopped || processor.halted then (processor, some .sweepEnding)
      else if sidecar.scanError || sidecar.scanSkipped || sidecar.cwd.isNone then replicateRest rest
      else (processor, some (.replicating sidecar rest))

def replicateSidecars (sidecars : List EventSidecar) : PassiveEventProcessor × Option Activity :=
  if replicates then processor.replicateRest sidecars else (processor, some .sweepEnding)

/-- The loop of a sweep over the sidecars. -/
def sweepRest (all : List EventSidecar) : List EventSidecar → PassiveEventProcessor × Option Activity
  | [] => processor.replicateSidecars replicates all
  | sidecar :: rest =>
      if processor.stopped then (processor.finishSweep defaults now, none)
      else if sidecar.scanError || sidecar.scanSkipped || sidecar.unprocessed = 0 then sweepRest all rest
      else
        match sidecar.cwd with
        | none => sweepRest all rest
        | some cwd => (processor.attempt cwd, some (.sweepPromoting rest all))

def runSweep : PassiveEventProcessor × Option Activity :=
  if processor.stopped || processor.halted then (processor, none)
  else if processor.draining then (processor.scheduleSweep, none)
  else ({ processor with draining := true }, some .scanning)

def runReplicationFollowUp : PassiveEventProcessor × Option Activity :=
  if processor.stopped || processor.halted then (processor, none)
  else if processor.draining then (processor.scheduleReplicationFollowUp processor.followUpDeferred, none)
  else if !processor.queuedProjects.isEmpty && !processor.followUpDeferred then
    (processor.scheduleReplicationFollowUp true, none)
  else { processor with draining := true }.replicateSidecars replicates processor.replicationBacklog.rows

/-- A scan ends a sweep when it rejects. -/
def scanSettled (sidecars : Option (List EventSidecar)) : PassiveEventProcessor × Option Activity :=
  match sidecars with
  | none => (processor.finishSweep defaults now, none)
  | some sidecars =>
      let attempted := (sidecars.filter fun sidecar => !sidecar.scanSkipped).length
      { processor with sweepStartIndex := processor.sweepStartIndex + max 1 attempted }.sweepRest defaults replicates
        now sidecars sidecars

def sweepPromotionSettled (rest all : List EventSidecar) (outcome : Except Rejection PromoteResult) :
    PassiveEventProcessor × Option Activity :=
  match outcome with
  | .error error =>
      if error.frozenBackendMismatch then (processor.haltForBackendMismatch, some .sweepHaltLogging)
      else (processor, some (.sweepLogging rest all))
  | .ok _ => processor.sweepRest defaults replicates now all rest

/-- A saturated pass earns a follow-up when it settled rows. -/
def replicationSettled (sidecar : EventSidecar) (rest : List EventSidecar)
    (outcome : Except Rejection (Option PassiveEventReplicationResult)) : PassiveEventProcessor × Option Activity :=
  let dropped := { processor with replicationBacklog := processor.replicationBacklog.erase sidecar.path }
  match outcome with
  | .error error =>
      if error.frozenBackendMismatch then (processor.haltForBackendMismatch, some .sweepHaltLogging)
      else (dropped, some (.replicateLogging rest))
  | .ok none => dropped.replicateRest rest
  | .ok (some result) =>
      let progress := 0 < result.uploaded + result.applied + result.acknowledged + result.quarantined + result.pruned
      if result.backlog ∧ progress then
        { processor with
          replicationBacklog := processor.replicationBacklog.put sidecar.path sidecar }.replicateRest rest
      else dropped.replicateRest rest

/-- An activity goes on when what it waits for is settled. -/
def resume (activity : Activity) (answer : Answer) : Option (PassiveEventProcessor × Option Activity) :=
  match activity, answer with
  | .promoting cwd batch waiting, .promotion outcome =>
      some (processor.promotionSettled defaults cwd batch waiting outcome)
  | .logging waiting, .logger rejects =>
      some (processor, some (if rejects then .drainThrown else .nextProject waiting))
  | .haltLogging waiting, .logger rejects =>
      some (processor, some (if rejects then .drainThrown else .nextProject waiting))
  | .nextProject waiting, .resumed => some (processor.drainProjects defaults now waiting)
  | .drainThrown, .resumed => some (processor.finishDrain defaults now, none)
  | .scanning, .scan sidecars => some (processor.scanSettled defaults replicates now sidecars)
  | .sweepPromoting rest all, .promotion outcome =>
      some (processor.sweepPromotionSettled defaults replicates now rest all outcome)
  | .sweepLogging rest all, .logger rejects =>
      some (if rejects then (processor.finishSweep defaults now, none)
        else processor.sweepRest defaults replicates now all rest)
  | .sweepHaltLogging, .logger _ => some (processor, some .sweepEnding)
  | .replicating sidecar rest, .replication outcome => some (processor.replicationSettled sidecar rest outcome)
  | .replicateLogging rest, .logger _ => some (processor.replicateRest rest)
  | .sweepEnding, .resumed => some (processor.finishSweep defaults now, none)
  | _, _ => none

end Activities

section Actions

variable (defaults : PassiveEventProcessorDefaults) (replicates : Bool) (processor : PassiveEventProcessor)
variable (validateCwd : JsString → Option JsString)

def normalizePriority (value : Option Int) : Option Int := value.filter fun value => 1 ≤ value ∧ value ≤ 3

def normalizePendingCount (value : Option Int) : Nat := (value.getD 0).toNat

/-- A notification of a project that is not valid throws before it changes anything. -/
def notify (input : PassiveEventNotification) (now : Int) : PassiveEventProcessor :=
  if processor.stopped || processor.halted then processor
  else
    match validateCwd input.cwd with
    | none => processor
    | some cwd =>
        let delay := if normalizePriority input.priority = some 1 ∨
            defaults.activeProjectThreshold ≤ normalizePendingCount input.pendingCount
          then defaults.priorityDelayMs else defaults.debounceMs
        { (processor.queue cwd).scheduleProject cwd delay now with notified := cwd :: processor.notified }

/-- A timer that fires is no longer armed, unless it repeats. -/
def fire (handle : TimerHandle) (now : Int) : TimerCallback → PassiveEventProcessor × Option Activity
  | .debounce cwd =>
      { processor.clearTimers [handle] with
        debounceTimers := processor.debounceTimers.erase cwd,
        debounceDeadlines := processor.debounceDeadlines.erase cwd }.drainQueuedProjects defaults now
  | .sweep => { processor.clearTimers [handle] with sweepTimer := none }.runSweep
  | .sweepInterval => processor.runSweep
  | .followUp => { processor.clearTimers [handle] with followUpTimer := none }.runReplicationFollowUp replicates

/-- A new activity runs beside those that run. -/
def launch (launched : PassiveEventProcessor × Option Activity) : PassiveEventProcessor :=
  { launched.1 with running := processor.running ++ launched.2.toList }

end Actions

inductive Action
  | start
  | stop
  | notify (input : PassiveEventNotification) (now : Int)
  | fire (handle : TimerHandle) (now : Int)
  | flushOnce (now : Int)
  | resume (index : Nat) (answer : Answer) (now : Int)

def step (defaults : PassiveEventProcessorDefaults) (replicates : Bool) (validateCwd : JsString → Option JsString)
    (processor : PassiveEventProcessor) : Action → Option PassiveEventProcessor
  | .start => some processor.start
  | .stop => some processor.stop
  | .notify input now => some (processor.notify defaults validateCwd input now)
  | .fire handle now => do
      let callback ← processor.timers.get? handle
      some (processor.launch (processor.fire defaults replicates handle now callback))
  | .flushOnce now => some (processor.launch (processor.drainQueuedProjects defaults now))
  | .resume index answer now => do
      let activity ← processor.running[index]?
      let (resumed, next) ← processor.resume defaults replicates now activity answer
      some { resumed with
        running := processor.running.take index ++ next.toList ++ processor.running.drop (index + 1) }

end PassiveEventProcessor

end Lcm.Daemon
