import Lcm.Daemon.PassiveEventUploads
import Lcm.Hooks.EventIdentifiers

namespace Lcm.Daemon
open Text Hooks PassiveEvents

def localHookEventEnvelopeVersion : Nat := 1

def privacyRefusal : JsString := js "passive event requires redaction before replication"

/-- An error of the remote repository. A data error names a field and perhaps an event. -/
structure UploadError where
  message : JsString
  dataError : Option (Option JsString × JsString)
  deriving DecidableEq

/-- What another project holds of an event. -/
structure ReleaseAnswer where
  eventId : JsString
  outcome : ReleaseOutcome
  deriving DecidableEq

/-- How the remote repository answers the calls of one upload. The last two are the second insert and readback. -/
structure UploadRemote (Number : Type) where
  insertEvents : List (PassiveEventInput Number) → Except UploadError (List (PassiveEventRecord Number))
  readEvents : List PassiveEventKey → Except UploadError (List (PassiveEventRecord Number))
  releaseFromOtherProjects : List (PassiveEventInput Number) → Except UploadError (List ReleaseAnswer)
  insertAgain : List (PassiveEventInput Number) → Except UploadError (List (PassiveEventRecord Number))
  readAgain : List PassiveEventKey → Except UploadError (List (PassiveEventRecord Number))

/-- How a claimed row is settled in the local outbox. -/
inductive MarkKind
  | deliveryRetry (error : JsString)
  | deliveryQuarantined (reason : JsString)
  | replicated (inboxId : InboxId)
  | acknowledged (inboxId : InboxId)
  | quarantined (inboxId : InboxId) (reason : JsString)
  deriving DecidableEq

/-- A call that settles an event. -/
structure LocalMark where
  eventId : JsString
  attempts : Nat
  kind : MarkKind
  deriving DecidableEq

abbrev LocalEvent (Number : Type) := EventId × EventRow Number

structure UploadSummary where
  uploaded : Nat
  retried : Nat
  quarantined : Nat
  acknowledged : Nat
  backlog : Bool
  deriving DecidableEq

/-- The local outbox during an upload, with the calls so far and whether each changed a row. -/
structure UploadState (Number : Type) where
  table : EventsTable Number
  calls : List (LocalMark × Bool)
  summary : UploadSummary

/-- The options of the worker. The clock and the delays are read anew in each call. -/
structure UploadConfig (Number : Type) where
  platform : OutboxPlatform Number
  payload : PayloadPlatform Number
  machineId : JsString
  processId : JsString
  batchSize : Int
  staleClaimMs : Int
  quarantineAfterAttempts : Nat
  safeToTransmit : EventEnvelope Number → Bool
  clock : Nat → LocalClock
  retryAt : Nat → JsString → Nat → Option SqliteTime

section Marks

variable {Number : Type} (config : UploadConfig Number)

def UploadConfig.owner : JsString := config.processId ++ js ":local"

def supportsEnvelopeVersion (version : Nat) : Bool := 1 ≤ version && version ≤ localHookEventEnvelopeVersion

def sameEnvelope (event : EventEnvelope Number) (remote : PassiveEventRecord Number) : Bool :=
  event.machineId == some remote.machineId && event.eventUuid == remote.eventId &&
    event.eventVersion == remote.eventVersion && event.machineSequence == remote.machineSequence &&
      event.type == remote.eventType &&
        samePassiveEventPayload config.payload (eventPayload config.platform.numbers event) remote.payload

/-- The mark of an event. -/
def mark (event : LocalEvent Number) (kind : MarkKind) : LocalMark :=
  ⟨event.2.envelope.eventUuid, event.2.delivery.attempts, kind⟩

def LocalMark.apply (mark : LocalMark) (call : Nat) (table : EventsTable Number) :
    Except EventsDbError (Bool × EventsTable Number) :=
  match mark.kind with
  | .deliveryRetry error =>
      table.markDeliveryRetry config.platform mark.eventId config.owner error
        (config.retryAt call mark.eventId mark.attempts) (config.clock call)
  | .deliveryQuarantined reason =>
      table.markDeliveryQuarantined config.platform mark.eventId config.owner reason (config.clock call)
  | .replicated inboxId => table.markReplicated mark.eventId config.owner inboxId (config.clock call)
  | .acknowledged inboxId => table.markAcknowledged mark.eventId inboxId (config.clock call)
  | .quarantined inboxId reason =>
      table.markQuarantined config.platform mark.eventId inboxId reason (config.clock call)

/-- The summary counts a call that changed a row. -/
def MarkKind.count (kind : MarkKind) (summary : UploadSummary) : UploadSummary :=
  match kind with
  | .deliveryRetry _ => { summary with retried := summary.retried + 1 }
  | .deliveryQuarantined _ | .quarantined _ _ => { summary with quarantined := summary.quarantined + 1 }
  | .acknowledged _ => { summary with acknowledged := summary.acknowledged + 1 }
  | .replicated _ => summary

def perform (state : UploadState Number) (mark : LocalMark) : Except EventsDbError (UploadState Number) := do
  let (changed, table) ← mark.apply config state.calls.length state.table
  pure ⟨table, state.calls ++ [(mark, changed)], if changed then mark.kind.count state.summary else state.summary⟩

def performAll (events : List (LocalEvent Number)) (kind : LocalEvent Number → MarkKind)
    (state : UploadState Number) : Except EventsDbError (UploadState Number) :=
  events.foldlM (fun state event => perform config state (mark event (kind event))) state

/-- The rows that may go to the remote inbox as they are. -/
def transmittable (event : LocalEvent Number) : Bool :=
  supportsEnvelopeVersion event.2.envelope.eventVersion && config.safeToTransmit event.2.envelope

def refusal (event : LocalEvent Number) : MarkKind :=
  .deliveryQuarantined (if supportsEnvelopeVersion event.2.envelope.eventVersion then privacyRefusal
    else js "unsupported local hook event envelope version " ++ decimal event.2.envelope.eventVersion)

/-- The input of the remote call. Redacting the remote copy alone would break its readback. -/
def safeInput (event : LocalEvent Number) : Except UploadError (PassiveEventInput Number) :=
  if config.safeToTransmit event.2.envelope then .ok (remoteInput config.platform.numbers event.2.envelope)
  else .error ⟨privacyRefusal, none⟩

def recoverLocalDelivery (error : UploadError) (event : LocalEvent Number) : MarkKind :=
  match error.dataError with
  | some (eventId, field) =>
      if eventId = some event.2.envelope.eventUuid ∧ config.quarantineAfterAttempts ≤ event.2.delivery.attempts then
        .deliveryQuarantined (js "remote envelope validation failed: " ++ field)
      else .deliveryRetry error.message
  | none => .deliveryRetry error.message

/-- A row that differs from a copy is quarantined after some attempts. -/
def differing (reason : JsString) (event : LocalEvent Number) : MarkKind :=
  if config.quarantineAfterAttempts ≤ event.2.delivery.attempts then .deliveryQuarantined reason
  else .deliveryRetry reason

/-- The record of an event; the last one of a map counts. -/
def recordOf (records : List (PassiveEventRecord Number)) (event : LocalEvent Number) :
    Option (PassiveEventRecord Number) :=
  (records.filter fun record => record.eventId = event.2.envelope.eventUuid).getLast?

/-- A record says how a row is settled, if it has the envelope of the row. -/
def accounted (record : Option (PassiveEventRecord Number)) (event : LocalEvent Number) : MarkKind :=
  match record.filter (sameEnvelope config event.2.envelope) with
  | none => .deliveryRetry (js "remote inbox readback mismatch")
  | some record =>
      match record.status with
      | .applied _ => .acknowledged record.inboxId
      | .quarantined _ reason => .quarantined record.inboxId reason
      | .pending | .claimed _ _ | .retry => .replicated record.inboxId

/-- The answer of the other projects to a missing row. The first answer wins. -/
def answerOf (answers : List ReleaseAnswer) (event : LocalEvent Number) : Option ReleaseOutcome :=
  (answers.find? fun answer => answer.eventId = event.2.envelope.eventUuid).map ReleaseAnswer.outcome

/-- A row that is out goes into the second insert when no project holds it any more. -/
def mayInsert : Option ReleaseOutcome → Bool
  | some .absent | some .released => true
  | _ => false

def answered (insertError : UploadError) (answer : Option ReleaseOutcome) (event : LocalEvent Number) : MarkKind :=
  match answer with
  | none => recoverLocalDelivery config insertError event
  | some (.applied inboxId) => .acknowledged inboxId
  | some (.quarantined inboxId reason) => .quarantined inboxId reason
  | some .mismatch => differing config (js "remote copy in another project differs from the local row") event
  | some .busy => .deliveryRetry (js "remote copy in another project is claimed by another process")
  | some .bound | some .absent | some .released => .deliveryRetry (js "remote copy appeared in the bound project")

end Marks

section Upload

variable {Number : Type} (config : UploadConfig Number) (remote : UploadRemote Number)

def readKeys (batch : List (LocalEvent Number)) : List PassiveEventKey :=
  batch.map fun event => ⟨event.2.envelope.machineId.getD [], event.2.envelope.eventUuid⟩

/-- A returned record differs from its row. -/
def isDiffering (records : List (PassiveEventRecord Number)) (event : LocalEvent Number) : Bool :=
  (recordOf records event).any fun record => !sameEnvelope config event.2.envelope record

def isMissing (records : List (PassiveEventRecord Number)) (event : LocalEvent Number) : Bool :=
  (recordOf records event).isNone

def differsReason : JsString := js "remote inbox copy differs from the local row"

/-- Inserts a batch when each row may be sent. -/
def insertBatch (insert : List (PassiveEventInput Number) → Except UploadError (List (PassiveEventRecord Number)))
    (batch : List (LocalEvent Number)) : Except UploadError (List (PassiveEventRecord Number)) := do
  let inputs ← batch.mapM (safeInput config)
  insert inputs

def releaseBatch (missing : List (LocalEvent Number)) : Except UploadError (List ReleaseAnswer) := do
  let inputs ← missing.mapM (safeInput config)
  remote.releaseFromOtherProjects inputs

/-- The rows and records that are still to be accounted for, if there are any. -/
abbrev Unsettled (Number : Type) := Option (List (LocalEvent Number) × List (PassiveEventRecord Number))

/-- The second insert, which is not recovered again. -/
def insertRest (retry : List (LocalEvent Number)) (state : UploadState Number) :
    Except EventsDbError (UploadState Number × Unsettled Number) :=
  match insertBatch config remote.insertAgain retry with
  | .ok records => pure (state, some (retry, records))
  | .error retryError =>
      match remote.readAgain (readKeys retry) with
      | .error readbackError => do
          let recovered ← performAll config retry (recoverLocalDelivery config readbackError) state
          pure (recovered, none)
      | .ok records =>
          if retry.any fun event => isDiffering config records event || isMissing records event then do
            let recovered ← performAll config retry (recoverLocalDelivery config retryError) state
            pure (recovered, none)
          else pure (state, some (retry, records))

/-- A row goes into the second insert when the bound project has it or no project has it. -/
def goesAgain (records : List (PassiveEventRecord Number)) (answers : List ReleaseAnswer)
    (event : LocalEvent Number) : Bool :=
  !isMissing records event || mayInsert (answerOf answers event)

def settleFailedUpload (batch : List (LocalEvent Number)) (insertError : UploadError) (state : UploadState Number) :
    Except EventsDbError (UploadState Number × Unsettled Number) :=
  match remote.readEvents (readKeys batch) with
  | .error readbackError => do
      let recovered ← performAll config batch (recoverLocalDelivery config readbackError) state
      pure (recovered, none)
  | .ok records => do
      let state ← performAll config (batch.filter (isDiffering config records)) (differing config differsReason) state
      let rest := batch.filter fun event => !isDiffering config records event
      let missing := batch.filter (isMissing records)
      if rest = [] then pure (state, none)
      else if missing = [] then pure (state, some (rest, records))
      else
        match releaseBatch config remote missing with
        | .error releaseError => do
            let recovered ← performAll config rest (recoverLocalDelivery config releaseError) state
            pure (recovered, none)
        | .ok answers => do
            let state ← performAll config (rest.filter fun event => !goesAgain records answers event)
              (fun event => answered config insertError (answerOf answers event) event) state
            let retry := rest.filter (goesAgain records answers)
            if retry = [] then pure (state, none) else insertRest config remote retry state

/-- A row that has its record counts as uploaded before it is settled. -/
def accountAll (batch : List (LocalEvent Number)) (records : List (PassiveEventRecord Number))
    (state : UploadState Number) : Except EventsDbError (UploadState Number) :=
  batch.foldlM (fun state event =>
    let record := recordOf records event
    let uploaded := if record.any (sameEnvelope config event.2.envelope) then
      { state with summary := { state.summary with uploaded := state.summary.uploaded + 1 } } else state
    perform config uploaded (mark event (accounted config record event))) state

def uploadSupported (supported : List (LocalEvent Number)) (state : UploadState Number) :
    Except EventsDbError (UploadState Number) :=
  match insertBatch config remote.insertEvents supported with
  | .ok records => accountAll config supported records state
  | .error insertError => do
      let (state, unsettled) ← settleFailedUpload config remote supported insertError state
      match unsettled with
      | none => pure state
      | some (batch, records) => accountAll config batch records state

/-- One upload: the rows that it claims and the outbox behind it. -/
def uploadLocal (claimClock : LocalClock) (summary : UploadSummary) (table : EventsTable Number) :
    Except EventsDbError (List (LocalEvent Number) × UploadState Number) := do
  let (claimed, table) ← table.claimDeliveries
    ⟨config.machineId, config.owner, config.batchSize, config.staleClaimMs⟩ claimClock
  let counted := if (claimed.length : Int) = config.batchSize then { summary with backlog := true } else summary
  let state ← performAll config (claimed.filter fun event => !transmittable config event) refusal ⟨table, [], counted⟩
  let supported := claimed.filter (transmittable config)
  if supported = [] then pure (claimed, state)
  else do
    let settled ← uploadSupported config remote supported state
    pure (claimed, settled)

end Upload

end Lcm.Daemon
