import Lcm.Hooks.OutboxQueries
import Lcm.Library.Processes
import Lcm.Migration.QueueClassification
import Lcm.Promotion.Deduplication
import Mathlib.Data.List.Infix

namespace Lcm.Promotion
open Text Hooks Migration

def correlationWindow : Nat := 20

def minReinforcedPatternOccurrences : Nat := 3

def minReinforcedPatternSessions : Nat := 2

def autoTags : List (JsString × JsString) :=
  [(js "decision", js "type:preference"), (js "error", js "type:gotcha"),
    (js "plan", js "type:decision"), (js "role", js "type:user-context"),
    (js "git", js "type:workflow"), (js "env", js "type:environment"), (js "file", js "type:pattern")]

def autoPromotablePatternCategories : List JsString :=
  [js "file", js "mcp", js "skill", js "subagent"]

def nonPromotableEventTypes : List JsString := [js "tool_outcome_unknown"]

/-- What promotion uses of its runtime: lower case, sums, the scrubbing of sensitive text, the text of
a time some days ago, and the repositories of the project. -/
structure PromotionPlatform (Store Number : Type) extends ReceiptPlatform Number where
  toLowerCase : JsString → JsString
  add : Number → Number → Number
  scrub : JsString → JsString
  daysAgo : LocalClock → Number → Option JsString
  repositories : PromotedRepositories Store Number

structure EventConfidence (Number : Type) where
  decision : Option Number
  plan : Option Number
  errorFix : Option Number
  batch : Option Number
  pattern : Option Number

structure PromotionConfig (Number : Type) where
  storageBackend : Backend
  eventConfidence : Option (EventConfidence Number)
  maxConfidence : Option Number
  reinforcementBoost : Option Number
  dedupCandidateLimit : Option Number
  insightsMaxAgeDays : Option Number

/-- The storage of a project. -/
structure ProjectIdentity where
  projectId : JsString
  backend : Backend
  deriving DecidableEq

/-- The tables of a project: its memories and its receipts. -/
structure ProjectTables (Store : Type) where
  promoted : Store
  receipts : ReceiptTables

/-- A committed transaction for an event, with the tables around it. -/
structure ProjectCommit (Store Number : Type) where
  envelope : EventEnvelope Number
  before : ProjectTables Store
  after : ProjectTables Store

/-- The databases of a machine's project: the next sequence of the machine, the outbox, the project's
tables, and, for the proofs, the identifiers of all events and the commits so far. -/
structure PromotionWorld (Store Number : Type) where
  nextSequence : Nat
  outbox : EventsTable Number
  project : ProjectTables Store
  inserted : List JsString
  commits : List (ProjectCommit Store Number)

structure PromotionEvent (Number : Type) where
  eventId : EventId
  row : EventRow Number
  autoTag : Option JsString
  correlatedErrorId : Option EventId

structure PreparedPromotionBatch (Number : Type) where
  events : List (PromotionEvent Number)
  reinforcementCache : List (JsString × PatternReinforcementStats)
  reinforcementErrors : List (EventId × PromotionFailure)

/-- The result of a batch so far, and the events that are done. -/
structure BatchProgress where
  promoted : Nat
  skipped : Nat
  correlated : Nat
  errors : Nat
  processedIds : List EventId
  deriving DecidableEq

/-- The readings of the clock for each event and for the whole batch. -/
structure PromotionClock where
  prepared : LocalClock
  updated : EventId → LocalClock
  committed : EventId → Int
  processed : LocalClock

def isReinforcedPattern (stats : PatternReinforcementStats) : Bool :=
  minReinforcedPatternOccurrences ≤ stats.totalCount && minReinforcedPatternSessions ≤ stats.distinctSessions

abbrev PromotionProcess (Store Number Value : Type) :=
  Process (PromotionWorld Store Number) PromotionFailure Value

section Correlation

variable {Number : Type} (toLowerCase : JsString → JsString)

/-- The parts of a text between its runs of white space. -/
def splitWhiteSpace (text : JsString) : List JsString :=
  let runs := text.splitBy fun first second => isWhiteSpace first == isWhiteSpace second
  let words := runs.filter fun run => !run.any isWhiteSpace
  let leading := if text.head?.all isWhiteSpace then [[]] else []
  let trailing := if text.getLast?.any isWhiteSpace then [[]] else []
  leading ++ words ++ trailing

def commandPrefix (data : JsString) : JsString :=
  toLowerCase (join [32] ((splitWhiteSpace data).take 3))

/-- The first word after the first colon of an error. -/
def matchToken (errorPrefix : JsString) : JsString :=
  match errorPrefix.dropWhile (· ≠ 58) with
  | [] => []
  | _ :: rest => (trim (rest.takeWhile (· ≠ 58))).takeWhile (· ≠ 32)

def isFixOf (error candidate : EventRow Number) : Bool :=
  let token := matchToken (commandPrefix toLowerCase error.envelope.data)
  candidate.envelope.category ≠ js "error" && candidate.envelope.type ∉ nonPromotableEventTypes &&
    !token.isEmpty && decide (token <:+: commandPrefix toLowerCase candidate.envelope.data)

/-- The closest fix of every error of a session, with the error. -/
def sessionCorrelations : List (EventId × EventRow Number) → List (EventId × EventId)
  | [] => []
  | (errorId, error) :: later =>
      let candidates := later.takeWhile fun candidate =>
        candidate.2.envelope.seq ≤ error.envelope.seq + correlationWindow
      (if error.envelope.category = js "error" then
        ((candidates.find? fun candidate => isFixOf toLowerCase error candidate.2).map
          fun candidate => (candidate.1, errorId)).toList
      else []) ++ sessionCorrelations later

/-- A later correlation of an event stands for the earlier ones. -/
def correlateErrors (events : List (EventId × EventRow Number)) : List (PromotionEvent Number) :=
  let sessions := dedupeOrdered (events.map fun event => event.2.envelope.sessionId)
  let correlations := sessions.flatMap fun sessionId => sessionCorrelations toLowerCase
    (sortedBy (fun event : EventId × EventRow Number => event.2.envelope.seq)
      (events.filter fun event => event.2.envelope.sessionId = sessionId))
  events.map fun (eventId, row) =>
    let correlated := (correlations.reverse.find? fun correlation => correlation.1 = eventId).map Prod.snd
    ⟨eventId, row, correlated.map fun _ => js "type:solution", correlated⟩

end Correlation

section Calls

variable {Store Number : Type} (platform : PromotionPlatform Store Number)

/-- A transaction of the project is committed, or leaves no trace. -/
def transaction {Value : Type} (envelope : EventEnvelope Number)
    (body : StateT (ProjectTables Store) (Except PromotionFailure) Value) :
    PromotionProcess Store Number Value :=
  Process.act fun world =>
    match body world.project with
    | .error failure => (.error failure, world)
    | .ok (value, project) =>
        (.ok value, { world with
          project
          commits := world.commits ++ [⟨envelope, world.project, project⟩] })

/-- A change of the memories within a transaction of the project. -/
def onPromoted {Value : Type} (change : StateT Store (Except PromotionFailure) Value) :
    StateT (ProjectTables Store) (Except PromotionFailure) Value :=
  fun tables => (change tables.promoted).map fun (value, promoted) => (value, { tables with promoted })

def onReceipts {Value : Type} (change : ReceiptTables → Except String (Value × ReceiptTables)) :
    StateT (ProjectTables Store) (Except PromotionFailure) Value :=
  fun tables => ((change tables.receipts).mapError .storage).map fun (value, receipts) =>
    (value, { tables with receipts })

def readReceipts {Value : Type} (query : ReceiptTables → Except String Value) :
    StateT (ProjectTables Store) (Except PromotionFailure) Value :=
  fun tables => ((query tables.receipts).mapError .storage).map fun value => (value, tables)

def getEpoch (projectId machineId : JsString) :
    PromotionProcess Store Number (Option MigrationReceiptEpoch) :=
  Process.act fun world => ((getMigrationReceiptEpoch platform.toReceiptPlatform projectId machineId
    world.project.receipts).mapError .storage, world)

def onOutbox (change : EventsTable Number → EventsTable Number) : PromotionProcess Store Number Unit :=
  Process.act fun world => (.ok (), { world with outbox := change world.outbox })

end Calls

section Preparation

variable {Store Number : Type} (platform : PromotionPlatform Store Number)
  (config : PromotionConfig Number) (clock : PromotionClock)

def literal (number : String) : Number := platform.numbers.format.read (js number)

def isPatternCandidate (row : EventRow Number) : Bool :=
  platform.numbers.toInteger row.envelope.priority == some 3 &&
    row.envelope.category ∈ autoPromotablePatternCategories

def patternKey (envelope : EventEnvelope Number) : JsString :=
  envelope.type ++ [0] ++ envelope.category ++ [0] ++ envelope.data

/-- A pattern is counted once; the failure of a count is kept for its event. -/
def prepareReinforcement (prepared : PreparedPromotionBatch Number) (event : PromotionEvent Number) :
    PromotionProcess Store Number (PreparedPromotionBatch Number) :=
  let envelope := event.row.envelope
  if !isPatternCandidate platform event.row ||
      (prepared.reinforcementCache.lookup (patternKey envelope)).isSome then pure prepared
  else
    Process.attempt (do
      let stats ← Process.ask fun world => world.outbox.getPatternReinforcement platform.utf8
        envelope.type envelope.category envelope.data (platform.daysAgo clock.prepared
          (config.insightsMaxAgeDays.getD (platform.numbers.ofNat 90)))
      pure { prepared with
        reinforcementCache := (patternKey envelope, stats) :: prepared.reinforcementCache })
    fun failure => pure { prepared with
      reinforcementErrors := (event.eventId, failure) :: prepared.reinforcementErrors }

def preparePromotionBatch : PromotionProcess Store Number (PreparedPromotionBatch Number) := do
  let events ← Process.ask fun world =>
    world.outbox.getUnprocessed platform.utf8 eventsUnprocessedBatchLimit
  let correlated := correlateErrors platform.toLowerCase events
  correlated.foldlM (prepareReinforcement platform config clock) ⟨correlated, [], []⟩

end Preparation

section Events

variable {Store Number : Type} (platform : PromotionPlatform Store Number)
  (config : PromotionConfig Number) (project : ProjectIdentity) (clock : PromotionClock)

def patternReinforcement (prepared : PreparedPromotionBatch Number) (event : PromotionEvent Number) :
    Except PromotionFailure PatternReinforcementStats :=
  if isPatternCandidate platform event.row then
    match prepared.reinforcementErrors.lookup event.eventId with
    | some failure => .error failure
    | none =>
        match prepared.reinforcementCache.lookup (patternKey event.row.envelope) with
        | some stats => .ok stats
        | none => .error (.error "Cannot read properties of undefined (reading 'totalCount')")
  else .ok ⟨0, 0⟩

/-- A confidence of the configuration, or its default. -/
def confidenceOf (field : EventConfidence Number → Option Number) (default : String) : Number :=
  (config.eventConfidence.bind field).getD (literal platform default)

/-- The confidence of an event by its tier, the confidence of a new entry, and whether the event counts
as correlated. -/
def eventConfidence (event : PromotionEvent Number) (reinforced : Bool) :
    Number × Option Number × Bool :=
  let priority := platform.numbers.toInteger event.row.envelope.priority
  let errorFix := confidenceOf platform config (·.errorFix) "0.4"
  if priority = some 1 then
    if event.row.envelope.category = js "plan" then (confidenceOf platform config (·.plan) "0.7", none, false)
    else if event.correlatedErrorId.isSome then (errorFix, none, true)
    else (confidenceOf platform config (·.decision) "0.5", none, false)
  else if priority = some 2 then
    if event.correlatedErrorId.isSome then (errorFix, none, true)
    else (confidenceOf platform config (·.batch) "0.3", none, false)
  else
    let confidence := confidenceOf platform config (·.pattern) "0.2"
    let most := config.maxConfidence.getD (literal platform "1.0")
    let boosted := platform.add confidence (config.reinforcementBoost.getD (literal platform "0.3"))
    (confidence, if reinforced then
      some (if platform.numbers.less boosted most then boosted else most) else none, false)

def eventTag (event : PromotionEvent Number) : JsString :=
  event.autoTag.getD ((autoTags.lookup event.row.envelope.category).getD
    (js "category:" ++ event.row.envelope.category))

def dedupInput (event : PromotionEvent Number) (reinforced : Bool) : DedupInsertInput Number :=
  let (confidence, newEntryConfidence, _) := eventConfidence platform config event reinforced
  { content := platform.scrub event.row.envelope.data
    tags := [eventTag event, js "source:passive-capture", js "hook:" ++ event.row.envelope.sourceHook] ++
      if reinforced then [js "signal:reinforced"] else []
    sourceProjectId := some project.projectId
    candidateScope := .owner
    backend := project.backend
    sessionId := some event.row.envelope.sessionId
    depth := platform.numbers.ofNat 0
    confidence
    newEntryConfidence
    dedupCandidateLimit := config.dedupCandidateLimit.getD (platform.numbers.ofNat 100) }

/-- A one-off event may only confirm an entry that is there. -/
def isOneOff (event : PromotionEvent Number) (reinforced : Bool) : Bool :=
  platform.numbers.toInteger event.row.envelope.priority == some 3 && !reinforced

def committedAt (time : Int) : JsString := (toISOString time).dropLast ++ js "000Z"

def deduplicate (event : PromotionEvent Number) (reinforced : Bool) :
    StateT (ProjectTables Store) (Except PromotionFailure) (Option JsString) :=
  onPromoted (deduplicateAndInsertInRepositories platform.numbers platform.repositories
    (dedupInput platform config project event reinforced) (isOneOff platform event reinforced))

/-- What promotes an event before the epoch; nothing is promoted for what may not be. -/
def promoteWithoutReceipt (event : PromotionEvent Number) (reinforced : Bool) :
    PromotionProcess Store Number Bool :=
  if isOneOff platform event reinforced && event.row.envelope.type ∈ nonPromotableEventTypes then
    pure false
  else do
    let promotedMemoryId ← transaction event.row.envelope (deduplicate platform config project event reinforced)
    pure promotedMemoryId.isSome

/-- Nothing is promoted for a one-off event of a type that may not be promoted. -/
def permittedEffect (event : PromotionEvent Number) (reinforced : Bool) :
    StateT (ProjectTables Store) (Except PromotionFailure) (Option JsString) :=
  if isOneOff platform event reinforced && event.row.envelope.type ∈ nonPromotableEventTypes then pure none
  else deduplicate platform config project event reinforced

/-- The effect of an event and its receipt. -/
def receiptedEffect (epochId machineId : JsString) (event : PromotionEvent Number) (reinforced : Bool) :
    StateT (ProjectTables Store) (Except PromotionFailure) Bool := do
  let envelope := receiptEnvelope machineId event.row.envelope
  let record := fun witness => onReceipts (recordMigrationReceipt platform.toReceiptPlatform
    project.projectId epochId envelope witness (committedAt (clock.committed event.eventId)))
  let priorReceipt ← readReceipts (findMatchingMigrationReceipt platform.toReceiptPlatform
    project.projectId epochId envelope)
  match priorReceipt with
  | some receipt => pure (receipt.effectWitness.outcome == js "applied")
  | none => do
      match ← permittedEffect platform config project event reinforced with
      | none => do
          let _ ← record .noEffect
          pure false
      | some promotedMemoryId => do
          let _ ← record (.applied promotedMemoryId)
          pure true

/-- The epoch of an event's machine; there is none without a machine or away from SQLite. -/
def eventEpoch (event : PromotionEvent Number) :
    PromotionProcess Store Number (Option MigrationReceiptEpoch) :=
  match event.row.envelope.machineId with
  | none => pure none
  | some machineId =>
      if project.backend = .sqlite then getEpoch platform project.projectId machineId else pure none

def setCorrelation (event : PromotionEvent Number) : PromotionProcess Store Number Unit :=
  match event.correlatedErrorId with
  | none => pure ()
  | some errorId => onOutbox (·.setPrevEventId event.eventId errorId (clock.updated event.eventId))

def promoteByEpoch (event : PromotionEvent Number) (reinforced : Bool)
    (epoch : Option MigrationReceiptEpoch) : PromotionProcess Store Number Bool :=
  match epoch.filter fun epoch => epoch.firstMachineSequence ≤ event.row.envelope.machineSequence with
  | none => promoteWithoutReceipt platform config project event reinforced
  | some epoch => transaction event.row.envelope (receiptedEffect platform config project clock
      epoch.epochId (event.row.envelope.machineId.getD []) event reinforced)

/-- The event is done, promoted or skipped. -/
def BatchProgress.settle (progress : BatchProgress) (eventId : EventId) (promoted : Bool) :
    BatchProgress :=
  { progress with
    promoted := progress.promoted + if promoted then 1 else 0
    skipped := progress.skipped + if promoted then 0 else 1
    processedIds := progress.processedIds ++ [eventId] }

/-- A failed event stays for the next batch; PostgreSQL's own failures end this one. -/
def handleFailure (progress : BatchProgress) (failure : PromotionFailure) :
    PromotionProcess Store Number BatchProgress :=
  match config.storageBackend, failure with
  | .postgresql, .storage message => .failed (.storage message)
  | _, _ => pure { progress with errors := progress.errors + 1 }

def promoteReinforced (event : PromotionEvent Number) (reinforced : Bool) (progress : BatchProgress) :
    PromotionProcess Store Number BatchProgress := do
  setCorrelation clock event
  let epoch ← eventEpoch platform project event
  let promoted ← promoteByEpoch platform config project clock event reinforced epoch
  pure (progress.settle event.eventId promoted)

def promoteEvent (prepared : PreparedPromotionBatch Number) (progress : BatchProgress)
    (event : PromotionEvent Number) : PromotionProcess Store Number BatchProgress :=
  match patternReinforcement platform prepared event with
  | .error failure => handleFailure config progress failure
  | .ok stats =>
      let reinforced := isReinforcedPattern stats
      let counted := (eventConfidence platform config event reinforced).2.2
      let progress := { progress with correlated := progress.correlated + if counted then 1 else 0 }
      (promoteReinforced platform config project clock event reinforced progress).attempt
        (handleFailure config progress)

def promoteEventsBatch (prepared : PreparedPromotionBatch Number) :
    PromotionProcess Store Number BatchProgress := do
  let progress ← prepared.events.foldlM (promoteEvent platform config project clock prepared)
    ⟨0, 0, 0, 0, []⟩
  onOutbox (·.markProcessed progress.processedIds clock.processed)
  pure progress

/-- A batch is prepared from the outbox and promoted. -/
def runSelectedPromotionBatch : PromotionProcess Store Number BatchProgress := do
  let prepared ← preparePromotionBatch platform config clock
  if prepared.events.isEmpty then pure ⟨0, 0, 0, 0, []⟩
  else promoteEventsBatch platform config project clock prepared

end Events

end Lcm.Promotion
