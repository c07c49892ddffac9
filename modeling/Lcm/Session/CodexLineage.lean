import Lcm.Session.Slots

namespace Lcm.Session
open Text Store

namespace SessionStore

/-- The messages of a conversation in the order of their sequence numbers. -/
def getMessages (store : SessionStore) (conversationId : ConversationId) : List MessageRecord :=
  sortedBy (·.seq) (store.messages.rows.rows.filter fun message => message.conversationId = conversationId)

def getMessageCount (store : SessionStore) (conversationId : ConversationId) : Nat :=
  store.messages.rows.rows.countP fun message => message.conversationId = conversationId

def getMessageCountBySessionId (store : SessionStore) (sessionId : JsString) : Nat :=
  (store.sessionMessages sessionId).length

/-- All conversations, oldest first. -/
def listConversations (store : SessionStore) : List ConversationRecord :=
  sortedBy ConversationTable.creationKey store.conversations.rows

end SessionStore

/-- The stored rows are an exact prefix of the messages, which are scrubbed the same way. -/
def storedIsPrefix (stored : List MessageRecord) (messages : List ParsedMessage)
    (scrubWithCounts : JsString → ScrubCounts) : Bool :=
  stored.length ≤ messages.length && (stored.zip messages).all fun (row, message) =>
    row.role = message.role && row.content = (scrubWithCounts message.content).text

/-- The metadata key of the lineage marker on the first transcript row of a Codex session. -/
def codexLineageMetadataKey : JsString := js "lcmCodexLineage"

/-- A boundary session holds the messages that a copied fork wrote itself, an array session the lists of its clients. -/
inductive CodexLineageMode where
  | boundary
  | array
  deriving DecidableEq, Repr

def CodexLineageMode.name : CodexLineageMode → JsString
  | boundary => js "boundary"
  | array => js "array"

/-- A lineage marker as it is read. -/
inductive CodexLineageMarker where
  | mode (mode : CodexLineageMode)
  | invalid
  deriving DecidableEq

/-- A message list from a request, or a rollout file. -/
inductive CodexLineageSource where
  | array
  | file
  deriving DecidableEq, Repr

/-- A copied fork has a list of its own, which may be empty. -/
structure CodexLineageRequest where
  source : CodexLineageSource
  full : List ParsedMessage
  child : Option (List ParsedMessage)

inductive CodexLineageHistory where
  | filtered
  | unfiltered
  | lineageMismatch
  deriving DecidableEq, Repr

section Markers

variable {Number : Type} (numbers : JsNumbers Number)

def encodeCodexLineageMarker (mode : CodexLineageMode) : JsString :=
  Json.print numbers.format (.object [(codexLineageMetadataKey,
    .object [(js "version", .number (numbers.ofNat 1)), (js "mode", .string mode.name)])])

/-- The mode of a marker; a marker of an unknown shape is malformed. -/
def codexLineageMode (marker : Json Number) : CodexLineageMarker :=
  match marker with
  | .object members =>
      match property members (js "version"), property members (js "mode") with
      | some (.number version), some (.string mode) =>
          if numbers.toInteger version = some 1 ∧ mode = CodexLineageMode.boundary.name then .mode .boundary
          else if numbers.toInteger version = some 1 ∧ mode = CodexLineageMode.array.name then .mode .array
          else .invalid
      | _, _ => .invalid
  | _ => .invalid

/-- Metadata without the marker's key is no marker. -/
def parseCodexLineageMarker (metadata : Option JsString) : Option CodexLineageMarker := do
  match ← Json.parse numbers.format (← metadata) with
  | .object parsed => (property parsed codexLineageMetadataKey).map (codexLineageMode numbers)
  | _ => none

/-- A malformed marker or two modes on one row are invalid. -/
def readCodexLineageMarker (store : SessionStore) (messageId : MessageId) : Option CodexLineageMarker :=
  let markers := (partsOf store messageId).filterMap fun part => parseCodexLineageMarker numbers part.metadata
  if .invalid ∈ markers ∨ .mode .boundary ∈ markers ∧ .mode .array ∈ markers then some .invalid else markers.head?

/-- An event row can take at most the first few places of a conversation. -/
def firstOfConversation (store : SessionStore) (eventMessageIds : List MessageId) (conversationId : ConversationId) :
    Option MessageRecord :=
  ((store.getMessages conversationId).take (eventMessageIds.length + 1)).find? fun message =>
    message.messageId ∉ eventMessageIds

/-- The first transcript row of a session across all its conversations. -/
def firstSessionTranscriptRow (store : SessionStore) (sessionId : JsString) (newestConversationId : ConversationId)
    (eventMessageIds : List MessageId) : Option MessageRecord :=
  if store.getMessageCount newestConversationId = store.getMessageCountBySessionId sessionId then
    firstOfConversation store eventMessageIds newestConversationId
  else
    (store.listConversations.filter fun conversation => conversation.sessionId = sessionId).findSome?
      fun conversation => firstOfConversation store eventMessageIds conversation.conversationId

/-- The marker of the first transcript row; without that row it is invalid. -/
def firstRowMarker (store : SessionStore) (sessionId : JsString) (newestConversationId : ConversationId)
    (eventMessageIds : List MessageId) : Option CodexLineageMarker :=
  match firstSessionTranscriptRow store sessionId newestConversationId eventMessageIds with
  | none => some .invalid
  | some first => readCodexLineageMarker numbers store first.messageId

/-- Appends what follows in a list. A mode goes to the first new row. -/
def appendLineage (store : SessionStore) (sessionId : JsString) (conversationId : ConversationId)
    (newMessages : List ParsedMessage) (mode : Option CodexLineageMode) (scrubWithCounts : JsString → ScrubCounts)
    (clock : MessageId → Timestamp) : Option (SessionStore × Option AppendedTranscript) := do
  let (appended, persisted) ← appendTranscriptMessages scrubWithCounts store conversationId newMessages clock
  match persisted, mode with
  | some transcript, some mode => do
      let first ← transcript.records.head?
      let marked ← appended.createMessageParts first.messageId [{
        sessionId := sessionId
        partType := .snapshot
        ordinal := 0
        textContent := none
        metadata := some (encodeCodexLineageMarker numbers mode) }]
      some (marked, persisted)
  | _, _ => some (appended, persisted)

/-- A request without messages appends nothing and opens no conversation. -/
def emptyLineageHistory (store : SessionStore) (sessionId : JsString) (child : Option (List ParsedMessage)) :
    Option CodexLineageHistory :=
  match store.conversations.getConversationBySessionId sessionId with
  | none => if child.isSome then some .filtered else none
  | some conversation =>
      let snapshot := getTranscriptSlotSnapshot numbers store sessionId
      if child.isSome then some (if snapshot.transcriptCount = 0 then .filtered else .lineageMismatch)
      else if snapshot.transcriptCount = 0 then none
      else match firstRowMarker numbers store sessionId conversation.conversationId
          (snapshot.events.map (·.messageId)) with
        | some .invalid | some (.mode .boundary) => some .lineageMismatch
        | some (.mode .array) | none => none

/-- What a request leads to: the new store, the messages that it appended and the reading that it followed. -/
abbrev LineageResult := SessionStore × Option AppendedTranscript × Option CodexLineageHistory

/-- Stores what a request adds to the transcript of its session, on the reading that the first rows chose. -/
def persistCodexLineage (store : SessionStore) (sessionId : JsString) (request : CodexLineageRequest)
    (scrubWithCounts : JsString → ScrubCounts) (createdAt : Timestamp) (clock : MessageId → Timestamp) :
    Option LineageResult :=
  if request.full = [] then do
    guard (validateConversationText sessionId)
    some (store, none, emptyLineageHistory numbers store sessionId request.child)
  else do
    let (prepared, slot) ← prepareSessionTranscript numbers store sessionId createdAt
    let conversationId := slot.conversation.conversationId
    let append := fun newMessages mode (history : Option CodexLineageHistory) => do
      let (after, persisted) ← appendLineage numbers prepared sessionId conversationId newMessages mode
        scrubWithCounts clock
      some (after, persisted, history)
    let mismatch := some (prepared, none, some CodexLineageHistory.lineageMismatch)
    let next := slot.transcriptCount + slot.consumedCount
    match request.child with
    | some child =>
        if slot.transcriptCount = 0 then append child (some .boundary) (some .filtered)
        else
          let rows := (prepared.getMessages conversationId).filter fun message =>
            message.messageId ∉ slot.eventMessageIds
          if rows.length ≠ slot.transcriptCount then mismatch
          else match rows.head?.bind fun first => readCodexLineageMarker numbers prepared first.messageId with
            | some .invalid | some (.mode .array) => mismatch
            | some (.mode .boundary) =>
                if 0 < slot.consumedCount ∨ storedIsPrefix rows child scrubWithCounts = false then mismatch
                else append (child.drop slot.transcriptCount) none (some .filtered)
            | none =>
                if 0 < slot.consumedCount ∨ storedIsPrefix rows request.full scrubWithCounts = false then mismatch
                else append (request.full.drop next) none (some .unfiltered)
    | none =>
        if slot.transcriptCount = 0 then
          append (request.full.drop next) (if request.source = .array then some .array else none) none
        else match firstRowMarker numbers prepared sessionId conversationId slot.eventMessageIds with
          | some .invalid | some (.mode .boundary) => mismatch
          | some (.mode .array) | none => append (request.full.drop next) none none

/-- An action on the Codex sessions of a project, each in its own transaction. -/
inductive LineageAction where
  | createConversation (sessionId : JsString) (createdAt : Timestamp)
  | request (sessionId : JsString) (request : CodexLineageRequest) (scrubWithCounts : JsString → ScrubCounts)
      (createdAt : Timestamp) (clock : MessageId → Timestamp)
  | event (conversationId : ConversationId) (event : CompactionEvent) (createdAt : Timestamp)
      (clock : MessageId → Timestamp)

def lineageAct (store : SessionStore) : LineageAction → SessionStore
  | .createConversation sessionId createdAt => store.createConversation sessionId createdAt
  | .request sessionId request scrubWithCounts createdAt clock =>
      ((persistCodexLineage numbers store sessionId request scrubWithCounts createdAt clock).map Prod.fst).getD store
  | .event conversationId event createdAt clock =>
      persistCompactionEvents numbers store conversationId event createdAt clock

def lineageSystem : StepSystem SessionStore LineageAction where
  start store := store = .empty
  step before action after := lineageAct numbers before action = after

end Markers

end Lcm.Session
