import Lcm.Compaction.Summarize
import Lcm.Library.SortedBy
import Lcm.Text.JsNumber
import Mathlib.Data.List.MinMax
import Mathlib.Data.Option.Basic

namespace Lcm.Session
open Text Store

structure ConversationRecord where
  conversationId : ConversationId
  sessionId : JsString
  createdAt : Timestamp
  deriving DecidableEq

inductive MessagePartType where
  | text
  | reasoning
  | tool
  | patch
  | file
  | subtask
  | compaction
  | stepStart
  | stepFinish
  | snapshot
  | agent
  | retry
  deriving DecidableEq, Repr

structure CreateMessagePartInput where
  sessionId : JsString
  partType : MessagePartType
  ordinal : Nat
  textContent : Option JsString
  metadata : Option JsString
  deriving DecidableEq

structure MessagePartRecord extends CreateMessagePartInput where
  messageId : MessageId
  deriving DecidableEq

structure RedactionCounts where
  gitleaks : Nat
  builtIn : Nat
  global : Nat
  project : Nat
  deriving DecidableEq

/-- The conversations of a project in the order of their identifiers. -/
structure ConversationTable where
  rows : List ConversationRecord
  numbered : ∀ (index : Nat) row, rows[index]? = some row → row.conversationId = index + 1

/-- The tables that hold the transcripts of the sessions. -/
structure SessionStore where
  conversations : ConversationTable
  messages : MessageTable
  parts : List MessagePartRecord
  contextItems : ConversationId → OrderedTable Int ContextItem
  redactions : RedactionCounts

namespace ConversationTable

def empty : ConversationTable := ⟨[], by simp⟩

def getConversation (table : ConversationTable) (conversationId : ConversationId) :
    Option ConversationRecord :=
  table.rows.find? (·.conversationId = conversationId)

/-- A conversation takes the next identifier. -/
def createConversation (table : ConversationTable) (sessionId : JsString) (createdAt : Timestamp) :
    ConversationTable where
  rows := table.rows ++ [⟨table.rows.length + 1, sessionId, createdAt⟩]
  numbered := by
    intro index row located
    rw [List.getElem?_append] at located
    split at located
    · exact table.numbered index row located
    · rw [List.getElem?_singleton] at located
      split at located
      · next beyond first =>
          rw [← Option.some.inj located]
          show table.rows.length + 1 = index + 1
          omega
      · cases located

/-- Conversations are ordered by creation time and identifier. -/
def creationKey (conversation : ConversationRecord) : Timestamp ×ₗ ConversationId :=
  toLex (conversation.createdAt, conversation.conversationId)

local instance : Preorder (Timestamp ×ₗ ConversationId) :=
  (Prod.Lex.instLinearOrder Timestamp ConversationId).toPreorder

/-- The newest conversation of a session. -/
def getConversationBySessionId (table : ConversationTable) (sessionId : JsString) :
    Option ConversationRecord :=
  (table.rows.filter (·.sessionId = sessionId)).argmax creationKey

end ConversationTable

namespace SessionStore

def empty : SessionStore where
  conversations := .empty
  messages := .empty
  parts := []
  contextItems _ := .empty
  redactions := ⟨0, 0, 0, 0⟩

def createConversation (store : SessionStore) (sessionId : JsString) (createdAt : Timestamp) :
    SessionStore :=
  { store with conversations := store.conversations.createConversation sessionId createdAt }

/-- The newest conversation of a session, created when there is none. -/
def getOrCreateConversation (store : SessionStore) (sessionId : JsString) (createdAt : Timestamp) :
    Option (SessionStore × ConversationRecord) := do
  guard (validateConversationText sessionId)
  match store.conversations.getConversationBySessionId sessionId with
  | some existing => some (store, existing)
  | none =>
      some (store.createConversation sessionId createdAt,
        ⟨store.conversations.rows.length + 1, sessionId, createdAt⟩)

/-- Message part text must not contain NUL. -/
def validateMessageParts (parts : List CreateMessagePartInput) : Bool :=
  parts.all fun part =>
    validateNonNegativeSafeInteger part.ordinal && validateConversationText part.sessionId &&
      part.textContent.all validateConversationText && part.metadata.all validateConversationText

def createMessageParts (store : SessionStore) (messageId : MessageId)
    (parts : List CreateMessagePartInput) : Option SessionStore := do
  guard (validateMessageParts parts)
  some { store with parts := store.parts ++ parts.map fun part => { part with messageId := messageId } }

/-- An event row is a message with a compaction part. -/
def hasCompactionPart (store : SessionStore) (messageId : MessageId) : Bool :=
  store.parts.any fun part => part.messageId = messageId && part.partType = .compaction

/-- The messages of a session, each with its conversation. -/
def sessionMessages (store : SessionStore) (sessionId : JsString) :
    List (ConversationRecord × MessageRecord) :=
  store.messages.rows.rows.filterMap fun message => do
    let conversation ← store.conversations.getConversation message.conversationId
    guard (conversation.sessionId = sessionId)
    some (conversation, message)

/-- Session order is conversation creation time, conversation, sequence number and message. -/
def sessionKey (row : ConversationRecord × MessageRecord) :
    (Timestamp ×ₗ ConversationId) ×ₗ Nat ×ₗ MessageId :=
  toLex (ConversationTable.creationKey row.1, toLex (row.2.seq, row.2.messageId))

/-- The transcript rows of a session in session order. -/
def transcriptRows (store : SessionStore) (sessionId : JsString) : List MessageRecord :=
  (sortedBy sessionKey ((store.sessionMessages sessionId).filter fun row =>
    !store.hasCompactionPart row.2.messageId)).map Prod.snd

end SessionStore

/-- The metadata key of a slot marker. -/
def transcriptSlotMetadataKey : JsString := js "lcmTranscriptSlot"

/-- The value that a member name has in an object. -/
def property {Number : Type} (members : List (JsString × Json Number)) (name : JsString) :
    Option (Json Number) :=
  (members.find? (·.1 = name)).map Prod.snd

variable {Number : Type} (numbers : JsNumbers Number)

/-- The text of a slot marker. -/
def encodeTranscriptSlotMarker (consumed : Bool) : JsString :=
  Json.print numbers.format (.object [(transcriptSlotMetadataKey,
    .object [(js "version", .number (numbers.ofNat 1)), (js "consumed", .boolean consumed)])])

/-- The flag of a valid slot marker. -/
def parseTranscriptSlotMarker (metadata : Option JsString) : Option Bool := do
  match ← Json.parse numbers.format (← metadata) with
  | .object parsed =>
      match ← property parsed transcriptSlotMetadataKey with
      | .object marker =>
          match ← property marker (js "version"), ← property marker (js "consumed") with
          | .number version, .boolean consumed => do
              guard (numbers.toInteger version = some 1)
              some consumed
          | _, _ => none
      | _ => none
  | _ => none

/-- One compaction event of a session and its slot markers. -/
structure TranscriptSlotEvent where
  messageId : MessageId
  followedByTranscript : Bool
  nextOrdinal : Nat
  slotMarkers : List Bool
  deriving DecidableEq

structure TranscriptSlotSnapshot where
  transcriptCount : Nat
  events : List TranscriptSlotEvent
  deriving DecidableEq

/-- The parts of a message in the order of their ordinals. -/
def partsOf (store : SessionStore) (messageId : MessageId) : List MessagePartRecord :=
  sortedBy (·.ordinal) (store.parts.filter (·.messageId = messageId))

/-- The valid slot markers on a message. -/
def slotMarkers (store : SessionStore) (messageId : MessageId) : List Bool :=
  ((partsOf store messageId).filter (·.partType = .snapshot)).filterMap fun part =>
    parseTranscriptSlotMarker numbers part.metadata

def getTranscriptSlotSnapshot (store : SessionStore) (sessionId : JsString) :
    TranscriptSlotSnapshot :=
  let rows := store.sessionMessages sessionId
  let transcript := rows.filter fun row => !store.hasCompactionPart row.2.messageId
  let events := rows.filter fun row => store.hasCompactionPart row.2.messageId
  { transcriptCount := transcript.length
    events := (sortedBy SessionStore.sessionKey events).map fun event =>
      { messageId := event.2.messageId
        followedByTranscript := transcript.any fun row =>
          SessionStore.sessionKey event < SessionStore.sessionKey row
        nextOrdinal := ((partsOf store event.2.messageId).map (·.ordinal)).foldl
          (fun next ordinal => max next (ordinal + 1)) 0
        slotMarkers := slotMarkers numbers store event.2.messageId } }

/-- The events of a snapshot in order: two different markers conflict, an event without one gets
one, and the consumed events are counted. -/
def adoptEvents (sessionId : JsString) :
    SessionStore → List TranscriptSlotEvent → Option (SessionStore × Nat)
  | store, [] => some (store, 0)
  | store, event :: events => do
      guard ¬ (true ∈ event.slotMarkers ∧ false ∈ event.slotMarkers)
      let consumed := if event.slotMarkers = [] then event.followedByTranscript
        else event.slotMarkers.contains true
      let adopted ← if event.slotMarkers = [] then
          store.createMessageParts event.messageId [{
            sessionId := sessionId
            partType := .snapshot
            ordinal := event.nextOrdinal
            textContent := none
            metadata := some (encodeTranscriptSlotMarker numbers consumed) }]
        else some store
      let (final, count) ← adoptEvents sessionId adopted events
      some (final, count + if consumed then 1 else 0)

structure TranscriptSlot where
  conversation : ConversationRecord
  transcriptCount : Nat
  consumedCount : Nat
  eventMessageIds : List MessageId
  deriving DecidableEq

/-- The next list index of a session is its transcript rows plus its consumed events. -/
def prepareSessionTranscript (store : SessionStore) (sessionId : JsString) (createdAt : Timestamp) :
    Option (SessionStore × TranscriptSlot) := do
  let (created, conversation) ← store.getOrCreateConversation sessionId createdAt
  let snapshot := getTranscriptSlotSnapshot numbers created sessionId
  let (adopted, consumedCount) ← adoptEvents numbers sessionId created snapshot.events
  some (adopted, ⟨conversation, snapshot.transcriptCount, consumedCount,
    snapshot.events.map (·.messageId)⟩)

/-- A message of a cumulative transcript list. -/
abbrev ParsedMessage := AppendMessageInput

structure ScrubCounts extends RedactionCounts where
  text : JsString

/-- The scrubbed image of a transcript message. -/
def scrubMessage (scrubWithCounts : JsString → ScrubCounts) (message : ParsedMessage) :
    AppendMessageInput :=
  { message with content := (scrubWithCounts message.content).text }

/-- The redaction counts of a batch. -/
def totalCounts (scrubWithCounts : JsString → ScrubCounts) (messages : List ParsedMessage) :
    RedactionCounts :=
  messages.foldl (fun total message =>
    let counts := scrubWithCounts message.content
    ⟨total.gitleaks + counts.gitleaks, total.builtIn + counts.builtIn,
      total.global + counts.global, total.project + counts.project⟩) ⟨0, 0, 0, 0⟩

def validateRedactionCounts (counts : RedactionCounts) : Bool :=
  counts.gitleaks ≤ maxSafeInteger && counts.builtIn ≤ maxSafeInteger &&
    counts.global ≤ maxSafeInteger && counts.project ≤ maxSafeInteger

/-- Redaction counts are added while they and their total stay safe integers. -/
def upsertCounts (stored counts : RedactionCounts) : Option RedactionCounts := do
  guard (validateRedactionCounts counts)
  if counts = ⟨0, 0, 0, 0⟩ then some stored else do
    let next : RedactionCounts := ⟨stored.gitleaks + counts.gitleaks,
      stored.builtIn + counts.builtIn, stored.global + counts.global,
      stored.project + counts.project⟩
    guard (validateRedactionCounts next)
    guard (next.gitleaks + next.builtIn + next.global + next.project ≤ maxSafeInteger)
    some next

structure AppendedTranscript where
  conversationId : ConversationId
  records : List MessageRecord
  totalCounts : RedactionCounts

/-- New messages are scrubbed and appended to the messages and the context of a conversation. -/
def appendTranscriptMessages (scrubWithCounts : JsString → ScrubCounts) (store : SessionStore)
    (conversationId : ConversationId) (newMessages : List ParsedMessage)
    (clock : MessageId → Timestamp) : Option (SessionStore × Option AppendedTranscript) :=
  if newMessages = [] then some (store, none) else do
    let counts := totalCounts scrubWithCounts newMessages
    let (messages, records) ← store.messages.appendMessages conversationId
      (newMessages.map (scrubMessage scrubWithCounts)) clock
    let redactions ← upsertCounts store.redactions counts
    let contextItems ← Tables.insertContextMessages (store.contextItems conversationId)
      (nextOrdinalOf (store.contextItems conversationId)) (records.map (·.messageId))
    some ({ store with
      messages := messages
      redactions := redactions
      contextItems := Function.update store.contextItems conversationId contextItems },
      some ⟨conversationId, records, counts⟩)

/-- The part of a cumulative list that is not stored yet goes to the newest conversation. -/
def appendSessionTranscript (scrubWithCounts : JsString → ScrubCounts) (store : SessionStore)
    (sessionId : JsString) (parsed : List ParsedMessage) (createdAt : Timestamp)
    (clock : MessageId → Timestamp) : Option (SessionStore × Option AppendedTranscript) := do
  let (prepared, slot) ← prepareSessionTranscript numbers store sessionId createdAt
  appendTranscriptMessages scrubWithCounts prepared slot.conversation.conversationId
    (parsed.drop (slot.transcriptCount + slot.consumedCount)) clock

inductive CompactionPass where
  | leaf
  | condensed
  deriving DecidableEq, Repr

def CompactionPass.name : CompactionPass → JsString
  | leaf => js "leaf"
  | condensed => js "condensed"

def levelName : Compaction.CompactionLevel → JsString
  | .normal => js "normal"
  | .aggressive => js "aggressive"
  | .fallback => js "fallback"

structure CompactionEvent where
  pass : CompactionPass
  level : Compaction.CompactionLevel
  tokensBefore : Nat
  tokensAfter : Nat
  createdSummaryId : SummaryId
  createdSummaryIds : List SummaryId
  condensedPassOccurred : Bool
  deriving DecidableEq

def CompactionEvent.content (event : CompactionEvent) : JsString :=
  js "LCM compaction " ++ event.pass.name ++ js " pass (" ++ levelName event.level ++ js "): " ++
    decimal event.tokensBefore ++ js " -> " ++ decimal event.tokensAfter

def CompactionEvent.metadata (event : CompactionEvent) (conversationId : ConversationId) :
    JsString :=
  Json.print numbers.format (.object [
    (js "conversationId", .number (numbers.ofNat conversationId)),
    (js "pass", .string event.pass.name),
    (js "level", .string (levelName event.level)),
    (js "tokensBefore", .number (numbers.ofNat event.tokensBefore)),
    (js "tokensAfter", .number (numbers.ofNat event.tokensAfter)),
    (js "createdSummaryId", .string event.createdSummaryId),
    (js "createdSummaryIds", .array (event.createdSummaryIds.map .string)),
    (js "condensedPassOccurred", .boolean event.condensedPassOccurred)])

/-- A compaction event is a system message that is born with an unconsumed slot marker. -/
def persistCompactionEvent (store : SessionStore) (conversationId : ConversationId)
    (sessionId : JsString) (event : CompactionEvent) (createdAt : Timestamp)
    (clock : MessageId → Timestamp) : Option SessionStore := do
  let (created, _) ← store.getOrCreateConversation sessionId createdAt
  let (messages, records) ← created.messages.appendMessages conversationId
    [⟨.system, event.content, Compaction.estimateTokens event.content⟩] clock
  let eventMessage ← records.head?
  { created with messages := messages }.createMessageParts eventMessage.messageId [
    { sessionId := sessionId
      partType := .compaction
      ordinal := 0
      textContent := some event.content
      metadata := some (event.metadata numbers conversationId) },
    { sessionId := sessionId
      partType := .snapshot
      ordinal := 1
      textContent := none
      metadata := some (encodeTranscriptSlotMarker numbers false) }]

/-- The events of a conversation go to its session, and a failed event leaves nothing behind. -/
def persistCompactionEvents (store : SessionStore) (conversationId : ConversationId)
    (event : CompactionEvent) (createdAt : Timestamp) (clock : MessageId → Timestamp) :
    SessionStore :=
  match store.conversations.getConversation conversationId with
  | none => store
  | some conversation =>
      (persistCompactionEvent numbers store conversationId conversation.sessionId event createdAt
        clock).getD store

end Lcm.Session
