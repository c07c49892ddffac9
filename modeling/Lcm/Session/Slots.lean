import Lcm.Library.Prefixes
import Lcm.Library.StepSystem
import Lcm.Session.Order

namespace Lcm.Session
open Text Store

variable {Number : Type} (numbers : JsNumbers Number)
  (scrubWithCounts : JsString → ScrubCounts)

/-- An action on the sessions of a project, each in its own transaction. -/
inductive SessionAction where
  | createConversation (sessionId : JsString) (createdAt : Timestamp)
  | post (sessionId : JsString) (parsed : List ParsedMessage) (createdAt : Timestamp)
      (clock : MessageId → Timestamp)
  | event (conversationId : ConversationId) (event : CompactionEvent) (createdAt : Timestamp)
      (clock : MessageId → Timestamp)

/-- A run holds the store and the lists that each session has posted so far. -/
structure SessionRun where
  store : SessionStore
  posted : JsString → List (List ParsedMessage)

/-- A failed transaction leaves the store as it was. -/
def sessionAct (run : SessionRun) : SessionAction → SessionRun
  | .createConversation sessionId createdAt =>
      { run with store := run.store.createConversation sessionId createdAt }
  | .post sessionId parsed createdAt clock =>
      match appendSessionTranscript numbers scrubWithCounts run.store sessionId parsed createdAt
          clock with
      | some (store, _) =>
          ⟨store, Function.update run.posted sessionId (run.posted sessionId ++ [parsed])⟩
      | none => run
  | .event conversationId event createdAt clock =>
      { run with
        store := persistCompactionEvents numbers run.store conversationId event createdAt clock }

/-- The sessions of a project start without conversations. -/
def sessionSystem : StepSystem SessionRun SessionAction where
  start run := run = ⟨.empty, fun _ => []⟩
  step before action after := sessionAct numbers scrubWithCounts before action = after

/-- A slot marker reads back as the flag it was written with. -/
theorem parse_encode_marker (consumed : Bool) :
    parseTranscriptSlotMarker numbers (some (encodeTranscriptSlotMarker numbers consumed)) =
      some consumed := by
  have one : numbers.toInteger (numbers.ofNat 1) = some 1 :=
    numbers.toInteger_ofNat 1 (by decide)
  have printable : Json.Printable numbers.format (.object [(transcriptSlotMetadataKey,
      .object [(js "version", .number (numbers.ofNat 1)), (js "consumed", .boolean consumed)])]) := by
    apply Json.Printable.object
    · simp
    · intro member inside
      rw [List.mem_singleton.mp inside]
      apply Json.Printable.object
      · simp only [List.map_cons, List.map_nil]
        decide
      · intro member inside
        rcases List.mem_cons.mp inside with rfl | inside
        · exact .number (numbers.printable_ofNat (by decide))
        · rw [List.mem_singleton.mp inside]
          exact .boolean consumed
  have version : property [(js "version", Json.number (numbers.ofNat 1)),
      (js "consumed", .boolean consumed)] (js "version") = some (.number (numbers.ofNat 1)) := rfl
  have flag : property [(js "version", Json.number (numbers.ofNat 1)),
      (js "consumed", .boolean consumed)] (js "consumed") = some (.boolean consumed) := rfl
  have marker : property [(transcriptSlotMetadataKey,
      Json.object [(js "version", .number (numbers.ofNat 1)), (js "consumed", .boolean consumed)])]
        transcriptSlotMetadataKey = some (.object [(js "version", .number (numbers.ofNat 1)),
          (js "consumed", .boolean consumed)]) := rfl
  unfold parseTranscriptSlotMarker encodeTranscriptSlotMarker
  simp only [Option.bind_eq_bind, Option.bind_some, Json.parse_print printable, marker, version,
    flag, one, guard_true]
  rfl

/-- The invariant of a store whose events are all born with an unconsumed slot marker. -/
structure Sound (store : SessionStore) : Prop extends Linked store where
  marked : ∀ messageId, store.hasCompactionPart messageId = true →
    slotMarkers numbers store messageId = [false]
  contexts : ∀ conversationId, ∃ items, store.contextItems conversationId = .numbered items

theorem sound_empty : Sound numbers .empty where
  conversations := List.forall_mem_nil _
  parts := List.forall_mem_nil _
  marked := fun _ marked => nomatch marked
  contexts := fun _ => ⟨[], rfl⟩

theorem Sound.grow {before after : SessionStore} (sound : Sound numbers before)
    (grows : Grows before after) : Sound numbers after where
  toLinked := sound.toLinked.grows grows
  marked := by
    rw [grows.rest]
    exact sound.marked
  contexts := by
    rw [grows.rest]
    exact sound.contexts

/-- Events with an unconsumed marker are adopted without a change and consume no index. -/
theorem adoptEvents_unconsumed (sessionId : JsString) (store : SessionStore)
    {events : List TranscriptSlotEvent} (unconsumed : ∀ event ∈ events, event.slotMarkers = [false]) :
    adoptEvents numbers sessionId store events = some (store, 0) := by
  induction events with
  | nil => rfl
  | cons event events ih =>
      have marker := unconsumed event (List.mem_cons_self ..)
      have rest := ih fun other inside => unconsumed other (List.mem_cons_of_mem _ inside)
      simp [adoptEvents, marker, rest]

/-- The next list index of a session is the number of its transcript rows. -/
theorem prepareSessionTranscript_count {store after : SessionStore} (sound : Sound numbers store)
    {sessionId : JsString} {createdAt : Timestamp} {conversation : ConversationRecord}
    (opened : store.getOrCreateConversation sessionId createdAt = some (after, conversation)) :
    prepareSessionTranscript numbers store sessionId createdAt =
      some (after, ⟨conversation, (store.transcriptRows sessionId).length, 0,
        (getTranscriptSlotSnapshot numbers after sessionId).events.map (·.messageId)⟩) := by
  obtain ⟨grows, _⟩ := getOrCreateConversation_newest opened
  have grown := sound.grow numbers grows
  have unconsumed : ∀ event ∈ (getTranscriptSlotSnapshot numbers after sessionId).events,
      event.slotMarkers = [false] := by
    intro event inside
    obtain ⟨row, member, rfl⟩ := List.mem_map.mp inside
    have classified := (List.mem_filter.mp ((SortedBy.perm _).mem_iff.mp member)).2
    exact grown.marked _ classified
  have count : (getTranscriptSlotSnapshot numbers after sessionId).transcriptCount =
      (store.transcriptRows sessionId).length := by
    rw [← transcriptRows_grows sound.toLinked grows, SessionStore.transcriptRows, List.length_map,
      (SortedBy.perm _).length_eq]
    rfl
  unfold prepareSessionTranscript
  simp only [Option.bind_eq_bind, opened, Option.bind_some,
    adoptEvents_unconsumed numbers sessionId after unconsumed, count]

/-- A step that keeps a store sound and appends transcript rows to one session only. -/
structure Appended (before after : SessionStore) (sessionId : JsString)
    (inputs : List AppendMessageInput) : Prop where
  sound : Sound numbers after
  conversations : ∀ conversation ∈ before.conversations.rows,
    conversation ∈ after.conversations.rows
  rows : ∀ session, (after.transcriptRows session).map (·.input) =
    (before.transcriptRows session).map (·.input) ++ if session = sessionId then inputs else []

theorem Grows.appended {before after : SessionStore} (sound : Sound numbers before)
    (grows : Grows before after) (sessionId : JsString) :
    Appended numbers before after sessionId [] where
  sound := sound.grow numbers grows
  conversations := grows.conversations
  rows := by
    intro session
    rw [transcriptRows_grows sound.toLinked grows, ite_self, List.append_nil]

theorem Appended.trans_empty {before middle after : SessionStore} {sessionId : JsString}
    {inputs : List AppendMessageInput} (first : Appended numbers before middle sessionId [])
    (second : Appended numbers middle after sessionId inputs) :
    Appended numbers before after sessionId inputs where
  sound := second.sound
  conversations := fun conversation inside =>
    second.conversations conversation (first.conversations conversation inside)
  rows := by
    intro session
    rw [second.rows, first.rows, ite_self, List.append_nil]

/-- New message rows keep a store linked. -/
theorem Linked.messages {store : SessionStore} (linked : Linked store) {messages : MessageTable}
    {records : List MessageRecord} {conversation : ConversationRecord}
    (stored : conversation ∈ store.conversations.rows)
    (entries : messages.rows.entries = store.messages.rows.entries ++ MessageTable.entriesOf records)
    (placed : ∀ record ∈ records, record.conversationId = conversation.conversationId) :
    Linked { store with messages := messages } where
  conversations := by
    intro message inside
    rw [show messages.rows.rows = _ from MessageTable.rows_of_entries entries] at inside
    rcases List.mem_append.mp inside with old | new
    · exact linked.conversations message old
    · exact ⟨conversation, ConversationTable.getConversation_eq_some.mpr
        ⟨stored, (placed message new).symm⟩⟩
  parts := by
    intro part inside
    show part.messageId ∈ messages.rows.keys
    rw [KeyedTable.keys, entries, List.map_append]
    exact List.mem_append_left _ (linked.parts part inside)

/-- A message without parts has no compaction part. -/
theorem Linked.bare {store : SessionStore} (linked : Linked store) {messageId : MessageId}
    (fresh : messageId ∉ store.messages.rows.keys) : store.hasCompactionPart messageId = false := by
  unfold SessionStore.hasCompactionPart
  rw [List.any_eq_false]
  intro part inside
  have other : part.messageId ≠ messageId := fun same => fresh (same ▸ linked.parts part inside)
  simp [other]

/-- An append to the newest conversation of a session adds its scrubbed messages to the rows. -/
theorem appendTranscriptMessages_appended {store after : SessionStore}
    (sound : Sound numbers store) {sessionId : JsString} {conversation : ConversationRecord}
    (newest : store.conversations.getConversationBySessionId sessionId = some conversation)
    {newMessages : List ParsedMessage} {clock : MessageId → Timestamp}
    {result : Option AppendedTranscript}
    (appended : appendTranscriptMessages scrubWithCounts store conversation.conversationId newMessages
      clock = some (after, result)) :
    Appended numbers store after sessionId (newMessages.map (scrubMessage scrubWithCounts)) := by
  unfold appendTranscriptMessages at appended
  split at appended
  · next empty =>
      cases appended
      rw [empty]
      exact (Grows.refl store).appended numbers sound sessionId
  · simp only [Option.bind_eq_bind, Option.bind_eq_some_iff, Prod.exists] at appended
    obtain ⟨messages, records, inserted, redactions, _, contextItems, extended, same⟩ := appended
    cases same
    have entries := MessageTable.appendMessages_entries inserted
    obtain ⟨inputs, ascending, placed⟩ := MessageTable.appendMessages_records inserted
    obtain ⟨_, fresh⟩ := MessageTable.records_of_entries entries
    obtain ⟨stored, _, _⟩ := ConversationTable.getConversationBySessionId_newest newest
    have linked := sound.toLinked.messages stored entries fun record inside => (placed record inside).1
    constructor
    · constructor
      · exact ⟨linked.conversations, linked.parts⟩
      · exact sound.marked
      · intro other
        show ∃ items, Function.update store.contextItems conversation.conversationId contextItems other =
          .numbered items
        rw [Function.update_apply]
        split
        · obtain ⟨items, numbered⟩ := sound.contexts conversation.conversationId
          rw [numbered, nextOrdinalOf_numbered, insertContextMessages_numbered] at extended
          exact ⟨_, (Option.some.inj extended).symm⟩
        · exact sound.contexts other
    · exact fun _ inside => inside
    · intro session
      have rows := transcriptRows_append newest (MessageTable.rows_of_entries entries) placed ascending
        (fun record inside => sound.toLinked.bare (fresh record inside).1) session
      show ({ store with messages := messages }.transcriptRows session).map MessageRecord.input = _
      rw [rows, List.map_append]
      apply congrArg (_ ++ ·)
      split
      · exact inputs
      · rfl

/-- A call adds the part of its list that is not stored yet. -/
theorem appendSessionTranscript_appended {store after : SessionStore}
    (sound : Sound numbers store) {sessionId : JsString} {parsed : List ParsedMessage}
    {createdAt : Timestamp} {clock : MessageId → Timestamp} {result : Option AppendedTranscript}
    (appended : appendSessionTranscript numbers scrubWithCounts store sessionId parsed createdAt
      clock = some (after, result)) :
    Appended numbers store after sessionId ((parsed.drop (store.transcriptRows sessionId).length).map
        (scrubMessage scrubWithCounts)) ∧
      validateConversationText sessionId = true ∧
        ∃ conversation ∈ after.conversations.rows, conversation.sessionId = sessionId := by
  unfold appendSessionTranscript at appended
  simp only [Option.bind_eq_bind, Option.bind_eq_some_iff, Prod.exists] at appended
  obtain ⟨prepared, slot, prepares, appends⟩ := appended
  cases opens : store.getOrCreateConversation sessionId createdAt with
  | none => simp [prepareSessionTranscript, opens] at prepares
  | some opened =>
      obtain ⟨created, conversation⟩ := opened
      obtain ⟨grows, newest⟩ := getOrCreateConversation_newest opens
      have counted := prepareSessionTranscript_count numbers sound opens
      rw [counted] at prepares
      cases prepares
      rw [Nat.add_zero] at appends
      have stored := appendTranscriptMessages_appended numbers scrubWithCounts
        (sound.grow numbers grows) newest appends
      obtain ⟨inside, named, _⟩ := ConversationTable.getConversationBySessionId_newest newest
      refine ⟨(grows.appended numbers sound sessionId).trans_empty numbers stored, ?_,
        conversation, stored.conversations conversation inside, named⟩
      exact (@getOrCreateConversation_isSome store sessionId createdAt).mp (by rw [opens]; rfl)

/-- The snapshot parts of one message are found by its identifier. -/
theorem slotMarkers_other {store : SessionStore} {parts : List MessagePartRecord}
    {newId messageId : MessageId} (owned : ∀ part ∈ parts, part.messageId = newId)
    (other : messageId ≠ newId) :
    slotMarkers numbers { store with parts := store.parts ++ parts } messageId =
      slotMarkers numbers store messageId := by
  have silent : parts.filter (fun part => part.messageId = messageId) = [] := by
    apply List.filter_eq_nil_iff.mpr
    intro part inside
    simp [owned part inside, Ne.symm other]
  unfold slotMarkers partsOf
  rw [List.filter_append, silent, List.append_nil]

/-- A new event has the one unconsumed marker that it was born with. -/
theorem slotMarkers_event {store : SessionStore} {messageId : MessageId}
    (fresh : ∀ part ∈ store.parts, part.messageId ≠ messageId) {compaction snapshot : MessagePartRecord}
    (compactionOwner : compaction.messageId = messageId)
    (snapshotOwner : snapshot.messageId = messageId) (ordered : compaction.ordinal ≤ snapshot.ordinal)
    (compactionType : compaction.partType = .compaction) (snapshotType : snapshot.partType = .snapshot)
    (marker : snapshot.metadata = some (encodeTranscriptSlotMarker numbers false)) :
    slotMarkers numbers { store with parts := store.parts ++ [compaction, snapshot] } messageId =
      [false] := by
  have old : store.parts.filter (fun part => part.messageId = messageId) = [] := by
    apply List.filter_eq_nil_iff.mpr
    intro part inside
    simp [fresh part inside]
  have parts : partsOf { store with parts := store.parts ++ [compaction, snapshot] } messageId =
      [compaction, snapshot] := by
    unfold partsOf
    rw [List.filter_append, old, List.nil_append]
    simp [compactionOwner, snapshotOwner, sortedBy, ordered]
  unfold slotMarkers
  rw [parts]
  simp [compactionType, snapshotType, marker, parse_encode_marker]

/-- A message that is born with a compaction part and a marker is no transcript row. -/
theorem event_appended {store : SessionStore} (sound : Sound numbers store)
    {messages : MessageTable} {record : MessageRecord} {conversation : ConversationRecord}
    {compaction snapshot : MessagePartRecord} (stored : conversation ∈ store.conversations.rows)
    (entries : messages.rows.entries = store.messages.rows.entries ++ MessageTable.entriesOf [record])
    (placed : record.conversationId = conversation.conversationId)
    (compactionOwner : compaction.messageId = record.messageId)
    (snapshotOwner : snapshot.messageId = record.messageId)
    (ordered : compaction.ordinal ≤ snapshot.ordinal)
    (compactionType : compaction.partType = .compaction) (snapshotType : snapshot.partType = .snapshot)
    (marker : snapshot.metadata = some (encodeTranscriptSlotMarker numbers false))
    (sessionId : JsString) :
    Appended numbers store
      { store with messages := messages, parts := store.parts ++ [compaction, snapshot] }
      sessionId [] := by
  obtain ⟨_, fresh⟩ := MessageTable.records_of_entries entries
  have unused := (fresh record (List.mem_singleton_self record)).1
  have linked := sound.toLinked.messages stored entries (by simpa using placed)
  have owned : ∀ part ∈ [compaction, snapshot], part.messageId = record.messageId := by
    simp [compactionOwner, snapshotOwner]
  have bare : ∀ part ∈ store.parts, part.messageId ≠ record.messageId :=
    fun part inside same => unused (same ▸ sound.parts part inside)
  have used : record.messageId ∈ messages.rows.keys := by
    rw [KeyedTable.keys, entries, List.map_append]
    exact List.mem_append_right _ (List.mem_singleton_self _)
  have others : ∀ message ∈ store.messages.rows.rows, message.messageId ≠ record.messageId := by
    intro message inside same
    obtain ⟨⟨key, _⟩, entry, rfl⟩ := List.mem_map.mp inside
    apply unused
    rw [← same, store.messages.keyed _ entry]
    exact List.mem_map_of_mem entry
  constructor
  · constructor
    · constructor
      · exact linked.conversations
      · intro part inside
        rcases List.mem_append.mp inside with old | new
        · exact linked.parts part old
        · rw [owned part new]
          exact used
    · intro messageId marked
      by_cases isNew : messageId = record.messageId
      · subst isNew
        exact @slotMarkers_event _ numbers store _ bare _ _ compactionOwner snapshotOwner ordered
          compactionType snapshotType marker
      · have before := @hasCompactionPart_other store _ _ _ owned isNew
        have markers := @slotMarkers_other _ numbers store _ _ _ owned isNew
        exact markers.trans (sound.marked messageId (before.symm.trans marked))
    · exact sound.contexts
  · exact fun _ inside => inside
  · intro session
    rw [transcriptRows_event stored (MessageTable.rows_of_entries entries) placed others owned
      (by simp [compactionType]) session, ite_self, List.append_nil]

/-- What a compaction event adds: a message at the end of its conversation with its two parts. -/
theorem persistCompactionEvent_made {store after : SessionStore} {conversation : ConversationRecord}
    {event : CompactionEvent} {createdAt : Timestamp} {clock : MessageId → Timestamp}
    (persisted : persistCompactionEvent numbers store conversation.conversationId
      conversation.sessionId event createdAt clock = some after) :
    ∃ created messages record compaction snapshot, Grows store created ∧
      messages.rows.entries = created.messages.rows.entries ++ MessageTable.entriesOf [record] ∧
      (record.conversationId = conversation.conversationId ∧
        created.messages.nextSeq conversation.conversationId ≤ record.seq) ∧
      (compaction.messageId = record.messageId ∧ compaction.ordinal = 0 ∧ compaction.partType = .compaction) ∧
      (snapshot.messageId = record.messageId ∧ snapshot.ordinal = 1 ∧ snapshot.partType = .snapshot ∧
        snapshot.metadata = some (encodeTranscriptSlotMarker numbers false)) ∧
      after = { created with messages := messages, parts := created.parts ++ [compaction, snapshot] } := by
  unfold persistCompactionEvent at persisted
  simp only [Option.bind_eq_bind, Option.bind_eq_some_iff, Prod.exists] at persisted
  obtain ⟨created, newest, opened, messages, records, inserted, record, head, parts⟩ := persisted
  obtain ⟨grows, _⟩ := getOrCreateConversation_newest opened
  have entries := MessageTable.appendMessages_entries inserted
  obtain ⟨inputs, _, placed⟩ := MessageTable.appendMessages_records inserted
  obtain rfl : records = [record] := by
    have single : records.length = 1 := by
      rw [← List.length_map MessageRecord.input, inputs]
      rfl
    obtain ⟨only, rfl⟩ := List.length_eq_one_iff.mp single
    rw [List.head?_cons] at head
    rw [Option.some.inj head]
  unfold SessionStore.createMessageParts at parts
  simp only [Option.bind_eq_bind, Option.bind_eq_some_iff, Option.guard_eq_some', exists_const,
    List.map_cons, List.map_nil] at parts
  obtain ⟨_, same⟩ := parts
  exact ⟨created, messages, record, _, _, grows, entries, placed record (List.mem_singleton_self record),
    ⟨rfl, rfl, rfl⟩, ⟨rfl, rfl, rfl, rfl⟩, (Option.some.inj same).symm⟩

/-- A compaction event adds no transcript row to any session. -/
theorem persistCompactionEvent_appended {store after : SessionStore} (sound : Sound numbers store)
    {conversation : ConversationRecord} (stored : conversation ∈ store.conversations.rows)
    {event : CompactionEvent} {createdAt : Timestamp} {clock : MessageId → Timestamp}
    (persisted : persistCompactionEvent numbers store conversation.conversationId
      conversation.sessionId event createdAt clock = some after) (sessionId : JsString) :
    Appended numbers store after sessionId [] := by
  obtain ⟨created, messages, record, compaction, snapshot, grows, entries, placed, isCompaction, isSnapshot, rfl⟩ :=
    persistCompactionEvent_made numbers persisted
  apply (grows.appended numbers sound sessionId).trans_empty numbers
  exact event_appended numbers (sound.grow numbers grows) (grows.conversations conversation stored)
    entries placed.1 isCompaction.1 isSnapshot.1 (by rw [isCompaction.2.1, isSnapshot.2.1]; exact Nat.zero_le 1)
    isCompaction.2.2 isSnapshot.2.2.1 isSnapshot.2.2.2 sessionId

theorem persistCompactionEvents_appended {store : SessionStore} (sound : Sound numbers store)
    (conversationId : ConversationId) (event : CompactionEvent) (createdAt : Timestamp)
    (clock : MessageId → Timestamp) (sessionId : JsString) :
    Appended numbers store
      (persistCompactionEvents numbers store conversationId event createdAt clock) sessionId [] := by
  unfold persistCompactionEvents
  split
  · exact (Grows.refl store).appended numbers sound sessionId
  · next conversation found =>
      obtain ⟨stored, rfl⟩ := ConversationTable.getConversation_eq_some.mp found
      cases persisted : persistCompactionEvent numbers store conversation.conversationId
          conversation.sessionId event createdAt clock with
      | none => exact (Grows.refl store).appended numbers sound sessionId
      | some after => exact persistCompactionEvent_appended numbers sound stored persisted sessionId

/-- The checks that decide whether new messages of a session are stored. -/
def Accepted (store : SessionStore) (sessionId : JsString) (newMessages : List ParsedMessage)
    (createdAt : Timestamp) : Prop :=
  validateConversationText sessionId = true ∧
    ∀ opened conversation,
      store.getOrCreateConversation sessionId createdAt = some (opened, conversation) →
        newMessages = [] ∨
          validateAppendTokenCounts (newMessages.map (scrubMessage scrubWithCounts)) = true ∧
          validateMessageInputs (MessageTable.numberInputs conversation.conversationId
            (store.messages.nextSeq conversation.conversationId)
            (newMessages.map (scrubMessage scrubWithCounts))) = true ∧
          (upsertCounts store.redactions (totalCounts scrubWithCounts newMessages)).isSome = true

theorem appendTranscriptMessages_isSome {store : SessionStore} (sound : Sound numbers store)
    {conversationId : ConversationId} {newMessages : List ParsedMessage}
    {clock : MessageId → Timestamp} :
    (appendTranscriptMessages scrubWithCounts store conversationId newMessages clock).isSome = true ↔
      (newMessages = [] ∨
        validateAppendTokenCounts (newMessages.map (scrubMessage scrubWithCounts)) = true ∧
        validateMessageInputs (MessageTable.numberInputs conversationId
          (store.messages.nextSeq conversationId)
          (newMessages.map (scrubMessage scrubWithCounts))) = true ∧
        (upsertCounts store.redactions (totalCounts scrubWithCounts newMessages)).isSome = true) := by
  have valid := @MessageTable.appendMessages_isSome store.messages conversationId
    (newMessages.map (scrubMessage scrubWithCounts)) clock
  unfold appendTranscriptMessages
  by_cases empty : newMessages = []
  · simp [empty]
  · rw [List.map_eq_nil_iff] at valid
    simp only [empty, if_false, false_or] at valid ⊢
    rw [← and_assoc, ← valid]
    cases appended : store.messages.appendMessages conversationId
        (newMessages.map (scrubMessage scrubWithCounts)) clock with
    | none => simp
    | some result =>
        obtain ⟨messages, records⟩ := result
        obtain ⟨items, numbered⟩ := sound.contexts conversationId
        cases counted : upsertCounts store.redactions (totalCounts scrubWithCounts newMessages) with
        | none => simp
        | some redactions =>
            simp [numbered, nextOrdinalOf_numbered, insertContextMessages_numbered]

theorem appendSessionTranscript_isSome {store : SessionStore} (sound : Sound numbers store)
    {sessionId : JsString} {parsed : List ParsedMessage} {createdAt : Timestamp}
    {clock : MessageId → Timestamp} :
    (appendSessionTranscript numbers scrubWithCounts store sessionId parsed createdAt
      clock).isSome = true ↔
      Accepted scrubWithCounts store sessionId
        (parsed.drop (store.transcriptRows sessionId).length) createdAt := by
  unfold Accepted
  rw [← @getOrCreateConversation_isSome store sessionId createdAt]
  cases opens : store.getOrCreateConversation sessionId createdAt with
  | none => simp [appendSessionTranscript, prepareSessionTranscript, opens]
  | some opened =>
      obtain ⟨created, conversation⟩ := opened
      obtain ⟨grows, _⟩ := getOrCreateConversation_newest opens
      have counted := prepareSessionTranscript_count numbers sound opens
      have stored := @appendTranscriptMessages_isSome _ numbers scrubWithCounts created
        (sound.grow numbers grows) conversation.conversationId
        (parsed.drop (store.transcriptRows sessionId).length) clock
      have messages : created.messages = store.messages := by rw [grows.rest]
      have redactions : created.redactions = store.redactions := by rw [grows.rest]
      rw [messages, redactions] at stored
      unfold appendSessionTranscript
      simp only [Option.bind_eq_bind, counted, Option.bind_some, Nat.add_zero, stored]
      simp

/-- The invariant of a run: the rows of a session are the scrubbed image of its longest list. -/
structure SlotsTracked (run : SessionRun) : Prop where
  sound : Sound numbers run.store
  opened : ∀ sessionId, run.posted sessionId ≠ [] → validateConversationText sessionId = true ∧
    ∃ conversation, run.store.conversations.getConversationBySessionId sessionId = some conversation
  rows : ∀ sessionId, (run.posted sessionId).Pairwise Comparable →
    (run.store.transcriptRows sessionId).map (·.input) =
      (longest (run.posted sessionId)).map (scrubMessage scrubWithCounts)

/-- A step without a post keeps the invariant when it appends no rows. -/
theorem SlotsTracked.silent {run : SessionRun} (tracked : SlotsTracked numbers scrubWithCounts run)
    {after : SessionStore} {sessionId : JsString}
    (appended : Appended numbers run.store after sessionId []) :
    SlotsTracked numbers scrubWithCounts { run with store := after } where
  sound := appended.sound
  opened := by
    intro session posted
    obtain ⟨valid, conversation, newest⟩ := tracked.opened session posted
    obtain ⟨stored, named, _⟩ := ConversationTable.getConversationBySessionId_newest newest
    refine ⟨valid, Option.isSome_iff_exists.mp ?_⟩
    exact ConversationTable.getConversationBySessionId_isSome.mpr
      ⟨conversation, appended.conversations conversation stored, named⟩
  rows := by
    intro session comparable
    rw [appended.rows, ite_self, List.append_nil]
    exact tracked.rows session comparable

/-- A post appends the part of its list that is longer than every list before. -/
theorem SlotsTracked.post {run : SessionRun} (tracked : SlotsTracked numbers scrubWithCounts run)
    {after : SessionStore} {sessionId : JsString} {parsed : List ParsedMessage}
    {createdAt : Timestamp} {clock : MessageId → Timestamp} {result : Option AppendedTranscript}
    (appends : appendSessionTranscript numbers scrubWithCounts run.store sessionId parsed createdAt
      clock = some (after, result)) :
    SlotsTracked numbers scrubWithCounts
      ⟨after, Function.update run.posted sessionId (run.posted sessionId ++ [parsed])⟩ := by
  obtain ⟨appended, valid, named⟩ :=
    appendSessionTranscript_appended numbers scrubWithCounts tracked.sound appends
  constructor
  · exact appended.sound
  · intro session posted
    by_cases same : session = sessionId
    · subst same
      exact ⟨valid, Option.isSome_iff_exists.mp
        (ConversationTable.getConversationBySessionId_isSome.mpr named)⟩
    · change Function.update run.posted sessionId _ session ≠ [] at posted
      rw [Function.update_of_ne same] at posted
      obtain ⟨valid, conversation, newest⟩ := tracked.opened session posted
      obtain ⟨stored, named, _⟩ := ConversationTable.getConversationBySessionId_newest newest
      refine ⟨valid, Option.isSome_iff_exists.mp ?_⟩
      exact ConversationTable.getConversationBySessionId_isSome.mpr
        ⟨conversation, appended.conversations conversation stored, named⟩
  · intro session comparable
    change ((Function.update run.posted sessionId (run.posted sessionId ++ [parsed])) session).Pairwise
      Comparable at comparable
    show _ = (longest (Function.update run.posted sessionId (run.posted sessionId ++ [parsed])
      session)).map _
    rw [appended.rows]
    by_cases same : session = sessionId
    · subst same
      rw [Function.update_self] at comparable ⊢
      obtain ⟨before, _, crossed⟩ := List.pairwise_append.mp comparable
      have rows := tracked.rows session before
      have count : (run.store.transcriptRows session).length =
          (longest (run.posted session)).length := by
        rw [← List.length_map MessageRecord.input, rows, List.length_map]
      have last : Comparable (longest (run.posted session)) parsed :=
        Longest.comparable fun other inside =>
          crossed other inside parsed (List.mem_singleton_self parsed)
      rw [if_pos rfl, rows, count, ← List.map_append, Longest.append_drop last]
    · rw [Function.update_of_ne same] at comparable ⊢
      rw [if_neg same, List.append_nil]
      exact tracked.rows session comparable

theorem reachable_tracked {run : SessionRun}
    (reached : (sessionSystem numbers scrubWithCounts).Reachable run) :
    SlotsTracked numbers scrubWithCounts run := by
  apply StepSystem.Reachable.invariant _ _ reached
  · rintro state rfl
    exact ⟨sound_empty numbers, fun _ posted => absurd rfl posted, fun _ _ => rfl⟩
  · rintro before label after _ tracked rfl
    cases label with
    | createConversation sessionId createdAt =>
        exact tracked.silent numbers scrubWithCounts
          ((createConversation_grows before.store sessionId createdAt).appended numbers tracked.sound
            sessionId)
    | post sessionId parsed createdAt clock =>
        cases appends : appendSessionTranscript numbers scrubWithCounts before.store sessionId parsed
            createdAt clock with
        | none =>
            rw [sessionAct, appends]
            exact tracked
        | some appended =>
            rw [sessionAct, appends]
            exact tracked.post numbers scrubWithCounts appends
    | event conversationId event createdAt clock =>
        exact tracked.silent numbers scrubWithCounts (persistCompactionEvents_appended numbers
          tracked.sound conversationId event createdAt clock [])

/-- A stale list of a session with a conversation appends nothing and changes nothing. -/
theorem appendSessionTranscript_stale {store : SessionStore} (sound : Sound numbers store)
    {sessionId : JsString} {conversation : ConversationRecord}
    (valid : validateConversationText sessionId = true)
    (newest : store.conversations.getConversationBySessionId sessionId = some conversation)
    {parsed : List ParsedMessage} (stale : parsed.length ≤ (store.transcriptRows sessionId).length)
    (createdAt : Timestamp) (clock : MessageId → Timestamp) :
    appendSessionTranscript numbers scrubWithCounts store sessionId parsed createdAt clock =
      some (store, none) := by
  have opened := @getOrCreateConversation_existing store sessionId createdAt conversation valid newest
  have counted := prepareSessionTranscript_count numbers sound opened
  unfold appendSessionTranscript
  simp only [Option.bind_eq_bind, counted, Option.bind_some, Nat.add_zero]
  rw [List.drop_eq_nil_of_le stale, appendTranscriptMessages, if_pos rfl]

def sampleScrub (text : JsString) : ScrubCounts :=
  ⟨⟨0, (text.filter (· = 35)).length, 0, 0⟩, text.map fun unit => if unit = 35 then 42 else unit⟩

def sampleMessage (content : String) : ParsedMessage := ⟨.user, js content, 1⟩

def sampleEvent : CompactionEvent where
  pass := .leaf
  level := .normal
  tokensBefore := 20
  tokensAfter := 5
  createdSummaryId := js "sum_1"
  createdSummaryIds := [js "sum_1"]
  condensedPassOccurred := false

/-- Events and a second conversation stand between growing and stale lists of one session. -/
def sampleSessionActions : List SessionAction :=
  [.post (js "s") [sampleMessage "a#"] 1 fun _ => 0,
    .event 1 sampleEvent 2 fun _ => 0,
    .post (js "s") [sampleMessage "a#", sampleMessage "b"] 3 fun _ => 0,
    .createConversation (js "s") 4,
    .event 2 sampleEvent 5 fun _ => 0,
    .post (js "s") [sampleMessage "a#"] 6 fun _ => 0,
    .post (js "s") [sampleMessage "a#", sampleMessage "b", sampleMessage "c"] 7 fun _ => 0]

def sampleSessionRun : SessionRun :=
  sampleSessionActions.foldl (sessionAct naturalNumbers sampleScrub) ⟨.empty, fun _ => []⟩

theorem sampleSessionRun_reachable :
    (sessionSystem naturalNumbers sampleScrub).Reachable sampleSessionRun :=
  StepSystem.Reachable.fold (fun _ _ => rfl) sampleSessionActions (.start rfl)

end Lcm.Session
