import Lcm.Session.SessionRows

namespace Lcm.Session
open Text Store

variable {Number : Type} {numbers : JsNumbers Number}

/-- What a transcript row says. -/
def rowText (row : MessageRecord) : MessageRole × JsString := (row.role, row.content)

/-- What a message says when it is stored. -/
def scrubbedText (scrubWithCounts : JsString → ScrubCounts) (message : ParsedMessage) : MessageRole × JsString :=
  (message.role, (scrubWithCounts message.content).text)

theorem storedIsPrefix_iff {stored : List MessageRecord} {messages : List ParsedMessage}
    {scrubWithCounts : JsString → ScrubCounts} :
    storedIsPrefix stored messages scrubWithCounts = true ↔
      stored.map rowText <+: messages.map (scrubbedText scrubWithCounts) := by
  induction stored generalizing messages with
  | nil => simp [storedIsPrefix]
  | cons row stored ih =>
      cases messages with
      | nil => simp [storedIsPrefix]
      | cons message messages =>
          rw [List.map_cons, List.map_cons, List.cons_prefix_cons, ← ih]
          simp only [storedIsPrefix, List.length_cons, Nat.add_le_add_iff_right, List.zip_cons_cons, List.all_cons,
            Bool.and_eq_true, decide_eq_true_eq, rowText, scrubbedText, Prod.mk.injEq]
          tauto

/-- A marker reads back as the mode that it was written with. -/
theorem parse_encode_lineage (mode : CodexLineageMode) :
    parseCodexLineageMarker numbers (some (encodeCodexLineageMarker numbers mode)) = some (.mode mode) := by
  have one : numbers.toInteger (numbers.ofNat 1) = some 1 := numbers.toInteger_ofNat 1 (by decide)
  have printable : Json.Printable numbers.format (.object [(codexLineageMetadataKey,
      .object [(js "version", .number (numbers.ofNat 1)), (js "mode", .string mode.name)])]) := by
    apply Json.Printable.object
    · simp
    · intro member inside
      rw [List.mem_singleton.mp inside]
      apply Json.Printable.object
      · simp only [List.map_cons, List.map_nil]
        decide
      · intro member inside
        rcases List.mem_cons.mp inside with rfl | inside
        · exact .number (numbers.printable_ofNat (by decide))
        · rw [List.mem_singleton.mp inside]
          exact .string mode.name
  have version : property [(js "version", Json.number (numbers.ofNat 1)), (js "mode", .string mode.name)]
      (js "version") = some (.number (numbers.ofNat 1)) := rfl
  have name : property [(js "version", Json.number (numbers.ofNat 1)), (js "mode", .string mode.name)]
      (js "mode") = some (.string mode.name) := rfl
  have marker : property [(codexLineageMetadataKey, Json.object [(js "version", .number (numbers.ofNat 1)),
      (js "mode", .string mode.name)])] codexLineageMetadataKey = some (.object
        [(js "version", .number (numbers.ofNat 1)), (js "mode", .string mode.name)]) := rfl
  have modes : codexLineageMode numbers (.object [(js "version", .number (numbers.ofNat 1)),
      (js "mode", .string mode.name)]) = .mode mode := by
    rw [codexLineageMode, version, name]
    simp only [one, true_and]
    cases mode with
    | boundary => rfl
    | array => rfl
  unfold parseCodexLineageMarker encodeCodexLineageMarker
  simp only [Option.bind_eq_bind, Option.bind_some, Json.parse_print printable, marker, Option.map_some, modes]

/-- The part that marks the first transcript row of a session. -/
def lineagePart (numbers : JsNumbers Number) (sessionId : JsString) (mode : CodexLineageMode) (messageId : MessageId) :
    MessagePartRecord where
  sessionId := sessionId
  partType := .snapshot
  ordinal := 0
  textContent := none
  metadata := some (encodeCodexLineageMarker numbers mode)
  messageId := messageId

section Marker

variable {store : SessionStore} {sessionId : JsString}

/-- The lineage markers on the transcript rows of a session. -/
def lineageMarkers (numbers : JsNumbers Number) (store : SessionStore) (sessionId : JsString) :
    List CodexLineageMarker :=
  (store.transcriptRows sessionId).flatMap fun row =>
    (partsOf store row.messageId).filterMap fun part => parseCodexLineageMarker numbers part.metadata

/-- The reading that the first transcript row of a session chose. -/
def sessionLineage (numbers : JsNumbers Number) (store : SessionStore) (sessionId : JsString) :
    Option CodexLineageMarker :=
  (store.transcriptRows sessionId).head?.bind fun first => readCodexLineageMarker numbers store first.messageId

theorem firstRowMarker_eq (numbered : Numbered store) {conversation : ConversationRecord}
    (stored : conversation ∈ store.conversations.rows) (named : conversation.sessionId = sessionId)
    (nonempty : store.transcriptRows sessionId ≠ []) :
    firstRowMarker numbers store sessionId conversation.conversationId (eventIds numbers store sessionId) =
      sessionLineage numbers store sessionId := by
  rw [firstRowMarker, firstSessionTranscriptRow_eq numbered stored named, sessionLineage]
  cases rows : store.transcriptRows sessionId with
  | nil => exact absurd rows nonempty
  | cons first rest => rfl

end Marker

/-- What a request appends, with the mode that it writes and the reading that it follows. A mismatch is none. -/
def lineageDecision (rows : List MessageRecord) (together : Bool) (lineage : Option CodexLineageMarker)
    (request : CodexLineageRequest) (scrubWithCounts : JsString → ScrubCounts) :
    Option (List ParsedMessage × Option CodexLineageMode × Option CodexLineageHistory) :=
  match request.child with
  | some child =>
      if rows = [] then some (child, some .boundary, some .filtered)
      else if together then
        match lineage with
        | some .invalid | some (.mode .array) => none
        | some (.mode .boundary) =>
            if storedIsPrefix rows child scrubWithCounts then some (child.drop rows.length, none, some .filtered)
            else none
        | none =>
            if storedIsPrefix rows request.full scrubWithCounts then
              some (request.full.drop rows.length, none, some .unfiltered)
            else none
      else none
  | none =>
      if rows = [] then some (request.full, if request.source = .array then some .array else none, none)
      else match lineage with
        | some .invalid | some (.mode .boundary) => none
        | some (.mode .array) | none => some (request.full.drop rows.length, none, none)

/-- What a decision does to the store. -/
def applyDecision (numbers : JsNumbers Number) (store : SessionStore) (sessionId : JsString)
    (conversationId : ConversationId) (scrubWithCounts : JsString → ScrubCounts) (clock : MessageId → Timestamp) :
    Option (List ParsedMessage × Option CodexLineageMode × Option CodexLineageHistory) → Option LineageResult
  | none => some (store, none, some .lineageMismatch)
  | some (newMessages, mode, history) =>
      (appendLineage numbers store sessionId conversationId newMessages mode scrubWithCounts clock).map
        fun (after, persisted) => (after, persisted, history)

/-- A request with messages follows the decision about the rows of its session. -/
theorem persistCodexLineage_eq {store created : SessionStore} (sound : Sound numbers store) (numbered : Numbered store)
    {sessionId : JsString} {request : CodexLineageRequest} (nonempty : request.full ≠ [])
    {scrubWithCounts : JsString → ScrubCounts} {createdAt : Timestamp} {clock : MessageId → Timestamp}
    {conversation : ConversationRecord}
    (opened : store.getOrCreateConversation sessionId createdAt = some (created, conversation)) :
    persistCodexLineage numbers store sessionId request scrubWithCounts createdAt clock =
      applyDecision numbers created sessionId conversation.conversationId scrubWithCounts clock
        (lineageDecision (created.transcriptRows sessionId) (decide (∀ row ∈ created.transcriptRows sessionId,
          row.conversationId = conversation.conversationId)) (sessionLineage numbers created sessionId) request
            scrubWithCounts) := by
  obtain ⟨grows, newest⟩ := getOrCreateConversation_newest opened
  obtain ⟨stored, named, _⟩ := ConversationTable.getConversationBySessionId_newest newest
  have counted := prepareSessionTranscript_count numbers sound opened
  rw [← transcriptRows_grows sound.toLinked grows] at counted
  have kept := numbered.grows grows
  have placed := @getMessages_transcript _ numbers created sessionId kept conversation stored named
  unfold persistCodexLineage
  rw [if_neg nonempty]
  simp only [Option.bind_eq_bind, counted, Option.bind_some, Nat.add_zero, Nat.lt_irrefl, false_or]
  rw [show (getTranscriptSlotSnapshot numbers created sessionId).events.map (·.messageId) =
    eventIds numbers created sessionId from rfl, placed]
  have appends : ∀ newMessages mode history,
      ((appendLineage numbers created sessionId conversation.conversationId newMessages mode scrubWithCounts
        clock).bind fun result => some (result.1, result.2, history)) = applyDecision numbers created sessionId
          conversation.conversationId scrubWithCounts clock (some (newMessages, mode, history)) := by
    intro newMessages mode history
    rw [applyDecision]
    cases appendLineage numbers created sessionId conversation.conversationId newMessages mode scrubWithCounts clock
    · rfl
    · rfl
  unfold lineageDecision
  by_cases empty : created.transcriptRows sessionId = []
  · rw [empty]
    cases request.child with
    | some child => exact appends child (some .boundary) (some .filtered)
    | none => exact appends request.full (if request.source = .array then some .array else none) none
  · have some' : ¬ (created.transcriptRows sessionId).length = 0 := fun none' => empty (List.length_eq_zero_iff.mp none')
    cases request.child with
    | some child =>
        dsimp only
        rw [if_neg some', if_neg empty]
        by_cases together : ∀ row ∈ created.transcriptRows sessionId, row.conversationId = conversation.conversationId
        · have whole : (created.transcriptRows sessionId).filter (fun message =>
              message.conversationId = conversation.conversationId) = created.transcriptRows sessionId :=
            List.filter_eq_self.mpr fun row inside => decide_eq_true (together row inside)
          rw [whole, if_neg (not_not_intro rfl), if_pos (decide_eq_true together)]
          rw [show (created.transcriptRows sessionId).head?.bind (fun first =>
            readCodexLineageMarker numbers created first.messageId) = sessionLineage numbers created sessionId from rfl]
          rcases sessionLineage numbers created sessionId with _ | (_ | _) | _
          · dsimp only
            cases storedIsPrefix (created.transcriptRows sessionId) request.full scrubWithCounts
            · rfl
            · exact appends _ _ _
          · dsimp only
            cases storedIsPrefix (created.transcriptRows sessionId) child scrubWithCounts
            · rfl
            · exact appends _ _ _
          · rfl
          · rfl
        · rw [if_neg (fun all => together (of_decide_eq_true all)), if_pos]
          · rfl
          · intro same
            exact together fun row inside => of_decide_eq_true (List.length_filter_eq_length_iff.mp same row inside)
    | none =>
        dsimp only
        rw [if_neg some', if_neg empty, firstRowMarker_eq kept stored named empty]
        rcases sessionLineage numbers created sessionId with _ | (_ | _) | _
        · exact appends _ _ _
        · rfl
        · exact appends _ _ _
        · rfl

/-- A request without messages meets a session that has rows. -/
theorem persistCodexLineage_empty {store : SessionStore} (numbered : Numbered store) {sessionId : JsString}
    (valid : validateConversationText sessionId = true) {conversation : ConversationRecord}
    (newest : store.conversations.getConversationBySessionId sessionId = some conversation)
    (rows : store.transcriptRows sessionId ≠ []) {request : CodexLineageRequest} (empty : request.full = [])
    {scrubWithCounts : JsString → ScrubCounts} {createdAt : Timestamp} {clock : MessageId → Timestamp} :
    persistCodexLineage numbers store sessionId request scrubWithCounts createdAt clock =
      some (store, none, if request.child.isSome then some .lineageMismatch
        else match sessionLineage numbers store sessionId with
          | some .invalid | some (.mode .boundary) => some .lineageMismatch
          | some (.mode .array) | none => none) := by
  obtain ⟨stored, named, _⟩ := ConversationTable.getConversationBySessionId_newest newest
  have count : (getTranscriptSlotSnapshot numbers store sessionId).transcriptCount ≠ 0 := by
    intro none'
    apply rows
    rw [SessionStore.transcriptRows, List.map_eq_nil_iff, ← List.length_eq_zero_iff, (SortedBy.perm _).length_eq]
    exact none'
  have marker := @firstRowMarker_eq _ numbers store sessionId numbered conversation stored named rows
  unfold persistCodexLineage
  rw [if_pos empty, valid]
  unfold emptyLineageHistory
  rw [newest]
  dsimp only
  rw [if_neg count, if_neg count]
  show some _ = _
  rw [show (getTranscriptSlotSnapshot numbers store sessionId).events.map (·.messageId) =
    eventIds numbers store sessionId from rfl, marker]
  all_goals rfl

end Lcm.Session
