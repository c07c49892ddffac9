import Lcm.Session.Transcript

namespace Lcm.Session
open Text Store

namespace ConversationTable

/-- An identifier belongs to at most one conversation. -/
theorem conversationId_unique {table : ConversationTable} {first second : ConversationRecord}
    (firstIn : first ∈ table.rows) (secondIn : second ∈ table.rows)
    (same : first.conversationId = second.conversationId) : first = second := by
  obtain ⟨index, firstAt⟩ := List.mem_iff_getElem?.mp firstIn
  obtain ⟨other, secondAt⟩ := List.mem_iff_getElem?.mp secondIn
  rw [table.numbered index first firstAt, table.numbered other second secondAt] at same
  obtain rfl : index = other := Nat.succ.inj same
  rw [firstAt] at secondAt
  exact Option.some.inj secondAt

theorem getConversation_eq_some {table : ConversationTable} {conversationId : ConversationId}
    {conversation : ConversationRecord} :
    table.getConversation conversationId = some conversation ↔
      conversation ∈ table.rows ∧ conversation.conversationId = conversationId := by
  constructor
  · intro found
    exact ⟨List.mem_of_find?_eq_some found, by simpa using List.find?_some found⟩
  · rintro ⟨inside, rfl⟩
    cases search : table.getConversation conversation.conversationId with
    | none =>
        have missing := List.find?_eq_none.mp search conversation inside
        simp at missing
    | some other =>
        have same : other.conversationId = conversation.conversationId := by
          simpa using List.find?_some search
        rw [conversationId_unique (List.mem_of_find?_eq_some search) inside same]

/-- The newest conversation of a session is behind every other one of the session. -/
theorem getConversationBySessionId_newest {table : ConversationTable} {sessionId : JsString}
    {conversation : ConversationRecord}
    (newest : table.getConversationBySessionId sessionId = some conversation) :
    conversation ∈ table.rows ∧ conversation.sessionId = sessionId ∧
      ∀ other ∈ table.rows, other.sessionId = sessionId →
        creationKey other ≤ creationKey conversation := by
  have found := List.argmax_mem newest
  obtain ⟨inside, session⟩ := List.mem_filter.mp found
  refine ⟨inside, by simpa using session, ?_⟩
  intro other member same
  apply List.le_of_mem_argmax _ newest
  exact List.mem_filter.mpr ⟨member, by simpa using same⟩

theorem getConversationBySessionId_isSome {table : ConversationTable} {sessionId : JsString} :
    (table.getConversationBySessionId sessionId).isSome = true ↔
      ∃ conversation ∈ table.rows, conversation.sessionId = sessionId := by
  rw [Option.isSome_iff_ne_none, getConversationBySessionId, Ne, List.argmax_eq_none,
    List.filter_eq_nil_iff]
  simp

/-- The only conversation of a session is its newest one. -/
theorem getConversationBySessionId_created {table : ConversationTable} {sessionId : JsString}
    (absent : table.getConversationBySessionId sessionId = none) (createdAt : Timestamp) :
    (table.createConversation sessionId createdAt).getConversationBySessionId sessionId =
      some ⟨table.rows.length + 1, sessionId, createdAt⟩ := by
  rw [getConversationBySessionId, List.argmax_eq_none] at absent
  rw [getConversationBySessionId, createConversation, List.filter_append, absent, List.nil_append,
    List.filter_cons_of_pos (by simp), List.filter_nil, List.argmax_singleton]

end ConversationTable

/-- A store grows when conversations are added and nothing else changes. -/
structure Grows (before after : SessionStore) : Prop where
  conversations : ∀ conversation ∈ before.conversations.rows,
    conversation ∈ after.conversations.rows
  rest : after = { before with conversations := after.conversations }

theorem Grows.refl (store : SessionStore) : Grows store store := ⟨fun _ inside => inside, rfl⟩

theorem createConversation_grows (store : SessionStore) (sessionId : JsString)
    (createdAt : Timestamp) : Grows store (store.createConversation sessionId createdAt) where
  conversations := fun _ inside => List.mem_append_left _ inside
  rest := rfl

/-- A conversation is found or created, and it is the newest one of its session. -/
theorem getOrCreateConversation_newest {store after : SessionStore} {sessionId : JsString}
    {createdAt : Timestamp} {conversation : ConversationRecord}
    (opened : store.getOrCreateConversation sessionId createdAt = some (after, conversation)) :
    Grows store after ∧
      after.conversations.getConversationBySessionId sessionId = some conversation := by
  unfold SessionStore.getOrCreateConversation at opened
  simp only [Option.bind_eq_bind, Option.bind_eq_some_iff, Option.guard_eq_some', exists_const] at opened
  obtain ⟨_, opened⟩ := opened
  split at opened
  · next existing found =>
      cases opened
      exact ⟨.refl store, found⟩
  · next absent =>
      cases opened
      exact ⟨createConversation_grows store sessionId createdAt,
        ConversationTable.getConversationBySessionId_created absent createdAt⟩

/-- A session is opened exactly when its identifier is valid. -/
theorem getOrCreateConversation_isSome {store : SessionStore} {sessionId : JsString}
    {createdAt : Timestamp} :
    (store.getOrCreateConversation sessionId createdAt).isSome = true ↔
      validateConversationText sessionId = true := by
  unfold SessionStore.getOrCreateConversation
  by_cases valid : validateConversationText sessionId = true
  · simp only [valid, guard_true, Option.bind_eq_bind, iff_true]
    cases store.conversations.getConversationBySessionId sessionId <;> rfl
  · simp [valid, failure]

/-- A session that has a conversation is opened without a change. -/
theorem getOrCreateConversation_existing {store : SessionStore} {sessionId : JsString}
    {createdAt : Timestamp} {conversation : ConversationRecord}
    (valid : validateConversationText sessionId = true)
    (newest : store.conversations.getConversationBySessionId sessionId = some conversation) :
    store.getOrCreateConversation sessionId createdAt = some (store, conversation) := by
  unfold SessionStore.getOrCreateConversation
  rw [newest, valid]
  rfl

/-- Messages belong to stored conversations and parts to stored messages. -/
structure Linked (store : SessionStore) : Prop where
  conversations : ∀ message ∈ store.messages.rows.rows,
    ∃ conversation, store.conversations.getConversation message.conversationId = some conversation
  parts : ∀ part ∈ store.parts, part.messageId ∈ store.messages.rows.keys

theorem Linked.grows {before after : SessionStore} (linked : Linked before)
    (grows : Grows before after) : Linked after := by
  rw [grows.rest]
  constructor
  · intro message inside
    obtain ⟨conversation, found⟩ := linked.conversations message inside
    obtain ⟨stored, named⟩ := ConversationTable.getConversation_eq_some.mp found
    exact ⟨conversation, ConversationTable.getConversation_eq_some.mpr
      ⟨grows.conversations conversation stored, named⟩⟩
  · exact linked.parts

theorem mem_sessionMessages {store : SessionStore} {sessionId : JsString}
    {row : ConversationRecord × MessageRecord} :
    row ∈ store.sessionMessages sessionId ↔ row.2 ∈ store.messages.rows.rows ∧
      store.conversations.getConversation row.2.conversationId = some row.1 ∧
        row.1.sessionId = sessionId := by
  obtain ⟨conversation, message⟩ := row
  simp only [SessionStore.sessionMessages, List.mem_filterMap, Option.bind_eq_bind,
    Option.bind_eq_some_iff, Option.guard_eq_some', exists_const, Option.some.injEq, Prod.mk.injEq]
  constructor
  · rintro ⟨stored, inside, other, found, session, rfl, rfl⟩
    exact ⟨inside, found, session⟩
  · rintro ⟨inside, found, session⟩
    exact ⟨message, inside, conversation, found, session, rfl, rfl⟩

/-- New conversations bring no messages. -/
theorem sessionMessages_grows {before after : SessionStore} (linked : Linked before)
    (grows : Grows before after) (sessionId : JsString) :
    after.sessionMessages sessionId = before.sessionMessages sessionId := by
  rw [grows.rest]
  apply List.filterMap_congr
  intro message inside
  obtain ⟨conversation, found⟩ := linked.conversations message inside
  obtain ⟨stored, named⟩ := ConversationTable.getConversation_eq_some.mp found
  have kept : after.conversations.getConversation message.conversationId = some conversation :=
    ConversationTable.getConversation_eq_some.mpr ⟨grows.conversations conversation stored, named⟩
  simp only [found, kept]

theorem transcriptRows_grows {before after : SessionStore} (linked : Linked before)
    (grows : Grows before after) (sessionId : JsString) :
    after.transcriptRows sessionId = before.transcriptRows sessionId := by
  have parts : ∀ messageId, after.hasCompactionPart messageId = before.hasCompactionPart messageId := by
    intro messageId
    rw [grows.rest]
    rfl
  unfold SessionStore.transcriptRows
  rw [sessionMessages_grows linked grows]
  simp only [parts]

/-- New messages of one conversation are the last messages of its session. -/
theorem sessionMessages_append {store : SessionStore} {messages : MessageTable}
    {records : List MessageRecord} {conversation : ConversationRecord}
    (stored : conversation ∈ store.conversations.rows)
    (rows : messages.rows.rows = store.messages.rows.rows ++ records)
    (placed : ∀ record ∈ records, record.conversationId = conversation.conversationId)
    (sessionId : JsString) :
    { store with messages := messages }.sessionMessages sessionId =
      store.sessionMessages sessionId ++
        if conversation.sessionId = sessionId then records.map (Prod.mk conversation) else [] := by
  unfold SessionStore.sessionMessages
  rw [rows, List.filterMap_append]
  apply congrArg (_ ++ ·)
  have found : ∀ record ∈ records, store.conversations.getConversation record.conversationId =
      some conversation := fun record inside =>
    ConversationTable.getConversation_eq_some.mpr ⟨stored, (placed record inside).symm⟩
  by_cases session : conversation.sessionId = sessionId
  · rw [if_pos session, ← List.filterMap_eq_map]
    apply List.filterMap_congr
    intro record inside
    simp [found record inside, session]
  · rw [if_neg session, List.filterMap_eq_nil_iff]
    intro record inside
    simp [found record inside, session, failure]

/-- Session order tells any two messages of a session apart. -/
theorem sessionKey_injective {store : SessionStore} {sessionId : JsString}
    {first second : ConversationRecord × MessageRecord}
    (firstIn : first ∈ store.sessionMessages sessionId)
    (secondIn : second ∈ store.sessionMessages sessionId)
    (same : SessionStore.sessionKey first = SessionStore.sessionKey second) : first = second := by
  obtain ⟨firstStored, firstFound, _⟩ := mem_sessionMessages.mp firstIn
  obtain ⟨secondStored, secondFound, _⟩ := mem_sessionMessages.mp secondIn
  have messageIds : first.2.messageId = second.2.messageId := by
    simp only [SessionStore.sessionKey, EmbeddingLike.apply_eq_iff_eq, Prod.mk.injEq] at same
    exact same.2.2
  have messages := MessageTable.row_unique firstStored secondStored messageIds
  have conversations : first.1 = second.1 := by
    have found := firstFound
    rw [messages, secondFound] at found
    exact (Option.some.inj found).symm
  exact Prod.ext conversations messages

/-- New rows of the newest conversation of a session are behind every other row of the session. -/
theorem newest_behind {store : SessionStore} {sessionId : JsString}
    {conversation : ConversationRecord} {row : ConversationRecord × MessageRecord}
    {record : MessageRecord}
    (newest : store.conversations.getConversationBySessionId sessionId = some conversation)
    (inside : row ∈ store.sessionMessages sessionId)
    (later : store.messages.nextSeq conversation.conversationId ≤ record.seq) :
    SessionStore.sessionKey row ≤ SessionStore.sessionKey (conversation, record) := by
  obtain ⟨stored, found, session⟩ := mem_sessionMessages.mp inside
  obtain ⟨rowStored, rowNamed⟩ := ConversationTable.getConversation_eq_some.mp found
  obtain ⟨newestStored, _, latest⟩ := ConversationTable.getConversationBySessionId_newest newest
  have order := latest row.1 rowStored session
  unfold SessionStore.sessionKey
  rw [Prod.Lex.toLex_le_toLex]
  rcases order.lt_or_eq with before | same
  · exact .inl before
  · right
    refine ⟨same, ?_⟩
    have conversations : row.2.conversationId = conversation.conversationId := by
      simp only [ConversationTable.creationKey, EmbeddingLike.apply_eq_iff_eq, Prod.mk.injEq] at same
      rw [← rowNamed, same.2]
    have used : row.2.seq ∈ store.messages.seqs conversation.conversationId :=
      List.mem_map_of_mem (List.mem_filter.mpr ⟨stored, by simpa using conversations⟩)
    have earlier := MessageTable.lt_nextSeq used
    rw [Prod.Lex.toLex_le_toLex]
    exact .inl (earlier.trans_le later)

/-- Transcript messages in the newest conversation are the last transcript rows of its session. -/
theorem transcriptRows_append {store : SessionStore} {messages : MessageTable}
    {records : List MessageRecord} {conversation : ConversationRecord} {sessionId : JsString}
    (newest : store.conversations.getConversationBySessionId sessionId = some conversation)
    (rows : messages.rows.rows = store.messages.rows.rows ++ records)
    (placed : ∀ record ∈ records, record.conversationId = conversation.conversationId ∧
      store.messages.nextSeq conversation.conversationId ≤ record.seq)
    (ascending : (records.map (·.seq)).Pairwise (· < ·))
    (bare : ∀ record ∈ records, store.hasCompactionPart record.messageId = false)
    (session : JsString) :
    { store with messages := messages }.transcriptRows session =
      store.transcriptRows session ++ if session = sessionId then records else [] := by
  obtain ⟨stored, named, _⟩ := ConversationTable.getConversationBySessionId_newest newest
  have appended := sessionMessages_append stored rows (fun record inside => (placed record inside).1)
    session
  show (sortedBy SessionStore.sessionKey (({ store with messages := messages }.sessionMessages
    session).filter fun row => !store.hasCompactionPart row.2.messageId)).map Prod.snd = _
  rw [appended, named]
  by_cases same : sessionId = session
  · subst same
    have transcript : (records.map (Prod.mk conversation)).filter (fun row =>
        !store.hasCompactionPart row.2.messageId) = records.map (Prod.mk conversation) := by
      apply List.filter_eq_self.mpr
      intro row inside
      obtain ⟨record, member, rfl⟩ := List.mem_map.mp inside
      simp [bare record member]
    rw [if_pos rfl, if_pos rfl, List.filter_append, transcript, SortedBy.append]
    · rw [List.map_append, List.map_map, SessionStore.transcriptRows]
      exact congrArg (_ ++ ·) (List.map_id records)
    · intro first firstIn second secondIn keys
      have member : ∀ row ∈ (store.sessionMessages sessionId).filter (fun row =>
          !store.hasCompactionPart row.2.messageId) ++ records.map (Prod.mk conversation),
          row ∈ { store with messages := messages }.sessionMessages sessionId := by
        intro row inside
        rw [appended, if_pos named]
        rcases List.mem_append.mp inside with old | new
        · exact List.mem_append_left _ (List.mem_of_mem_filter old)
        · exact List.mem_append_right _ new
      exact sessionKey_injective (member first firstIn) (member second secondIn) keys
    · apply List.pairwise_map.mpr
      apply (List.pairwise_map.mp ascending).imp
      intro first second before
      apply Prod.Lex.toLex_le_toLex.mpr
      exact .inr ⟨rfl, Prod.Lex.toLex_le_toLex.mpr (.inl before)⟩
    · intro row old new inside
      obtain ⟨record, member, rfl⟩ := List.mem_map.mp inside
      exact newest_behind newest (List.mem_of_mem_filter old) (placed record member).2
  · rw [if_neg same, if_neg (Ne.symm same), List.append_nil, List.append_nil]
    rfl

/-- Parts of a new message leave the older messages alone. -/
theorem hasCompactionPart_other {store : SessionStore} {parts : List MessagePartRecord}
    {newId messageId : MessageId} (owned : ∀ part ∈ parts, part.messageId = newId)
    (other : messageId ≠ newId) :
    { store with parts := store.parts ++ parts }.hasCompactionPart messageId =
      store.hasCompactionPart messageId := by
  unfold SessionStore.hasCompactionPart
  rw [List.any_append]
  have silent : parts.any (fun part =>
      part.messageId = messageId && part.partType = .compaction) = false := by
    rw [List.any_eq_false]
    intro part inside
    simp [owned part inside, Ne.symm other]
  rw [silent, Bool.or_false]

/-- A message that is born with a compaction part is no transcript row of any session. -/
theorem transcriptRows_event {store : SessionStore} {messages : MessageTable}
    {record : MessageRecord} {parts : List MessagePartRecord} {conversation : ConversationRecord}
    (stored : conversation ∈ store.conversations.rows)
    (rows : messages.rows.rows = store.messages.rows.rows ++ [record])
    (placed : record.conversationId = conversation.conversationId)
    (fresh : ∀ message ∈ store.messages.rows.rows, message.messageId ≠ record.messageId)
    (owned : ∀ part ∈ parts, part.messageId = record.messageId)
    (compaction : parts.any (fun part => part.partType = .compaction) = true)
    (session : JsString) :
    { store with messages := messages, parts := store.parts ++ parts }.transcriptRows session =
      store.transcriptRows session := by
  have appended := sessionMessages_append stored rows (by simpa using placed) session
  have marked : { store with parts := store.parts ++ parts }.hasCompactionPart
      record.messageId = true := by
    obtain ⟨part, inside, kind⟩ := List.any_eq_true.mp compaction
    refine List.any_eq_true.mpr ⟨part, List.mem_append_right _ inside, ?_⟩
    simpa [owned part inside] using kind
  show (sortedBy SessionStore.sessionKey (({ store with messages := messages }.sessionMessages
    session).filter fun row =>
      !{ store with parts := store.parts ++ parts }.hasCompactionPart row.2.messageId)).map
        Prod.snd = _
  rw [appended, List.filter_append]
  have hidden : (if conversation.sessionId = session then [record].map (Prod.mk conversation)
      else []).filter (fun row => !{ store with parts := store.parts ++ parts }.hasCompactionPart
        row.2.messageId) = [] := by
    split
    · simp [marked]
    · rfl
  rw [hidden, List.append_nil, SessionStore.transcriptRows]
  apply congrArg fun rows => (sortedBy SessionStore.sessionKey rows).map Prod.snd
  apply List.filter_congr
  intro row inside
  rw [hasCompactionPart_other owned (fresh row.2 (mem_sessionMessages.mp inside).1)]

end Lcm.Session
