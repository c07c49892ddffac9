import Lcm.Session.CodexLineage
import Mathlib.Data.List.Find

/-- A search for the first element outside a list needs one element more than the list has. -/
theorem List.find?_take_outside {Item Key : Type*} [DecidableEq Key] {key : Item → Key} {items : List Item}
    (distinct : (items.map key).Nodup) (listed : List Key) :
    (items.take (listed.length + 1)).find? (fun item => key item ∉ listed) =
      items.find? fun item => key item ∉ listed := by
  induction items generalizing listed with
  | nil => rfl
  | cons item items ih =>
      obtain ⟨fresh, rest⟩ := List.nodup_cons.mp distinct
      rw [List.take_succ_cons, List.find?_cons, List.find?_cons]
      by_cases inside : key item ∈ listed
      · have others : ∀ other ∈ items, (key other ∉ listed ↔ key other ∉ listed.erase (key item)) := by
          intro other member
          have different : key other ≠ key item := fun same => fresh (same ▸ List.mem_map_of_mem member)
          rw [List.mem_erase_of_ne different]
        have length : listed.length = (listed.erase (key item)).length + 1 :=
          (List.length_erase_add_one inside).symm
        have skipped : ∀ part : List Item, (∀ other ∈ part, other ∈ items) →
            part.find? (fun other => key other ∉ listed) = part.find? fun other => key other ∉ listed.erase (key item) := by
          intro part sub
          refine List.find?_congr fun other member => ?_
          simp only [others other (sub other member)]
        simp only [inside, not_true_eq_false, decide_false]
        rw [length, skipped _ fun other member => List.mem_of_mem_take member, ih rest,
          skipped items fun _ member => member]
      · simp only [inside, not_false_eq_true, decide_true]

namespace Lcm.Session
open Text Store

variable {Number : Type} {numbers : JsNumbers Number}

/-- The messages of a conversation have sequence numbers of their own. -/
def Numbered (store : SessionStore) : Prop :=
  ∀ first ∈ store.messages.rows.rows, ∀ second ∈ store.messages.rows.rows,
    first.conversationId = second.conversationId → first.seq = second.seq → first = second

theorem Numbered.grows {before after : SessionStore} (numbered : Numbered before) (grows : Grows before after) :
    Numbered after := by
  rw [Numbered, grows.rest]
  exact numbered

/-- New messages of a conversation keep the numbers apart. -/
theorem Numbered.append {store : SessionStore} (numbered : Numbered store) {messages : MessageTable}
    {records : List MessageRecord} {conversationId : ConversationId} {parts : List MessagePartRecord}
    {contextItems : ConversationId → OrderedTable Int ContextItem} {redactions : RedactionCounts}
    (rows : messages.rows.rows = store.messages.rows.rows ++ records)
    (ascending : (records.map (·.seq)).Pairwise (· < ·))
    (placed : ∀ record ∈ records, record.conversationId = conversationId ∧
      store.messages.nextSeq conversationId ≤ record.seq) :
    Numbered ⟨store.conversations, messages, parts, contextItems, redactions⟩ := by
  have below : ∀ old ∈ store.messages.rows.rows, ∀ record ∈ records, old.conversationId = record.conversationId →
      old.seq < record.seq := by
    intro old stored record inside same
    obtain ⟨conversation, next⟩ := placed record inside
    have used : old.seq ∈ store.messages.seqs conversationId :=
      List.mem_map_of_mem (List.mem_filter.mpr ⟨stored, by simpa using same.trans conversation⟩)
    exact (MessageTable.lt_nextSeq used).trans_le next
  intro first one second two same seqs
  rw [show (SessionStore.messages _).rows.rows = _ from rows] at one two
  rcases List.mem_append.mp one with old | new
  · rcases List.mem_append.mp two with other | other
    · exact numbered first old second other same seqs
    · exact absurd seqs (below first old second other same).ne
  · rcases List.mem_append.mp two with other | other
    · exact absurd seqs (below second other first new same.symm).ne'
    · exact List.inj_on_of_nodup_map (ascending.imp Nat.ne_of_lt) new other seqs

/-- The rows of a session, each in its place. -/
theorem mem_transcriptRows {store : SessionStore} {sessionId : JsString} {message : MessageRecord} :
    message ∈ store.transcriptRows sessionId ↔ message ∈ store.messages.rows.rows ∧
      store.hasCompactionPart message.messageId = false ∧
        ∃ conversation, store.conversations.getConversation message.conversationId = some conversation ∧
          conversation.sessionId = sessionId := by
  rw [SessionStore.transcriptRows, List.mem_map]
  constructor
  · rintro ⟨row, inside, rfl⟩
    obtain ⟨member, transcript⟩ := List.mem_filter.mp ((SortedBy.perm _).mem_iff.mp inside)
    obtain ⟨stored, found, named⟩ := mem_sessionMessages.mp member
    exact ⟨stored, by simpa using transcript, row.1, found, named⟩
  · rintro ⟨stored, transcript, conversation, found, named⟩
    refine ⟨(conversation, message), (SortedBy.perm _).mem_iff.mpr (List.mem_filter.mpr ⟨?_, by simp [transcript]⟩), rfl⟩
    exact mem_sessionMessages.mpr ⟨stored, found, named⟩

/-- The events of a session. -/
def eventIds (numbers : JsNumbers Number) (store : SessionStore) (sessionId : JsString) : List MessageId :=
  (getTranscriptSlotSnapshot numbers store sessionId).events.map (·.messageId)

theorem mem_eventIds {store : SessionStore} {sessionId : JsString} {messageId : MessageId} :
    messageId ∈ eventIds numbers store sessionId ↔ ∃ row ∈ store.sessionMessages sessionId,
      store.hasCompactionPart row.2.messageId = true ∧ row.2.messageId = messageId := by
  rw [eventIds, getTranscriptSlotSnapshot]
  dsimp only
  rw [List.map_map, List.mem_map]
  constructor
  · rintro ⟨row, inside, same⟩
    obtain ⟨member, event⟩ := List.mem_filter.mp ((SortedBy.perm _).mem_iff.mp inside)
    exact ⟨row, member, event, same⟩
  · rintro ⟨row, member, event, same⟩
    exact ⟨row, (SortedBy.perm _).mem_iff.mpr (List.mem_filter.mpr ⟨member, event⟩), same⟩

section Rows

variable {store : SessionStore} {sessionId : JsString}

/-- A message of a session is a transcript row unless it is one of the events. -/
theorem not_mem_eventIds {message : MessageRecord} (stored : message ∈ store.messages.rows.rows)
    {conversation : ConversationRecord}
    (found : store.conversations.getConversation message.conversationId = some conversation)
    (named : conversation.sessionId = sessionId) :
    message.messageId ∉ eventIds numbers store sessionId ↔ message ∈ store.transcriptRows sessionId := by
  rw [mem_eventIds, mem_transcriptRows]
  constructor
  · intro outside
    refine ⟨stored, ?_, conversation, found, named⟩
    by_contra event
    exact outside ⟨(conversation, message), mem_sessionMessages.mpr ⟨stored, found, named⟩, by simpa using event, rfl⟩
  · rintro ⟨_, transcript, _⟩ ⟨row, member, event, same⟩
    rw [same, transcript] at event
    cases event

theorem messages_nodup (store : SessionStore) : (store.messages.rows.rows.map (·.messageId)).Nodup := by
  have keys : store.messages.rows.rows.map (·.messageId) = store.messages.rows.keys := by
    rw [KeyedTable.rows, KeyedTable.keys, List.map_map]
    exact List.map_congr_left fun entry inside => store.messages.keyed entry inside
  rw [keys]
  exact store.messages.rows.distinct

/-- The transcript rows of a session with their conversations, in session order. -/
def placedRows (store : SessionStore) (sessionId : JsString) : List (ConversationRecord × MessageRecord) :=
  sortedBy SessionStore.sessionKey ((store.sessionMessages sessionId).filter fun row =>
    !store.hasCompactionPart row.2.messageId)

theorem mem_placedRows {row : ConversationRecord × MessageRecord} (inside : row ∈ placedRows store sessionId) :
    row ∈ store.sessionMessages sessionId :=
  (List.mem_filter.mp ((SortedBy.perm _).mem_iff.mp inside)).1

theorem placedRows_sorted (store : SessionStore) (sessionId : JsString) :
    (placedRows store sessionId).Pairwise fun first second =>
      SessionStore.sessionKey first ≤ SessionStore.sessionKey second := SortedBy.sorted _

theorem placedRows_nodup (store : SessionStore) (sessionId : JsString) :
    ((placedRows store sessionId).map Prod.snd).Nodup := by
  have once : (store.sessionMessages sessionId).Nodup := by
    refine (List.Nodup.of_map _ (messages_nodup store)).filterMap ?_
    intro first second row one two
    simp only [Option.mem_def, Option.bind_eq_bind, Option.bind_eq_some_iff] at one two
    obtain ⟨_, _, _, _, one⟩ := one
    obtain ⟨_, _, _, _, two⟩ := two
    cases one
    cases two
    rfl
  have placed : (placedRows store sessionId).Nodup := (SortedBy.perm _).nodup_iff.mpr (once.filter _)
  refine placed.map_on fun first one second two same => ?_
  obtain ⟨_, firstFound, _⟩ := mem_sessionMessages.mp (mem_placedRows one)
  obtain ⟨_, secondFound, _⟩ := mem_sessionMessages.mp (mem_placedRows two)
  rw [same, secondFound] at firstFound
  exact Prod.ext (Option.some.inj firstFound).symm same

theorem sessionKey_le {first second : ConversationRecord × MessageRecord}
    (before : SessionStore.sessionKey first ≤ SessionStore.sessionKey second) :
    ConversationTable.creationKey first.1 ≤ ConversationTable.creationKey second.1 ∧
      (first.1 = second.1 → first.2.seq ≤ second.2.seq) := by
  unfold SessionStore.sessionKey at before
  rw [Prod.Lex.toLex_le_toLex] at before
  rcases before with before | ⟨same, before⟩
  · exact ⟨before.le, fun equal => absurd before (equal ▸ lt_irrefl _)⟩
  · refine ⟨same.le, fun _ => ?_⟩
    rw [Prod.Lex.toLex_le_toLex] at before
    rcases before with before | ⟨same, _⟩
    · exact before.le
    · exact same.le

/-- The rows that a conversation has of its session keep their order. -/
theorem getMessages_transcript (numbered : Numbered store) {conversation : ConversationRecord}
    (stored : conversation ∈ store.conversations.rows) (named : conversation.sessionId = sessionId) :
    (store.getMessages conversation.conversationId).filter
        (fun message => message.messageId ∉ eventIds numbers store sessionId) =
      (store.transcriptRows sessionId).filter fun message => message.conversationId = conversation.conversationId := by
  have found := ConversationTable.getConversation_eq_some.mpr ⟨stored, rfl⟩
  have whole : store.transcriptRows sessionId = (placedRows store sessionId).map Prod.snd := rfl
  have members : ∀ message, message ∈ (store.getMessages conversation.conversationId).filter
        (fun message => message.messageId ∉ eventIds numbers store sessionId) ↔
      message ∈ (store.transcriptRows sessionId).filter fun message =>
        message.conversationId = conversation.conversationId := by
    intro message
    rw [List.mem_filter, List.mem_filter, SessionStore.getMessages, (SortedBy.perm _).mem_iff, List.mem_filter]
    simp only [decide_eq_true_eq]
    constructor
    · rintro ⟨⟨inside, same⟩, outside⟩
      exact ⟨(not_mem_eventIds inside (same ▸ found) named).mp outside, same⟩
    · rintro ⟨inside, same⟩
      have kept := (mem_transcriptRows.mp inside).1
      exact ⟨⟨kept, same⟩, (not_mem_eventIds kept (same ▸ found) named).mpr inside⟩
  have once : ((store.getMessages conversation.conversationId).filter fun message =>
      message.messageId ∉ eventIds numbers store sessionId).Nodup :=
    ((SortedBy.perm _).nodup_iff.mpr ((List.Nodup.of_map _ (messages_nodup store)).filter _)).filter _
  refine @List.Perm.eq_of_pairwise _ (fun first second : MessageRecord => first.seq ≤ second.seq) _ _ ?_
    ((SortedBy.sorted _).filter _) ?_ ((List.perm_ext_iff_of_nodup once ?_).mpr members)
  · intro first second one two before after
    obtain ⟨⟨firstStored, firstPlaced⟩, _⟩ := by
      simpa [SessionStore.getMessages, (SortedBy.perm _).mem_iff] using one
    obtain ⟨secondInside, secondPlaced⟩ := List.mem_filter.mp two
    exact numbered first firstStored second (mem_transcriptRows.mp secondInside).1
      (firstPlaced.trans (of_decide_eq_true secondPlaced).symm) (le_antisymm before after)
  · rw [whole, List.filter_map, List.pairwise_map]
    refine ((placedRows_sorted store sessionId).filter _).imp_of_mem fun {first second} one two before => ?_
    obtain ⟨firstInside, firstPlaced⟩ := List.mem_filter.mp one
    obtain ⟨secondInside, secondPlaced⟩ := List.mem_filter.mp two
    obtain ⟨_, firstFound, _⟩ := mem_sessionMessages.mp (mem_placedRows firstInside)
    obtain ⟨_, secondFound, _⟩ := mem_sessionMessages.mp (mem_placedRows secondInside)
    have same : first.1 = second.1 := by
      rw [of_decide_eq_true firstPlaced] at firstFound
      rw [of_decide_eq_true secondPlaced] at secondFound
      exact Option.some.inj (firstFound.symm.trans secondFound)
    exact (sessionKey_le before).2 same
  · rw [whole]
    exact (placedRows_nodup store sessionId).filter _

theorem firstOfConversation_eq (numbered : Numbered store) {conversation : ConversationRecord}
    (stored : conversation ∈ store.conversations.rows) (named : conversation.sessionId = sessionId) :
    firstOfConversation store (eventIds numbers store sessionId) conversation.conversationId =
      ((store.transcriptRows sessionId).filter fun message =>
        message.conversationId = conversation.conversationId).head? := by
  have once : ((store.getMessages conversation.conversationId).map (·.messageId)).Nodup :=
    (((SortedBy.perm _).map _).nodup_iff).mpr ((messages_nodup store).sublist (List.filter_sublist.map _))
  rw [firstOfConversation, List.find?_take_outside once, ← List.head?_filter,
    getMessages_transcript numbered stored named]

theorem creationKey_injective {first second : ConversationRecord} (one : first ∈ store.conversations.rows)
    (two : second ∈ store.conversations.rows)
    (same : ConversationTable.creationKey first = ConversationTable.creationKey second) : first = second := by
  simp only [ConversationTable.creationKey, EmbeddingLike.apply_eq_iff_eq, Prod.mk.injEq] at same
  exact ConversationTable.conversationId_unique one two same.2

/-- A conversation with as many messages as its session has all of them. -/
theorem all_in_conversation {conversation : ConversationRecord} (stored : conversation ∈ store.conversations.rows)
    (named : conversation.sessionId = sessionId)
    (whole : store.getMessageCount conversation.conversationId = store.getMessageCountBySessionId sessionId) :
    ∀ message ∈ store.transcriptRows sessionId, message.conversationId = conversation.conversationId := by
  have found := ConversationTable.getConversation_eq_some.mpr ⟨stored, rfl⟩
  have count : (store.sessionMessages sessionId).countP (fun row =>
      row.2.conversationId = conversation.conversationId) = store.getMessageCount conversation.conversationId := by
    rw [SessionStore.sessionMessages, List.countP_filterMap, SessionStore.getMessageCount]
    refine List.countP_congr fun message inside => ?_
    by_cases same : message.conversationId = conversation.conversationId
    · simp [same, found, named]
    · simp only [Option.bind_eq_bind, same, decide_false, Bool.false_eq_true, iff_false]
      cases holder : store.conversations.getConversation message.conversationId with
      | none => simp
      | some other =>
          by_cases inSession : other.sessionId = sessionId
          · simp [inSession, same]
          · simp [inSession, failure]
  rw [whole, SessionStore.getMessageCountBySessionId, List.countP_eq_length] at count
  intro message inside
  obtain ⟨row, member, rfl⟩ := List.mem_map.mp inside
  exact of_decide_eq_true (count row (mem_placedRows member))

/-- The first transcript row of a session is found wherever its conversations put it. -/
theorem firstSessionTranscriptRow_eq (numbered : Numbered store) {conversation : ConversationRecord}
    (stored : conversation ∈ store.conversations.rows) (named : conversation.sessionId = sessionId) :
    firstSessionTranscriptRow store sessionId conversation.conversationId (eventIds numbers store sessionId) =
      (store.transcriptRows sessionId).head? := by
  rw [firstSessionTranscriptRow]
  split
  · next whole =>
      have all := all_in_conversation stored named whole
      rw [firstOfConversation_eq numbered stored named, List.filter_eq_self.mpr fun message inside =>
        decide_eq_true (all message inside)]
  · have listed : ∀ other ∈ store.listConversations.filter fun conversation => conversation.sessionId = sessionId,
        other ∈ store.conversations.rows ∧ other.sessionId = sessionId := by
      intro other inside
      obtain ⟨member, same⟩ := List.mem_filter.mp inside
      exact ⟨(SortedBy.perm _).mem_iff.mp member, of_decide_eq_true same⟩
    cases rows : placedRows store sessionId with
    | nil =>
        have none' : store.transcriptRows sessionId = [] := congrArg (List.map Prod.snd) rows
        rw [none', List.findSome?_eq_none_iff.mpr]
        · rfl
        · intro other inside
          obtain ⟨member, same⟩ := listed other inside
          rw [firstOfConversation_eq numbered member same, none']
          rfl
    | cons first rest =>
        have whole : store.transcriptRows sessionId = first.2 :: rest.map Prod.snd := congrArg (List.map Prod.snd) rows
        have placed : ∀ row ∈ first :: rest, row ∈ store.sessionMessages sessionId :=
          fun row inside => mem_placedRows (rows ▸ inside)
        obtain ⟨_, firstFound, firstNamed⟩ := mem_sessionMessages.mp (placed first List.mem_cons_self)
        obtain ⟨firstStored, firstPlaced⟩ := ConversationTable.getConversation_eq_some.mp firstFound
        have inside : first.1 ∈ store.listConversations.filter fun conversation => conversation.sessionId = sessionId :=
          List.mem_filter.mpr ⟨(SortedBy.perm _).mem_iff.mpr firstStored, decide_eq_true firstNamed⟩
        obtain ⟨earlier, later, split, fresh⟩ := List.eq_append_cons_of_mem inside
        rw [whole, List.head?_cons]
        refine List.findSome?_eq_some_iff.mpr ⟨earlier, first.1, later, split, ?_, fun other member => ?_⟩
        · rw [firstOfConversation_eq numbered firstStored firstNamed, whole, List.filter_cons_of_pos (by simp [firstPlaced])]
          rfl
        · obtain ⟨otherStored, otherNamed⟩ := listed other (split ▸ List.mem_append_left _ member)
          rw [firstOfConversation_eq numbered otherStored otherNamed, List.head?_eq_none_iff, List.filter_eq_nil_iff]
          intro message listedRow same
          obtain ⟨row, at', rfl⟩ := List.mem_map.mp (show message ∈ (placedRows store sessionId).map Prod.snd from listedRow)
          rw [rows] at at'
          obtain ⟨_, found, _⟩ := mem_sessionMessages.mp (placed row at')
          have holder : row.1 = other := by
            rw [of_decide_eq_true same, ConversationTable.getConversation_eq_some.mpr ⟨otherStored, rfl⟩] at found
            exact (Option.some.inj found).symm
          have after : ConversationTable.creationKey first.1 ≤ ConversationTable.creationKey other := by
            have order := placedRows_sorted store sessionId
            rw [rows] at order
            rcases List.mem_cons.mp at' with equal | behind
            · exact (congrArg ConversationTable.creationKey (equal ▸ holder)).le
            · exact holder ▸ (sessionKey_le (List.rel_of_pairwise_cons order behind)).1
          have before : ConversationTable.creationKey other ≤ ConversationTable.creationKey first.1 := by
            have order : (store.listConversations.filter fun conversation => conversation.sessionId = sessionId).Pairwise
                fun one two => ConversationTable.creationKey one ≤ ConversationTable.creationKey two :=
              (SortedBy.sorted _).filter _
            rw [split] at order
            exact (List.pairwise_append.mp order).2.2 other member first.1 List.mem_cons_self
          exact fresh (creationKey_injective otherStored firstStored (le_antisymm before after) ▸ member)

end Rows

end Lcm.Session
