import Lcm.Session.LineageDecision

namespace Lcm.Session
open Text Store

variable {Number : Type} {numbers : JsNumbers Number}

/-- The first transcript row of a session has at most one part, its marker, and the other rows have none. -/
structure LineageSound (numbers : JsNumbers Number) (store : SessionStore) : Prop extends Sound numbers store where
  numbered : Numbered store
  valid : ∀ sessionId, store.transcriptRows sessionId ≠ [] → validateConversationText sessionId = true
  first : ∀ sessionId first rest, store.transcriptRows sessionId = first :: rest →
    partsOf store first.messageId = [] ∨
      ∃ mode, partsOf store first.messageId = [lineagePart numbers sessionId mode first.messageId]
  others : ∀ sessionId first rest, store.transcriptRows sessionId = first :: rest →
    ∀ row ∈ rest, partsOf store row.messageId = []

/-- The transcript rows that a session has stay in front, with the parts that they have. -/
structure Continues (before after : SessionStore) : Prop where
  rows : ∀ sessionId, before.transcriptRows sessionId <+: after.transcriptRows sessionId
  parts : ∀ sessionId, ∀ row ∈ before.transcriptRows sessionId,
    partsOf after row.messageId = partsOf before row.messageId

theorem Continues.refl (store : SessionStore) : Continues store store :=
  ⟨fun _ => List.prefix_rfl, fun _ _ _ => rfl⟩

theorem Continues.trans {before middle after : SessionStore} (one : Continues before middle)
    (two : Continues middle after) : Continues before after where
  rows sessionId := (one.rows sessionId).trans (two.rows sessionId)
  parts sessionId row inside :=
    (two.parts sessionId row ((one.rows sessionId).subset inside)).trans (one.parts sessionId row inside)

/-- What a session has chosen stays as it is. -/
theorem Continues.lineage {before after : SessionStore} (continues : Continues before after) {sessionId : JsString}
    (rows : before.transcriptRows sessionId ≠ []) :
    (after.transcriptRows sessionId).head? = (before.transcriptRows sessionId).head? ∧
      sessionLineage numbers after sessionId = sessionLineage numbers before sessionId := by
  have head : (after.transcriptRows sessionId).head? = (before.transcriptRows sessionId).head? := by
    obtain ⟨added, same⟩ := continues.rows sessionId
    rw [← same, List.head?_append_of_ne_nil _ rows]
  refine ⟨head, ?_⟩
  rw [sessionLineage, sessionLineage, head]
  cases before' : before.transcriptRows sessionId with
  | nil => exact absurd before' rows
  | cons first rest =>
      show readCodexLineageMarker numbers after first.messageId = readCodexLineageMarker numbers before first.messageId
      rw [readCodexLineageMarker, readCodexLineageMarker,
        continues.parts sessionId first (before' ▸ List.mem_cons_self)]

theorem stored_key {store : SessionStore} {sessionId : JsString} {row : MessageRecord}
    (inside : row ∈ store.transcriptRows sessionId) : row.messageId ∈ store.messages.rows.keys := by
  obtain ⟨⟨key, _⟩, entry, equal⟩ := List.mem_map.mp (mem_transcriptRows.mp inside).1
  rw [← equal, store.messages.keyed _ entry]
  exact List.mem_map_of_mem entry

namespace LineageSound

variable {store before after : SessionStore}

/-- The markers of a session are those of its first row. -/
theorem markers (sound : LineageSound numbers store) (sessionId : JsString) :
    (lineageMarkers numbers store sessionId).length ≤ 1 ∧
      sessionLineage numbers store sessionId = (lineageMarkers numbers store sessionId).head? := by
  rw [lineageMarkers, sessionLineage]
  cases rows : store.transcriptRows sessionId with
  | nil => exact ⟨Nat.zero_le 1, rfl⟩
  | cons first rest =>
      have silent : (rest.flatMap fun row => (partsOf store row.messageId).filterMap fun part =>
          parseCodexLineageMarker numbers part.metadata) = [] := by
        refine List.flatMap_eq_nil_iff.mpr fun row inside => ?_
        rw [sound.others sessionId first rest rows row inside]
        rfl
      rw [List.flatMap_cons, silent, List.append_nil, List.head?_cons, Option.bind_some, readCodexLineageMarker]
      rcases sound.first sessionId first rest rows with none' | ⟨mode, marked⟩
      · rw [none']
        simp
      · rw [marked]
        have read := @parse_encode_lineage _ numbers mode
        cases mode <;> simp [lineagePart, read]

/-- A store that adds no transcript rows and leaves their parts alone stays sound. -/
theorem silent (sound : LineageSound numbers before) (kept : Sound numbers after) (numbered : Numbered after)
    (rows : ∀ sessionId, after.transcriptRows sessionId = before.transcriptRows sessionId)
    (parts : ∀ messageId ∈ before.messages.rows.keys, partsOf after messageId = partsOf before messageId) :
    LineageSound numbers after ∧ Continues before after := by
  have same : ∀ sessionId, ∀ row ∈ before.transcriptRows sessionId,
      partsOf after row.messageId = partsOf before row.messageId := by
    exact fun sessionId row inside => parts row.messageId (stored_key inside)
  refine ⟨⟨kept, numbered, ?_, ?_, ?_⟩, fun sessionId => (rows sessionId) ▸ List.prefix_rfl, same⟩
  · intro sessionId nonempty
    exact sound.valid sessionId (rows sessionId ▸ nonempty)
  · intro sessionId first rest whole
    rw [rows] at whole
    rw [same sessionId first (whole ▸ List.mem_cons_self)]
    exact sound.first sessionId first rest whole
  · intro sessionId first rest whole row inside
    rw [rows] at whole
    rw [same sessionId row (whole ▸ List.mem_cons_of_mem _ inside)]
    exact sound.others sessionId first rest whole row inside

theorem grow (sound : LineageSound numbers before) (grows : Grows before after) :
    LineageSound numbers after ∧ Continues before after := by
  refine sound.silent (sound.toSound.grow numbers grows) (sound.numbered.grows grows)
    (transcriptRows_grows sound.toLinked grows) fun messageId _ => ?_
  rw [partsOf, grows.rest]
  rfl

end LineageSound

/-- New parts of one message leave the parts of the others alone. -/
theorem partsOf_other {store : SessionStore} {parts : List MessagePartRecord} {newId messageId : MessageId}
    (owned : ∀ part ∈ parts, part.messageId = newId) (other : messageId ≠ newId) :
    partsOf { store with parts := store.parts ++ parts } messageId = partsOf store messageId := by
  have silent : parts.filter (fun part => part.messageId = messageId) = [] := by
    apply List.filter_eq_nil_iff.mpr
    intro part inside
    simp [owned part inside, Ne.symm other]
  rw [partsOf, partsOf, List.filter_append, silent, List.append_nil]

/-- A compaction event leaves every transcript row alone. -/
theorem LineageSound.event {store : SessionStore} (sound : LineageSound numbers store) (conversationId : ConversationId)
    (event : CompactionEvent) (createdAt : Timestamp) (clock : MessageId → Timestamp) :
    LineageSound numbers (persistCompactionEvents numbers store conversationId event createdAt clock) ∧
      Continues store (persistCompactionEvents numbers store conversationId event createdAt clock) := by
  have appended := persistCompactionEvents_appended numbers sound.toSound conversationId event createdAt clock []
  revert appended
  unfold persistCompactionEvents
  split
  · exact fun _ => ⟨sound, .refl store⟩
  · next conversation found =>
      obtain ⟨stored, rfl⟩ := ConversationTable.getConversation_eq_some.mp found
      cases persisted : persistCompactionEvent numbers store conversation.conversationId conversation.sessionId event
          createdAt clock with
      | none => exact fun _ => ⟨sound, .refl store⟩
      | some after =>
          intro appended
          obtain ⟨created, messages, record, compaction, snapshot, grows, entries, placed, isCompaction, isSnapshot,
            rfl⟩ := persistCompactionEvent_made numbers persisted
          obtain ⟨grown, first⟩ := sound.grow grows
          obtain ⟨_, fresh⟩ := MessageTable.records_of_entries entries
          have unused := (fresh record (List.mem_singleton_self record)).1
          have rows := MessageTable.rows_of_entries entries
          have owned : ∀ part ∈ [compaction, snapshot], part.messageId = record.messageId := by
            simp [isCompaction.1, isSnapshot.1]
          have others : ∀ message ∈ created.messages.rows.rows, message.messageId ≠ record.messageId := by
            intro message inside same
            obtain ⟨⟨key, _⟩, entry, rfl⟩ := List.mem_map.mp inside
            apply unused
            rw [← same, created.messages.keyed _ entry]
            exact List.mem_map_of_mem entry
          obtain ⟨last, second⟩ := grown.silent appended.sound
            (grown.numbered.append rows (List.pairwise_singleton _ _) (by simpa using placed))
            (fun sessionId => transcriptRows_event (grows.conversations conversation stored) rows placed.1 others owned
              (by simp [isCompaction.2.2]) sessionId)
            (fun messageId inside => partsOf_other owned fun same => unused (same ▸ inside))
          exact ⟨last, first.trans second⟩

theorem text_of_input {inputs : List AppendMessageInput} {records : List MessageRecord}
    {newMessages : List ParsedMessage} {scrubWithCounts : JsString → ScrubCounts}
    (stored : records.map MessageRecord.input = inputs) (same : inputs = newMessages.map (scrubMessage scrubWithCounts)) :
    records.map rowText = newMessages.map (scrubbedText scrubWithCounts) := by
  have texts := congrArg (List.map fun input : AppendMessageInput => (input.role, input.content)) (stored.trans same)
  rw [List.map_map, List.map_map] at texts
  exact texts

/-- New messages of a session go behind its rows, without a part. -/
theorem LineageSound.append {store after : SessionStore} (sound : LineageSound numbers store) {sessionId : JsString}
    (valid : validateConversationText sessionId = true) {conversation : ConversationRecord}
    (newest : store.conversations.getConversationBySessionId sessionId = some conversation)
    {newMessages : List ParsedMessage} {scrubWithCounts : JsString → ScrubCounts} {clock : MessageId → Timestamp}
    {persisted : Option AppendedTranscript}
    (appended : appendTranscriptMessages scrubWithCounts store conversation.conversationId newMessages clock =
      some (after, persisted)) :
    ∃ records : List MessageRecord, (persisted = none ∧ newMessages = [] ∨
        ∃ counts, persisted = some ⟨conversation.conversationId, records, counts⟩) ∧
      records.map rowText = newMessages.map (scrubbedText scrubWithCounts) ∧
      (∀ session, after.transcriptRows session =
        store.transcriptRows session ++ if session = sessionId then records else []) ∧
      (∀ record ∈ records, partsOf after record.messageId = [] ∧ record.messageId ∉ store.messages.rows.keys) ∧
      LineageSound numbers after ∧ Continues store after := by
  have kept := (appendTranscriptMessages_appended numbers scrubWithCounts sound.toSound newest appended).sound
  unfold appendTranscriptMessages at appended
  split at appended
  · next empty =>
      cases appended
      refine ⟨[], .inl ⟨rfl, empty⟩, by rw [empty]; rfl, fun session => by simp, by simp, sound, .refl store⟩
  · simp only [Option.bind_eq_bind, Option.bind_eq_some_iff, Prod.exists] at appended
    obtain ⟨messages, records, inserted, redactions, _, contextItems, extended, same⟩ := appended
    cases same
    have entries := MessageTable.appendMessages_entries inserted
    obtain ⟨inputs, ascending, placed⟩ := MessageTable.appendMessages_records inserted
    obtain ⟨_, fresh⟩ := MessageTable.records_of_entries entries
    have unused : ∀ record ∈ records, record.messageId ∉ store.messages.rows.keys :=
      fun record inside => (fresh record inside).1
    have bare : ∀ record ∈ records, partsOf store record.messageId = [] := by
      intro record inside
      have none' : store.parts.filter (fun part => part.messageId = record.messageId) = [] := by
        refine List.filter_eq_nil_iff.mpr fun part stored => ?_
        exact fun owner => unused record inside (of_decide_eq_true owner ▸ sound.parts part stored)
      rw [partsOf, none']
      rfl
    have rows : ∀ session, { store with messages := messages }.transcriptRows session =
        store.transcriptRows session ++ if session = sessionId then records else [] :=
      transcriptRows_append newest (MessageTable.rows_of_entries entries) placed ascending
        fun record inside => sound.toLinked.bare (unused record inside)
    refine ⟨records, .inr ⟨_, rfl⟩, text_of_input inputs rfl, rows, fun record inside =>
      ⟨bare record inside, unused record inside⟩, ⟨kept, sound.numbered.append (MessageTable.rows_of_entries entries)
        ascending placed, ?_, ?_, ?_⟩, ⟨fun session => ⟨_, (rows session).symm⟩, fun _ _ _ => rfl⟩⟩
    · intro session nonempty
      by_cases same : session = sessionId
      · exact same ▸ valid
      · apply sound.valid session
        intro none'
        apply nonempty
        exact (rows session).trans (by rw [none', if_neg same]; rfl)
    · intro session first rest whole
      have whole := (rows session).symm.trans whole
      cases old : store.transcriptRows session with
      | nil =>
          rw [old, List.nil_append] at whole
          split at whole
          · exact .inl (bare first (whole ▸ List.mem_cons_self))
          · cases whole
      | cons one others =>
          rw [old, List.cons_append] at whole
          obtain ⟨rfl, _⟩ := List.cons.inj whole
          exact sound.first session one others old
    · intro session first rest whole row inside
      have whole := (rows session).symm.trans whole
      have new : ∀ row ∈ (if session = sessionId then records else []), partsOf store row.messageId = [] := by
        intro row inside
        split at inside
        · exact bare row inside
        · cases inside
      cases old : store.transcriptRows session with
      | nil =>
          rw [old, List.nil_append] at whole
          exact new row (whole ▸ List.mem_cons_of_mem _ inside)
      | cons one others =>
          rw [old, List.cons_append] at whole
          obtain ⟨rfl, rfl⟩ := List.cons.inj whole
          rcases List.mem_append.mp inside with stored | added
          · exact sound.others session one others old row stored
          · exact new row added

/-- A message is a row of one session. -/
theorem session_unique {store : SessionStore} {one two : JsString} {first second : MessageRecord}
    (firstIn : first ∈ store.transcriptRows one) (secondIn : second ∈ store.transcriptRows two)
    (same : first.messageId = second.messageId) : first = second ∧ one = two := by
  obtain ⟨firstStored, _, _, firstFound, rfl⟩ := mem_transcriptRows.mp firstIn
  obtain ⟨secondStored, _, _, secondFound, rfl⟩ := mem_transcriptRows.mp secondIn
  obtain rfl := MessageTable.row_unique firstStored secondStored same
  rw [firstFound] at secondFound
  cases secondFound
  exact ⟨rfl, rfl⟩

/-- The marker goes to the first row of a session when that row has no part. -/
theorem LineageSound.mark {store : SessionStore} (sound : LineageSound numbers store) {sessionId : JsString}
    {first : MessageRecord} {rest : List MessageRecord} (rows : store.transcriptRows sessionId = first :: rest)
    (bare : partsOf store first.messageId = []) (mode : CodexLineageMode) :
    let marked := { store with parts := store.parts ++ [lineagePart numbers sessionId mode first.messageId] }
    LineageSound numbers marked ∧ ∀ session, marked.transcriptRows session = store.transcriptRows session := by
  intro marked
  have transcript := (mem_transcriptRows.mp (rows ▸ List.mem_cons_self : first ∈ store.transcriptRows sessionId)).2.1
  have owned : ∀ part ∈ [lineagePart numbers sessionId mode first.messageId], part.messageId = first.messageId := by
    simp [lineagePart]
  have compaction : ∀ messageId, marked.hasCompactionPart messageId = store.hasCompactionPart messageId := by
    intro messageId
    rw [SessionStore.hasCompactionPart, List.any_append]
    simp [SessionStore.hasCompactionPart, lineagePart]
  have kept : ∀ session, marked.transcriptRows session = store.transcriptRows session := by
    intro session
    unfold SessionStore.transcriptRows
    simp only [compaction]
    rfl
  have others : ∀ session, ∀ row ∈ store.transcriptRows session, row.messageId ≠ first.messageId →
      partsOf marked row.messageId = partsOf store row.messageId := fun _ _ _ different => partsOf_other owned different
  have own : partsOf marked first.messageId = [lineagePart numbers sessionId mode first.messageId] := by
    have same : (partsOf store first.messageId).Perm (store.parts.filter fun part =>
        part.messageId = first.messageId) := SortedBy.perm _
    rw [bare] at same
    rw [partsOf, List.filter_append, same.symm.eq_nil]
    simp [lineagePart, sortedBy]
  have distinct : (store.transcriptRows sessionId).Nodup := placedRows_nodup store sessionId
  refine ⟨⟨⟨⟨sound.conversations, ?_⟩, ?_, sound.contexts⟩, sound.numbered, ?_, ?_, ?_⟩, kept⟩
  · intro part inside
    rcases List.mem_append.mp inside with old | new
    · exact sound.parts part old
    · rw [owned part new]
      exact @stored_key store sessionId first (rows ▸ List.mem_cons_self : first ∈ store.transcriptRows sessionId)
  · intro messageId event
    rw [compaction] at event
    have different : messageId ≠ first.messageId := by
      rintro rfl
      rw [transcript] at event
      cases event
    exact (slotMarkers_other numbers owned different).trans (sound.marked messageId event)
  · intro session nonempty
    exact sound.valid session (kept session ▸ nonempty)
  · intro session one others' whole
    rw [kept] at whole
    have inside : one ∈ store.transcriptRows session := whole ▸ List.mem_cons_self
    by_cases same : one.messageId = first.messageId
    · obtain ⟨rfl, rfl⟩ := session_unique inside (rows ▸ List.mem_cons_self) same
      exact .inr ⟨mode, own⟩
    · rw [others session one inside same]
      exact sound.first session one others' whole
  · intro session one others' whole row inside
    rw [kept] at whole
    have stored : row ∈ store.transcriptRows session := whole ▸ List.mem_cons_of_mem _ inside
    by_cases same : row.messageId = first.messageId
    · obtain ⟨rfl, rfl⟩ := session_unique stored (rows ▸ List.mem_cons_self) same
      rw [rows] at whole
      obtain ⟨rfl, rfl⟩ := List.cons.inj whole
      rw [rows] at distinct
      exact absurd inside (List.nodup_cons.mp distinct).1
    · rw [others session row stored same]
      exact sound.others session one others' whole row inside

section Requests

variable {store created after : SessionStore} {sessionId : JsString} {conversation : ConversationRecord}
  {newMessages : List ParsedMessage} {scrubWithCounts : JsString → ScrubCounts} {createdAt : Timestamp}
  {clock : MessageId → Timestamp} {persisted : Option AppendedTranscript}

/-- An append marks only the first rows of a session. -/
theorem LineageSound.appendLineage (sound : LineageSound numbers store)
    (valid : validateConversationText sessionId = true)
    (newest : store.conversations.getConversationBySessionId sessionId = some conversation)
    {mode : Option CodexLineageMode} (fresh : mode.isSome = true → store.transcriptRows sessionId = [])
    (appended : appendLineage numbers store sessionId conversation.conversationId newMessages mode scrubWithCounts
      clock = some (after, persisted)) :
    LineageSound numbers after ∧ Continues store after ∧ (after.transcriptRows sessionId).map rowText =
      (store.transcriptRows sessionId).map rowText ++ newMessages.map (scrubbedText scrubWithCounts) := by
  unfold Session.appendLineage at appended
  simp only [Option.bind_eq_bind, Option.bind_eq_some_iff, Prod.exists] at appended
  obtain ⟨grown, transcript, appends, rest⟩ := appended
  obtain ⟨records, persists, texts, rows, bare, grownSound, continues⟩ := sound.append valid newest appends
  have grownTexts : (grown.transcriptRows sessionId).map rowText =
      (store.transcriptRows sessionId).map rowText ++ newMessages.map (scrubbedText scrubWithCounts) := by
    rw [rows, if_pos rfl, List.map_append, texts]
  split at rest
  · next transcript mode =>
      obtain ⟨counts, persists⟩ := persists.resolve_left nofun
      cases persists
      simp only [Option.bind_eq_some_iff] at rest
      obtain ⟨first, head, marked, parts, same⟩ := rest
      cases same
      unfold SessionStore.createMessageParts at parts
      simp only [Option.bind_eq_bind, Option.bind_eq_some_iff, Option.guard_eq_some', exists_const, List.map_cons,
        List.map_nil] at parts
      obtain ⟨_, made⟩ := parts
      cases made
      obtain ⟨others, whole⟩ := List.head?_eq_some_iff.mp head
      have firstRows : grown.transcriptRows sessionId = first :: others := by
        rw [rows, fresh rfl, if_pos rfl, List.nil_append]
        exact whole
      obtain ⟨unmarked, unused⟩ := bare first (whole ▸ List.mem_cons_self)
      obtain ⟨markedSound, kept⟩ := grownSound.mark firstRows unmarked mode
      refine ⟨markedSound, ⟨fun session => (kept session).symm ▸ continues.rows session, fun session row inside => ?_⟩, ?_⟩
      · have different : row.messageId ≠ first.messageId := fun same => unused (same ▸ stored_key inside)
        exact (partsOf_other (by simp) different).trans (continues.parts session row inside)
      · exact (congrArg (List.map rowText) (kept sessionId)).trans grownTexts
  · cases rest
    exact ⟨grownSound, continues, grownTexts⟩

theorem lineageDecision_mode {rows : List MessageRecord} {together : Bool} {lineage : Option CodexLineageMarker}
    {request : CodexLineageRequest} {mode : Option CodexLineageMode} {history : Option CodexLineageHistory}
    (decided : lineageDecision rows together lineage request scrubWithCounts = some (newMessages, mode, history))
    (marks : mode.isSome = true) : rows = [] := by
  by_contra nonempty
  unfold lineageDecision at decided
  have unmarked : ∀ {messages : List ParsedMessage} {chosen : Option CodexLineageHistory},
      ¬ some (messages, none, chosen) = some (newMessages, mode, history) := by
    rintro messages chosen ⟨⟩
    cases marks
  split at decided
  · rw [if_neg nonempty] at decided
    split at decided
    · split at decided
      · cases decided
      · cases decided
      · split at decided
        · exact unmarked decided
        · cases decided
      · split at decided
        · exact unmarked decided
        · cases decided
    · cases decided
  · rw [if_neg nonempty] at decided
    split at decided
    · cases decided
    · cases decided
    · exact unmarked decided
    · exact unmarked decided

/-- A request keeps the rows of every session and their marker. -/
theorem LineageSound.request (sound : LineageSound numbers store) {request : CodexLineageRequest}
    {history : Option CodexLineageHistory}
    (persists : persistCodexLineage numbers store sessionId request scrubWithCounts createdAt clock =
      some (after, persisted, history)) : LineageSound numbers after ∧ Continues store after := by
  by_cases empty : request.full = []
  · unfold persistCodexLineage at persists
    rw [if_pos empty] at persists
    simp only [Option.bind_eq_bind, Option.bind_eq_some_iff, Option.some.injEq, Prod.mk.injEq] at persists
    obtain ⟨_, _, rfl, _⟩ := persists
    exact ⟨sound, .refl store⟩
  · cases opened : store.getOrCreateConversation sessionId createdAt with
    | none => simp [persistCodexLineage, empty, prepareSessionTranscript, opened] at persists
    | some result =>
        obtain ⟨created, conversation⟩ := result
        obtain ⟨grows, newest⟩ := getOrCreateConversation_newest opened
        have valid : validateConversationText sessionId = true :=
          (@getOrCreateConversation_isSome store sessionId createdAt).mp (by rw [opened]; rfl)
        obtain ⟨grown, first⟩ := sound.grow grows
        rw [persistCodexLineage_eq sound.toSound sound.numbered empty opened] at persists
        cases decided : lineageDecision (created.transcriptRows sessionId) (decide (∀ row ∈
            created.transcriptRows sessionId, row.conversationId = conversation.conversationId))
              (sessionLineage numbers created sessionId) request scrubWithCounts with
        | none =>
            rw [decided] at persists
            cases persists
            exact ⟨grown, first⟩
        | some decision =>
            obtain ⟨newMessages, mode, decidedHistory⟩ := decision
            rw [decided] at persists
            obtain ⟨⟨appended, transcript⟩, appends, same⟩ := Option.map_eq_some_iff.mp persists
            cases same
            obtain ⟨last, second, _⟩ := grown.appendLineage valid newest (lineageDecision_mode decided) appends
            exact ⟨last, first.trans second⟩

/-- A session with rows opens without a change. -/
theorem LineageSound.opens (sound : LineageSound numbers store) (rows : store.transcriptRows sessionId ≠ []) :
    validateConversationText sessionId = true ∧ ∃ conversation,
      store.conversations.getConversationBySessionId sessionId = some conversation ∧
        store.getOrCreateConversation sessionId createdAt = some (store, conversation) := by
  have valid := sound.valid sessionId rows
  obtain ⟨first, inside⟩ := List.exists_mem_of_ne_nil _ rows
  obtain ⟨_, _, holder, found, named⟩ := mem_transcriptRows.mp inside
  obtain ⟨stored, _⟩ := ConversationTable.getConversation_eq_some.mp found
  obtain ⟨newest, opened⟩ := Option.isSome_iff_exists.mp
    (ConversationTable.getConversationBySessionId_isSome.mpr ⟨holder, stored, named⟩)
  exact ⟨valid, newest, opened, getOrCreateConversation_existing valid opened⟩

theorem sessionLineage_rows {marker : CodexLineageMarker}
    (chosen : sessionLineage numbers store sessionId = some marker) : store.transcriptRows sessionId ≠ [] := by
  intro none'
  rw [sessionLineage, none'] at chosen
  cases chosen

/-- A boundary session refuses whatever is not a copied fork that continues its rows. -/
theorem LineageSound.boundary_refuses (sound : LineageSound numbers store)
    (chosen : sessionLineage numbers store sessionId = some (.mode .boundary)) {request : CodexLineageRequest}
    (contradicts : ∀ child, request.child = some child → ¬ (store.transcriptRows sessionId).map rowText <+:
      child.map (scrubbedText scrubWithCounts)) :
    persistCodexLineage numbers store sessionId request scrubWithCounts createdAt clock =
      some (store, none, some .lineageMismatch) := by
  have rows := sessionLineage_rows chosen
  obtain ⟨valid, conversation, newest, opened⟩ := @sound.opens _ _ _ sessionId createdAt rows
  by_cases empty : request.full = []
  · rw [persistCodexLineage_empty sound.numbered valid newest rows empty, chosen]
    split
    · rfl
    · rfl
  · rw [persistCodexLineage_eq sound.toSound sound.numbered empty opened, chosen, lineageDecision]
    cases asked : request.child with
    | none =>
        dsimp only
        rw [if_neg rows]
        rfl
    | some child =>
        dsimp only
        have refused := contradicts child asked
        rw [← storedIsPrefix_iff] at refused
        rw [if_neg rows, if_neg refused, ite_self]
        rfl

/-- An array session refuses every copied fork. -/
theorem LineageSound.array_refuses (sound : LineageSound numbers store)
    (chosen : sessionLineage numbers store sessionId = some (.mode .array)) {request : CodexLineageRequest}
    {child : List ParsedMessage} (asked : request.child = some child) :
    persistCodexLineage numbers store sessionId request scrubWithCounts createdAt clock =
      some (store, none, some .lineageMismatch) := by
  have rows := sessionLineage_rows chosen
  obtain ⟨valid, conversation, newest, opened⟩ := @sound.opens _ _ _ sessionId createdAt rows
  by_cases empty : request.full = []
  · rw [persistCodexLineage_empty sound.numbered valid newest rows empty, asked]
    rfl
  · rw [persistCodexLineage_eq sound.toSound sound.numbered empty opened, chosen, lineageDecision, asked]
    dsimp only
    rw [if_neg rows, ite_self]
    rfl

/-- After a copied fork is accepted a boundary session holds exactly the list of the fork. -/
theorem LineageSound.accepted (sound : LineageSound numbers store) {request : CodexLineageRequest}
    {child : List ParsedMessage} (asked : request.child = some child) {history : Option CodexLineageHistory}
    (persists : persistCodexLineage numbers store sessionId request scrubWithCounts createdAt clock =
      some (after, persisted, history)) (agreed : history ≠ some .lineageMismatch)
    (chosen : sessionLineage numbers after sessionId = some (.mode .boundary)) :
    (after.transcriptRows sessionId).map rowText = child.map (scrubbedText scrubWithCounts) := by
  obtain ⟨_, continues⟩ := sound.request persists
  by_cases empty : request.full = []
  · by_cases rows : store.transcriptRows sessionId = []
    · unfold persistCodexLineage at persists
      rw [if_pos empty] at persists
      simp only [Option.bind_eq_bind, Option.bind_eq_some_iff, Option.some.injEq, Prod.mk.injEq] at persists
      obtain ⟨_, _, rfl, _⟩ := persists
      exact absurd rows (sessionLineage_rows chosen)
    · obtain ⟨valid, conversation, newest, _⟩ := @sound.opens _ _ _ sessionId createdAt rows
      rw [persistCodexLineage_empty sound.numbered valid newest rows empty, asked] at persists
      cases persists
      exact absurd rfl agreed
  · cases opened : store.getOrCreateConversation sessionId createdAt with
    | none => simp [persistCodexLineage, empty, prepareSessionTranscript, opened] at persists
    | some result =>
        obtain ⟨created, conversation⟩ := result
        obtain ⟨grows, newest⟩ := getOrCreateConversation_newest opened
        have valid : validateConversationText sessionId = true :=
          (@getOrCreateConversation_isSome store sessionId createdAt).mp (by rw [opened]; rfl)
        obtain ⟨grown, first⟩ := sound.grow grows
        rw [persistCodexLineage_eq sound.toSound sound.numbered empty opened, lineageDecision.eq_def, asked] at persists
        dsimp only at persists
        split at persists
        · next none' =>
            obtain ⟨⟨appended, transcript⟩, appends, same⟩ := Option.map_eq_some_iff.mp persists
            cases same
            obtain ⟨_, _, texts⟩ := grown.appendLineage valid newest (fun _ => none') appends
            rw [texts, none']
            rfl
        · next rows =>
            have kept : sessionLineage numbers created sessionId = some (.mode .boundary) := by
              have before := transcriptRows_grows sound.toLinked grows
              rw [(first.lineage (before sessionId ▸ rows)).2, ← chosen]
              exact (continues.lineage (before sessionId ▸ rows)).2.symm
            rw [kept] at persists
            dsimp only at persists
            split at persists
            · split at persists
              · next continued =>
                  obtain ⟨⟨appended, transcript⟩, appends, same⟩ := Option.map_eq_some_iff.mp persists
                  cases same
                  have unmarked : (none : Option CodexLineageMode).isSome = true → created.transcriptRows sessionId = [] :=
                    fun none => by cases none
                  obtain ⟨_, _, texts⟩ := grown.appendLineage valid newest unmarked appends
                  obtain ⟨added, whole⟩ := storedIsPrefix_iff.mp continued
                  rw [texts, List.map_drop, ← whole, List.drop_left' (List.length_map ..)]
              · cases persists
                exact absurd rfl agreed
            · cases persists
              exact absurd rfl agreed

end Requests

theorem lineageAct_sound {store : SessionStore} (sound : LineageSound numbers store) (action : LineageAction) :
    LineageSound numbers (lineageAct numbers store action) ∧ Continues store (lineageAct numbers store action) := by
  cases action with
  | createConversation sessionId createdAt => exact sound.grow (createConversation_grows store sessionId createdAt)
  | request sessionId request scrubWithCounts createdAt clock =>
      rw [lineageAct]
      cases persists : persistCodexLineage numbers store sessionId request scrubWithCounts createdAt clock with
      | none => exact ⟨sound, .refl store⟩
      | some result => exact sound.request persists
  | event conversationId event createdAt clock => exact sound.event conversationId event createdAt clock

theorem reachable_lineageSound {store : SessionStore} (reached : (lineageSystem numbers).Reachable store) :
    LineageSound numbers store := by
  apply StepSystem.Reachable.invariant _ _ reached
  · rintro state rfl
    exact ⟨sound_empty numbers, fun _ => nofun, fun _ rows => absurd rfl rows, fun _ _ _ => nofun, fun _ _ _ => nofun⟩
  · rintro before label after _ sound rfl
    exact (lineageAct_sound sound label).1

theorem foldl_continues {store : SessionStore} (sound : LineageSound numbers store) (actions : List LineageAction) :
    LineageSound numbers (actions.foldl (lineageAct numbers) store) ∧
      Continues store (actions.foldl (lineageAct numbers) store) := by
  induction actions generalizing store with
  | nil => exact ⟨sound, .refl store⟩
  | cons action actions ih =>
      obtain ⟨next, first⟩ := lineageAct_sound sound action
      obtain ⟨last, rest⟩ := ih next
      exact ⟨last, first.trans rest⟩

/-- A copied fork writes its first message, an event follows, and a list of another client is refused. -/
def sampleLineageActions : List LineageAction :=
  [.request (js "s") ⟨.file, [sampleMessage "p", sampleMessage "a#"], some [sampleMessage "a#"]⟩ sampleScrub 1 fun _ => 0,
    .event 1 sampleEvent 2 fun _ => 0,
    .request (js "s") ⟨.array, [sampleMessage "x", sampleMessage "y"], none⟩ sampleScrub 3 fun _ => 0]

def sampleLineageStore : SessionStore := sampleLineageActions.foldl (lineageAct naturalNumbers) .empty

end Lcm.Session
