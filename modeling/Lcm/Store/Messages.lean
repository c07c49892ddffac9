import Lcm.Library.KeyedTable
import Lcm.Text.JsString

namespace Lcm.Store
open Text

abbrev ConversationId := Nat

abbrev MessageId := Nat

/-- A stored time in milliseconds. -/
abbrev Timestamp := Int

/-- The largest integer that a JavaScript number holds without loss. -/
def maxSafeInteger : Nat := 2 ^ 53 - 1

inductive MessageRole where
  | system
  | user
  | assistant
  | tool
  deriving DecidableEq, Repr

structure AppendMessageInput where
  role : MessageRole
  content : JsString
  tokenCount : Int
  deriving DecidableEq

structure CreateMessageInput extends AppendMessageInput where
  conversationId : ConversationId
  seq : Nat
  deriving DecidableEq

structure MessageRecord where
  messageId : MessageId
  conversationId : ConversationId
  seq : Nat
  role : MessageRole
  content : JsString
  tokenCount : Nat
  createdAt : Timestamp
  deriving DecidableEq

/-- The message that a record stores. -/
def MessageRecord.input (record : MessageRecord) : AppendMessageInput :=
  ⟨record.role, record.content, record.tokenCount⟩

/-- A count is valid when it is a non-negative safe integer. -/
def validateNonNegativeSafeInteger (value : Int) : Bool :=
  0 ≤ value && value ≤ maxSafeInteger

/-- Conversation text must not contain NUL. -/
def validateConversationText (text : JsString) : Bool := !includesNul text

def validateAppendTokenCounts (inputs : List AppendMessageInput) : Bool :=
  inputs.all fun input =>
    validateNonNegativeSafeInteger input.tokenCount && validateConversationText input.content

def validateMessageInputs (inputs : List CreateMessageInput) : Bool :=
  inputs.all fun input =>
    validateNonNegativeSafeInteger input.seq && validateNonNegativeSafeInteger input.tokenCount &&
      validateConversationText input.content

/-- The messages table stores each row under its own identifier and gives out none twice. -/
structure MessageTable where
  rows : KeyedTable MessageId MessageRecord
  sequence : Nat
  within : ∀ messageId ∈ rows.keys, messageId ≤ sequence
  keyed : ∀ entry ∈ rows.entries, entry.2.messageId = entry.1

namespace MessageTable

def empty : MessageTable := ⟨.empty, 0, by simp, fun _ outside => nomatch outside⟩

def getMessageById (table : MessageTable) (messageId : MessageId) : Option MessageRecord :=
  table.rows.get? messageId

theorem getMessageById_id {table : MessageTable} {messageId : MessageId} {record : MessageRecord}
    (stored : table.getMessageById messageId = some record) : record.messageId = messageId :=
  table.keyed _ (KeyedTable.get?_eq_some.mp stored)

/-- Two stored messages with the same identifier are the same message. -/
theorem row_unique {table : MessageTable} {first second : MessageRecord}
    (firstIn : first ∈ table.rows.rows) (secondIn : second ∈ table.rows.rows)
    (same : first.messageId = second.messageId) : first = second := by
  obtain ⟨⟨firstKey, _⟩, firstEntry, rfl⟩ := List.mem_map.mp firstIn
  obtain ⟨⟨secondKey, _⟩, secondEntry, rfl⟩ := List.mem_map.mp secondIn
  have keys : firstKey = secondKey :=
    (table.keyed _ firstEntry).symm.trans (same.trans (table.keyed _ secondEntry))
  subst keys
  exact KeyedTable.entry_unique firstEntry secondEntry

/-- The sequence numbers that one conversation uses. -/
def seqs (table : MessageTable) (conversationId : ConversationId) : List Nat :=
  (table.rows.rows.filter fun record => record.conversationId = conversationId).map (·.seq)

/-- The sequence number after the largest one of a conversation. -/
def nextSeq (table : MessageTable) (conversationId : ConversationId) : Nat :=
  (table.seqs conversationId).foldl (fun next seq => max next (seq + 1)) 0

/-- The record that an insertion stores under the next identifier. -/
def record (table : MessageTable) (input : CreateMessageInput) (createdAt : Timestamp) :
    MessageRecord where
  messageId := table.sequence + 1
  conversationId := input.conversationId
  seq := input.seq
  role := input.role
  content := input.content
  tokenCount := input.tokenCount.toNat
  createdAt := createdAt

/-- A deleted row gives its identifier to no other message. -/
def deleteMessage (table : MessageTable) (messageId : MessageId) : MessageTable where
  rows := table.rows.erase messageId
  sequence := table.sequence
  within other used := by
    obtain ⟨stored, inside⟩ := KeyedTable.mem_keys.mp used
    exact table.within _ (KeyedTable.mem_keys.mpr ⟨stored, (List.mem_filter.mp inside).1⟩)
  keyed entry inside := table.keyed entry (List.mem_filter.mp inside).1

theorem sequence_fresh (table : MessageTable) : table.sequence + 1 ∉ table.rows.keys := by
  intro used
  exact Nat.not_succ_le_self _ (table.within _ used)

/-- An insertion takes the next identifier and refuses a used sequence number. -/
def insertMessage (table : MessageTable) (input : CreateMessageInput) (createdAt : Timestamp) :
    Option (MessageTable × MessageRecord) :=
  if input.seq ∈ table.seqs input.conversationId then none else
    some ({
      rows := table.rows.insertOrIgnore (table.sequence + 1) (table.record input createdAt)
      sequence := table.sequence + 1
      within := by
        intro messageId used
        obtain ⟨stored, inside⟩ := KeyedTable.mem_keys.mp used
        rw [KeyedTable.insertOrIgnore_fresh _ table.sequence_fresh] at inside
        rcases List.mem_append.mp inside with old | new
        · exact Nat.le_succ_of_le (table.within _ (KeyedTable.mem_keys.mpr ⟨stored, old⟩))
        · have same : messageId = table.sequence + 1 := by simpa using (congrArg Prod.fst
            (List.mem_singleton.mp new))
          exact Nat.le_of_eq same
      keyed := by
        intro entry inside
        rw [KeyedTable.insertOrIgnore_fresh _ table.sequence_fresh] at inside
        rcases List.mem_append.mp inside with old | new
        · exact table.keyed entry old
        · rw [List.mem_singleton.mp new]
          rfl }, table.record input createdAt)

/-- The rows of a batch are inserted in order; the clock gives each row its time. -/
def insertMessages (clock : MessageId → Timestamp) :
    MessageTable → List CreateMessageInput → Option (MessageTable × List MessageRecord)
  | table, [] => some (table, [])
  | table, input :: inputs => do
      let (next, record) ← table.insertMessage input (clock (table.sequence + 1))
      let (final, records) ← insertMessages clock next inputs
      some (final, record :: records)

def createMessagesBulk (table : MessageTable) (inputs : List CreateMessageInput)
    (clock : MessageId → Timestamp) : Option (MessageTable × List MessageRecord) :=
  if validateMessageInputs inputs then insertMessages clock table inputs else none

/-- The inputs of an append with their consecutive sequence numbers. -/
def numberInputs (conversationId : ConversationId) (nextSeq : Nat)
    (inputs : List AppendMessageInput) : List CreateMessageInput :=
  inputs.zipIdx.map fun (input, offset) =>
    { input with conversationId := conversationId, seq := nextSeq + offset }

def appendMessages (table : MessageTable) (conversationId : ConversationId)
    (inputs : List AppendMessageInput) (clock : MessageId → Timestamp) :
    Option (MessageTable × List MessageRecord) :=
  if inputs = [] then some (table, [])
  else if validateAppendTokenCounts inputs then
    table.createMessagesBulk (numberInputs conversationId (table.nextSeq conversationId) inputs) clock
  else none

/-- The table entries of new records. -/
def entriesOf (records : List MessageRecord) : List (MessageId × MessageRecord) :=
  records.map fun record => (record.messageId, record)

theorem insertMessage_entries {table after : MessageTable} {input : CreateMessageInput}
    {createdAt : Timestamp} {record : MessageRecord}
    (inserted : table.insertMessage input createdAt = some (after, record)) :
    record = table.record input createdAt ∧ after.sequence = table.sequence + 1 ∧
      after.rows.entries = table.rows.entries ++ entriesOf [record] := by
  simp only [insertMessage] at inserted
  split at inserted
  · cases inserted
  · cases inserted
    exact ⟨rfl, rfl, KeyedTable.insertOrIgnore_fresh _ table.sequence_fresh⟩

/-- A batch only appends its records to the table. -/
theorem insertMessages_entries {clock : MessageId → Timestamp} {inputs : List CreateMessageInput}
    {table after : MessageTable} {records : List MessageRecord}
    (inserted : insertMessages clock table inputs = some (after, records)) :
    after.rows.entries = table.rows.entries ++ entriesOf records := by
  induction inputs generalizing table records with
  | nil =>
      simp only [insertMessages, Option.some.injEq, Prod.mk.injEq] at inserted
      obtain ⟨rfl, rfl⟩ := inserted
      simp [entriesOf]
  | cons input inputs ih =>
      simp only [insertMessages, Option.bind_eq_bind, Option.bind_eq_some_iff, Prod.exists] at inserted
      obtain ⟨next, record, first, final, rest, batch, same⟩ := inserted
      cases same
      rw [ih batch, (insertMessage_entries first).2.2]
      simp [entriesOf]

theorem appendMessages_entries {table after : MessageTable} {conversationId : ConversationId}
    {inputs : List AppendMessageInput} {clock : MessageId → Timestamp}
    {records : List MessageRecord}
    (appended : table.appendMessages conversationId inputs clock = some (after, records)) :
    after.rows.entries = table.rows.entries ++ entriesOf records := by
  simp only [appendMessages, createMessagesBulk] at appended
  split at appended
  · cases appended
    simp [entriesOf]
  · split at appended
    · split at appended
      · exact insertMessages_entries appended
      · cases appended
    · cases appended

/-- A table extends another when it keeps every stored message. -/
def Extends (before after : MessageTable) : Prop :=
  ∀ messageId record, before.getMessageById messageId = some record →
    after.getMessageById messageId = some record

theorem Extends.refl (table : MessageTable) : Extends table table := fun _ _ stored => stored

theorem extends_of_entries {before after : MessageTable} {records : List MessageRecord}
    (entries : after.rows.entries = before.rows.entries ++ entriesOf records) :
    Extends before after := by
  intro messageId record stored
  refine KeyedTable.get?_eq_some.mpr ?_
  rw [entries]
  exact List.mem_append_left _ (KeyedTable.get?_eq_some.mp stored)

/-- The records of an append are stored under distinct identifiers that were free before. -/
theorem records_of_entries {before after : MessageTable} {records : List MessageRecord}
    (entries : after.rows.entries = before.rows.entries ++ entriesOf records) :
    (records.map (·.messageId)).Nodup ∧
      (∀ record ∈ records, record.messageId ∉ before.rows.keys ∧
        after.getMessageById record.messageId = some record) := by
  have distinct := after.rows.keys_nodup
  rw [KeyedTable.keys, entries, List.map_append, List.nodup_append] at distinct
  have keys : (entriesOf records).map Prod.fst = records.map (·.messageId) := by
    simp [entriesOf]
  rw [keys] at distinct
  refine ⟨distinct.2.1, fun record inside => ⟨fun used => ?_, ?_⟩⟩
  · exact distinct.2.2 _ used _ (List.mem_map_of_mem inside) rfl
  · refine KeyedTable.get?_eq_some.mpr ?_
    rw [entries]
    exact List.mem_append_right _ (List.mem_map_of_mem (f := fun record => (record.messageId, record)) inside)

theorem rows_of_entries {before after : MessageTable} {records : List MessageRecord}
    (entries : after.rows.entries = before.rows.entries ++ entriesOf records) :
    after.rows.rows = before.rows.rows ++ records := by
  rw [KeyedTable.rows, entries, List.map_append, entriesOf, List.map_map]
  exact congrArg (_ ++ ·) (List.map_id records)

/-- The next sequence number is above every one in use. -/
theorem lt_nextSeq {table : MessageTable} {conversationId : ConversationId} {seq : Nat}
    (used : seq ∈ table.seqs conversationId) : seq < table.nextSeq conversationId := by
  have bound : ∀ (seqs : List Nat) (start : Nat),
      start ≤ seqs.foldl (fun next seq => max next (seq + 1)) start ∧
        ∀ seq ∈ seqs, seq < seqs.foldl (fun next seq => max next (seq + 1)) start := by
    intro seqs
    induction seqs with
    | nil => exact fun start => ⟨Nat.le_refl _, List.forall_mem_nil _⟩
    | cons first seqs ih =>
        intro start
        obtain ⟨grows, above⟩ := ih (max start (first + 1))
        rw [List.foldl_cons]
        exact ⟨by omega, List.forall_mem_cons.mpr ⟨by omega, above⟩⟩
  exact (bound _ 0).2 seq used

theorem insertMessage_seqs {table after : MessageTable} {input : CreateMessageInput}
    {createdAt : Timestamp} {record : MessageRecord}
    (inserted : table.insertMessage input createdAt = some (after, record))
    {conversationId : ConversationId} {seq : Nat} (used : seq ∈ after.seqs conversationId) :
    seq ∈ table.seqs conversationId ∨ seq = input.seq := by
  obtain ⟨rfl, _, entries⟩ := insertMessage_entries inserted
  simp only [seqs, KeyedTable.rows, entries, entriesOf, List.map_append, List.filter_append,
    List.mem_append] at used ⊢
  rcases used with old | new
  · exact .inl old
  · right
    obtain ⟨row, inside, rfl⟩ := List.mem_map.mp new
    have same : row = table.record input createdAt := by simpa using (List.mem_filter.mp inside).1
    rw [same]
    rfl

/-- Rows with consecutive sequence numbers above the used ones are all inserted, in order. -/
theorem insertMessages_above {clock : MessageId → Timestamp} {conversationId : ConversationId}
    {base : Nat} {inputs : List AppendMessageInput} (offset : Nat) {table : MessageTable}
    (above : ∀ seq ∈ table.seqs conversationId, seq < base + offset) :
    ∃ after records,
      insertMessages clock table ((inputs.zipIdx offset).map fun (input, offset) =>
        { input with conversationId := conversationId, seq := base + offset }) =
          some (after, records) ∧
      records.map (fun record => (record.conversationId, record.seq)) =
        (List.range' offset inputs.length).map (fun offset => (conversationId, base + offset)) ∧
      records.map (fun record => (record.role, record.content, record.tokenCount)) =
        inputs.map fun input => (input.role, input.content, input.tokenCount.toNat) := by
  induction inputs generalizing offset table with
  | nil => exact ⟨table, [], rfl, rfl, rfl⟩
  | cons input inputs ih =>
      let row : CreateMessageInput :=
        { input with conversationId := conversationId, seq := base + offset }
      have free : row.seq ∉ table.seqs row.conversationId :=
        fun used => Nat.lt_irrefl _ (above _ used)
      obtain ⟨next, record, inserted⟩ : ∃ next record,
          table.insertMessage row (clock (table.sequence + 1)) = some (next, record) := by
        rw [insertMessage, if_neg free]
        exact ⟨_, _, rfl⟩
      obtain ⟨after, records, rest, places, contents⟩ := @ih (offset + 1) next (by
        intro seq used
        rcases insertMessage_seqs inserted used with old | same
        · have := above seq old
          omega
        · rw [same]
          show base + offset < base + (offset + 1)
          omega)
      refine ⟨after, record :: records, ?_, ?_, ?_⟩
      · rw [List.zipIdx_cons, List.map_cons, insertMessages]
        simp only [Option.bind_eq_bind]
        rw [show table.insertMessage _ _ = some (next, record) from inserted]
        simp only [Option.bind_some]
        rw [rest]
        rfl
      · rw [List.map_cons, places, (insertMessage_entries inserted).1, List.length_cons,
          List.range'_succ, List.map_cons]
        rfl
      · rw [List.map_cons, contents, (insertMessage_entries inserted).1, List.map_cons]
        rfl

/-- The checks of an append pass exactly when the append goes through. -/
theorem appendMessages_isSome {table : MessageTable} {conversationId : ConversationId}
    {inputs : List AppendMessageInput} {clock : MessageId → Timestamp} :
    (table.appendMessages conversationId inputs clock).isSome = true ↔
      (inputs = [] ∨ validateAppendTokenCounts inputs = true ∧
        validateMessageInputs (numberInputs conversationId (table.nextSeq conversationId) inputs) =
          true) := by
  obtain ⟨after, records, inserted, _⟩ := @insertMessages_above clock conversationId
    (table.nextSeq conversationId) inputs 0 table fun seq used => lt_nextSeq used
  unfold appendMessages createMessagesBulk
  rw [numberInputs]
  split
  · next empty => simp [empty]
  · next nonempty =>
      split
      · next counts =>
          split
          · next valid => simp [inserted, counts, valid]
          · next invalid => simp [nonempty, invalid]
      · next counts => simp [nonempty, counts]

/-- An append stores its inputs in order, behind every other message of the conversation. -/
theorem appendMessages_records {table after : MessageTable} {conversationId : ConversationId}
    {inputs : List AppendMessageInput} {clock : MessageId → Timestamp}
    {records : List MessageRecord}
    (appended : table.appendMessages conversationId inputs clock = some (after, records)) :
    records.map (·.input) = inputs ∧
      (records.map (·.seq)).Pairwise (· < ·) ∧
      ∀ record ∈ records, record.conversationId = conversationId ∧
        table.nextSeq conversationId ≤ record.seq := by
  unfold appendMessages at appended
  split at appended
  · next empty =>
      cases appended
      rw [empty]
      exact ⟨rfl, List.Pairwise.nil, List.forall_mem_nil _⟩
  · split at appended
    · next counts =>
        unfold createMessagesBulk at appended
        split at appended
        · obtain ⟨after', records', inserted, places, contents⟩ :=
            @insertMessages_above clock conversationId (table.nextSeq conversationId) inputs 0 table
              fun seq used => lt_nextSeq used
          rw [numberInputs, inserted] at appended
          cases appended
          have seqs : records.map (·.seq) = (List.range' 0 inputs.length).map
              fun offset => table.nextSeq conversationId + offset := by
            have := congrArg (List.map Prod.snd) places
            simpa [List.map_map, Function.comp_def] using this
          refine ⟨?_, ?_, ?_⟩
          · apply List.ext_getElem?
            intro index
            have content := congrArg (fun list => list[index]?) contents
            simp only [List.getElem?_map] at content ⊢
            cases found : inputs[index]? with
            | none =>
                rw [found, Option.map_none, Option.map_eq_none_iff] at content
                rw [content, Option.map_none]
            | some input =>
                rw [found, Option.map_some, Option.map_eq_some_iff] at content
                obtain ⟨record, located, same⟩ := content
                rw [located, Option.map_some]
                have valid := List.all_eq_true.mp counts input (List.mem_of_getElem? found)
                simp only [validateNonNegativeSafeInteger, Bool.and_eq_true,
                  decide_eq_true_eq] at valid
                simp only [Prod.mk.injEq] at same
                obtain ⟨role, content, tokens⟩ := same
                cases input
                simp only [MessageRecord.input, role, content, tokens] at valid ⊢
                rw [Int.toNat_of_nonneg valid.1.1]
          · rw [seqs]
            apply List.pairwise_map.mpr
            exact (List.pairwise_lt_range' 1 Nat.one_pos).imp fun less => Nat.add_lt_add_left less _
          · intro record inside
            have place := List.mem_map_of_mem
              (f := fun record : MessageRecord => (record.conversationId, record.seq)) inside
            rw [places] at place
            obtain ⟨offset, _, same⟩ := List.mem_map.mp place
            simp only [Prod.mk.injEq] at same
            exact ⟨same.1.symm, by omega⟩
        · cases appended
    · cases appended

end MessageTable

end Lcm.Store
