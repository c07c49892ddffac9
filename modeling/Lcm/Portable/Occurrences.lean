import Lcm.Library.Ranks
import Lcm.Migration.ReceiptRecords
import Lcm.Portable.Index

namespace Lcm.Portable
open Text Migration Ranks OrderCodes

namespace PortableIndex

/-- A conversation as a source adds it: its locator is private to the source. -/
structure ConversationInput where
  locator : JsString
  headerOrder : List PortableOrderScalar
  closureSha256 : Hash

/-- The header and the closure of a conversation, without its locator. -/
def ConversationInput.label (input : ConversationInput) : List PortableOrderScalar × Hash :=
  (input.headerOrder, input.closureSha256)

def addConversations (index : PortableIndex) (inputs : List ConversationInput) : PortableIndex :=
  inputs.foldl (fun index input =>
    (addConversation input.locator input.headerOrder input.closureSha256 index).2) index

/-- The order of headers and that of closure digests within a header. -/
def headerKey (entry : JsString × ConversationRow) : List Nat := entry.2.header.map UInt8.toNat

def closureKey (closureSha256 : Hash) : List Nat := (encodeUtf8 closureSha256.1).map UInt8.toNat

theorem conversationKey_le {first second : JsString × ConversationRow}
    (before : conversationKey first ≤ conversationKey second) :
    headerKey first ≤ headerKey second ∧ (headerKey first = headerKey second →
      closureKey first.2.closureSha256 ≤ closureKey second.2.closureSha256) := by
  rw [conversationKey, conversationKey, Prod.Lex.toLex_le_toLex] at before
  rcases before with less | ⟨same, rest⟩
  · exact ⟨le_of_lt less, fun same => absurd same (ne_of_lt less)⟩
  · rw [Prod.Lex.toLex_le_toLex] at rest
    exact ⟨le_of_eq same, fun _ => rest.elim le_of_lt fun equal => le_of_eq equal.1⟩

/-- Conversations with one header and one digest are found equal. -/
def Confirms (equalClosures : JsString → JsString → Except PortableIndexError Bool)
    (entries : List (JsString × ConversationRow)) : Prop :=
  ∀ first ∈ entries, ∀ second ∈ entries, first.2.header = second.2.header →
    first.2.closureSha256 = second.2.closureSha256 → equalClosures first.1 second.1 = .ok true

/-- The occurrence that the loop gives is the number of conversations before with the same header. -/
theorem nextOccurrence_eq {equalClosures : JsString → JsString → Except PortableIndexError Bool}
    {before : List (JsString × ConversationRow)} {entry : JsString × ConversationRow} {occurrence : Nat}
    (confirms : Confirms equalClosures (before ++ [entry]))
    (sorted : (before ++ [entry]).Pairwise fun first second => conversationKey first ≤ conversationKey second)
    (counted : ∀ last ∈ before.getLast?, occurrence = before.countP fun row => row.2.header = last.2.header) :
    nextOccurrence equalClosures before.getLast? occurrence entry =
      .ok (before.countP fun row => row.2.header = entry.2.header) := by
  cases previous : before.getLast? with
  | none =>
      rw [List.getLast?_eq_none_iff] at previous
      subst previous
      rfl
  | some last =>
      obtain ⟨earlier, rfl⟩ := List.getLast?_eq_some_iff.mp previous
      have lastIn : last ∈ earlier ++ [last] ++ [entry] := by simp
      have entryIn : entry ∈ earlier ++ [last] ++ [entry] := by simp
      rw [nextOccurrence]
      by_cases other : last.2.header ≠ entry.2.header
      · simp only [if_pos other]
        rw [List.countP_eq_zero.mpr]
        · rfl
        intro row inside same
        rw [decide_eq_true_eq] at same
        rw [List.append_assoc, List.pairwise_append] at sorted
        have upper := (conversationKey_le ((List.pairwise_cons.mp sorted.2.1).1 entry (by simp))).1
        rcases List.mem_append.mp inside with early | final
        · have lower := (conversationKey_le (sorted.2.2 row early last (by simp))).1
          rw [headerKey, same] at lower
          exact other (map_toNat_inj (le_antisymm upper lower))
        · rw [List.mem_singleton.mp final] at same
          exact other same
      · have sameHeader := not_not.mp other
        simp only [if_neg other]
        rw [counted last previous, sameHeader]
        split
        · next sameClosure =>
            rw [confirms last lastIn entry entryIn sameHeader sameClosure]
            rfl
        · rfl

/-- The scan gives each conversation its rank within its header. -/
theorem numberConversations_eq {equalClosures : JsString → JsString → Except PortableIndexError Bool}
    {before rest : List (JsString × ConversationRow)} (occurrence : Nat)
    (conversations : KeyedTable JsString ConversationRow) (confirms : Confirms equalClosures (before ++ rest))
    (sorted : (before ++ rest).Pairwise fun first second => conversationKey first ≤ conversationKey second)
    (counted : ∀ last ∈ before.getLast?, occurrence = before.countP fun row => row.2.header = last.2.header) :
    numberConversations equalClosures before.getLast? occurrence conversations rest =
      .ok (conversations.updateAll ((rankedFrom (fun entry => entry.2.header) before rest).map fun ranked =>
        (ranked.1.1, fun row => { row with occurrence := ranked.2 }))) := by
  induction rest generalizing before occurrence conversations with
  | nil => rfl
  | cons entry rest ih =>
      have parts : before ++ entry :: rest = before ++ [entry] ++ rest := by simp
      rw [parts] at confirms sorted
      have next := nextOccurrence_eq
        (fun first firstIn second secondIn => confirms first (List.mem_append_left _ firstIn) second
          (List.mem_append_left _ secondIn)) (List.pairwise_append.mp sorted).1 counted
      rw [numberConversations, next, rankedFrom, List.map_cons, KeyedTable.updateAll, List.foldl_cons,
        ← KeyedTable.updateAll, ← ih _ _ confirms sorted]
      · rw [List.getLast?_concat]
        rfl
      · intro last final
        rw [List.getLast?_concat, Option.mem_some_iff] at final
        subst final
        rw [List.countP_append, List.countP_singleton]
        simp

/-- The row that a conversation is stored in before it is numbered. -/
def ConversationInput.entry (input : ConversationInput) : JsString × ConversationRow :=
  (input.locator, ⟨input.headerOrder.flatMap encodeOrderScalar, input.closureSha256, -1⟩)

/-- The codec and the bound on metadata accept the headers, and the locators are distinct. -/
structure Acceptable (index : PortableIndex) (inputs : List ConversationInput) : Prop where
  locators : (inputs.map (·.locator)).Nodup
  headers : ∀ input ∈ inputs, input.headerOrder.length = 5 ∧
    ∀ scalar ∈ input.headerOrder, validateOrderScalar scalar = true
  fits : ∀ input ∈ inputs,
    index.metadata [.string input.locator, .array (input.headerOrder.map orderJson)] = .ok ()

theorem addConversation_after {index : PortableIndex} {input : ConversationInput}
    (opened : index.check = .ok ()) (collecting : index.conversationsFinalized = false)
    (length : input.headerOrder.length = 5)
    (valid : ∀ scalar ∈ input.headerOrder, validateOrderScalar scalar = true)
    (fits : index.metadata [.string input.locator, .array (input.headerOrder.map orderJson)] = .ok ())
    (fresh : input.locator ∉ index.conversations.keys) :
    ∃ conversations, conversations.entries = index.conversations.entries ++ [input.entry] ∧
      (addConversation input.locator input.headerOrder input.closureSha256 index).2 =
        { index with conversations := conversations } := by
  have encoded := encodePortableIndexOrder_eq_some.mpr ⟨valid, rfl⟩
  obtain ⟨conversations, inserted⟩ : ∃ conversations,
      index.conversations.insert? input.entry.1 input.entry.2 = some conversations := by
    refine ⟨⟨index.conversations.entries ++ [input.entry], ?_⟩, KeyedTable.insert?_eq_some.mpr ⟨fresh, rfl⟩⟩
    rw [List.map_append, List.map_singleton, List.nodup_append]
    refine ⟨index.conversations.distinct, List.nodup_singleton _, ?_⟩
    intro first firstIn second secondIn same
    rw [List.mem_singleton] at secondIn
    rw [same, secondIn] at firstIn
    exact fresh firstIn
  refine ⟨conversations, (KeyedTable.insert?_eq_some.mp inserted).2, ?_⟩
  have refused : ¬ (index.conversationsFinalized = true ∨ input.headerOrder.length ≠ 5) := by
    simp [collecting, length]
  have key : sortKeyOf input.headerOrder = .ok (input.headerOrder.flatMap encodeOrderScalar) := by
    rw [sortKeyOf_eq_ok, encoded]
  have stored : index.conversations.insert? input.locator
      ⟨input.headerOrder.flatMap encodeOrderScalar, input.closureSha256, -1⟩ = some conversations := inserted
  rw [addConversation, checked]
  simp only [opened, refuseWhen, if_neg refused, fits, key, bind, Except.bind, sql, stored, constraint, pure,
    Except.pure]

/-- An index with the conversations of some inputs, before they are numbered. -/
structure Collected (start index : PortableIndex) (inputs : List ConversationInput) : Prop where
  opened : index.check = .ok ()
  collecting : index.conversationsFinalized = false
  sameLimit : index.maxMetadataBytes = start.maxMetadataBytes
  entries : index.conversations.entries = inputs.map ConversationInput.entry

theorem Collected.addConversations {start index : PortableIndex} {before rest : List ConversationInput}
    (collected : Collected start index before) (acceptable : Acceptable start (before ++ rest)) :
    Collected start (index.addConversations rest) (before ++ rest) := by
  induction rest generalizing index before with
  | nil => rwa [List.append_nil]
  | cons input rest ih =>
      have inside : input ∈ before ++ input :: rest := by simp
      obtain ⟨length, valid⟩ := acceptable.headers input inside
      have fits : index.metadata [.string input.locator, .array (input.headerOrder.map orderJson)] = .ok () := by
        rw [← acceptable.fits input inside, metadata, metadata, collected.sameLimit]
      have fresh : input.locator ∉ index.conversations.keys := by
        have distinct := acceptable.locators
        rw [List.map_append, List.map_cons, List.nodup_append] at distinct
        rw [KeyedTable.keys, collected.entries, List.map_map]
        intro used
        exact distinct.2.2 _ used _ (List.mem_cons_self ..) rfl
      obtain ⟨conversations, entries, after⟩ :=
        addConversation_after collected.opened collected.collecting length valid fits fresh
      have parts : before ++ input :: rest = (before ++ [input]) ++ rest := by simp
      rw [parts] at acceptable ⊢
      rw [PortableIndex.addConversations, List.foldl_cons, ← PortableIndex.addConversations, after]
      refine ih ⟨?_, collected.collecting, collected.sameLimit, ?_⟩ acceptable
      · rw [← collected.opened]
        rfl
      · rw [entries, collected.entries, List.map_append, List.map_singleton]

/-- The occurrence that an index answers for a locator. -/
def ordinalOf (index : PortableIndex) (locator : JsString) : Option Int :=
  match (conversation locator index).1 with
  | .ok found => found
  | .error _ => none

def ordinals (index : PortableIndex) (inputs : List ConversationInput) : List (Option Int) :=
  inputs.map fun input => index.ordinalOf input.locator

/-- The closures of some inputs are compared without a failure, and equal digests have equal closures. -/
def ConfirmsInputs (equalClosures : JsString → JsString → Except PortableIndexError Bool)
    (inputs : List ConversationInput) : Prop :=
  ∀ first ∈ inputs, ∀ second ∈ inputs, first.label = second.label →
    equalClosures first.locator second.locator = .ok true

section Finalized

variable {start index : PortableIndex} {inputs : List ConversationInput}

theorem Acceptable.header_inj (acceptable : Acceptable start inputs) {first second : ConversationInput}
    (firstIn : first ∈ inputs) (secondIn : second ∈ inputs) :
    first.entry.2.header = second.entry.2.header ↔ first.headerOrder = second.headerOrder := by
  obtain ⟨firstLength, firstValid⟩ := acceptable.headers first firstIn
  obtain ⟨secondLength, secondValid⟩ := acceptable.headers second secondIn
  constructor
  · intro same
    exact encodePortableIndexOrder_inj (firstLength.trans secondLength.symm)
      (encodePortableIndexOrder_eq_some.mpr ⟨firstValid, rfl⟩)
      (encodePortableIndexOrder_eq_some.mpr ⟨secondValid, same.symm⟩)
  · intro same
    simp only [ConversationInput.entry, same]

/-- The collected conversations in the order of the scan, each with its rank within its header. -/
def scanned (inputs : List ConversationInput) : List ((JsString × ConversationRow) × Nat) :=
  rankedFrom (fun entry => entry.2.header) [] (sortedBy conversationKey (inputs.map ConversationInput.entry))

/-- A finalization succeeds and answers for each conversation its rank within its header. -/
theorem Collected.finalizeConversations (collected : Collected start index inputs)
    (acceptable : Acceptable start inputs)
    {equalClosures : JsString → JsString → Except PortableIndexError Bool}
    (confirms : ConfirmsInputs equalClosures inputs) :
    (PortableIndex.finalizeConversations equalClosures index).1 = .ok () ∧
      ∀ ranked ∈ scanned inputs,
        (PortableIndex.finalizeConversations equalClosures index).2.ordinalOf ranked.1.1 =
          some (ranked.2 : Int) := by
  have members : ∀ {entry}, entry ∈ sortedBy conversationKey (inputs.map ConversationInput.entry) →
      ∃ input ∈ inputs, input.entry = entry := by
    intro entry inside
    exact List.mem_map.mp ((SortedBy.perm _).mem_iff.mp inside)
  have confirmed : Confirms equalClosures ([] ++ sortedBy conversationKey index.conversations.entries) := by
    rw [collected.entries]
    intro first firstIn second secondIn sameHeader sameClosure
    obtain ⟨one, oneIn, rfl⟩ := members firstIn
    obtain ⟨two, twoIn, rfl⟩ := members secondIn
    apply confirms one oneIn two twoIn
    exact Prod.ext ((acceptable.header_inj oneIn twoIn).mp sameHeader) sameClosure
  have numbered := numberConversations_eq 0 index.conversations confirmed
    (SortedBy.sorted _) nofun
  rw [collected.entries] at numbered
  have ran : PortableIndex.finalizeConversations equalClosures index =
      (.ok (), { index with
        conversations := index.conversations.updateAll ((scanned inputs).map fun ranked =>
          (ranked.1.1, fun row => { row with occurrence := ranked.2 }))
        conversationsFinalized := true }) := by
    rw [PortableIndex.finalizeConversations, collected.opened, collected.entries]
    simp only
    rw [show numberConversations equalClosures none 0 index.conversations _ = _ from numbered]
    rfl
  rw [ran]
  refine ⟨rfl, fun ranked inside => ?_⟩
  have row : ranked.1 ∈ index.conversations.entries := by
    rw [collected.entries]
    have scannedIn := List.mem_map_of_mem (f := Prod.fst) inside
    rw [scanned, rankedFrom_rows] at scannedIn
    exact (SortedBy.perm _).mem_iff.mp scannedIn
  have distinct : (((scanned inputs).map fun ranked => (ranked.1.1, fun row : ConversationRow =>
      { row with occurrence := ranked.2 })).map Prod.fst).Nodup := by
    have rows := congrArg (List.map Prod.fst)
      (rankedFrom_rows (fun entry : JsString × ConversationRow => entry.2.header) []
        (sortedBy conversationKey (inputs.map ConversationInput.entry)))
    have sorted : ((sortedBy conversationKey (inputs.map ConversationInput.entry)).map Prod.fst).Nodup := by
      refine ((SortedBy.perm _).map Prod.fst).nodup_iff.mpr ?_
      rw [← collected.entries]
      exact index.conversations.distinct
    rw [← rows, List.map_map] at sorted
    rw [List.map_map]
    exact sorted
  have found := KeyedTable.get?_updateAll distinct (List.mem_map_of_mem inside) index.conversations
  rw [KeyedTable.get?_eq_some.mpr row, Option.map_some] at found
  have opened : ({ index with
      conversations := index.conversations.updateAll ((scanned inputs).map fun ranked =>
        (ranked.1.1, fun row => { row with occurrence := ranked.2 }))
      conversationsFinalized := true } : PortableIndex).check = .ok () := by
    rw [← collected.opened]
    rfl
  rw [ordinalOf, conversation, sql, opened]
  simp only [refuseWhen, Bool.true_eq_false, if_false, bind, Except.bind, pure, Except.pure, found, Option.map_some]

end Finalized

/-- A digest is an ASCII text, so its bytes tell it from every other digest. -/
theorem closureKey_inj {first second : Hash} : closureKey first = closureKey second ↔ first = second := by
  have plain : ∀ digest : Hash, WellFormed digest.1 := by
    intro digest
    have text := isPostgreSqlText_hash digest
    rw [isPostgreSqlText, Bool.and_eq_true, Bool.not_eq_true', Bool.not_eq_true'] at text
    exact text.2
  constructor
  · intro same
    exact Subtype.ext ((plain first).encodeUtf8_inj (plain second) (map_toNat_inj same))
  · intro same
    rw [same]

section Blocks

variable {start index : PortableIndex} {inputs : List ConversationInput}

/-- The answers for some of the conversations are the ranks of these. -/
theorem ordinals_filter
    (answers : ∀ ranked ∈ scanned inputs, index.ordinalOf ranked.1.1 = some (ranked.2 : Int))
    (chosen : ConversationInput → Bool) (test : JsString × ConversationRow → Bool)
    (agree : ∀ input ∈ inputs, chosen input = test input.entry) :
    (index.ordinals (inputs.filter chosen)).Perm
      (((scanned inputs).filter fun ranked => test ranked.1).map fun ranked => some (ranked.2 : Int)) := by
  have byEntry : index.ordinals (inputs.filter chosen) =
      ((inputs.map ConversationInput.entry).filter test).map fun entry => index.ordinalOf entry.1 := by
    rw [List.filter_map, List.map_map, List.filter_congr agree]
    rfl
  have byRank : ((scanned inputs).filter fun ranked => test ranked.1).map
      (fun ranked => some (ranked.2 : Int)) =
        ((sortedBy conversationKey (inputs.map ConversationInput.entry)).filter test).map
          fun entry => index.ordinalOf entry.1 := by
    rw [← rankedFrom_rows (fun entry : JsString × ConversationRow => entry.2.header) []
      (sortedBy conversationKey (inputs.map ConversationInput.entry)), List.filter_map, List.map_map]
    apply List.map_congr_left
    intro ranked inside
    exact (answers ranked (List.mem_filter.mp inside).1).symm
  rw [byEntry, byRank]
  exact ((SortedBy.perm _).symm.filter test).map _

/-- The conversations of a header get the ordinals from zero, each once. -/
theorem ordinals_header (acceptable : Acceptable start inputs)
    (answers : ∀ ranked ∈ scanned inputs, index.ordinalOf ranked.1.1 = some (ranked.2 : Int))
    {member : ConversationInput} (memberIn : member ∈ inputs) :
    (index.ordinals (inputs.filter fun input => input.headerOrder = member.headerOrder)).Perm
      ((List.range (inputs.countP fun input => input.headerOrder = member.headerOrder)).map
        fun ordinal : Nat => some (ordinal : Int)) := by
  have agree : ∀ input ∈ inputs, decide (input.headerOrder = member.headerOrder) =
      decide (input.entry.2.header = member.entry.2.header) := by
    intro input inside
    rw [decide_eq_decide]
    exact (acceptable.header_inj inside memberIn).symm
  have ranks := rankedFrom_group (fun entry : JsString × ConversationRow => entry.2.header)
    member.entry.2.header [] (sortedBy conversationKey (inputs.map ConversationInput.entry))
  have count : (sortedBy conversationKey (inputs.map ConversationInput.entry)).countP
      (fun entry => entry.2.header = member.entry.2.header) =
        inputs.countP fun input => input.headerOrder = member.headerOrder := by
    rw [(SortedBy.perm _).countP_eq, List.countP_map]
    apply List.countP_congr
    intro input inside
    simp only [Function.comp, ← agree input inside]
  rw [count, List.countP_nil, ← List.range_eq_range'] at ranks
  rw [← ranks, List.map_map]
  exact ordinals_filter answers _ (fun entry => entry.2.header = member.entry.2.header) agree

/-- The conversations of a class get a block of ordinals behind the classes with smaller digests. -/
theorem ordinals_class (acceptable : Acceptable start inputs)
    (answers : ∀ ranked ∈ scanned inputs, index.ordinalOf ranked.1.1 = some (ranked.2 : Int))
    {member : ConversationInput} (memberIn : member ∈ inputs) :
    (index.ordinals (inputs.filter fun input => input.label = member.label)).Perm
      ((List.range' (inputs.countP fun input => input.headerOrder = member.headerOrder ∧
          closureKey input.closureSha256 < closureKey member.closureSha256)
        (inputs.countP fun input => input.label = member.label)).map fun ordinal : Nat => some (ordinal : Int)) := by
  have sameLabel : ∀ input ∈ inputs, input.label = member.label ↔
      input.entry.2.header = member.entry.2.header ∧
        closureKey input.entry.2.closureSha256 = closureKey member.closureSha256 := by
    intro input inside
    rw [acceptable.header_inj inside memberIn, closureKey_inj, ConversationInput.label,
      ConversationInput.label, Prod.mk.injEq]
    rfl
  have ranks := rankedFrom_class (fun entry : JsString × ConversationRow => entry.2.header)
    (fun entry => closureKey entry.2.closureSha256) member.entry.2.header
    (closureKey member.closureSha256) []
    ((SortedBy.sorted (inputs.map ConversationInput.entry) : (sortedBy conversationKey _).Pairwise _).imp
      fun {first second} before same => (conversationKey_le before).2 (congrArg (List.map UInt8.toNat) same))
  have smaller : (sortedBy conversationKey (inputs.map ConversationInput.entry)).countP
      (fun entry => entry.2.header = member.entry.2.header ∧
        closureKey entry.2.closureSha256 < closureKey member.closureSha256) =
        inputs.countP fun input => input.headerOrder = member.headerOrder ∧
          closureKey input.closureSha256 < closureKey member.closureSha256 := by
    rw [(SortedBy.perm _).countP_eq, List.countP_map]
    apply List.countP_congr
    intro input inside
    simp only [Function.comp, acceptable.header_inj inside memberIn]
    rfl
  have size : (sortedBy conversationKey (inputs.map ConversationInput.entry)).countP
      (fun entry => entry.2.header = member.entry.2.header ∧
        closureKey entry.2.closureSha256 = closureKey member.closureSha256) =
        inputs.countP fun input => input.label = member.label := by
    rw [(SortedBy.perm _).countP_eq, List.countP_map]
    apply List.countP_congr
    intro input inside
    simp only [Function.comp, ← sameLabel input inside]
  rw [List.countP_nil, Nat.zero_add] at ranks
  have block : ((scanned inputs).filter fun ranked => ranked.1.2.header = member.entry.2.header ∧
      closureKey ranked.1.2.closureSha256 = closureKey member.closureSha256).map Prod.snd =
        List.range' (inputs.countP fun input => input.headerOrder = member.headerOrder ∧
            closureKey input.closureSha256 < closureKey member.closureSha256)
          (inputs.countP fun input => input.label = member.label) := by
    rw [← smaller, ← size]
    convert ranks
    rfl
  rw [← block, List.map_map]
  exact ordinals_filter answers _ (fun entry => entry.2.header = member.entry.2.header ∧
    closureKey entry.2.closureSha256 = closureKey member.closureSha256)
    fun input inside => by rw [decide_eq_decide]; exact sameLabel input inside

end Blocks

/-- The ordinals of one finished run: those of a header count from zero, those of a class are a block, and
the classes of a header follow each other in the order of their digests. -/
theorem finalized_ordinals {start : PortableIndex} {inputs : List ConversationInput}
    (opened : start.check = .ok ()) (collecting : start.conversationsFinalized = false)
    (noConversations : start.conversations = .empty) (acceptable : Acceptable start inputs)
    {equalClosures : JsString → JsString → Except PortableIndexError Bool}
    (confirms : ConfirmsInputs equalClosures inputs) :
    (finalizeConversations equalClosures (start.addConversations inputs)).1 = .ok () ∧
      ∀ member ∈ inputs,
        ((finalizeConversations equalClosures (start.addConversations inputs)).2.ordinals
            (inputs.filter fun input => input.headerOrder = member.headerOrder)).Perm
          ((List.range (inputs.countP fun input => input.headerOrder = member.headerOrder)).map
            fun ordinal : Nat => some (ordinal : Int)) ∧
        ((finalizeConversations equalClosures (start.addConversations inputs)).2.ordinals
            (inputs.filter fun input => input.label = member.label)).Perm
          ((List.range' (inputs.countP fun input => input.headerOrder = member.headerOrder ∧
              closureKey input.closureSha256 < closureKey member.closureSha256)
            (inputs.countP fun input => input.label = member.label)).map
              fun ordinal : Nat => some (ordinal : Int)) := by
  have empty : Collected start start [] := ⟨opened, collecting, rfl, by rw [noConversations]; rfl⟩
  have collected := empty.addConversations (show Acceptable start ([] ++ inputs) from acceptable)
  obtain ⟨succeeded, answers⟩ := collected.finalizeConversations acceptable confirms
  exact ⟨succeeded, fun member inside =>
    ⟨ordinals_header acceptable answers inside, ordinals_class acceptable answers inside⟩⟩

/-- Two runs over the same headers and closures, with any locators in any order, give each header the
ordinals from zero and each class the same block of them. -/
theorem occurrences_independent {firstStart secondStart : PortableIndex}
    {first second : List ConversationInput} (firstOpened : firstStart.check = .ok ())
    (secondOpened : secondStart.check = .ok ())
    (firstCollecting : firstStart.conversationsFinalized = false)
    (secondCollecting : secondStart.conversationsFinalized = false)
    (firstEmpty : firstStart.conversations = .empty) (secondEmpty : secondStart.conversations = .empty)
    (firstAcceptable : Acceptable firstStart first) (secondAcceptable : Acceptable secondStart second)
    {firstEqual secondEqual : JsString → JsString → Except PortableIndexError Bool}
    (firstConfirms : ConfirmsInputs firstEqual first) (secondConfirms : ConfirmsInputs secondEqual second)
    (same : (first.map ConversationInput.label).Perm (second.map ConversationInput.label)) :
    let firstRun := finalizeConversations firstEqual (firstStart.addConversations first)
    let secondRun := finalizeConversations secondEqual (secondStart.addConversations second)
    firstRun.1 = .ok () ∧ secondRun.1 = .ok () ∧
      ∀ header closure, (header, closure) ∈ first.map ConversationInput.label →
        (firstRun.2.ordinals (first.filter fun input => input.headerOrder = header)).Perm
          ((List.range (first.countP fun input => input.headerOrder = header)).map
            fun ordinal : Nat => some (ordinal : Int)) ∧
        (secondRun.2.ordinals (second.filter fun input => input.headerOrder = header)).Perm
          ((List.range (first.countP fun input => input.headerOrder = header)).map
            fun ordinal : Nat => some (ordinal : Int)) ∧
        ∃ base size : Nat,
          base = (first.countP fun input => input.headerOrder = header ∧
            closureKey input.closureSha256 < closureKey closure) ∧
          size = (first.countP fun input => input.label = (header, closure)) ∧
          (firstRun.2.ordinals (first.filter fun input => input.label = (header, closure))).Perm
            ((List.range' base size).map fun ordinal : Nat => some (ordinal : Int)) ∧
          (secondRun.2.ordinals (second.filter fun input => input.label = (header, closure))).Perm
            ((List.range' base size).map fun ordinal : Nat => some (ordinal : Int)) := by
  intro firstRun secondRun
  obtain ⟨firstOk, firstOrdinals⟩ :=
    finalized_ordinals firstOpened firstCollecting firstEmpty firstAcceptable firstConfirms
  obtain ⟨secondOk, secondOrdinals⟩ :=
    finalized_ordinals secondOpened secondCollecting secondEmpty secondAcceptable secondConfirms
  refine ⟨firstOk, secondOk, fun header closure member => ?_⟩
  obtain ⟨firstMember, firstIn, firstLabel⟩ := List.mem_map.mp member
  obtain ⟨secondMember, secondIn, secondLabel⟩ := List.mem_map.mp (same.mem_iff.mp member)
  -- a count that reads only labels is the same in both runs
  have counts : ∀ test : List PortableOrderScalar × Hash → Bool,
      (second.countP fun input => test input.label) = first.countP fun input => test input.label := by
    intro test
    have counted := same.countP_eq test
    rw [List.countP_map, List.countP_map] at counted
    exact counted.symm
  have headers : (second.countP fun input => input.headerOrder = header) =
      first.countP fun input => input.headerOrder = header := counts fun label => label.1 = header
  have smaller : (second.countP fun input => input.headerOrder = header ∧
      closureKey input.closureSha256 < closureKey closure) = first.countP fun input =>
        input.headerOrder = header ∧ closureKey input.closureSha256 < closureKey closure :=
    counts fun label => label.1 = header ∧ closureKey label.2 < closureKey closure
  have sizes : (second.countP fun input => input.label = (header, closure)) =
      first.countP fun input => input.label = (header, closure) := counts fun label => label = (header, closure)
  obtain ⟨firstHeader, firstClass⟩ := firstOrdinals firstMember firstIn
  obtain ⟨secondHeader, secondClass⟩ := secondOrdinals secondMember secondIn
  cases firstLabel
  have sameHeader : secondMember.headerOrder = firstMember.headerOrder := congrArg Prod.fst secondLabel
  have sameClosure : secondMember.closureSha256 = firstMember.closureSha256 := congrArg Prod.snd secondLabel
  have sameLabel : secondMember.label = firstMember.label := secondLabel
  rw [sameHeader] at secondHeader
  rw [sameHeader, sameClosure, sameLabel] at secondClass
  refine ⟨firstHeader, ?_, _, _, rfl, rfl, firstClass, ?_⟩
  · rw [← headers]
    exact secondHeader
  · rw [← smaller, ← sizes]
    exact secondClass

/-- A header of five texts without a value. -/
def sampleHeader : List PortableOrderScalar := [.text (js "s"), .null, .null, .text (js "t"), .integer 7]

def sampleDigest (digit : UInt16) : List UInt16 := List.replicate 64 digit

/-- Two conversations with one closure and one with another. -/
def sampleConversations (locators : List JsString) : List ConversationInput :=
  (locators.zip [⟨sampleDigest 97, by decide⟩, ⟨sampleDigest 98, by decide⟩, ⟨sampleDigest 97, by decide⟩]).map
    fun conversation => ⟨conversation.1, sampleHeader, conversation.2⟩

/-- Other locators in another order leave the two ordinals of the class with two conversations. -/
theorem occurrences_independent_sample :
    let first := sampleConversations [js "1", js "2", js "3"]
    let second := (sampleConversations [js "z", js "y", js "x"]).reverse
    let label := (sampleHeader, (⟨sampleDigest 97, by decide⟩ : Hash))
    let equalClosures := fun _ _ => Except.ok true
    let firstRun := finalizeConversations equalClosures ((create 1000).addConversations first)
    let secondRun := finalizeConversations equalClosures ((create 1000).addConversations second)
    firstRun.1 = .ok () ∧ secondRun.1 = .ok () ∧
      (firstRun.2.ordinals (first.filter fun input => input.label = label)).Perm [some 0, some 1] ∧
      (secondRun.2.ordinals (second.filter fun input => input.label = label)).Perm [some 0, some 1] := by
  intro first second label equalClosures firstRun secondRun
  have firstAcceptable : Acceptable (create 1000) first :=
    ⟨by decide, by decide +kernel, by decide +kernel⟩
  have secondAcceptable : Acceptable (create 1000) second :=
    ⟨by decide, by decide +kernel, by decide +kernel⟩
  have firstConfirms : ConfirmsInputs equalClosures first := fun _ _ _ _ _ => rfl
  have secondConfirms : ConfirmsInputs equalClosures second := fun _ _ _ _ _ => rfl
  obtain ⟨firstOk, secondOk, blocks⟩ := occurrences_independent rfl rfl rfl rfl rfl rfl firstAcceptable
    secondAcceptable firstConfirms secondConfirms (by decide)
  obtain ⟨_, _, base, size, atBase, ofSize, firstBlock, secondBlock⟩ := blocks label.1 label.2 (by decide)
  have zero : base = 0 := by rw [atBase]; decide
  have two : size = 2 := by rw [ofSize]; decide
  rw [zero, two] at firstBlock secondBlock
  exact ⟨firstOk, secondOk, firstBlock, secondBlock⟩

end PortableIndex

end Lcm.Portable
