import Lcm.Library.Acyclic
import Lcm.Library.Except
import Lcm.Library.KeyedTable
import Lcm.Library.SortedBy
import Lcm.Portable.IndexOrder

namespace Lcm.Portable
open Text Migration

inductive PortableTransferErrorCode where
  | invalidInput
  | unsupportedCapability
  | sourceChanged
  | sourceFailed
  | destinationConflict
  | destinationFailed
  | destinationUncertain
  | destinationUnexpectedRows
  | checkpointMismatch
  | zeroProgress
  | aborted
  | verificationFailed
  | closeFailed
  deriving DecidableEq

/-- A call on the index fails with an error of the transfer or of the record codec. -/
inductive PortableIndexError where
  | transfer (code : PortableTransferErrorCode) (retryable : Bool)
  | codec
  deriving DecidableEq

/-- A row of the table of records. -/
structure IndexRecord where
  ordinal : Int
  sortKey : List UInt8
  order : List PortableOrderScalar
  identitySha256 : Hash
  recordSha256 : Hash
  byteLength : Int
  deriving DecidableEq

/-- A row of the table of graph nodes. -/
structure GraphNode where
  degree : Int
  removed : Bool
  deriving DecidableEq

/-- A row of the table of conversations. -/
structure ConversationRow where
  header : List UInt8
  closureSha256 : Hash
  occurrence : Int
  deriving DecidableEq

/-- A name of a graph node is a namespace with a key. -/
abbrev NodeName := JsString × JsString

/-- The scratch tables of an index, with the flags of its object. -/
structure PortableIndex where
  maxMetadataBytes : Nat
  closed : Bool
  failed : Bool
  aborted : Bool
  conversationsFinalized : Bool
  domains : KeyedTable PortableDomain Bool
  records : KeyedTable (PortableDomain × JsString) IndexRecord
  dependencies : List (PortableDomain × Hash)
  conversations : KeyedTable JsString ConversationRow
  scopes : KeyedTable (JsString × JsString) JsString
  requiredScopes : List ((JsString × JsString) × JsString)
  graphNodes : KeyedTable NodeName GraphNode
  graphEdges : KeyedTable (JsString × JsString × JsString) Unit

/-- Which row a query without an order returns first is up to the database. -/
structure RowChoice (Row : Type) where
  pick : List Row → Option Row
  member : ∀ {rows row}, pick rows = some row → row ∈ rows
  exhausted : ∀ {rows}, pick rows = none → rows = []

/-- A call answers or fails, and leaves an index. -/
abbrev IndexCall (Value : Type) := PortableIndex → Except PortableIndexError Value × PortableIndex

namespace PortableIndex

/-- A new index has empty tables. -/
def create (maxMetadataBytes : Nat) : PortableIndex :=
  ⟨maxMetadataBytes, false, false, false, false, .empty, .empty, [], .empty, .empty, [], .empty, .empty⟩

def check (index : PortableIndex) : Except PortableIndexError Unit :=
  if index.closed || index.failed then .error (.transfer .sourceFailed false)
  else if index.aborted then .error (.transfer .aborted true)
  else .ok ()

/-- The metadata is JSON without numbers. -/
def noNumbers : Json.NumberFormat Unit where
  print _ := []
  read _ := ()
  printable _ := false
  token := nofun
  read_print := nofun

/-- An order scalar as JSON, with integers as tagged decimal texts. -/
def orderJson : PortableOrderScalar → Json Unit
  | .null => .null
  | .text value => .string value
  | .integer value =>
      .object [(js "$integer", .string ((if value < 0 then js "-" else []) ++ decimal value.natAbs))]

def dependencyJson (dependency : PortableDomain × Hash) : Json Unit :=
  .object [(js "domain", .string (js dependency.1.name)), (js "identitySha256", .string dependency.2.1)]

def refuseWhen (condition : Prop) [Decidable condition] (code : PortableTransferErrorCode) :
    Except PortableIndexError Unit :=
  if condition then .error (.transfer code false) else .ok ()

@[simp] theorem refuseWhen_eq_ok {condition : Prop} [Decidable condition]
    {code : PortableTransferErrorCode} {value : Unit} :
    refuseWhen condition code = .ok value ↔ ¬ condition := by
  rw [refuseWhen]
  split <;> simp_all

/-- The metadata of one call is bounded in size. -/
def metadata (index : PortableIndex) (values : List (Json Unit)) : Except PortableIndexError Unit :=
  refuseWhen (index.maxMetadataBytes < (encodeUtf8 ((Json.array values).print noNumbers)).length)
    .unsupportedCapability

/-- A refused statement poisons the index for good. -/
def sql {Value : Type} (action : PortableIndex → Except PortableIndexError (Value × PortableIndex)) :
    IndexCall Value := fun index =>
  match index.check with
  | .error error => (.error error, index)
  | .ok () =>
      match action index with
      | .error error => (.error error, { index with failed := true })
      | .ok (value, after) => (.ok value, after)

theorem sql_ok {Value : Type} {index : PortableIndex} {value : Value}
    {action : PortableIndex → Except PortableIndexError (Value × PortableIndex)} :
    (sql action index).1 = .ok value ↔ index.check = .ok () ∧ ∃ after, action index = .ok (value, after) := by
  rw [sql]
  cases index.check with
  | error error => simp
  | ok _ =>
      cases action index with
      | error error => simp
      | ok result =>
          obtain ⟨answer, after⟩ := result
          simp

/-- Statements that succeed leave what they wrote; otherwise at most the index is poisoned. -/
theorem sql_after {Value : Type} (index : PortableIndex)
    (action : PortableIndex → Except PortableIndexError (Value × PortableIndex)) :
    (∃ value after, action index = .ok (value, after) ∧ sql action index = (.ok value, after)) ∨
      (∀ value, (sql action index).1 ≠ .ok value) ∧
        ((sql action index).2 = index ∨ (sql action index).2 = { index with failed := true }) := by
  rw [sql]
  cases index.check with
  | error error => exact .inr ⟨nofun, .inl rfl⟩
  | ok _ =>
      cases action index with
      | error error => exact .inr ⟨nofun, .inr rfl⟩
      | ok result => exact .inl ⟨result.1, result.2, rfl, rfl⟩

/-- Checks in front of the statements of a call leave the index as it was. -/
def checked {Value Checked : Type} (checks : PortableIndex → Except PortableIndexError Checked)
    (call : Checked → IndexCall Value) : IndexCall Value := fun index =>
  match checks index with
  | .error error => (.error error, index)
  | .ok value => call value index

/-- A violated constraint is an invalid input. -/
def constraint {Value : Type} : Option Value → Except PortableIndexError Value
  | none => .error (.transfer .invalidInput false)
  | some value => .ok value

@[simp] theorem constraint_eq_ok {Value : Type} {stored : Option Value} {value : Value} :
    constraint stored = .ok value ↔ stored = some value := by
  cases stored <;> simp [constraint]

/-- The sort key of an order that the codec accepts. -/
def sortKeyOf (order : List PortableOrderScalar) : Except PortableIndexError (List UInt8) :=
  match encodePortableIndexOrder order with
  | none => .error .codec
  | some sortKey => .ok sortKey

@[simp] theorem sortKeyOf_eq_ok {order : List PortableOrderScalar} {sortKey : List UInt8} :
    sortKeyOf order = .ok sortKey ↔ encodePortableIndexOrder order = some sortKey := by
  rw [sortKeyOf]
  split <;> simp_all

/-- The rows of the records of one domain. -/
def domainRecords (index : PortableIndex) (domain : PortableDomain) : List IndexRecord :=
  (index.records.entries.filter fun entry => entry.1.1 = domain).map Prod.snd

/-- A record row needs a fresh locator, a fresh identity and a fresh sort key in its domain. -/
def insertRecord (index : PortableIndex) (domain : PortableDomain) (locator : JsString)
    (row : IndexRecord) : Option (KeyedTable (PortableDomain × JsString) IndexRecord) :=
  if (index.domainRecords domain).any (fun other =>
    other.identitySha256 = row.identitySha256 || other.sortKey = row.sortKey) then none
  else index.records.insert? (domain, locator) row

def add (locator : JsString) (record : PortableRecord) (byteLength : Option Nat) : IndexCall Unit :=
  checked (fun index => do
    index.check
    refuseWhen (byteLength.any (maxBatchBytes < ·)) .invalidInput
    index.metadata [.string locator, .array (record.order.map orderJson),
      .array (record.dependencies.map dependencyJson)]
    sortKeyOf record.order) fun sortKey =>
  sql fun index => do
    refuseWhen (index.domains.get? record.domain = some true) .invalidInput
    let records ← constraint (index.insertRecord record.domain locator
      ⟨-1, sortKey, record.order, record.identitySha256, record.recordSha256,
        byteLength.elim (-1) Int.ofNat⟩)
    pure ((), { index with
      domains := index.domains.insertOrIgnore record.domain false
      records := records
      dependencies := index.dependencies ++ record.dependencies })

/-- The locators of a domain in the order of their sort keys. -/
def sortedLocators (index : PortableIndex) (domain : PortableDomain) : List JsString :=
  (sortedBy (fun entry => entry.2.sortKey.map UInt8.toNat)
    (index.records.entries.filter fun entry => entry.1.1 = domain)).map fun entry => entry.1.2

/-- Each locator gets the next ordinal. -/
def numberRecords (domain : PortableDomain) (records : KeyedTable (PortableDomain × JsString) IndexRecord)
    (ordinal : Nat) : List JsString → KeyedTable (PortableDomain × JsString) IndexRecord
  | [] => records
  | locator :: rest =>
      numberRecords domain
        (records.update (domain, locator) fun row => { row with ordinal := ordinal }) (ordinal + 1) rest

def finalizeDomain (domain : PortableDomain) : IndexCall Unit := sql fun index =>
  .ok ((), { index with
    records := numberRecords domain index.records 0 (index.sortedLocators domain)
    domains := index.domains.put domain true })

def bindScope (space key value : JsString) : IndexCall Unit :=
  checked (fun index => do
    index.check
    index.metadata [.string space, .string key, .string value]) fun _ =>
  sql fun index => do
    let scopes ← constraint (index.scopes.insert? (space, key) value)
    pure ((), { index with scopes := scopes })

def requireScope (space key value : JsString) : IndexCall Unit :=
  checked (fun index => do
    index.check
    index.metadata [.string space, .string key, .string value]) fun _ =>
  sql fun index =>
    .ok ((), { index with requiredScopes := index.requiredScopes ++ [((space, key), value)] })

/-- An edge brings its two nodes; nodes and edges that are there stay as they are. -/
def addEdge (space source target : JsString) : IndexCall Unit :=
  checked (fun index => do
    index.check
    index.metadata [.string space, .string source, .string target]) fun _ =>
  sql fun index =>
    .ok ((), { index with
      graphNodes := (index.graphNodes.insertOrIgnore (space, source) ⟨0, false⟩).insertOrIgnore
        (space, target) ⟨0, false⟩
      graphEdges := index.graphEdges.insertOrIgnore (space, source, target) () })

/-- Every required scope is bound to its value. -/
def scopesHold (index : PortableIndex) : Bool :=
  index.requiredScopes.all fun required => index.scopes.get? required.1 = some required.2

/-- The number of edges into a node. -/
def indegree (edges : List (JsString × JsString × JsString)) (name : NodeName) : Nat :=
  edges.countP fun edge => (edge.1, edge.2.2) = name

/-- The targets of the edges out of a node. -/
def children (edges : List (JsString × JsString × JsString)) (name : NodeName) : List NodeName :=
  (edges.filter fun edge => (edge.1, edge.2.1) = name).map fun edge => (edge.1, edge.2.2)

/-- The nodes that are still there and have no edge left into them. -/
def roots (nodes : KeyedTable NodeName GraphNode) : List NodeName :=
  (nodes.entries.filter fun entry => !entry.2.removed && entry.2.degree = 0).map Prod.fst

/-- The nodes that are still there. -/
def remaining (nodes : KeyedTable NodeName GraphNode) : List NodeName :=
  nodes.keys.filter fun name => (nodes.get? name).any fun node => !node.removed

def removeNode (nodes : KeyedTable NodeName GraphNode) (name : NodeName) : KeyedTable NodeName GraphNode :=
  nodes.update name fun node => { node with removed := true }

def decrement (nodes : KeyedTable NodeName GraphNode) (name : NodeName) : KeyedTable NodeName GraphNode :=
  nodes.update name fun node => { node with degree := node.degree - 1 }

/-- A root leaves the graph together with its edges. -/
def removeRoot (edges : List (JsString × JsString × JsString)) (nodes : KeyedTable NodeName GraphNode)
    (root : NodeName) : KeyedTable NodeName GraphNode :=
  (children edges root).foldl decrement (removeNode nodes root)

theorem get?_foldl_decrement (names : List NodeName) (nodes : KeyedTable NodeName GraphNode)
    (name : NodeName) : (names.foldl decrement nodes).get? name =
      (nodes.get? name).map fun node => { node with degree := node.degree - names.count name } := by
  induction names generalizing nodes with
  | nil => simp
  | cons first names ih =>
      rw [List.foldl_cons, ih, decrement, KeyedTable.get?_update, Option.map_map]
      congr 1
      funext node
      by_cases same : first = name
      · subst same
        simp
        omega
      · simp [same, Ne.symm same]

theorem get?_removeRoot (edges : List (JsString × JsString × JsString))
    (nodes : KeyedTable NodeName GraphNode) (root name : NodeName) :
    (removeRoot edges nodes root).get? name = (nodes.get? name).map fun node =>
      ⟨node.degree - (children edges root).count name, node.removed || name = root⟩ := by
  rw [removeRoot, get?_foldl_decrement, removeNode, KeyedTable.get?_update, Option.map_map]
  congr 1
  funext node
  by_cases same : name = root <;> simp [same]

@[simp] theorem keys_removeRoot (edges : List (JsString × JsString × JsString))
    (nodes : KeyedTable NodeName GraphNode) (root : NodeName) :
    (removeRoot edges nodes root).keys = nodes.keys := by
  have decremented : ∀ (names : List NodeName) (nodes : KeyedTable NodeName GraphNode),
      (names.foldl decrement nodes).keys = nodes.keys := by
    intro names
    induction names with
    | nil => exact fun _ => rfl
    | cons first names ih =>
        intro nodes
        rw [List.foldl_cons, ih, decrement, KeyedTable.keys_update]
  rw [removeRoot, decremented, removeNode, KeyedTable.keys_update]

/-- A root is a stored node that is still there without an edge into it. -/
theorem mem_roots {nodes : KeyedTable NodeName GraphNode} {name : NodeName} :
    name ∈ roots nodes ↔ nodes.get? name = some ⟨0, false⟩ := by
  rw [KeyedTable.get?_eq_some, roots, List.mem_map]
  constructor
  · rintro ⟨⟨other, node⟩, inside, rfl⟩
    obtain ⟨stored, test⟩ := List.mem_filter.mp inside
    obtain ⟨degree, removed⟩ := node
    simp only [Bool.and_eq_true, Bool.not_eq_true', decide_eq_true_eq] at test
    obtain ⟨rfl, rfl⟩ := test
    exact stored
  · exact fun stored => ⟨_, List.mem_filter.mpr ⟨stored, by simp⟩, rfl⟩

theorem mem_remaining {nodes : KeyedTable NodeName GraphNode} {name : NodeName} :
    name ∈ remaining nodes ↔ ∃ degree, nodes.get? name = some ⟨degree, false⟩ := by
  rw [remaining, List.mem_filter, Option.any_eq_true]
  constructor
  · rintro ⟨_, ⟨degree, removed⟩, stored, present⟩
    rw [Bool.not_eq_true'] at present
    exact ⟨degree, present ▸ stored⟩
  · rintro ⟨degree, stored⟩
    exact ⟨KeyedTable.mem_keys.mpr ⟨_, KeyedTable.get?_eq_some.mp stored⟩, _, stored, rfl⟩

/-- Exactly the root is gone after it left. -/
theorem remaining_removeRoot (edges : List (JsString × JsString × JsString))
    (nodes : KeyedTable NodeName GraphNode) (root : NodeName) :
    remaining (removeRoot edges nodes root) = (remaining nodes).filter (· ≠ root) := by
  rw [remaining, keys_removeRoot, remaining, List.filter_filter]
  apply List.filter_congr
  intro name _
  rw [get?_removeRoot]
  cases nodes.get? name with
  | none => simp
  | some node => simp [Bool.and_comm]

theorem remaining_removeRoot_lt (edges : List (JsString × JsString × JsString))
    {nodes : KeyedTable NodeName GraphNode} {root : NodeName} (isRoot : root ∈ roots nodes) :
    (remaining (removeRoot edges nodes root)).length < (remaining nodes).length := by
  rw [remaining_removeRoot, List.length_filter_lt_length_iff_exists]
  exact ⟨root, mem_remaining.mpr ⟨0, mem_roots.mp isRoot⟩, by simp⟩

/-- A root leaves with its edges, as long as there is one. -/
def eliminate (choice : RowChoice NodeName) (edges : List (JsString × JsString × JsString))
    (nodes : KeyedTable NodeName GraphNode) : KeyedTable NodeName GraphNode :=
  match _found : choice.pick (roots nodes) with
  | none => nodes
  | some root => eliminate choice edges (removeRoot edges nodes root)
termination_by (remaining nodes).length
decreasing_by exact remaining_removeRoot_lt edges (choice.member _found)

/-- Every degree is counted anew and every node is there again. -/
def resetNodes (index : PortableIndex) : KeyedTable NodeName GraphNode :=
  index.graphNodes.mapRows fun name _ => ⟨indegree index.graphEdges.keys name, false⟩

/-- The scopes are checked first; then all nodes have to leave the graph. -/
def verifyScopesAndAcyclic (choice : RowChoice NodeName) : IndexCall Unit := sql fun index => do
  refuseWhen (index.scopesHold = false) .unsupportedCapability
  let nodes := eliminate choice index.graphEdges.keys index.resetNodes
  refuseWhen (nodes.rows.any fun node => !node.removed) .unsupportedCapability
  pure ((), { index with graphNodes := nodes })

def addConversation (locator : JsString) (headerOrder : List PortableOrderScalar) (closureSha256 : Hash) :
    IndexCall Unit :=
  checked (fun index => do
    index.check
    refuseWhen (index.conversationsFinalized = true ∨ headerOrder.length ≠ 5) .invalidInput
    index.metadata [.string locator, .array (headerOrder.map orderJson)]
    sortKeyOf headerOrder) fun header =>
  sql fun index => do
    let conversations ← constraint (index.conversations.insert? locator ⟨header, closureSha256, -1⟩)
    pure ((), { index with conversations := conversations })

/-- The place of a conversation in the covering index: its header, its closure, then its locator. -/
def conversationKey (entry : JsString × ConversationRow) : List Nat ×ₗ List Nat ×ₗ List Nat :=
  toLex (entry.2.header.map UInt8.toNat, toLex ((encodeUtf8 entry.2.closureSha256.1).map UInt8.toNat,
    (encodeUtf8 entry.1).map UInt8.toNat))

/-- The occurrence of a conversation counts on within its header; equal digests have to be equal closures. -/
def nextOccurrence (equalClosures : JsString → JsString → Except PortableIndexError Bool)
    (previous : Option (JsString × ConversationRow)) (occurrence : Nat)
    (entry : JsString × ConversationRow) : Except PortableIndexError Nat :=
  match previous with
  | none => pure 0
  | some before =>
      if before.2.header ≠ entry.2.header then pure 0
      else if before.2.closureSha256 = entry.2.closureSha256 then do
        if ← equalClosures before.1 entry.1 then pure occurrence
        else throw (.transfer .invalidInput false)
      else pure occurrence

/-- Each row of the index gets its occurrence while the scan goes on. -/
def numberConversations (equalClosures : JsString → JsString → Except PortableIndexError Bool)
    (previous : Option (JsString × ConversationRow)) (occurrence : Nat)
    (conversations : KeyedTable JsString ConversationRow) :
    List (JsString × ConversationRow) → Except PortableIndexError (KeyedTable JsString ConversationRow)
  | [] => pure conversations
  | entry :: rest => do
      let occurrence ← nextOccurrence equalClosures previous occurrence entry
      numberConversations equalClosures (some entry) (occurrence + 1)
        (conversations.update entry.1 fun row => { row with occurrence := occurrence }) rest

def finalizeConversations (equalClosures : JsString → JsString → Except PortableIndexError Bool) :
    IndexCall Unit := fun index =>
  match index.check with
  | .error error => (.error error, index)
  | .ok () =>
      match numberConversations equalClosures none 0 index.conversations
        (sortedBy conversationKey index.conversations.entries) with
      | .error error => (.error error, { index with failed := true })
      | .ok conversations =>
          (.ok (), { index with conversations := conversations, conversationsFinalized := true })

/-- The occurrence of a conversation is known once all are numbered. -/
def conversation (locator : JsString) : IndexCall (Option Int) := sql fun index => do
  refuseWhen (index.conversationsFinalized = false) .invalidInput
  pure ((index.conversations.get? locator).map fun row => row.occurrence, index)

end PortableIndex

end Lcm.Portable
