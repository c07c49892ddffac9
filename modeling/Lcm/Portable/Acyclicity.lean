import Lcm.Portable.Index

namespace Lcm.Portable
open Text

namespace PortableIndex

/-- An edge of the tables as a step between nodes of one namespace. -/
def Leads (edges : List (JsString × JsString × JsString)) (first second : NodeName) : Prop :=
  first.1 = second.1 ∧ (first.1, first.2, second.2) ∈ edges

theorem leads_iff {edges : List (JsString × JsString × JsString)} {first second : NodeName} :
    Leads edges first second ↔ ∃ edge ∈ edges, (edge.1, edge.2.1) = first ∧ (edge.1, edge.2.2) = second := by
  obtain ⟨space, source⟩ := first
  obtain ⟨other, target⟩ := second
  constructor
  · rintro ⟨rfl, inside⟩
    exact ⟨_, inside, rfl, rfl⟩
  · rintro ⟨edge, inside, firstSame, secondSame⟩
    cases firstSame
    cases secondSame
    exact ⟨rfl, inside⟩

/-- The edges into a node from the nodes that are still there. -/
def remainingDegree (edges : List (JsString × JsString × JsString))
    (nodes : KeyedTable NodeName GraphNode) (name : NodeName) : Nat :=
  edges.countP fun edge => (edge.1, edge.2.2) = name ∧ (edge.1, edge.2.1) ∈ remaining nodes

theorem remainingDegree_eq_zero {edges : List (JsString × JsString × JsString)}
    {nodes : KeyedTable NodeName GraphNode} {name : NodeName} :
    remainingDegree edges nodes name = 0 ↔ ∀ other ∈ remaining nodes, ¬ Leads edges other name := by
  rw [remainingDegree, List.countP_eq_zero]
  constructor
  · intro missing other present leads
    obtain ⟨edge, inside, rfl, rfl⟩ := leads_iff.mp leads
    exact missing edge inside (by simpa using present)
  · intro missing edge inside test
    obtain ⟨into, present⟩ := of_decide_eq_true test
    exact missing _ present (leads_iff.mpr ⟨edge, inside, rfl, into⟩)

/-- The edges out of a root are the difference that its removal makes. -/
theorem remainingDegree_removeRoot (edges : List (JsString × JsString × JsString))
    {nodes : KeyedTable NodeName GraphNode} {root : NodeName} (present : root ∈ remaining nodes)
    (name : NodeName) : remainingDegree edges nodes name =
      (children edges root).count name + remainingDegree edges (removeRoot edges nodes root) name := by
  rw [remainingDegree, List.countP_eq_countP_filter_add edges _ fun edge => (edge.1, edge.2.1) = root]
  congr 1
  · rw [children, List.count, List.countP_map]
    apply List.countP_congr
    intro edge inside
    have source := of_decide_eq_true (List.mem_filter.mp inside).2
    simp [source, present]
  · rw [List.countP_filter, remainingDegree]
    apply List.countP_congr
    intro edge _
    rw [remaining_removeRoot]
    simp [and_assoc]

/-- While roots leave, the stored degrees count the edges that are left, and no path leads back for ever
from a node that left. -/
structure Eliminating (edges : List (JsString × JsString × JsString))
    (nodes : KeyedTable NodeName GraphNode) : Prop where
  endpoints : ∀ {first second}, Leads edges first second → first ∈ nodes.keys ∧ second ∈ nodes.keys
  degree : ∀ {name node}, nodes.get? name = some node → node.degree = remainingDegree edges nodes name
  grounded : ∀ {name}, name ∈ nodes.keys → name ∉ remaining nodes → Acc (Leads edges) name

namespace Eliminating

variable {edges : List (JsString × JsString × JsString)} {nodes : KeyedTable NodeName GraphNode}

theorem removeRoot (eliminating : Eliminating edges nodes) {root : NodeName} (isRoot : root ∈ roots nodes) :
    Eliminating edges (removeRoot edges nodes root) := by
  have stored := mem_roots.mp isRoot
  have present : root ∈ remaining nodes := mem_remaining.mpr ⟨0, stored⟩
  refine ⟨?_, ?_, ?_⟩
  · intro first second leads
    rw [keys_removeRoot]
    exact eliminating.endpoints leads
  · intro name node found
    rw [get?_removeRoot] at found
    obtain ⟨old, before, rfl⟩ := Option.map_eq_some_iff.mp found
    have counted := eliminating.degree before
    rw [remainingDegree_removeRoot edges present] at counted
    simp only [counted]
    push_cast
    omega
  · intro name inside gone
    rw [keys_removeRoot] at inside
    by_cases left : name ∈ remaining nodes
    · have same : name = root := by
        by_contra other
        exact gone (by rw [remaining_removeRoot]; exact List.mem_filter.mpr ⟨left, by simpa using other⟩)
      subst same
      have unreached : (0 : Int) = remainingDegree edges nodes name := eliminating.degree stored
      refine Acc.intro _ fun other leads => ?_
      apply eliminating.grounded (eliminating.endpoints leads).1
      intro still
      exact remainingDegree_eq_zero.mp (by exact_mod_cast unreached.symm) other still leads
    · exact eliminating.grounded inside left

/-- The loop ends when no root is left. -/
theorem eliminate (eliminating : Eliminating edges nodes) (choice : RowChoice NodeName) :
    Eliminating edges (PortableIndex.eliminate choice edges nodes) ∧
      roots (PortableIndex.eliminate choice edges nodes) = [] := by
  induction nodes using PortableIndex.eliminate.induct choice edges with
  | case1 nodes picked =>
      rw [PortableIndex.eliminate]
      split
      · exact ⟨eliminating, choice.exhausted picked⟩
      · next other => rw [picked] at other; cases other
  | case2 nodes root picked ih =>
      rw [PortableIndex.eliminate]
      split
      · next none => rw [picked] at none; cases none
      · next other found =>
          rw [picked] at found
          cases found
          exact ih (eliminating.removeRoot (choice.member picked))

/-- Without roots every node has left exactly when there is no cycle. -/
theorem remaining_eq_nil (eliminating : Eliminating edges nodes) (finished : roots nodes = []) :
    remaining nodes = [] ↔ Acyclic (Leads edges) := by
  constructor
  · intro gone
    apply Acyclic.of_acc
    intro name
    by_cases inside : name ∈ nodes.keys
    · exact eliminating.grounded inside (by rw [gone]; exact List.not_mem_nil)
    · exact Acc.intro _ fun _ leads => absurd (eliminating.endpoints leads).2 inside
  · intro acyclic
    by_contra nonempty
    obtain ⟨name, present, source⟩ := acyclic.exists_source nonempty
    obtain ⟨degree, stored⟩ := mem_remaining.mp present
    have counted : degree = remainingDegree edges nodes name := eliminating.degree stored
    rw [remainingDegree_eq_zero.mpr source] at counted
    obtain rfl : degree = 0 := counted
    have isRoot := mem_roots.mpr stored
    rw [finished] at isRoot
    cases isRoot

end Eliminating

/-- The nodes of all recorded edges are stored. -/
def Recorded (index : PortableIndex) : Prop :=
  ∀ edge ∈ index.graphEdges.keys, (edge.1, edge.2.1) ∈ index.graphNodes.keys ∧
    (edge.1, edge.2.2) ∈ index.graphNodes.keys

theorem Recorded.resetNodes {index : PortableIndex} (recorded : index.Recorded) :
    Eliminating index.graphEdges.keys index.resetNodes := by
  have fresh : ∀ name node, index.resetNodes.get? name = some node →
      node = ⟨indegree index.graphEdges.keys name, false⟩ := by
    intro name node found
    rw [PortableIndex.resetNodes, KeyedTable.get?_mapRows] at found
    obtain ⟨_, _, rfl⟩ := Option.map_eq_some_iff.mp found
    rfl
  have all : ∀ name, name ∈ index.resetNodes.keys → name ∈ remaining index.resetNodes := by
    intro name inside
    obtain ⟨node, stored⟩ := KeyedTable.mem_keys.mp inside
    have found := KeyedTable.get?_eq_some.mpr stored
    exact mem_remaining.mpr ⟨_, fresh name node found ▸ found⟩
  have endpoints : ∀ {first second}, Leads index.graphEdges.keys first second →
      first ∈ index.resetNodes.keys ∧ second ∈ index.resetNodes.keys := by
    intro first second leads
    obtain ⟨edge, inside, rfl, rfl⟩ := leads_iff.mp leads
    rw [PortableIndex.resetNodes, KeyedTable.keys_mapRows]
    exact recorded edge inside
  refine ⟨endpoints, ?_, fun inside gone => absurd (all _ inside) gone⟩
  intro name node found
  rw [fresh name node found]
  apply congrArg Nat.cast
  apply List.countP_congr
  intro edge inside
  have source : (edge.1, edge.2.1) ∈ remaining index.resetNodes :=
    all _ (endpoints (leads_iff.mpr ⟨edge, inside, rfl, rfl⟩)).1
  simp [source]

/-- All nodes have left exactly when no row says otherwise. -/
theorem any_present {nodes : KeyedTable NodeName GraphNode} :
    (nodes.rows.any fun node => !node.removed) = false ↔ remaining nodes = [] := by
  rw [List.any_eq_false, List.eq_nil_iff_forall_not_mem]
  constructor
  · intro removed name present
    obtain ⟨degree, stored⟩ := mem_remaining.mp present
    exact removed ⟨degree, false⟩ (List.mem_map.mpr ⟨_, KeyedTable.get?_eq_some.mp stored, rfl⟩) rfl
  · intro gone node inside present
    obtain ⟨⟨name, row⟩, stored, rfl⟩ := List.mem_map.mp inside
    obtain ⟨degree, removed⟩ := row
    rw [Bool.not_eq_true'] at present
    cases present
    exact gone name (mem_remaining.mpr ⟨degree, KeyedTable.get?_eq_some.mpr stored⟩)

/-- The verification succeeds on an open index with its scopes when the recorded graph has no cycle. -/
theorem verifyScopesAndAcyclic_ok {index : PortableIndex} (recorded : index.Recorded)
    (choice : RowChoice NodeName) : (index.verifyScopesAndAcyclic choice).1 = .ok () ↔
      index.check = .ok () ∧ index.scopesHold = true ∧
        ∀ space, Acyclic fun source target => (space, source, target) ∈ index.graphEdges.keys := by
  obtain ⟨eliminated, finished⟩ := recorded.resetNodes.eliminate choice
  have cycles := (eliminated.remaining_eq_nil finished).trans
    (Acyclic.sum_iff fun space source target => (space, source, target) ∈ index.graphEdges.keys)
  rw [← cycles, ← any_present, verifyScopesAndAcyclic, sql_ok]
  simp only [Except.bind_eq_ok, Except.pure_eq_ok, refuseWhen_eq_ok, Prod.mk.injEq, true_and,
    Bool.not_eq_false, Bool.not_eq_true]
  constructor
  · rintro ⟨opened, _, _, scopes, _, gone, _⟩
    exact ⟨opened, scopes, gone⟩
  · rintro ⟨opened, scopes, gone⟩
    exact ⟨opened, _, (), scopes, (), gone, rfl⟩

/-- The calls on the graph of an index. -/
inductive GraphCall where
  | addEdge (space source target : JsString)
  | verifyScopesAndAcyclic (choice : RowChoice NodeName)

def GraphCall.call : GraphCall → IndexCall Unit
  | .addEdge space source target => PortableIndex.addEdge space source target
  | .verifyScopesAndAcyclic choice => PortableIndex.verifyScopesAndAcyclic choice

/-- The index after some calls, whether they failed or not. -/
def runCalls (index : PortableIndex) (calls : List GraphCall) : PortableIndex :=
  calls.foldl (fun index call => (call.call index).2) index

/-- An edge counts unless its names exceed the bound on metadata. -/
def GraphCall.edge (index : PortableIndex) : GraphCall → Option (JsString × JsString × JsString)
  | .addEdge space source target =>
      if index.metadata [.string space, .string source, .string target] = .ok () then
        some (space, source, target)
      else none
  | .verifyScopesAndAcyclic _ => none

/-- The edges of all namespaces that some calls add. -/
def addedEdges (index : PortableIndex) (calls : List GraphCall) : List (JsString × JsString × JsString) :=
  calls.filterMap (GraphCall.edge index)

/-- No namespace has a directed cycle. -/
def NoCycles (edges : List (JsString × JsString × JsString)) : Prop :=
  ∀ space, Acyclic fun source target => (space, source, target) ∈ edges

/-- An index follows its graph calls: it has recorded their edges, unless it found a cycle among them. -/
structure Follows (start index : PortableIndex) (edges : List (JsString × JsString × JsString)) : Prop where
  sameLimit : index.maxMetadataBytes = start.maxMetadataBytes
  usable : index.closed = false ∧ index.aborted = false
  scopes : index.scopesHold = true
  recorded : index.Recorded
  complete : index.failed = false → ∀ edge, edge ∈ index.graphEdges.keys ↔ edge ∈ edges
  cyclic : index.failed = true → ¬ NoCycles edges

theorem NoCycles.mono {edges more : List (JsString × JsString × JsString)} (noCycles : NoCycles more)
    (within : edges ⊆ more) : NoCycles edges :=
  fun space => (noCycles space).mono fun _ _ step => within step

/-- An edge that is accepted brings its nodes and itself. -/
theorem addEdge_after (index : PortableIndex) (space source target : JsString) :
    (addEdge space source target index).2 =
      if index.check = .ok () ∧ index.metadata [.string space, .string source, .string target] = .ok () then
        { index with
          graphNodes := (index.graphNodes.insertOrIgnore (space, source) ⟨0, false⟩).insertOrIgnore
            (space, target) ⟨0, false⟩
          graphEdges := index.graphEdges.insertOrIgnore (space, source, target) () }
      else index := by
  rw [addEdge, checked, sql]
  cases index.check with
  | error error => simp [bind, Except.bind]
  | ok _ =>
      cases index.metadata [.string space, .string source, .string target] with
      | error error => simp [bind, Except.bind]
      | ok _ => simp [bind, Except.bind]

/-- A verification writes only degrees and marks, and poisons the index when it fails. -/
theorem verifyScopesAndAcyclic_after (index : PortableIndex) (choice : RowChoice NodeName) :
    (verifyScopesAndAcyclic choice index).2 =
        { index with graphNodes := eliminate choice index.graphEdges.keys index.resetNodes } ∨
      (verifyScopesAndAcyclic choice index).1 ≠ .ok () ∧ ((verifyScopesAndAcyclic choice index).2 = index ∨
        (verifyScopesAndAcyclic choice index).2 = { index with failed := true }) := by
  rw [verifyScopesAndAcyclic]
  rcases sql_after index _ with ⟨value, after, acted, ran⟩ | ⟨failed, left⟩
  · rw [ran]
    simp only [Except.bind_eq_ok, Except.pure_eq_ok, refuseWhen_eq_ok] at acted
    obtain ⟨_, _, _, _, result⟩ := acted
    cases result
    exact .inl rfl
  · exact .inr ⟨failed (), left⟩

theorem check_ok {index : PortableIndex} (usable : index.closed = false ∧ index.aborted = false) :
    index.check = .ok () ↔ index.failed = false := by
  rw [check, usable.1, usable.2]
  cases index.failed <;> simp

namespace Follows

variable {start index : PortableIndex} {edges : List (JsString × JsString × JsString)}

theorem addEdge (follows : Follows start index edges) (space source target : JsString) :
    Follows start (PortableIndex.addEdge space source target index).2
      (edges ++ ((GraphCall.addEdge space source target).edge start).toList) := by
  have sameMetadata : index.metadata [.string space, .string source, .string target] =
      start.metadata [.string space, .string source, .string target] := by
    rw [metadata, metadata, follows.sameLimit]
  rw [addEdge_after, sameMetadata, GraphCall.edge]
  by_cases fits : start.metadata [.string space, .string source, .string target] = .ok ()
  · rw [if_pos fits, Option.toList_some]
    by_cases working : index.failed = false
    · rw [if_pos ⟨(check_ok follows.usable).mpr working, fits⟩]
      refine ⟨follows.sameLimit, follows.usable, follows.scopes, ?_, ?_, ?_⟩
      · intro edge inside
        simp only [KeyedTable.mem_keys_insertOrIgnore] at inside ⊢
        rcases inside with old | rfl
        · obtain ⟨first, second⟩ := follows.recorded edge old
          exact ⟨.inl (.inl first), .inl (.inl second)⟩
        · exact ⟨.inl (.inr rfl), .inr rfl⟩
      · intro _ edge
        rw [KeyedTable.mem_keys_insertOrIgnore, follows.complete working, List.mem_append,
          List.mem_singleton]
      · intro poisoned
        rw [working] at poisoned
        cases poisoned
    · rw [if_neg fun both => working ((check_ok follows.usable).mp both.1)]
      rw [Bool.not_eq_false] at working
      refine { follows with complete := fun other => ?_, cyclic := fun _ noCycles => ?_ }
      · rw [working] at other
        cases other
      · exact follows.cyclic working (noCycles.mono (List.subset_append_left ..))
  · rw [if_neg fits, if_neg fun both => fits both.2, Option.toList_none, List.append_nil]
    exact follows

theorem verifies (follows : Follows start index edges) (choice : RowChoice NodeName) :
    (index.verifyScopesAndAcyclic choice).1 = .ok () ↔ NoCycles edges := by
  rw [verifyScopesAndAcyclic_ok follows.recorded, check_ok follows.usable]
  cases working : index.failed with
  | true => simp [follows.cyclic working]
  | false =>
      simp only [follows.complete working, follows.scopes, true_and]
      rfl

theorem verifyScopesAndAcyclic (follows : Follows start index edges) (choice : RowChoice NodeName) :
    Follows start (index.verifyScopesAndAcyclic choice).2 edges := by
  have decided := follows.verifies choice
  rcases verifyScopesAndAcyclic_after index choice with after | ⟨failed, after⟩
  · rw [after]
    refine { follows with recorded := ?_ }
    intro edge inside
    exact (follows.recorded.resetNodes.eliminate choice).1.endpoints (leads_iff.mpr ⟨edge, inside, rfl, rfl⟩)
  · rcases after with unchanged | poisoned
    · rw [unchanged]
      exact follows
    · rw [poisoned]
      exact { follows with
        complete := nofun
        cyclic := fun _ noCycles => failed (decided.mpr noCycles) }

theorem run {start : PortableIndex} (calls : List GraphCall) :
    ∀ {index : PortableIndex} {edges : List (JsString × JsString × JsString)}, Follows start index edges →
      Follows start (runCalls index calls) (edges ++ addedEdges start calls) := by
  induction calls with
  | nil => intro index edges follows; simpa [runCalls, addedEdges] using follows
  | cons call calls ih =>
      intro index edges follows
      have edgesOf : edges ++ addedEdges start (call :: calls) =
          (edges ++ (call.edge start).toList) ++ addedEdges start calls := by
        rw [addedEdges, addedEdges, List.filterMap_cons, List.append_assoc]
        cases call.edge start <;> rfl
      rw [edgesOf]
      apply ih
      cases call with
      | addEdge space source target => exact follows.addEdge space source target
      | verifyScopesAndAcyclic choice =>
          rw [GraphCall.edge, Option.toList_none, List.append_nil]
          exact follows.verifyScopesAndAcyclic choice

end Follows

/-- After any calls on the graph the verification of an index whose scopes hold succeeds exactly when the
edges of all the calls have no directed cycle in any namespace. -/
theorem verifyScopesAndAcyclic_decides {start : PortableIndex} (opened : start.check = .ok ())
    (scopes : start.scopesHold = true) (noEdges : start.graphEdges = .empty) (calls : List GraphCall)
    (choice : RowChoice NodeName) :
    ((runCalls start calls).verifyScopesAndAcyclic choice).1 = .ok () ↔
      NoCycles (addedEdges start calls) := by
  have usable : start.closed = false ∧ start.aborted = false ∧ start.failed = false := by
    rw [check] at opened
    cases closed : start.closed <;> cases failed : start.failed <;> cases aborted : start.aborted <;>
      simp [closed, failed, aborted] at opened ⊢
  have follows : Follows start start [] := by
    refine ⟨rfl, ⟨usable.1, usable.2.1⟩, scopes, ?_, ?_, ?_⟩
    · intro edge inside
      rw [noEdges] at inside
      cases inside
    · intro _ edge
      rw [noEdges]
      exact Iff.rfl
    · intro failed
      rw [usable.2.2] at failed
      cases failed
  have whole := (follows.run calls).verifies choice
  rwa [List.nil_append] at whole

/-- The database may return the first row. -/
def firstRow (Row : Type) : RowChoice Row where
  pick := List.head?
  member := List.mem_of_mem_head?
  exhausted := List.head?_eq_none_iff.mp

/-- Two edges in a row, and later the edge that closes their cycle. -/
def sampleChain : List GraphCall :=
  [.addEdge (js "dag") (js "a") (js "b"), .addEdge (js "dag") (js "b") (js "c")]

def sampleCycle : List GraphCall :=
  sampleChain ++ [.verifyScopesAndAcyclic (firstRow NodeName), .addEdge (js "dag") (js "c") (js "a")]

theorem sampleChain_noCycles : NoCycles (addedEdges (create 100) sampleChain) := by
  have edges : addedEdges (create 100) sampleChain =
      [(js "dag", js "a", js "b"), (js "dag", js "b", js "c")] := by decide
  intro space node cycle
  have ascends : ∀ {first second : JsString}, Relation.TransGen
      (fun source target => (space, source, target) ∈ addedEdges (create 100) sampleChain) first second →
        first < second := by
    intro first second path
    have step : ∀ source target, (space, source, target) ∈ addedEdges (create 100) sampleChain →
        source < target := by
      intro source target inside
      rw [edges] at inside
      simp only [List.mem_cons, Prod.mk.injEq, List.not_mem_nil, or_false] at inside
      rcases inside with ⟨_, rfl, rfl⟩ | ⟨_, rfl, rfl⟩ <;> decide
    induction path with
    | single last => exact step _ _ last
    | tail _ last ih => exact List.lt_trans ih (step _ _ last)
  exact List.lt_irrefl _ (ascends cycle)

/-- The chain is accepted, and with the closing edge the next verification fails. -/
theorem verifyScopesAndAcyclic_decides_sample :
    ((runCalls (create 100) sampleChain).verifyScopesAndAcyclic (firstRow NodeName)).1 = .ok () ∧
      ((runCalls (create 100) sampleCycle).verifyScopesAndAcyclic (firstRow NodeName)).1 ≠ .ok () := by
  have edges : addedEdges (create 100) sampleCycle =
      [(js "dag", js "a", js "b"), (js "dag", js "b", js "c"), (js "dag", js "c", js "a")] := by
    decide
  constructor
  · exact (verifyScopesAndAcyclic_decides rfl rfl rfl sampleChain (firstRow NodeName)).mpr
      sampleChain_noCycles
  · intro succeeded
    have noCycles := (verifyScopesAndAcyclic_decides rfl rfl rfl sampleCycle (firstRow NodeName)).mp succeeded
    rw [edges] at noCycles
    have first : (js "dag", js "a", js "b") ∈
        [(js "dag", js "a", js "b"), (js "dag", js "b", js "c"), (js "dag", js "c", js "a")] := by decide
    have second : (js "dag", js "b", js "c") ∈
        [(js "dag", js "a", js "b"), (js "dag", js "b", js "c"), (js "dag", js "c", js "a")] := by decide
    have third : (js "dag", js "c", js "a") ∈
        [(js "dag", js "a", js "b"), (js "dag", js "b", js "c"), (js "dag", js "c", js "a")] := by decide
    exact noCycles (js "dag") (js "a") (((Relation.TransGen.single first).tail second).tail third)

end PortableIndex

end Lcm.Portable
