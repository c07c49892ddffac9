import Mathlib.Data.List.Nodup
import Mathlib.Data.List.Flatten
import Mathlib.Tactic.Common
import Lcm.Library.StepSystem

/-- A folded item is one leaf or a node that stands for a list of folded items. -/
inductive Folded (Node Leaf : Type*) where
  | raw (leaf : Leaf)
  | fold (node : Node) (children : List (Folded Node Leaf))

namespace Folded

variable {Node Leaf : Type*}

/-- Structural induction gives the hypothesis for every child of a fold. -/
@[induction_eliminator] theorem inductionOn {motive : Folded Node Leaf → Prop}
    (raw : ∀ leaf, motive (.raw leaf))
    (fold : ∀ node children, (∀ child ∈ children, motive child) → motive (.fold node children)) :
    ∀ item, motive item
  | .raw leaf => raw leaf
  | .fold node children => fold node children fun child inside =>
      have := List.sizeOf_lt_of_mem inside
      inductionOn raw fold child

/-- The leaves that an item stands for, from left to right. -/
def frontier : Folded Node Leaf → List Leaf
  | .raw leaf => [leaf]
  | .fold _ children => children.flatMap frontier

/-- The nodes of an item, its own first. -/
def nodes : Folded Node Leaf → List Node
  | .raw _ => []
  | .fold node children => node :: children.flatMap nodes

/-- The folds inside an item, its own first. -/
def folds : Folded Node Leaf → List (Node × List (Folded Node Leaf))
  | .raw _ => []
  | .fold node children => (node, children) :: children.flatMap folds

@[simp] theorem frontier_raw (leaf : Leaf) : (raw leaf : Folded Node Leaf).frontier = [leaf] := by
  rw [frontier]

@[simp] theorem frontier_fold (node : Node) (children : List (Folded Node Leaf)) :
    (fold node children).frontier = children.flatMap frontier := by
  rw [frontier]

@[simp] theorem nodes_raw (leaf : Leaf) : (raw leaf : Folded Node Leaf).nodes = [] := by
  rw [nodes]

@[simp] theorem nodes_fold (node : Node) (children : List (Folded Node Leaf)) :
    (fold node children).nodes = node :: children.flatMap nodes := by
  rw [nodes]

@[simp] theorem folds_raw (leaf : Leaf) : (raw leaf : Folded Node Leaf).folds = [] := by
  rw [folds]

@[simp] theorem folds_fold (node : Node) (children : List (Folded Node Leaf)) :
    (fold node children).folds = (node, children) :: children.flatMap folds := by
  rw [folds]

theorem folds_nodes (item : Folded Node Leaf) : item.folds.map Prod.fst = item.nodes := by
  induction item with
  | raw leaf => simp
  | fold node children ih =>
      simp only [folds_fold, nodes_fold, List.map_cons, List.map_flatMap]
      exact congrArg _ (List.flatMap_congr ih)

/-- A property of every fold and of every leaf inside an item. -/
inductive Everywhere (holds : Node → List (Folded Node Leaf) → Prop) (leafHolds : Leaf → Prop) :
    Folded Node Leaf → Prop
  | raw {leaf : Leaf} (here : leafHolds leaf) : Everywhere holds leafHolds (.raw leaf)
  | fold {node : Node} {children : List (Folded Node Leaf)} (here : holds node children)
      (below : ∀ child ∈ children, Everywhere holds leafHolds child) :
      Everywhere holds leafHolds (.fold node children)

/-- A weaker property holds everywhere when it is weaker at each node and leaf of the item. -/
theorem Everywhere.mono {holds holds' : Node → List (Folded Node Leaf) → Prop}
    {leafHolds leafHolds' : Leaf → Prop} {item : Folded Node Leaf}
    (everywhere : Everywhere holds leafHolds item)
    (weaker : ∀ node children, holds node children → holds' node children)
    (leafWeaker : ∀ leaf, leafHolds leaf → leafHolds' leaf) :
    Everywhere holds' leafHolds' item := by
  induction everywhere with
  | raw here => exact .raw (leafWeaker _ here)
  | fold here _ ih => exact .fold (weaker _ _ here) ih

theorem Everywhere.folds {holds : Node → List (Folded Node Leaf) → Prop}
    {leafHolds : Leaf → Prop} {item : Folded Node Leaf} (everywhere : Everywhere holds leafHolds item)
    {node : Node} {children : List (Folded Node Leaf)} (inside : (node, children) ∈ item.folds) :
    holds node children ∧ ∀ child ∈ children, Everywhere holds leafHolds child := by
  induction everywhere with
  | raw here => simp at inside
  | fold here below ih =>
      simp only [folds_fold, List.mem_cons, Prod.mk.injEq, List.mem_flatMap] at inside
      rcases inside with ⟨rfl, rfl⟩ | ⟨child, member, inside⟩
      · exact ⟨here, below⟩
      · exact ih child member inside

/-- A level of an item counts the folds above its leaves, equal on every branch. -/
inductive Level : Nat → Folded Node Leaf → Prop
  | leaves {node : Node} {children : List (Folded Node Leaf)} (nonempty : children ≠ [])
      (leaves : ∀ child ∈ children, ∃ leaf, child = .raw leaf) : Level 0 (.fold node children)
  | folds {node : Node} {children : List (Folded Node Leaf)} {level : Nat} (nonempty : children ≠ [])
      (below : ∀ child ∈ children, Level level child) : Level (level + 1) (.fold node children)

/-- An item has at most one level. -/
theorem Level.unique {first second : Nat} {item : Folded Node Leaf} (one : Level first item)
    (other : Level second item) : first = second := by
  induction one generalizing second with
  | @leaves node children nonempty leaves =>
      cases other with
      | leaves _ _ => rfl
      | folds _ below =>
          obtain ⟨child, inside⟩ := List.exists_mem_of_ne_nil children nonempty
          obtain ⟨leaf, rfl⟩ := leaves child inside
          cases below _ inside
  | @folds node children level nonempty below ih =>
      obtain ⟨child, inside⟩ := List.exists_mem_of_ne_nil children nonempty
      cases other with
      | leaves _ leaves =>
          obtain ⟨leaf, rfl⟩ := leaves child inside
          cases below _ inside
      | folds _ others => rw [ih child inside (others child inside)]

/-- The leaves of a row of items. -/
def frontiers (items : List (Folded Node Leaf)) : List Leaf := items.flatMap frontier

/-- The nodes of a row of items. -/
def allNodes (items : List (Folded Node Leaf)) : List Node := items.flatMap nodes

/-- The folds of a row of items. -/
def allFolds (items : List (Folded Node Leaf)) : List (Node × List (Folded Node Leaf)) :=
  items.flatMap folds

/-- A fold of one segment keeps the frontier of the row. -/
theorem frontiers_fold (before chunk after : List (Folded Node Leaf)) (node : Node) :
    frontiers (before ++ .fold node chunk :: after) = frontiers (before ++ chunk ++ after) := by
  simp [frontiers]

/-- A fold of one segment adds its node to the nodes of the row. -/
theorem allNodes_fold (before chunk after : List (Folded Node Leaf)) (node : Node) :
    (allNodes (before ++ .fold node chunk :: after)).Perm
      (node :: allNodes (before ++ chunk ++ after)) := by
  simp only [allNodes, List.flatMap_append, List.flatMap_cons, nodes_fold, List.cons_append,
    List.append_assoc]
  exact List.perm_middle

theorem mem_allFolds_fold {before chunk after : List (Folded Node Leaf)} {node : Node}
    {entry : Node × List (Folded Node Leaf)} :
    entry ∈ allFolds (before ++ .fold node chunk :: after) ↔
      entry = (node, chunk) ∨ entry ∈ allFolds (before ++ chunk ++ after) := by
  simp only [allFolds, List.flatMap_append, List.flatMap_cons, folds_fold, List.mem_append,
    List.mem_cons]
  tauto

theorem frontiers_append (first second : List (Folded Node Leaf)) :
    frontiers (first ++ second) = frontiers first ++ frontiers second := by
  simp [frontiers]

theorem allNodes_append (first second : List (Folded Node Leaf)) :
    allNodes (first ++ second) = allNodes first ++ allNodes second := by
  simp [allNodes]

@[simp] theorem frontiers_raws (leaves : List Leaf) :
    frontiers (leaves.map raw : List (Folded Node Leaf)) = leaves := by
  induction leaves with
  | nil => rfl
  | cons leaf leaves ih =>
      simp only [frontiers] at ih
      simp [frontiers, ih]

@[simp] theorem allNodes_raws (leaves : List Leaf) :
    allNodes (leaves.map raw : List (Folded Node Leaf)) = [] := by
  induction leaves with
  | nil => rfl
  | cons leaf leaves ih =>
      simp only [allNodes] at ih
      simp [allNodes, ih]

/-- The children of a fold inside an item keep their order in the item. -/
theorem folds_sublist {item : Folded Node Leaf} {node : Node} {children : List (Folded Node Leaf)}
    (inside : (node, children) ∈ item.folds) :
    (node :: allNodes children).Sublist item.nodes ∧
      (frontiers children).Sublist item.frontier := by
  induction item with
  | raw leaf => simp at inside
  | fold top items ih =>
      rw [folds_fold] at inside
      rw [nodes_fold, frontier_fold]
      rcases List.mem_cons.mp inside with here | below
      · cases here
        exact ⟨List.Sublist.refl _, List.Sublist.refl _⟩
      · obtain ⟨child, member, found⟩ := List.mem_flatMap.mp below
        obtain ⟨nodesPart, leavesPart⟩ := ih child member found
        exact ⟨(nodesPart.trans (List.sublist_flatten_of_mem (List.mem_map_of_mem member))).cons _,
          leavesPart.trans (List.sublist_flatten_of_mem (List.mem_map_of_mem member))⟩

theorem allFolds_sublist {items : List (Folded Node Leaf)} {node : Node}
    {children : List (Folded Node Leaf)} (inside : (node, children) ∈ allFolds items) :
    (node :: allNodes children).Sublist (allNodes items) ∧
      (frontiers children).Sublist (frontiers items) := by
  obtain ⟨item, member, found⟩ := List.mem_flatMap.mp inside
  obtain ⟨nodesPart, leavesPart⟩ := folds_sublist found
  exact ⟨nodesPart.trans (List.sublist_flatten_of_mem (List.mem_map_of_mem member)),
    leavesPart.trans (List.sublist_flatten_of_mem (List.mem_map_of_mem member))⟩

/-- Every node of a row heads one of its folds. -/
theorem exists_fold {items : List (Folded Node Leaf)} {node : Node} (inside : node ∈ allNodes items) :
    ∃ children, (node, children) ∈ allFolds items := by
  obtain ⟨item, member, found⟩ := List.mem_flatMap.mp inside
  rw [← folds_nodes] at found
  obtain ⟨⟨_, children⟩, located, rfl⟩ := List.mem_map.mp found
  exact ⟨children, List.mem_flatMap.mpr ⟨item, member, located⟩⟩

/-- A covering is a row of items that stands for a log of leaves. -/
structure Covering (Node Leaf : Type*) where
  items : List (Folded Node Leaf)
  log : List Leaf

/-- A covering grows by new leaves at its end and shrinks by folds of a segment. -/
inductive Move (Node Leaf : Type*) where
  | append (leaves : List Leaf)
  | fold (node : Node) (before chunk after : List (Folded Node Leaf))

/-- Appended leaves and folded nodes are new. -/
def coveringSystem (Node Leaf : Type*) : StepSystem (Covering Node Leaf) (Move Node Leaf) where
  start covering := covering = ⟨[], []⟩
  step covering move next :=
    match move with
    | .append leaves =>
        (covering.log ++ leaves).Nodup ∧
          next = ⟨covering.items ++ leaves.map raw, covering.log ++ leaves⟩
    | .fold node before chunk after =>
        node ∉ allNodes covering.items ∧ covering.items = before ++ chunk ++ after ∧
          next = ⟨before ++ .fold node chunk :: after, covering.log⟩

/-- A lossless covering stands for its log, and nothing occurs in it twice. -/
structure Lossless (covering : Covering Node Leaf) : Prop where
  frontier : frontiers covering.items = covering.log
  leaves : covering.log.Nodup
  nodes : (allNodes covering.items).Nodup

theorem Lossless.append {covering : Covering Node Leaf} (lossless : Lossless covering)
    {leaves : List Leaf} (fresh : (covering.log ++ leaves).Nodup) :
    Lossless ⟨covering.items ++ leaves.map raw, covering.log ++ leaves⟩ where
  frontier := by
    rw [frontiers_append, lossless.frontier, frontiers_raws]
  leaves := fresh
  nodes := by
    rw [allNodes_append, allNodes_raws, List.append_nil]
    exact lossless.nodes

theorem Lossless.fold {before chunk after : List (Folded Node Leaf)} {log : List Leaf}
    (lossless : Lossless ⟨before ++ chunk ++ after, log⟩) {node : Node}
    (fresh : node ∉ allNodes (before ++ chunk ++ after)) :
    Lossless ⟨before ++ .fold node chunk :: after, log⟩ where
  frontier := by
    rw [frontiers_fold]
    exact lossless.frontier
  leaves := lossless.leaves
  nodes := (allNodes_fold before chunk after node).nodup_iff.mpr
    (List.nodup_cons.mpr ⟨fresh, lossless.nodes⟩)

/-- Every reachable covering is lossless. -/
theorem coveringSystem_lossless {covering : Covering Node Leaf}
    (reached : (coveringSystem Node Leaf).Reachable covering) : Lossless covering := by
  apply reached.invariant
  · intro covering start
    rw [show covering = ⟨[], []⟩ from start]
    exact ⟨rfl, List.nodup_nil, List.nodup_nil⟩
  · intro covering move next _ lossless step
    cases move with
    | append leaves =>
        obtain ⟨fresh, same⟩ := step
        rw [same]
        exact lossless.append fresh
    | fold node before chunk after =>
        obtain ⟨fresh, parts, same⟩ := step
        obtain ⟨items, log⟩ := covering
        simp only at fresh parts same
        subst parts
        rw [same]
        exact lossless.fold fresh

end Folded
