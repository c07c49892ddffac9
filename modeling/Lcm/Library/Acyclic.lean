import Mathlib.Data.Fintype.Card
import Mathlib.Data.Fintype.Sets
import Mathlib.Data.Set.Finite.Basic
import Mathlib.Logic.Relation
import Mathlib.Order.WellFounded
import Mathlib.Tactic.Common

/-- No path along the edges returns to its start. -/
def Acyclic {Node : Type*} (edge : Node → Node → Prop) : Prop :=
  ∀ node, ¬ Relation.TransGen edge node node

namespace Acyclic

variable {Node : Type*} {edge : Node → Node → Prop}

/-- Edges that cannot be followed backwards for ever have no cycle. -/
theorem of_acc (grounded : ∀ node, Acc edge node) : Acyclic edge := by
  intro node cycle
  have founded : WellFounded (Relation.TransGen edge) := WellFounded.transGen ⟨grounded⟩
  exact founded.irrefl.irrefl node cycle

/-- A part of a graph without a cycle has none. -/
theorem mono (acyclic : Acyclic edge) {part : Node → Node → Prop}
    (within : ∀ first second, part first second → edge first second) : Acyclic part :=
  fun node cycle => acyclic node (cycle.lift id within)

/-- Among finitely many nodes without a cycle one is the target of no edge from them. -/
theorem exists_source (acyclic : Acyclic edge) {nodes : List Node} (nonempty : nodes ≠ []) :
    ∃ node ∈ nodes, ∀ other ∈ nodes, ¬ edge other node := by
  let before : {node // node ∈ nodes} → {node // node ∈ nodes} → Prop :=
    fun first second => Relation.TransGen edge first.1 second.1
  have transitive : IsTrans _ before := ⟨fun _ _ _ first second => first.trans second⟩
  have irreflexive : Std.Irrefl before := ⟨fun node => acyclic node.1⟩
  have finite : Finite {node // node ∈ nodes} := List.finite_toSet nodes
  have founded : WellFounded before := Finite.wellFounded_of_trans_of_irrefl before
  obtain ⟨start, inside⟩ := List.exists_mem_of_ne_nil nodes nonempty
  obtain ⟨source, _, least⟩ := founded.has_min Set.univ ⟨⟨start, inside⟩, trivial⟩
  exact ⟨source.1, source.2, fun other member step => least ⟨other, member⟩ trivial (.single step)⟩

/-- Graphs side by side have no cycle exactly when none of them has one. -/
theorem sum_iff {Space : Type*} (edges : Space → Node → Node → Prop) :
    Acyclic (fun first second : Space × Node => first.1 = second.1 ∧ edges first.1 first.2 second.2) ↔
      ∀ space, Acyclic (edges space) := by
  constructor
  · intro acyclic space node cycle
    exact acyclic (space, node) (cycle.lift (fun other => (space, other)) fun _ _ step => ⟨rfl, step⟩)
  · intro acyclic start cycle
    have within : ∀ {first second : Space × Node}, Relation.TransGen
        (fun first second : Space × Node => first.1 = second.1 ∧ edges first.1 first.2 second.2) first second →
          first.1 = second.1 ∧ Relation.TransGen (edges first.1) first.2 second.2 := by
      intro first second path
      induction path with
      | single step => exact ⟨step.1, .single step.2⟩
      | tail _ step ih => exact ⟨ih.1.trans step.1, ih.2.tail (ih.1 ▸ step.2)⟩
    exact acyclic start.1 start.2 (within cycle).2

end Acyclic
