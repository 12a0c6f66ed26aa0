import SentenceGraph.Proofs.Merging

/-!
# Graphs that reduction leaves alone

A graph is settled if no two of its nodes have one label and kind, no two of its edges say the same,
and none of its edges is weak. Reducing any graph leaves a settled one. Reducing a settled graph
changes nothing: every node is the first of its key, so that each id stands for itself, also an id
that several nodes share and one that no node has.
-/

namespace SentenceGraph.KnowledgeGraph

open Fallible

variable {R : Type}

/-- There is nothing to merge and no edge to drop. -/
structure Settled [Quantity R] (graph : KnowledgeGraph R) : Prop where
  nodes : (graph.nodes.map Node.key).Nodup
  edges : (graph.edges.map Edge.key).Nodup
  strong : ∀ edge ∈ graph.edges, edge.isWeak = false

namespace Merge

variable {merge : Merge R} {nodes : List (Node R)}

theorem Summarizes.nodup_map_key (summarizes : merge.Summarizes nodes) :
    (merge.nodes.map Node.key).Nodup := by
  have keys : merge.nodes.map Node.key = (firstsBy Node.key nodes).map Node.key := by
    have identities := congrArg (List.map Prod.snd) summarizes.identities
    rw [List.map_map, List.map_map] at identities
    exact identities
  rw [keys]
  exact nodup_map_firstsBy

theorem representative_eq_self (itself : ∀ pair ∈ merge.representatives, pair.2 = pair.1)
    (id : Int) : merge.representative id = id := by
  unfold representative
  cases found : merge.representatives.lookup id with
  | none => rfl
  | some other =>
      rcases List.lookup_eq_some_iff.mp found with ⟨before, after, split, _⟩
      exact itself (id, other) (by simp [split])

variable [Quantity R]

/-- Nodes of different keys are left as they are, and each id stands for itself. -/
theorem ofNodes_of_nodup (distinct : (nodes.map Node.key).Nodup) :
    ofNodes nodes = .ok {
      nodes
      representatives := (nodes.map fun node => (node.id, node.id)).reverse
      log := [] } := by
  induction nodes using List.reverseRecOn with
  | nil => rfl
  | append_singleton before node inductionHypothesis =>
      rw [List.map_append, List.nodup_append] at distinct
      rcases distinct with ⟨distinct, _, apart⟩
      have fresh : before.find? (·.key == node.key) = none := by
        apply List.find?_eq_none.mpr
        intro other other_mem same
        exact apart other.key (List.mem_map_of_mem other_mem) node.key (by simp) (by simpa using same)
      have merged := inductionHypothesis distinct
      unfold ofNodes at merged ⊢
      rw [List.foldlM_append, merged]
      simp [insert, fresh]

end Merge

variable [Quantity R] {graph : KnowledgeGraph R} {reduced : ReducedGraph R}

/-- What a reduction leaves is settled. -/
theorem settled_of_reduce (reduces : graph.reduce = .ok reduced) :
    reduced.toKnowledgeGraph.Settled := by
  rcases Merge.ofNodes_cases graph.nodes with ⟨merge, merged⟩ | ⟨failed, _⟩
  · rw [reduce_of_ofNodes merged] at reduces
    rw [← Except.ok.inj reduces]
    constructor
    · exact (Merge.summarizes_of_ofNodes merged).nodup_map_key
    · exact nodup_map_firstsBy.sublist (List.filter_sublist.map Edge.key)
    · intro edge edge_mem
      simpa using (List.mem_filter.mp edge_mem).2
  · rw [reduce_of_ofNodes_error failed] at reduces
    contradiction

/-- A reduction leaves a settled graph as it is. -/
theorem Settled.reduce (settled : graph.Settled) :
    graph.reduce = .ok {
      toKnowledgeGraph := graph
      log := []
      stats := {
        nodesBefore := graph.nodes.length
        nodesAfter := graph.nodes.length
        edgesBefore := graph.edges.length
        edgesAfter := graph.edges.length
        reductionPercentage := percentageSaved graph.nodes.length graph.nodes.length } } := by
  have merged := Merge.ofNodes_of_nodup settled.nodes
  have unmoved : graph.edges.map (Merge.redirect {
      nodes := graph.nodes
      representatives := (graph.nodes.map fun node => (node.id, node.id)).reverse
      log := [] }) = graph.edges := by
    apply List.map_id''
    intro edge
    unfold Merge.redirect
    rw [Merge.representative_eq_self, Merge.representative_eq_self]
    · simp
    · simp
  have unpruned : graph.edges.filter (!·.isWeak) = graph.edges := by
    apply List.filter_eq_self.mpr
    intro edge edge_mem
    simp [settled.strong edge edge_mem]
  have noneWeak : graph.edges.filter Edge.isWeak = [] := by
    apply List.filter_eq_nil_iff.mpr
    intro edge edge_mem
    simp [settled.strong edge edge_mem]
  rw [reduce_of_ofNodes merged]
  simp only [unmoved, firstsBy_eq_self settled.edges, repeatsBy_eq_nil settled.edges, unpruned,
    noneWeak, List.map_nil, List.append_nil]

/-- Where nothing goes away, nothing is saved. -/
theorem percentageSaved_self (count : Nat) : (percentageSaved count count : Float) = 0.0 := by
  unfold percentageSaved
  split
  · rfl
  · rename_i counted
    have positive : 0 < count := by
      simp only [beq_iff_eq] at counted
      omega
    have whole : (Quantity.ratio count count : Float) = Quantity.ratio 1 1 := by
      simp [Quantity.ratio, Nat.div_self positive]
    rw [whole]
    decide +kernel

/-- Reducing a reduced graph once more changes nothing, logs nothing and saves nothing. The only
graphs that cannot be reduced have confidences that are no numbers. -/
theorem reduce_settles (graph : KnowledgeGraph Float) :
    (∃ reduced again, graph.reduce = .ok reduced ∧ reduced.toKnowledgeGraph.reduce = .ok again ∧
      again.toKnowledgeGraph = reduced.toKnowledgeGraph ∧ again.log = [] ∧
      again.stats = {
        nodesBefore := reduced.nodes.length
        nodesAfter := reduced.nodes.length
        edgesBefore := reduced.edges.length
        edgesAfter := reduced.edges.length
        reductionPercentage := 0.0 }) ∨
      (graph.reduce = .error .wrongShape ∧ ∃ node ∈ graph.nodes, ¬node.IsMeasured) := by
  rcases Merge.ofNodes_cases graph.nodes with ⟨merge, merged⟩ | ⟨failed, unmeasured⟩
  · left
    have reduces := reduce_of_ofNodes merged
    have again := (settled_of_reduce reduces).reduce
    rw [percentageSaved_self] at again
    exact ⟨_, _, reduces, again, rfl, rfl, rfl⟩
  · exact Or.inr ⟨reduce_of_ofNodes_error failed, unmeasured⟩

end SentenceGraph.KnowledgeGraph
