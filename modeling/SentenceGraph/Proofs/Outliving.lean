import SentenceGraph.Proofs.Condensing

/-!
# Edges that leave nothing behind

Of the edges of one key between the classes, a reduction keeps the first, and drops it if it is weak.
So one weak edge takes all later edges of its key with it, however confident they are.
-/

namespace SentenceGraph.KnowledgeGraph

variable {R : Type} [Quantity R]

/-- Where ids are unique, an edge leaves one of its key between the classes exactly if the first
edge of that key is not weak. -/
theorem represented_iff_first_strong (graph : KnowledgeGraph R)
    (unique : (graph.nodes.map Node.id).Nodup) :
    (∃ reduced, graph.reduce = .ok reduced ∧
      ∀ edge ∈ graph.edges, ∃ first,
        graph.edges.find? (fun other =>
          (other.betweenClasses graph.nodes).key == (edge.betweenClasses graph.nodes).key) =
            some first ∧
        ((∃ kept ∈ reduced.edges, kept.key = (edge.betweenClasses graph.nodes).key) ↔
          first.isWeak = false)) ∨
      (graph.reduce = .error .wrongShape ∧ ∃ node ∈ graph.nodes, ¬node.IsMeasured) := by
  rcases Merge.ofNodes_cases graph.nodes with ⟨merge, merged⟩ | ⟨failed, unmeasured⟩
  · left
    refine ⟨_, reduce_of_ofNodes merged, ?_⟩
    intro edge edge_mem
    have redirects := (Merge.summarizes_of_ofNodes merged).redirect_eq unique
    have moved_mem : edge.betweenClasses graph.nodes ∈ graph.edges.map merge.redirect := by
      rw [redirects]
      exact List.mem_map_of_mem edge_mem
    rcases exists_find?_key Edge.key moved_mem with ⟨moved, movedFound, sameKey⟩
    have found := movedFound
    rw [redirects, List.find?_map, Option.map_eq_some_iff] at found
    rcases found with ⟨first, found, rfl⟩
    refine ⟨first, found, ?_⟩
    constructor
    · rintro ⟨kept, kept_mem, keptKey⟩
      rcases List.mem_filter.mp kept_mem with ⟨kept_mem_firsts, strong⟩
      have keptFound := mem_firstsBy_iff.mp kept_mem_firsts
      rw [keptKey, movedFound] at keptFound
      rw [← Option.some.inj keptFound, Bool.not_eq_true'] at strong
      exact strong
    · intro strong
      refine ⟨_, List.mem_filter.mpr ⟨find?_mem_firstsBy movedFound, ?_⟩, sameKey⟩
      rw [Bool.not_eq_true']
      exact strong
  · exact Or.inr ⟨reduce_of_ofNodes_error failed, unmeasured⟩

theorem represented_iff_first_strong_dog :
    let graph : KnowledgeGraph Float := {
      intent := .unknown
      nodes := [{ id := 0, kind := "entity", label := "dog" },
        { id := 1, kind := "action", label := "ran" }]
      edges := [⟨0, 1, "nsubj", 0.9⟩, ⟨0, 1, "nsubj", 0.3⟩] }
    (graph.nodes.map Node.id).Nodup ∧
      ∃ reduced, graph.reduce = .ok reduced ∧ ∃ kept ∈ reduced.edges, kept.key = (0, 1, "nsubj") := by
  intro graph
  have unique : (graph.nodes.map Node.id).Nodup := by decide
  refine ⟨unique, ?_⟩
  rcases represented_iff_first_strong graph unique with ⟨reduced, reduces, outlives⟩ | ⟨failed, _⟩
  · rcases outlives graph.edges[1] (by simp [graph]) with ⟨first, found, represented⟩
    have same : graph.edges[0] = first := Option.some.inj found
    have strong : graph.edges[0].isWeak = false := by decide +kernel
    rw [← same] at represented
    exact ⟨reduced, reduces, represented.mpr strong⟩
  · have merged : Merge.ofNodes graph.nodes = .ok _ := rfl
    rw [reduce_of_ofNodes merged] at failed
    contradiction

/-- A confident edge that a weak edge of its key precedes is lost. -/
theorem strong_edge_lost :
    let graph : KnowledgeGraph Float := {
      intent := .unknown
      nodes := [
        { id := 0, kind := "entity", label := "dog", properties := [("confidence", .real 0.9)] },
        { id := 1, kind := "action", label := "ran", properties := [("confidence", .real 0.9)] }]
      edges := [⟨0, 1, "nsubj", 0.3⟩, ⟨0, 1, "nsubj", 0.9⟩] }
    (graph.nodes.map Node.id).Nodup ∧ (∃ edge ∈ graph.edges, leastConfidence ≤ edge.confidence) ∧
      ∃ reduced, graph.reduce = .ok reduced ∧ reduced.edges = [] := by
  intro graph
  refine ⟨by decide, ⟨graph.edges[1], by simp [graph], by decide +kernel⟩, ?_⟩
  have merged : Merge.ofNodes graph.nodes = .ok _ := rfl
  refine ⟨_, reduce_of_ofNodes merged, ?_⟩
  apply List.eq_nil_of_length_eq_zero
  decide +kernel

end SentenceGraph.KnowledgeGraph
