import SentenceGraph.Proofs.Facts
import SentenceGraph.Proofs.Merging
import SentenceGraph.Proofs.Parsing
import SentenceGraph.Tagging

/-!
# What reducing a graph keeps

Reducing a graph keeps its facts if the edges of one relation all have one confidence, and none is
weak. Edges that come to have one key then say the same, so that it does not matter which of them is
kept.

The graphs of sentences are of this kind: the relation of a fact decides its confidence, and all of
these confidences are above the least one.
-/

namespace SentenceGraph

variable {R : Type}

namespace KnowledgeGraph

/-- Ids name one node each, edges join nodes, and the relation of an edge decides its confidence. -/
structure Regular (graph : KnowledgeGraph R) (degree : String → R) : Prop where
  unique : (graph.nodes.map Node.id).Nodup
  grounded : ∀ edge ∈ graph.edges,
    edge.source ∈ graph.nodes.map Node.id ∧ edge.target ∈ graph.nodes.map Node.id
  uniform : ∀ edge ∈ graph.edges, edge.confidence = degree edge.relation

section Representatives

variable {merge : Merge R} {nodes : List (Node R)} {node : Node R} {id : Int} {label : String}

theorem labels_iff : Labels nodes id label ↔ ∃ kind, Names nodes id (label, kind) := by
  constructor
  · rintro ⟨node, node_mem, rfl, rfl⟩
    exact ⟨node.kind, names_of_mem node_mem⟩
  · rintro ⟨kind, named⟩
    rcases List.mem_map.mp named with ⟨node, node_mem, same⟩
    cases same
    exact ⟨node, node_mem, rfl, rfl⟩

/-- What stands for an id has the same label. -/
theorem Merge.Summarizes.labels_representative_iff (summarizes : merge.Summarizes nodes)
    (unique : (nodes.map Node.id).Nodup) (id_mem : id ∈ nodes.map Node.id) :
    Labels merge.nodes (merge.representative id) label ↔ Labels nodes id label := by
  rcases List.mem_map.mp id_mem with ⟨node, node_mem, rfl⟩
  have itself : Labels nodes node.id node.label := ⟨node, node_mem, rfl, rfl⟩
  simp only [labels_iff, summarizes.names_representative_iff unique node_mem]
  constructor
  · rintro ⟨kind, same⟩
    exact ⟨kind, same ▸ names_of_mem node_mem⟩
  · rintro ⟨kind, named⟩
    exact ⟨kind, named.unique (names_of_mem node_mem) unique⟩

theorem Merge.Summarizes.representative_mem (summarizes : merge.Summarizes nodes)
    (unique : (nodes.map Node.id).Nodup) (id_mem : id ∈ nodes.map Node.id) :
    merge.representative id ∈ merge.nodes.map Node.id := by
  rcases List.mem_map.mp id_mem with ⟨node, node_mem, rfl⟩
  have named := (summarizes.names_representative_iff unique node_mem).mpr rfl
  rcases List.mem_map.mp named with ⟨representative, representative_mem, same⟩
  rw [← (Prod.mk.inj same).1]
  exact List.mem_map_of_mem representative_mem

end Representatives

namespace Regular

variable {graph : KnowledgeGraph R} {degree : String → R} {merge : Merge R} {fact : Fact R}

/-- The first edges between the merged nodes say what the graph says. -/
theorem states_firstsBy_iff (regular : graph.Regular degree)
    (summarizes : merge.Summarizes graph.nodes) :
    (∃ edge ∈ firstsBy Edge.key (graph.edges.map merge.redirect),
      Labels merge.nodes edge.source fact.source ∧ edge.relation = fact.relation ∧
        Labels merge.nodes edge.target fact.target ∧ edge.confidence = fact.confidence) ↔
      graph.States fact := by
  constructor
  · rintro ⟨kept, kept_mem, source, relation, target, confidence⟩
    rcases List.mem_map.mp (mem_of_mem_firstsBy kept_mem) with ⟨edge, edge_mem, rfl⟩
    rcases regular.grounded edge edge_mem with ⟨source_mem, target_mem⟩
    refine ⟨edge, edge_mem, ?_, relation, ?_, confidence⟩
    · exact (summarizes.labels_representative_iff regular.unique source_mem).mp source
    · exact (summarizes.labels_representative_iff regular.unique target_mem).mp target
  · rintro ⟨edge, edge_mem, source, relation, target, confidence⟩
    rcases regular.grounded edge edge_mem with ⟨source_mem, target_mem⟩
    rcases exists_find?_key Edge.key (List.mem_map_of_mem (f := merge.redirect) edge_mem) with
      ⟨kept, found, same⟩
    have kept_mem := find?_mem_firstsBy found
    rcases List.mem_map.mp (mem_of_mem_firstsBy kept_mem) with ⟨original, original_mem, rfl⟩
    -- Another edge may have come first, but its relation is the same, and so its confidence.
    simp only [Edge.key, Prod.mk.injEq] at same
    rcases same with ⟨sameSource, sameTarget, sameRelation⟩
    refine ⟨merge.redirect original, kept_mem, ?_, ?_, ?_, ?_⟩
    · rw [sameSource]
      exact (summarizes.labels_representative_iff regular.unique source_mem).mpr source
    · exact sameRelation.trans relation
    · rw [sameTarget]
      exact (summarizes.labels_representative_iff regular.unique target_mem).mpr target
    · have degrees : original.confidence = edge.confidence := by
        rw [regular.uniform original original_mem, regular.uniform edge edge_mem]
        exact congrArg degree sameRelation
      exact degrees.trans confidence

variable [Quantity R]

/-- Reducing a regular graph without weak edges keeps its facts. -/
theorem exists_reduce (regular : graph.Regular degree)
    (measured : ∀ node ∈ graph.nodes, node.IsMeasured)
    (strong : ∀ edge ∈ graph.edges, edge.isWeak = false) :
    ∃ merge reduced, Merge.ofNodes graph.nodes = .ok merge ∧ graph.reduce = .ok reduced ∧
      (∀ fact, reduced.States fact ↔ graph.States fact) ∧
      (reduced.edges.map Edge.key).Nodup ∧ (reduced.nodes.map Node.id).Nodup ∧
      (∀ edge ∈ reduced.edges,
        edge.source ∈ reduced.nodes.map Node.id ∧ edge.target ∈ reduced.nodes.map Node.id) ∧
      reduced.edges = (Edge.dropRepeated [] (graph.edges.map merge.redirect)).1 := by
  rcases Merge.exists_ofNodes measured with ⟨merge, merged⟩
  rcases KnowledgeGraph.exists_reduce merged with ⟨reduced, succeeds, nodes, edges⟩
  have summarizes := Merge.summarizes_of_ofNodes merged
  have firsts : (Edge.dropRepeated [] (graph.edges.map merge.redirect)).1 =
      firstsBy Edge.key (graph.edges.map merge.redirect) := by
    rw [Edge.dropRepeated_fst]
    simp
  have unpruned : reduced.edges = firstsBy Edge.key (graph.edges.map merge.redirect) := by
    rw [edges, firsts, List.filter_eq_self]
    intro kept kept_mem
    rcases List.mem_map.mp (mem_of_mem_firstsBy kept_mem) with ⟨edge, edge_mem, rfl⟩
    have notWeak : (merge.redirect edge).isWeak = false := strong edge edge_mem
    rw [notWeak]
    rfl
  refine ⟨merge, reduced, merged, succeeds, ?_, ?_, ?_, ?_, unpruned.trans firsts.symm⟩
  · intro fact
    rw [States, unpruned, nodes]
    exact regular.states_firstsBy_iff summarizes
  · rw [unpruned]
    exact nodup_map_firstsBy
  · rw [nodes]
    exact summarizes.nodup_map_id regular.unique
  · rw [unpruned, nodes]
    intro kept kept_mem
    rcases List.mem_map.mp (mem_of_mem_firstsBy kept_mem) with ⟨edge, edge_mem, rfl⟩
    rcases regular.grounded edge edge_mem with ⟨source_mem, target_mem⟩
    exact ⟨summarizes.representative_mem regular.unique source_mem,
      summarizes.representative_mem regular.unique target_mem⟩

end Regular

end KnowledgeGraph

section Sentences

variable [Quantity R]

/-- The confidence of the facts of a relation. -/
def usualConfidence : String → R
  | "nsubj" => 0.9
  | "dobj" => 0.85
  | "conj" => 0.75
  | "affects" => 0.75
  | _ => 0.8

/-- The tokens of a text, where a dictionary knows words by their lowercase form. -/
def Tagging.ofText (text : String) (dictionary : String → Option (Entry R)) : List (Token R) :=
  let words := Text.words text
  tokens words (words.map fun word => dictionary (Text.lowercase word))

variable {tokens : List (Token R)}

namespace Dependency

theorem confidence_of_mem {dependency : Dependency R}
    (dependency_mem : dependency ∈ ofTokens tokens) :
    dependency.confidence = usualConfidence dependency.relation := by
  rcases mem_ofTokens_iff.mp dependency_mem with ⟨earlier, token, later, _, starts⟩
  cases starts with
  | subject nominal found => rfl
  | object verb found => rfl
  | modifier adjective next isNoun => rfl
  | conjunction joins => rfl

end Dependency

/-- The relation of a fact of a sentence decides its confidence. -/
theorem ParseTree.confidence_of_tells {fact : Fact R} (tells : (ofTokens tokens).Tells fact) :
    fact.confidence = usualConfidence fact.relation := by
  cases tells with
  | performs clause_mem hasSubject hasPredicate => rfl
  | affects clause_mem hasSubject hasPredicate object_mem => rfl
  | depends dependency_mem head dependent =>
      exact Dependency.confidence_of_mem dependency_mem

namespace KnowledgeGraph

variable {graph : SemanticGraph R} {node : Node R} {memory : ContextMemory R}

theorem isMeasured_of_mem_nodesOf (node_mem : node ∈ nodesOf graph) : node.IsMeasured := by
  rcases List.mem_append.mp node_mem with ofEntity | ofAction
  · rcases List.mem_map.mp ofEntity with ⟨⟨entity, index⟩, _, rfl⟩
    exact ⟨.real entity.confidence, rfl⟩
  · rcases List.mem_map.mp ofAction with ⟨⟨action, index⟩, _, rfl⟩
    exact ⟨.real action.confidence, rfl⟩

/-- The graph of a sentence is regular. -/
theorem regular_ofTokens (tokens : List (Token R)) (memory : ContextMemory R) :
    (ofSemanticGraph (.ofTree (.ofTokens tokens) tokens memory)).Regular usualConfidence where
  unique := nodup_map_id_nodesOf
  grounded := by
    intro edge edge_mem
    rcases exists_tells_of_edge_mem edge_mem with
      ⟨fact, ⟨source, source_mem, sourceId, _⟩, _, ⟨target, target_mem, targetId, _⟩, _⟩
    rw [← sourceId, ← targetId]
    exact ⟨List.mem_map_of_mem source_mem, List.mem_map_of_mem target_mem⟩
  uniform := by
    intro edge edge_mem
    rcases exists_tells_of_edge_mem edge_mem with ⟨fact, _, relation, _, confidence, tells⟩
    rw [relation, confidence]
    exact ParseTree.confidence_of_tells (SemanticGraph.tells_ofTree_iff.mp tells)

end KnowledgeGraph

end Sentences

theorem leastConfidence_le_usualConfidence (relation : String) :
    ¬(usualConfidence relation : Float) < KnowledgeGraph.leastConfidence := by
  unfold usualConfidence
  split
  · decide
  · decide
  · decide
  · decide
  · decide

namespace KnowledgeGraph

/-- The reduced graph of a text says what its parse tree says: merging, dropping repetitions and
dropping weak edges neither lose a fact nor add one. -/
theorem reduce_states_iff_tells (text : String) (dictionary : String → Option (Entry Float))
    (memory : ContextMemory Float) :
    let tokens := Tagging.ofText text dictionary
    let tree := ParseTree.ofTokens tokens
    let graph := ofSemanticGraph (.ofTree tree tokens memory)
    ∃ merge reduced, Merge.ofNodes graph.nodes = .ok merge ∧ graph.reduce = .ok reduced ∧
      (∀ fact, reduced.States fact ↔ tree.Tells fact) ∧
      (∀ fact, reduced.States fact ↔ graph.States fact) ∧
      (reduced.edges.map Edge.key).Nodup ∧ (reduced.nodes.map Node.id).Nodup ∧
      (∀ edge ∈ reduced.edges,
        edge.source ∈ reduced.nodes.map Node.id ∧ edge.target ∈ reduced.nodes.map Node.id) ∧
      reduced.edges = (Edge.dropRepeated [] (graph.edges.map merge.redirect)).1 := by
  intro tokens tree graph
  have regular : graph.Regular usualConfidence := regular_ofTokens tokens memory
  have strong : ∀ edge ∈ graph.edges, edge.isWeak = false := by
    intro edge edge_mem
    rw [Edge.isWeak, regular.uniform edge edge_mem]
    exact decide_eq_false (leastConfidence_le_usualConfidence edge.relation)
  rcases regular.exists_reduce (fun _ => isMeasured_of_mem_nodesOf) strong with
    ⟨merge, reduced, merged, succeeds, states, keys, ids, grounded, unpruned⟩
  refine ⟨merge, reduced, merged, succeeds, ?_, states, keys, ids, grounded, unpruned⟩
  intro fact
  rw [states, states_ofSemanticGraph_iff, SemanticGraph.tells_ofTree_iff]

end KnowledgeGraph

end SentenceGraph
