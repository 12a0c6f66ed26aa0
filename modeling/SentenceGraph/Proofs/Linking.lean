import SentenceGraph.Proofs.Typing

/-!
# Graphs linked by search

The plain way to make a knowledge graph is to number the entities and then the actions, and to
search all nodes from the front for each end of each relationship. The label index is filled while
the nodes are numbered, and every node has its place as its id; hence what is filed under a label is
the place that the search finds, however often labels are repeated.

An edge of a deed joins an entity and an action. The name of a dependency is any text, and its ends
are found by label alone, so that an edge of a dependency which is named like those of deeds may
join nodes of any kind.
-/

namespace SentenceGraph.KnowledgeGraph

variable {R : Type} {nodes : List (Node R)} {label kind : String}

/-- Every node has its place as its id. -/
def Numbered (nodes : List (Node R)) : Prop :=
  ∀ (place : Nat) (node : Node R), nodes[place]? = some node → node.id = place

/-- The place of the first node with a label. -/
def placeOf? (nodes : List (Node R)) (label : String) : Option Nat :=
  nodes.findIdx? (·.label == label)

/-- The place of the first node with a label and a kind. -/
def placeOfKind? (nodes : List (Node R)) (label kind : String) : Option Nat :=
  nodes.findIdx? fun node => node.label == label && node.kind == kind

section Search

theorem Numbered.map_id_find? (numbered : Numbered nodes) (meant : Node R → Bool) :
    (nodes.find? meant).map Node.id = (nodes.findIdx? meant).map Nat.cast := by
  rw [List.find?_eq_bind_findIdx?_getElem?]
  cases found : nodes.findIdx? meant with
  | none => rfl
  | some place =>
      rcases List.findIdx?_eq_some_iff_getElem.mp found with ⟨inside, _⟩
      have here : nodes[place]? = some nodes[place] := List.getElem?_eq_getElem inside
      simp [here, numbered place _ here]

theorem Numbered.any?_ofNodes (numbered : Numbered nodes) :
    (LabelIndex.ofNodes nodes).any? label = (placeOf? nodes label).map Nat.cast := by
  rw [LabelIndex.any?_ofNodes, numbered.map_id_find?]
  rfl

theorem Numbered.find?_ofNodes (numbered : Numbered nodes) :
    (LabelIndex.ofNodes nodes).find? label kind = (placeOfKind? nodes label kind).map Nat.cast := by
  rw [LabelIndex.find?_ofNodes, numbered.map_id_find?]
  rfl

end Search

section OfSemanticGraph

variable {graph : SemanticGraph R}

theorem getElem?_nodesOf (place : Nat) :
    (nodesOf graph)[place]? =
      if place < graph.entities.length then graph.entities[place]?.map (Node.ofEntity · place)
      else graph.actions[place - graph.entities.length]?.map (Node.ofAction · place) := by
  rw [nodesOf, List.getElem?_append, List.length_map, List.length_zipIdx]
  split
  case isTrue => simp [List.getElem?_zipIdx, Function.comp_def]
  case isFalse behind =>
    have split : graph.entities.length + (place - graph.entities.length) = place := by omega
    simp [List.getElem?_zipIdx, Function.comp_def, split]

theorem numbered_nodesOf : Numbered (nodesOf graph) := by
  intro place node found
  rw [getElem?_nodesOf] at found
  split at found
  · rcases Option.map_eq_some_iff.mp found with ⟨entity, _, rfl⟩
    rfl
  · rcases Option.map_eq_some_iff.mp found with ⟨action, _, rfl⟩
    rfl

end OfSemanticGraph

variable [Quantity R]

/-- The edges of a relationship, its ends found by searches through all nodes. -/
def linkedEdges (nodes : List (Node R)) : Relationship R → List (Edge R)
  | .deed subject action objects _ confidence =>
      match placeOfKind? nodes action Node.actionKind with
      | none => []
      | some deed =>
          (match placeOfKind? nodes subject Node.entityKind with
            | none => []
            | some actor => [performs actor deed confidence]) ++
          objects.filterMap fun object =>
            (placeOfKind? nodes object Node.entityKind).map fun (place : Nat) => affects deed place
  | .dependency relation head dependent confidence =>
      match placeOf? nodes head, placeOf? nodes dependent with
      | some source, some target => [{ source, target, relation, confidence }]
      | _, _ => []

theorem edgesOf_eq_linkedEdges (numbered : Numbered nodes) (relationship : Relationship R) :
    edgesOf (.ofNodes nodes) relationship = linkedEdges nodes relationship := by
  cases relationship with
  | deed subject action objects clause confidence =>
      simp only [edgesOf, linkedEdges, numbered.find?_ofNodes]
      cases placeOfKind? nodes action Node.actionKind with
      | none => rfl
      | some deed =>
          simp only [Option.map_some, List.map_filterMap, Option.map_map]
          cases placeOfKind? nodes subject Node.entityKind with
          | none => rfl
          | some actor => rfl
  | dependency relation head dependent confidence =>
      simp only [edgesOf, linkedEdges, numbered.any?_ofNodes]
      cases placeOf? nodes head with
      | none => rfl
      | some source =>
          cases placeOf? nodes dependent with
          | none => rfl
          | some target => rfl

/-- An edge of a deed: an entity performs an action, or an action affects an entity. -/
def IsOfDeed (nodes : List (Node R)) (edge : Edge R) : Prop :=
  (edge.relation = "performs" ∧
      HasKind nodes edge.source Node.entityKind ∧ HasKind nodes edge.target Node.actionKind) ∨
    (edge.relation = "affects" ∧
      HasKind nodes edge.source Node.actionKind ∧ HasKind nodes edge.target Node.entityKind)

section LinkedEdges

variable {relationship : Relationship R} {edge : Edge R}

theorem isOfDeed_or_exists_dependency (numbered : Numbered nodes)
    (edge_mem : edge ∈ linkedEdges nodes relationship) :
    IsOfDeed nodes edge ∨
      ∃ head dependent confidence,
        relationship = .dependency edge.relation head dependent confidence := by
  cases relationship with
  | deed subject action objects clause confidence =>
      left
      rw [← edgesOf_eq_linkedEdges numbered] at edge_mem
      rcases mem_edgesOf_deed.mp edge_mem with ⟨deed, actionFound, made⟩
      rcases made with ⟨actor, found, rfl⟩ | ⟨object, _, id, found, rfl⟩
      · exact Or.inl ⟨rfl, hasKind_of_find? found, hasKind_of_find? actionFound⟩
      · exact Or.inr ⟨rfl, hasKind_of_find? actionFound, hasKind_of_find? found⟩
  | dependency relation head dependent confidence =>
      right
      rw [← edgesOf_eq_linkedEdges numbered] at edge_mem
      rcases mem_edgesOf_dependency.mp edge_mem with ⟨source, target, _, _, rfl⟩
      exact ⟨head, dependent, confidence, rfl⟩

end LinkedEdges

/-- The graph is the one made the plain way. Node by node it has the entities and the actions,
numbered by place, and its edges are those that searches link; each joins two nodes. It is one of a
deed, or it is one of a dependency and has the name of that. -/
theorem ofSemanticGraph_links_by_search (graph : SemanticGraph R) :
    let made := ofSemanticGraph graph
    (∀ place, made.nodes[place]? =
        if place < graph.entities.length then graph.entities[place]?.map (Node.ofEntity · place)
        else graph.actions[place - graph.entities.length]?.map (Node.ofAction · place)) ∧
      made.nodes.map Node.id =
        (List.range (graph.entities.length + graph.actions.length)).map Nat.cast ∧
      made.edges = graph.relationships.flatMap (linkedEdges made.nodes) ∧
      (∀ edge ∈ made.edges,
        (∃ source ∈ made.nodes, source.id = edge.source) ∧
          ∃ target ∈ made.nodes, target.id = edge.target) ∧
      ∀ relationship ∈ graph.relationships, ∀ edge ∈ linkedEdges made.nodes relationship,
        IsOfDeed made.nodes edge ∨
          ∃ head dependent confidence,
            relationship = .dependency edge.relation head dependent confidence := by
  intro made
  refine ⟨getElem?_nodesOf, map_id_nodesOf, ?_, ?_, ?_⟩
  · exact List.flatMap_congr fun relationship _ =>
      edgesOf_eq_linkedEdges numbered_nodesOf relationship
  · intro edge edge_mem
    rcases exists_tells_of_edge_mem edge_mem with ⟨_, source, _, target, _, _⟩
    rcases source with ⟨sourceNode, source_mem, sourceId, _⟩
    rcases target with ⟨targetNode, target_mem, targetId, _⟩
    exact ⟨⟨sourceNode, source_mem, sourceId⟩, targetNode, target_mem, targetId⟩
  · intro relationship _ edge edge_mem
    exact isOfDeed_or_exists_dependency numbered_nodesOf edge_mem

/-- A graph in which what a dog does is said the other way round, as a dependency. -/
def ranDog : SemanticGraph Float where
  sentenceType := "statement"
  intent := { kind := "unknown", confidence := 0.5 }
  entities :=
    [{ name := "dog", role := "subject", tag := .text "noun", definition := .text "", clause := 0,
       confidence := 0.6 }]
  actions :=
    [{ verb := "ran", definition := .text "", actor := "dog", clause := 0, confidence := 0.5 }]
  relationships := [.dependency "performs" "ran" "dog" 0.9]
  overallConfidence := 0.5
  knownShare := 0.0

/-- In that graph an edge has the name of those of deeds and leads from an action to an entity. -/
theorem performs_not_from_entity :
    ∃ edge ∈ (ofSemanticGraph ranDog).edges, edge.relation = "performs" ∧
      ¬ HasKind (ofSemanticGraph ranDog).nodes edge.source Node.entityKind := by
  refine ⟨⟨1, 0, "performs", 0.9⟩, ?_, rfl, ?_⟩
  · apply List.mem_flatMap.mpr
    refine ⟨_, List.mem_singleton_self _, ?_⟩
    exact mem_edgesOf_dependency.mpr ⟨1, 0, rfl, rfl, rfl⟩
  · rintro ⟨node, node_mem, isSource, isEntity⟩
    have nodes : (ofSemanticGraph ranDog).nodes.map (fun node => (node.id, node.kind)) =
        [(0, Node.entityKind), (1, Node.actionKind)] := rfl
    have listed : (node.id, node.kind) ∈ [(0, Node.entityKind), (1, Node.actionKind)] := by
      rw [← nodes]
      exact List.mem_map_of_mem node_mem
    rw [isSource, isEntity] at listed
    simp [Node.entityKind, Node.actionKind] at listed

end SentenceGraph.KnowledgeGraph
