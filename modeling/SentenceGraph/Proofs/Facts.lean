import SentenceGraph.Proofs.Indexing

/-!
# What graphs say

A fact is a relation between two words. A parse tree tells facts by its clauses and dependencies, a
semantic graph by its relationships, and a knowledge graph by its edges, whose ends are read as the
labels of their nodes. All three say the same of a sentence: a relationship names its ends by label,
and whichever node of a label it finds, that node is read as the label again.
-/

namespace SentenceGraph

variable {R : Type}

/-- A relation between two words. -/
structure Fact (R : Type) where
  source : String
  relation : String
  target : String
  confidence : R

/-- A word fills the place of a subject, a predicate or an object. -/
def ParseTree.Fills (tree : ParseTree R) (word : String) : Prop :=
  ∃ clause ∈ tree.clauses,
    ∃ slot ∈ clause.subject.toList ++ clause.predicate.toList ++ clause.objects, slot.word = word

/-- The facts of a parse tree. -/
inductive ParseTree.Tells [Quantity R] (tree : ParseTree R) : Fact R → Prop where
  | performs {clause : Clause R} {subject predicate : Slot R} (clause_mem : clause ∈ tree.clauses)
      (hasSubject : clause.subject = some subject)
      (hasPredicate : clause.predicate = some predicate) :
      Tells tree ⟨subject.word, "performs", predicate.word, 0.8⟩
  | affects {clause : Clause R} {subject predicate object : Slot R}
      (clause_mem : clause ∈ tree.clauses) (hasSubject : clause.subject = some subject)
      (hasPredicate : clause.predicate = some predicate) (object_mem : object ∈ clause.objects) :
      Tells tree ⟨predicate.word, "affects", object.word, 0.75⟩
  | depends {dependency : Dependency R} (dependency_mem : dependency ∈ tree.dependencies)
      (head : tree.Fills dependency.head) (dependent : tree.Fills dependency.dependent) :
      Tells tree
        ⟨dependency.head, dependency.relation, dependency.dependent, dependency.confidence⟩

namespace SemanticGraph

/-- The names of the entities. -/
def names (graph : SemanticGraph R) : List String :=
  graph.entities.map Entity.name

/-- The verbs of the actions. -/
def verbs (graph : SemanticGraph R) : List String :=
  graph.actions.map Action.verb

/-- The facts of a semantic graph. -/
inductive Tells [Quantity R] (graph : SemanticGraph R) : Fact R → Prop where
  | performs {subject action : String} {objects : List String} {clause : Int} {confidence : R}
      (deed : .deed subject action objects clause confidence ∈ graph.relationships)
      (named : subject ∈ graph.names) (done : action ∈ graph.verbs) :
      Tells graph ⟨subject, "performs", action, confidence⟩
  | affects {subject action object : String} {objects : List String} {clause : Int} {confidence : R}
      (deed : .deed subject action objects clause confidence ∈ graph.relationships)
      (done : action ∈ graph.verbs) (object_mem : object ∈ objects) (named : object ∈ graph.names) :
      Tells graph ⟨action, "affects", object, 0.75⟩
  | depends {relation head dependent : String} {confidence : R}
      (dependency : .dependency relation head dependent confidence ∈ graph.relationships)
      (head_mem : head ∈ graph.names ∨ head ∈ graph.verbs)
      (dependent_mem : dependent ∈ graph.names ∨ dependent ∈ graph.verbs) :
      Tells graph ⟨head, relation, dependent, confidence⟩

theorem exists_place {Item : Type} {items : List Item} {item : Item} (item_mem : item ∈ items) :
    ∃ index, (item, index) ∈ items.zipIdx := by
  rcases List.getElem?_of_mem item_mem with ⟨index, place⟩
  exact ⟨index, List.mk_mem_zipIdx_iff_getElem?.mpr place⟩

section OfTree

variable [Quantity R] {tree : ParseTree R} {tokens : List (Token R)} {memory : ContextMemory R}

theorem mem_names_ofTree {word : String} :
    word ∈ (ofTree tree tokens memory).names ↔
      ∃ clause ∈ tree.clauses,
        ∃ slot ∈ clause.subject.toList ++ clause.objects, slot.word = word := by
  simp only [names, ofTree, List.mem_map, List.mem_flatMap, Prod.exists, clauseEntities]
  constructor
  · rintro ⟨entity, ⟨clause, index, clause_mem, entity_mem⟩, rfl⟩
    refine ⟨clause, List.fst_mem_of_mem_zipIdx clause_mem, ?_⟩
    rcases List.mem_append.mp entity_mem with isSubject | isObject
    · rw [Option.mem_toList, Option.map_eq_some_iff] at isSubject
      rcases isSubject with ⟨slot, hasSubject, rfl⟩
      exact ⟨slot, by simp [hasSubject], rfl⟩
    · rcases List.mem_map.mp isObject with ⟨slot, slot_mem, rfl⟩
      exact ⟨slot, by simp [slot_mem], rfl⟩
  · rintro ⟨clause, clause_mem, slot, slot_mem, rfl⟩
    rcases exists_place clause_mem with ⟨index, placed⟩
    rcases List.mem_append.mp slot_mem with isSubject | isObject
    · rw [Option.mem_toList] at isSubject
      exact ⟨subjectEntity tokens index slot, ⟨clause, index, placed, by simp [isSubject]⟩, rfl⟩
    · refine ⟨objectEntity tokens index slot, ⟨clause, index, placed, ?_⟩, rfl⟩
      apply List.mem_append_right
      exact List.mem_map_of_mem isObject

theorem mem_verbs_ofTree {word : String} :
    word ∈ (ofTree tree tokens memory).verbs ↔
      ∃ clause ∈ tree.clauses, ∃ slot, clause.predicate = some slot ∧ slot.word = word := by
  simp only [verbs, ofTree, List.mem_map, List.mem_filterMap, Prod.exists, clauseAction?,
    Option.map_eq_some_iff]
  constructor
  · rintro ⟨action, ⟨clause, index, clause_mem, slot, hasPredicate, rfl⟩, rfl⟩
    exact ⟨clause, List.fst_mem_of_mem_zipIdx clause_mem, slot, hasPredicate, rfl⟩
  · rintro ⟨clause, clause_mem, slot, hasPredicate, rfl⟩
    rcases exists_place clause_mem with ⟨index, placed⟩
    exact ⟨_, ⟨clause, index, placed, slot, hasPredicate, rfl⟩, rfl⟩

theorem fills_iff {word : String} :
    tree.Fills word ↔
      word ∈ (ofTree tree tokens memory).names ∨ word ∈ (ofTree tree tokens memory).verbs := by
  rw [mem_names_ofTree, mem_verbs_ofTree]
  constructor
  · rintro ⟨clause, clause_mem, slot, slot_mem, same⟩
    simp only [List.mem_append, Option.mem_toList] at slot_mem
    rcases slot_mem with (isSubject | isPredicate) | isObject
    · exact Or.inl ⟨clause, clause_mem, slot, by simp [isSubject], same⟩
    · exact Or.inr ⟨clause, clause_mem, slot, isPredicate, same⟩
    · exact Or.inl ⟨clause, clause_mem, slot, by simp [isObject], same⟩
  · rintro (⟨clause, clause_mem, slot, slot_mem, same⟩ |
      ⟨clause, clause_mem, slot, isPredicate, same⟩)
    · refine ⟨clause, clause_mem, slot, ?_, same⟩
      rcases List.mem_append.mp slot_mem with isSubject | isObject
      · apply List.mem_append_left
        exact List.mem_append_left _ isSubject
      · exact List.mem_append_right _ isObject
    · exact ⟨clause, clause_mem, slot, by simp [isPredicate], same⟩

theorem deed_mem_ofTree (tokens : List (Token R)) (memory : ContextMemory R) {clause : Clause R}
    {subject predicate : Slot R} (clause_mem : clause ∈ tree.clauses)
    (hasSubject : clause.subject = some subject) (hasPredicate : clause.predicate = some predicate) :
    ∃ index, .deed subject.word predicate.word (clause.objects.map Slot.word) index 0.8 ∈
      (ofTree tree tokens memory).relationships := by
  rcases exists_place clause_mem with ⟨index, placed⟩
  refine ⟨index, ?_⟩
  apply List.mem_append_left
  apply List.mem_filterMap.mpr
  exact ⟨(clause, index), placed, by simp [clauseDeed?, hasSubject, hasPredicate]⟩

theorem exists_clause_of_deed_mem {subject action : String} {objects : List String} {index : Int}
    {confidence : R}
    (deed : .deed subject action objects index confidence ∈
      (ofTree tree tokens memory).relationships) :
    ∃ clause ∈ tree.clauses, ∃ actor predicate, clause.subject = some actor ∧
      clause.predicate = some predicate ∧ actor.word = subject ∧ predicate.word = action ∧
      clause.objects.map Slot.word = objects ∧ confidence = 0.8 := by
  rcases List.mem_append.mp deed with ofClause | ofDependency
  · rcases List.mem_filterMap.mp ofClause with ⟨⟨clause, place⟩, clause_mem, same⟩
    simp only [clauseDeed?, Option.bind_eq_bind, Option.bind_eq_some_iff, Option.pure_def,
      Option.some.injEq, Relationship.deed.injEq] at same
    rcases same with ⟨actor, hasSubject, predicate, hasPredicate, words, verbs, objects, _, degree⟩
    exact ⟨clause, List.fst_mem_of_mem_zipIdx clause_mem, actor, predicate, hasSubject,
      hasPredicate, words, verbs, objects, degree.symm⟩
  · rcases List.mem_map.mp ofDependency with ⟨dependency, _, same⟩
    contradiction

theorem dependency_mem_ofTree {dependency : Dependency R}
    (dependency_mem : dependency ∈ tree.dependencies) :
    .dependency dependency.relation dependency.head dependency.dependent dependency.confidence ∈
      (ofTree tree tokens memory).relationships := by
  apply List.mem_append_right
  exact List.mem_map_of_mem dependency_mem

theorem exists_dependency_of_mem {relation head dependent : String} {confidence : R}
    (related : .dependency relation head dependent confidence ∈
      (ofTree tree tokens memory).relationships) :
    ∃ dependency ∈ tree.dependencies, dependency.relation = relation ∧ dependency.head = head ∧
      dependency.dependent = dependent ∧ dependency.confidence = confidence := by
  rcases List.mem_append.mp related with ofClause | ofDependency
  · rcases List.mem_filterMap.mp ofClause with ⟨⟨clause, place⟩, _, same⟩
    simp [clauseDeed?, Option.bind_eq_some_iff] at same
  · rcases List.mem_map.mp ofDependency with ⟨dependency, dependency_mem, same⟩
    rcases Relationship.dependency.inj same with ⟨relation, head, dependent, confidence⟩
    exact ⟨dependency, dependency_mem, relation, head, dependent, confidence⟩

/-- The semantic graph of a tree says what the tree says. -/
theorem tells_ofTree_iff {fact : Fact R} :
    (ofTree tree tokens memory).Tells fact ↔ tree.Tells fact := by
  constructor
  · intro tells
    cases tells with
    | performs deed named done =>
        rcases exists_clause_of_deed_mem deed with
          ⟨clause, clause_mem, subject, predicate, hasSubject, hasPredicate, rfl, rfl, _, rfl⟩
        exact .performs clause_mem hasSubject hasPredicate
    | affects deed done object_mem named =>
        rcases exists_clause_of_deed_mem deed with
          ⟨clause, clause_mem, subject, predicate, hasSubject, hasPredicate, rfl, rfl, rfl, _⟩
        rcases List.mem_map.mp object_mem with ⟨object, slot_mem, rfl⟩
        exact .affects clause_mem hasSubject hasPredicate slot_mem
    | depends related head_mem dependent_mem =>
        rcases exists_dependency_of_mem related with
          ⟨dependency, dependency_mem, rfl, rfl, rfl, rfl⟩
        exact .depends dependency_mem (fills_iff.mpr head_mem) (fills_iff.mpr dependent_mem)
  · intro tells
    cases tells with
    | @performs clause subject predicate clause_mem hasSubject hasPredicate =>
        rcases deed_mem_ofTree tokens memory clause_mem hasSubject hasPredicate with
          ⟨index, deed⟩
        refine .performs deed ?_ ?_
        · exact mem_names_ofTree.mpr ⟨clause, clause_mem, subject, by simp [hasSubject], rfl⟩
        · exact mem_verbs_ofTree.mpr ⟨clause, clause_mem, predicate, hasPredicate, rfl⟩
    | @affects clause subject predicate object clause_mem hasSubject hasPredicate object_mem =>
        rcases deed_mem_ofTree tokens memory clause_mem hasSubject hasPredicate with
          ⟨index, deed⟩
        refine .affects deed ?_ (List.mem_map_of_mem object_mem) ?_
        · exact mem_verbs_ofTree.mpr ⟨clause, clause_mem, predicate, hasPredicate, rfl⟩
        · exact mem_names_ofTree.mpr ⟨clause, clause_mem, object, by simp [object_mem], rfl⟩
    | depends dependency_mem head dependent =>
        exact .depends (dependency_mem_ofTree dependency_mem) (fills_iff.mp head)
          (fills_iff.mp dependent)

end OfTree

end SemanticGraph

namespace KnowledgeGraph

/-- An id is that of a node with a label. -/
def Labels (nodes : List (Node R)) (id : Int) (label : String) : Prop :=
  ∃ node ∈ nodes, node.id = id ∧ node.label = label

/-- The facts of a knowledge graph. -/
def States (graph : KnowledgeGraph R) (fact : Fact R) : Prop :=
  ∃ edge ∈ graph.edges, Labels graph.nodes edge.source fact.source ∧ edge.relation = fact.relation ∧
    Labels graph.nodes edge.target fact.target ∧ edge.confidence = fact.confidence

theorem states_of_edge {graph : KnowledgeGraph R} {source target : Int}
    {head relation dependent : String} {confidence : R}
    (edge_mem : ⟨source, target, relation, confidence⟩ ∈ graph.edges)
    (sourceLabel : Labels graph.nodes source head)
    (targetLabel : Labels graph.nodes target dependent) :
    graph.States ⟨head, relation, dependent, confidence⟩ :=
  ⟨_, edge_mem, sourceLabel, rfl, targetLabel, rfl⟩

section Labels

variable {nodes : List (Node R)} {node : Node R} {id : Int} {label other kind : String}

theorem Labels.unique (labelled : Labels nodes id label) (otherwise : Labels nodes id other)
    (unique : (nodes.map Node.id).Nodup) : label = other := by
  rcases labelled with ⟨node, node_mem, rfl, rfl⟩
  rcases otherwise with ⟨second, second_mem, same, rfl⟩
  rw [List.inj_on_of_nodup_map unique second_mem node_mem same]

theorem labels_of_any? (found : (LabelIndex.ofNodes nodes).any? label = some id) :
    Labels nodes id label := by
  rw [LabelIndex.any?_ofNodes, Option.map_eq_some_iff] at found
  rcases found with ⟨node, found, rfl⟩
  exact ⟨node, List.mem_of_find?_eq_some found, rfl, by simpa using List.find?_some found⟩

theorem labels_of_find? (found : (LabelIndex.ofNodes nodes).find? label kind = some id) :
    Labels nodes id label := by
  rw [LabelIndex.find?_ofNodes, Option.map_eq_some_iff] at found
  rcases found with ⟨node, found, rfl⟩
  have same : node.key = (label, kind) := by simpa using List.find?_some found
  exact ⟨node, List.mem_of_find?_eq_some found, rfl, (Prod.mk.inj same).1⟩

theorem exists_any?_iff :
    (∃ id, (LabelIndex.ofNodes nodes).any? label = some id) ↔ label ∈ nodes.map Node.label := by
  rw [← Option.isSome_iff_exists, LabelIndex.any?_ofNodes, Option.isSome_map, List.find?_isSome]
  simp

theorem exists_find?_iff :
    (∃ id, (LabelIndex.ofNodes nodes).find? label kind = some id) ↔
      (label, kind) ∈ nodes.map Node.key := by
  rw [← Option.isSome_iff_exists, LabelIndex.find?_ofNodes, Option.isSome_map, List.find?_isSome]
  simp

end Labels

section OfSemanticGraph

variable {graph : SemanticGraph R} {label : String}

theorem entity_mem_keys : (label, Node.entityKind) ∈ (nodesOf graph).map Node.key ↔
    label ∈ graph.names := by
  have different : Node.actionKind ≠ Node.entityKind := by decide
  rw [map_key_nodesOf, List.mem_append]
  simp [SemanticGraph.names, different]

theorem action_mem_keys : (label, Node.actionKind) ∈ (nodesOf graph).map Node.key ↔
    label ∈ graph.verbs := by
  have different : Node.entityKind ≠ Node.actionKind := by decide
  rw [map_key_nodesOf, List.mem_append]
  simp [SemanticGraph.verbs, different]

theorem mem_labels : label ∈ (nodesOf graph).map Node.label ↔
    label ∈ graph.names ∨ label ∈ graph.verbs := by
  have labels : (nodesOf graph).map Node.label = ((nodesOf graph).map Node.key).map Prod.fst := by
    rw [List.map_map]
    rfl
  rw [labels, map_key_nodesOf, List.map_append, List.mem_append, List.map_map, List.map_map]
  rfl

variable [Quantity R] {index : LabelIndex} {edge : Edge R} {fact : Fact R}

theorem mem_edgesOf_deed {subject action : String} {objects : List String} {clause : Int}
    {confidence : R} :
    edge ∈ edgesOf index (.deed subject action objects clause confidence) ↔
      ∃ deed, index.find? action Node.actionKind = some deed ∧
        ((∃ actor, index.find? subject Node.entityKind = some actor ∧
            edge = performs actor deed confidence) ∨
          ∃ object ∈ objects, ∃ id, index.find? object Node.entityKind = some id ∧
            edge = affects deed id) := by
  rw [edgesOf]
  cases index.find? action Node.actionKind with
  | none => simp
  | some deed =>
      constructor
      · intro edge_mem
        refine ⟨deed, rfl, ?_⟩
        rcases List.mem_append.mp edge_mem with ofActor | ofObject
        · rw [Option.mem_toList, Option.map_eq_some_iff] at ofActor
          rcases ofActor with ⟨actor, found, rfl⟩
          exact Or.inl ⟨actor, found, rfl⟩
        · rcases List.mem_map.mp ofObject with ⟨id, id_mem, rfl⟩
          rcases List.mem_filterMap.mp id_mem with ⟨object, object_mem, found⟩
          exact Or.inr ⟨object, object_mem, id, found, rfl⟩
      · rintro ⟨other, same, made⟩
        cases Option.some.inj same
        rcases made with ⟨actor, found, rfl⟩ | ⟨object, object_mem, id, found, rfl⟩
        · apply List.mem_append_left
          simp [found]
        · apply List.mem_append_right
          apply List.mem_map_of_mem
          exact List.mem_filterMap.mpr ⟨object, object_mem, found⟩

theorem mem_edgesOf_dependency {relation head dependent : String} {confidence : R} :
    edge ∈ edgesOf index (.dependency relation head dependent confidence) ↔
      ∃ source target, index.any? head = some source ∧ index.any? dependent = some target ∧
        edge = ⟨source, target, relation, confidence⟩ := by
  rw [edgesOf]
  cases index.any? head with
  | none => simp
  | some source =>
      cases index.any? dependent with
      | none => simp
      | some target => simp

/-- Each edge of a semantic graph joins two nodes and says one of the facts. -/
theorem exists_tells_of_edge_mem (edge_mem : edge ∈ (ofSemanticGraph graph).edges) :
    ∃ fact, Labels (nodesOf graph) edge.source fact.source ∧ edge.relation = fact.relation ∧
      Labels (nodesOf graph) edge.target fact.target ∧ edge.confidence = fact.confidence ∧
      graph.Tells fact := by
  rcases List.mem_flatMap.mp edge_mem with ⟨relationship, relationship_mem, edge_mem⟩
  cases relationship with
  | deed subject action objects clause confidence =>
      rcases mem_edgesOf_deed.mp edge_mem with ⟨deed, actionFound, made⟩
      have done := action_mem_keys.mp (exists_find?_iff.mp ⟨deed, actionFound⟩)
      rcases made with ⟨actor, found, rfl⟩ | ⟨object, object_mem, id, found, rfl⟩
      · have named := entity_mem_keys.mp (exists_find?_iff.mp ⟨actor, found⟩)
        exact ⟨_, labels_of_find? found, rfl, labels_of_find? actionFound, rfl,
          .performs relationship_mem named done⟩
      · have named := entity_mem_keys.mp (exists_find?_iff.mp ⟨id, found⟩)
        exact ⟨_, labels_of_find? actionFound, rfl, labels_of_find? found, rfl,
          .affects relationship_mem done object_mem named⟩
  | dependency relation head dependent confidence =>
      rcases mem_edgesOf_dependency.mp edge_mem with
        ⟨source, target, headFound, dependentFound, rfl⟩
      have head_mem := mem_labels.mp (exists_any?_iff.mp ⟨source, headFound⟩)
      have dependent_mem := mem_labels.mp (exists_any?_iff.mp ⟨target, dependentFound⟩)
      exact ⟨_, labels_of_any? headFound, rfl, labels_of_any? dependentFound, rfl,
        .depends relationship_mem head_mem dependent_mem⟩

/-- The knowledge graph of a semantic graph says what the semantic graph says. -/
theorem states_ofSemanticGraph_iff : (ofSemanticGraph graph).States fact ↔ graph.Tells fact := by
  constructor
  · rintro ⟨edge, edge_mem, source, relation, target, confidence⟩
    rcases exists_tells_of_edge_mem edge_mem with
      ⟨other, otherSource, otherRelation, otherTarget, otherConfidence, tells⟩
    -- An id has one label, so the fact of the edge is the one that was told.
    have sameSource := otherSource.unique source nodup_map_id_nodesOf
    have sameTarget := otherTarget.unique target nodup_map_id_nodesOf
    have same : other = fact := by
      cases fact
      cases other
      simp_all
    exact same ▸ tells
  · intro tells
    cases tells with
    | performs deed named done =>
        rcases exists_find?_iff.mpr (action_mem_keys.mpr done) with ⟨action, actionFound⟩
        rcases exists_find?_iff.mpr (entity_mem_keys.mpr named) with ⟨actor, found⟩
        refine states_of_edge (List.mem_flatMap.mpr ⟨_, deed, ?_⟩) (labels_of_find? found)
          (labels_of_find? actionFound)
        exact mem_edgesOf_deed.mpr ⟨action, actionFound, Or.inl ⟨actor, found, rfl⟩⟩
    | affects deed done object_mem named =>
        rcases exists_find?_iff.mpr (action_mem_keys.mpr done) with ⟨action, actionFound⟩
        rcases exists_find?_iff.mpr (entity_mem_keys.mpr named) with ⟨id, found⟩
        refine states_of_edge (List.mem_flatMap.mpr ⟨_, deed, ?_⟩) (labels_of_find? actionFound)
          (labels_of_find? found)
        exact mem_edgesOf_deed.mpr ⟨action, actionFound, Or.inr ⟨_, object_mem, id, found, rfl⟩⟩
    | depends dependency head_mem dependent_mem =>
        rcases exists_any?_iff.mpr (mem_labels.mpr head_mem) with ⟨source, headFound⟩
        rcases exists_any?_iff.mpr (mem_labels.mpr dependent_mem) with ⟨target, dependentFound⟩
        refine states_of_edge (List.mem_flatMap.mpr ⟨_, dependency, ?_⟩) (labels_of_any? headFound)
          (labels_of_any? dependentFound)
        exact mem_edgesOf_dependency.mpr ⟨source, target, headFound, dependentFound, rfl⟩

end OfSemanticGraph

end KnowledgeGraph

end SentenceGraph
