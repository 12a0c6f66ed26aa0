import Mathlib.Data.Finset.Card
import SentenceGraph.Proofs.Interpreting
import SentenceGraph.Proofs.Linking
import SentenceGraph.Proofs.Relating
import SentenceGraph.Proofs.Settling

/-!
# Graphs no larger than their sentences

Every node of the graph of a sentence comes from a token, and no two nodes from the same place: a
token fills at most one slot of the sentence, entities come from subjects and objects, and actions
come from predicates. The edges of deeds are charged to the entities of their clause, and those of
dependencies to the tokens that start them. So the graph has no more nodes than there are words, and
no more than twice as many edges. Merging leaves one node for each label and kind.
-/

namespace SentenceGraph

variable {R : Type} {tokens segment : List (Token R)} {token : Token R}

/-- A node that is made from a token: an entity from a nominal, or an action from a verbal. -/
structure Node.ComesFrom (node : Node R) (token : Token R) : Prop where
  label : node.label = token.word
  definition : Value.member? node.properties "definition" = some token.definition
  kind : (node.kind = entityKind ∧ token.isTagged PartOfSpeech.isNominal) ∨
    (node.kind = actionKind ∧ token.isTagged PartOfSpeech.isVerbal)

/-- The tokens of a segment that name entities: the subject, then the objects. -/
def Segment.entityTokens (segment : List (Token R)) : List (Token R) :=
  (subject? segment).toList ++ objects segment

/-- The tokens that the nodes of a sentence come from, in the order of the nodes. -/
def Clause.sources (tokens : List (Token R)) : List (Token R) :=
  (segments tokens).flatMap Segment.entityTokens ++
    (segments tokens).flatMap fun segment => (Segment.predicate? segment).toList

section Sources

namespace Clause

theorem mem_of_mem_sources (token_mem : token ∈ sources tokens) : token ∈ tokens := by
  simp only [sources, Segment.entityTokens, List.mem_append, List.mem_flatMap] at token_mem
  rcases token_mem with ⟨segment, segment_mem, isEntity⟩ | ⟨segment, segment_mem, isPredicate⟩
  · apply SemanticGraph.mem_of_mem_parts segment_mem
    rcases isEntity with isSubject | isObject
    · simp only [List.mem_append, isSubject, true_or]
    · simp only [List.mem_append, isObject, true_or, or_true]
  · apply SemanticGraph.mem_of_mem_parts segment_mem
    simp only [List.mem_append, isPredicate, true_or, or_true]

/-- No two nodes come from tokens with one place. -/
theorem nodup_map_index_sources (placed : Token.Placed tokens) :
    ((sources tokens).map Token.index).Nodup := by
  have slots := nodup_map_position placed
  rw [ofTokens_eq_map_segments, List.flatMap_map] at slots
  simp only [slots_ofSegment] at slots
  rw [← List.map_flatMap, List.map_map] at slots
  have gathered := List.flatMap_append_perm (segments tokens) Segment.entityTokens
    fun segment => (Segment.predicate? segment).toList
  have included : ((segments tokens).flatMap fun segment =>
      Segment.entityTokens segment ++ (Segment.predicate? segment).toList).Subperm
      ((segments tokens).flatMap fun segment =>
        (Segment.subject? segment).toList ++ (Segment.predicate? segment).toList ++
          Segment.objects segment ++ Segment.modifiers segment) := by
    refine ⟨(segments tokens).flatMap fun segment =>
      (Segment.subject? segment).toList ++ (Segment.predicate? segment).toList ++
        Segment.objects segment, ?_, ?_⟩
    · apply List.Perm.flatMap_left
      intro segment _
      rw [Segment.entityTokens, List.append_assoc, List.append_assoc]
      exact List.perm_append_comm.append_left _
    · apply List.Sublist.flatMap_right
      intro segment _
      exact List.sublist_append_left _ _
  rcases gathered.subperm.trans included with ⟨sources, same, sublist⟩
  exact (same.map Token.index).nodup_iff.mp (slots.sublist (sublist.map Token.index))

theorem length_sources_le (placed : Token.Placed tokens) :
    (sources tokens).length ≤ tokens.length := by
  have inside : (sources tokens).map Token.index ⊆ tokens.map Token.index :=
    List.map_subset _ fun _ => mem_of_mem_sources
  simpa using ((nodup_map_index_sources placed).subperm inside).length_le

end Clause

namespace Segment

theorem isNominal_of_mem_entityTokens (token_mem : token ∈ entityTokens segment) :
    token.isTagged PartOfSpeech.isNominal = true := by
  rcases List.mem_append.mp token_mem with isSubject | isObject
  · have tagged := List.find?_some (Option.mem_toList.mp isSubject)
    exact tagged
  · rcases List.mem_map.mp isObject with ⟨pair, pair_mem, rfl⟩
    have noun : IsObject segment pair.1 pair.2 := by simpa using List.of_mem_filter pair_mem
    exact Token.nominal_of_noun noun.1

theorem isVerbal_of_predicate? (isPredicate : predicate? segment = some token) :
    token.isTagged PartOfSpeech.isVerbal = true := by
  have tagged := List.find?_some isPredicate
  exact tagged

end Segment

end Sources

theorem forall₂_zipIdx {Item Source Result : Type} {relation : Result → Source → Prop}
    {make : Item × Nat → Result} {items : List Item} {sources : List Source}
    (related : List.Forall₂ (fun item source => ∀ place, relation (make (item, place)) source) items
      sources) (first : Nat) :
    List.Forall₂ relation ((items.zipIdx first).map make) sources := by
  induction related generalizing first with
  | nil => exact .nil
  | cons here further inductionHypothesis =>
      exact .cons (here first) (inductionHypothesis (first + 1))

theorem exists_of_forall₂ {Item Source : Type} {relation : Item → Source → Prop} {item : Item}
    {items : List Item} {sources : List Source} (related : List.Forall₂ relation items sources)
    (item_mem : item ∈ items) : ∃ source ∈ sources, relation item source := by
  induction related with
  | nil => simp at item_mem
  | cons here further inductionHypothesis =>
      rcases List.mem_cons.mp item_mem with rfl | deeper
      · exact ⟨_, List.mem_cons_self, here⟩
      · rcases inductionHypothesis deeper with ⟨source, source_mem, there⟩
        exact ⟨source, List.mem_cons_of_mem _ source_mem, there⟩

section Nodes

variable [Quantity R]

omit [Quantity R] in
theorem Node.ofEntity_comesFrom (nominal : token.isTagged PartOfSpeech.isNominal = true)
    (role : String) (known unknown : R) (clause id : Nat) :
    (ofEntity (Segment.entityOf role known unknown clause token) id).ComesFrom token :=
  ⟨rfl, rfl, Or.inl ⟨rfl, nominal⟩⟩

theorem Segment.entities_comeFrom (segment : List (Token R)) (clause : Nat) :
    List.Forall₂ (fun entity token => ∀ id : Nat, (Node.ofEntity entity id).ComesFrom token)
      (entities segment clause) (entityTokens segment) := by
  apply List.rel_append
  · rw [List.forall₂_map_left_iff, List.forall₂_same]
    intro token isSubject id
    apply Node.ofEntity_comesFrom
    exact isNominal_of_mem_entityTokens (List.mem_append_left _ isSubject)
  · rw [List.forall₂_map_left_iff, List.forall₂_same]
    intro token isObject id
    apply Node.ofEntity_comesFrom
    exact isNominal_of_mem_entityTokens (List.mem_append_right _ isObject)

theorem Segment.action?_comesFrom (segment : List (Token R)) (clause : Nat) :
    List.Forall₂ (fun action token => ∀ id : Nat, (Node.ofAction action id).ComesFrom token)
      (action? segment clause).toList (predicate? segment).toList := by
  rw [action?, Option.toList_map, List.forall₂_map_left_iff, List.forall₂_same]
  intro token isPredicate id
  exact ⟨rfl, rfl, Or.inr ⟨rfl, isVerbal_of_predicate? (Option.mem_toList.mp isPredicate)⟩⟩

namespace SemanticGraph.InStep

variable {graph : SemanticGraph R}

theorem nodes_comeFrom (inStep : graph.InStep tokens) :
    List.Forall₂ Node.ComesFrom (KnowledgeGraph.nodesOf graph) (Clause.sources tokens) := by
  apply List.rel_append
  · apply forall₂_zipIdx
    rw [inStep.entities, List.flatMap_def, List.flatMap_def]
    apply List.rel_flatten
    apply forall₂_zipIdx
    rw [List.forall₂_map_right_iff, List.forall₂_same]
    intro segment _ clause
    exact Segment.entities_comeFrom segment clause
  · apply forall₂_zipIdx
    rw [inStep.actions, List.filterMap_eq_flatMap_toList, List.flatMap_def, List.flatMap_def]
    apply List.rel_flatten
    apply forall₂_zipIdx
    rw [List.forall₂_map_right_iff, List.forall₂_same]
    intro segment _ clause
    apply (Segment.action?_comesFrom segment clause).imp
    intro action token comesFrom place
    exact comesFrom (graph.entities.length + place)

end SemanticGraph.InStep

end Nodes

section Edges

variable [Quantity R]

/-- The relations of deeds. -/
def deedRelations : List String := ["performs", "affects"]

/-- The relations of dependencies. -/
def dependencyRelations : List String := ["nsubj", "dobj", "amod", "conj"]

theorem Dependency.relation_mem {dependency : Dependency R}
    (dependency_mem : dependency ∈ ofTokens tokens) :
    dependency.relation ∈ dependencyRelations := by
  rcases mem_ofTokens_iff.mp dependency_mem with ⟨_, _, _, _, starts⟩
  cases starts with
  | subject | object | modifier | conjunction =>
      simp [dependencyRelations, subjectOf, objectOf, modifierOf, conjunctsOf]

namespace KnowledgeGraph

variable {index : LabelIndex} {relationship : Relationship R} {clause : Nat} {edge : Edge R}

/-- The edges of a deed are charged to the entities of its clause. -/
theorem length_edgesOf_deed? (deed : Segment.deed? segment clause = some relationship) :
    (edgesOf index relationship).length ≤ (Segment.entities segment clause).length := by
  rw [Segment.deed?] at deed
  split at deed
  · rename_i subject predicate isSubject isPredicate
    cases deed
    rw [edgesOf]
    split
    · rename_i action _
      have actors := Option.length_toList_le (o := (index.find? subject.word Node.entityKind).map
        (performs · action (0.8 : R)))
      have affected := List.length_filterMap_le (index.find? · Node.entityKind)
        ((Segment.objects segment).map Token.word)
      simp only [Segment.entities, isSubject, List.length_append, List.length_map,
        Option.toList_some, List.length_singleton] at affected ⊢
      omega
    · simp
  · contradiction

theorem relation_mem_of_deed? (deed : Segment.deed? segment clause = some relationship)
    (edge_mem : edge ∈ edgesOf index relationship) : edge.relation ∈ deedRelations := by
  rw [Segment.deed?] at deed
  split at deed
  · cases deed
    rcases mem_edgesOf_deed.mp edge_mem with ⟨_, _, ⟨_, _, rfl⟩ | ⟨_, _, _, _, rfl⟩⟩
    · simp [performs, deedRelations]
    · simp [affects, deedRelations]
  · contradiction

theorem length_edgesOf_dependency (dependency : Dependency R) :
    (edgesOf index (.ofDependency dependency)).length ≤ 1 := by
  rw [Relationship.ofDependency, edgesOf]
  split
  · simp
  · simp

/-- What is made from each item is charged to something else that the item gives. -/
theorem length_flatMap_le {Item Result Charged : Type} {items : List Item}
    {make : Item → List Result} {charged : Item → List Charged}
    (each : ∀ item ∈ items, (make item).length ≤ (charged item).length) :
    (items.flatMap make).length ≤ (items.flatMap charged).length := by
  induction items with
  | nil => simp
  | cons item items inductionHypothesis =>
      rw [List.forall_mem_cons] at each
      have further := inductionHypothesis each.2
      have here := each.1
      simp only [List.flatMap_cons, List.length_append]
      omega

theorem length_nodesOf_le {graph : SemanticGraph R} (inStep : graph.InStep tokens)
    (placed : Token.Placed tokens) : (nodesOf graph).length ≤ tokens.length :=
  inStep.nodes_comeFrom.length_eq.trans_le (Clause.length_sources_le placed)

/-- The edges are those of the deeds and those of the dependencies, and neither are more than there
are tokens. -/
theorem exists_edges_split {graph : SemanticGraph R} (inStep : graph.InStep tokens)
    (placed : Token.Placed tokens) :
    ∃ deeds dependencies, (ofSemanticGraph graph).edges = deeds ++ dependencies ∧
      (∀ edge ∈ deeds, edge.relation ∈ deedRelations) ∧
      (∀ edge ∈ dependencies, edge.relation ∈ dependencyRelations) ∧
      deeds.length ≤ tokens.length ∧ dependencies.length ≤ tokens.length := by
  refine ⟨_, _, (congrArg _ inStep.relationships).trans List.flatMap_append, ?_, ?_, ?_, ?_⟩
  · intro edge edge_mem
    rcases List.mem_flatMap.mp edge_mem with ⟨relationship, deed_mem, edge_mem⟩
    rcases List.mem_filterMap.mp deed_mem with ⟨numbered, _, deed⟩
    exact relation_mem_of_deed? deed edge_mem
  · intro edge edge_mem
    rw [List.flatMap_map] at edge_mem
    rcases List.mem_flatMap.mp edge_mem with ⟨dependency, dependency_mem, edge_mem⟩
    rcases mem_edgesOf_dependency.mp edge_mem with ⟨_, _, _, _, rfl⟩
    exact Dependency.relation_mem dependency_mem
  · have entities : graph.entities.length ≤ (nodesOf graph).length := by simp [nodesOf]
    apply le_trans _ (entities.trans (length_nodesOf_le inStep placed))
    rw [inStep.entities, List.filterMap_eq_flatMap_toList, List.flatMap_assoc]
    apply length_flatMap_le
    intro numbered _
    cases deed : Segment.deed? numbered.1 numbered.2 with
    | none => simp [deed]
    | some relationship => simpa [deed] using length_edgesOf_deed? deed
  · have charged : ((Dependency.ofTokens tokens).flatMap fun dependency =>
        edgesOf (.ofNodes (nodesOf graph)) (.ofDependency dependency)).length ≤
        ((Dependency.ofTokens tokens).flatMap fun dependency => [dependency]).length :=
      length_flatMap_le fun dependency _ => length_edgesOf_dependency dependency
    rw [List.flatMap_singleton', ← List.flatMap_map] at charged
    exact charged.trans (Dependency.length_ofTokens_le tokens)

end KnowledgeGraph

end Edges

section Texts

variable [Quantity R]

theorem Tagging.word_of_getElem?_tokens {words : List String} {entries : List (Option (Entry R))}
    {place : Nat} (found : (Tagging.tokens words entries)[place]? = some token) :
    words[place]? = some token.word := by
  rw [Tagging.tokens, List.getElem?_map, List.getElem?_zipIdx, Option.map_map,
    Option.map_eq_some_iff] at found
  rcases found with ⟨⟨word, entry⟩, paired, rfl⟩
  exact (List.getElem?_zip_eq_some.mp paired).1

theorem Tagging.length_tokens_le (words : List String) (entries : List (Option (Entry R))) :
    (Tagging.tokens words entries).length ≤ words.length := by
  simp [Tagging.tokens]

namespace KnowledgeGraph

/-- Every node has the word at a place, and no two nodes have one place. -/
theorem exists_places {words : List String} {entries : List (Option (Entry R))}
    {graph : SemanticGraph R} (inStep : graph.InStep (Tagging.tokens words entries)) :
    ∃ places : List Nat, places.Nodup ∧
      List.Forall₂ (fun node place => words[place]? = some node.label ∧
        ∃ token, (Tagging.tokens words entries)[place]? = some token ∧ node.ComesFrom token)
        (nodesOf graph) places := by
  have placed := Tagging.placed_tokens words entries
  have distinct := Clause.nodup_map_index_sources placed
  have nodes := inStep.nodes_comeFrom
  have located : ∀ token ∈ Clause.sources (Tagging.tokens words entries),
      ∃ place : Nat, token.index = place ∧
        (Tagging.tokens words entries)[place]? = some token := by
    intro token token_mem
    rcases List.getElem?_of_mem (Clause.mem_of_mem_sources token_mem) with ⟨place, found⟩
    exact ⟨place, placed place token found, found⟩
  generalize Clause.sources (Tagging.tokens words entries) = sources at distinct nodes located
  refine ⟨sources.map (·.index.toNat), ?_, ?_⟩
  · apply List.Nodup.of_map (fun place : Nat => (place : Int))
    have same : (sources.map (·.index.toNat)).map (fun place : Nat => (place : Int)) =
        sources.map Token.index := by
      rw [List.map_map]
      apply List.map_congr_left
      intro token token_mem
      rcases located token token_mem with ⟨place, index, _⟩
      simp [index]
    rw [same]
    exact distinct
  · rw [List.forall₂_map_right_iff]
    have sourced := (List.forall₂_and_left _ _).mpr ⟨located, nodes.flip⟩
    apply sourced.flip.imp
    rintro node token ⟨⟨place, index, found⟩, comesFrom⟩
    rw [index, Int.toNat_natCast, comesFrom.label]
    exact ⟨Tagging.word_of_getElem?_tokens found, token, found, comesFrom⟩

namespace Merge.Summarizes

variable {merge : Merge R} {nodes : List (Node R)}

omit [Quantity R] in
theorem mem_map_key_iff (summarizes : merge.Summarizes nodes) {key : String × String} :
    key ∈ merge.nodes.map Node.key ↔ key ∈ nodes.map Node.key := by
  have absent : merge.nodes.find? (·.key == key) = none ↔ key ∉ nodes.map Node.key :=
    summarizes.find?_key_eq_none_iff
  rw [← not_iff_not, ← absent, List.find?_eq_none]
  simp

omit [Quantity R] in
/-- Merging leaves as many nodes as there are keys. -/
theorem length_nodes_eq_card (summarizes : merge.Summarizes nodes) :
    merge.nodes.length = (nodes.map Node.key).toFinset.card := by
  have same : (merge.nodes.map Node.key).toFinset = (nodes.map Node.key).toFinset := by
    ext key
    rw [List.mem_toFinset, List.mem_toFinset, summarizes.mem_map_key_iff]
  rw [← same, List.toFinset_card_of_nodup summarizes.nodup_map_key, List.length_map]

end Merge.Summarizes

/-- Where confidences are numbers, a graph can be reduced, and gets no larger. -/
theorem exists_smaller {graph : KnowledgeGraph R}
    (measured : ∀ node ∈ graph.nodes, node.IsMeasured) :
    ∃ reduced, graph.reduce = .ok reduced ∧
      reduced.nodes.length = (graph.nodes.map Node.key).toFinset.card ∧
      (∀ node ∈ reduced.nodes, node.key ∈ graph.nodes.map Node.key) ∧
      reduced.edges.length ≤ graph.edges.length := by
  rcases Merge.exists_ofNodes measured with ⟨merge, merged⟩
  rcases exists_reduce merged with ⟨reduced, succeeds, nodes, edges⟩
  have summarizes := Merge.summarizes_of_ofNodes merged
  refine ⟨reduced, succeeds, ?_, ?_, ?_⟩
  · rw [nodes, summarizes.length_nodes_eq_card]
  · intro node node_mem
    rw [nodes] at node_mem
    exact summarizes.mem_map_key_iff.mp (List.mem_map_of_mem node_mem)
  · have distinct := List.length_filter_le (!·.isWeak)
      (Edge.dropRepeated [] (graph.edges.map merge.redirect)).1
    rw [← edges, Edge.dropRepeated_fst] at distinct
    apply distinct.trans
    apply (List.length_filter_le _ _).trans
    apply firstsBy_sublist.length_le.trans
    simp

/-- The graph of a text has no invented label and does not blow up, whatever the dictionary and the
memory hold. Each node has the word at a place of the text, and no two nodes have one place. There
are no more nodes than words, no more edges of deeds than words, and no more edges of dependencies
than words. Reducing the graph leaves one node for each label and kind, with words for labels, and
no more edges than before. -/
theorem ofSemanticGraph_stays_small (text : String) (entries : List (Option (Entry R)))
    (memory : ContextMemory R) :
    let words := Text.words text
    let tokens := Tagging.tokens words entries
    let graph := ofSemanticGraph (.ofTree (.ofTokens tokens) tokens memory)
    (∀ node ∈ graph.nodes, node.label ∈ words) ∧
      (∃ places : List Nat, places.Nodup ∧
        List.Forall₂ (fun node place => words[place]? = some node.label ∧
          ∃ token, tokens[place]? = some token ∧ node.ComesFrom token) graph.nodes places) ∧
      graph.nodes.length ≤ words.length ∧
      (∃ deeds dependencies, graph.edges = deeds ++ dependencies ∧
        (∀ edge ∈ deeds, edge.relation ∈ deedRelations) ∧
        (∀ edge ∈ dependencies, edge.relation ∈ dependencyRelations) ∧
        deeds.length ≤ words.length ∧ dependencies.length ≤ words.length) ∧
      graph.edges.length ≤ 2 * words.length ∧
      ∃ reduced, graph.reduce = .ok reduced ∧
        reduced.nodes.length = (graph.nodes.map Node.key).toFinset.card ∧
        (∀ node ∈ reduced.nodes, node.label ∈ words) ∧
        reduced.edges.length ≤ graph.edges.length := by
  intro words tokens graph
  have placed : Token.Placed tokens := Tagging.placed_tokens words entries
  have inStep := SemanticGraph.inStep_ofTree placed memory
  have few : tokens.length ≤ words.length := Tagging.length_tokens_le words entries
  rcases exists_places inStep with ⟨places, distinct, located⟩
  rcases exists_edges_split inStep placed with
    ⟨deeds, dependencies, split, deed, dependency, fewDeeds, fewDependencies⟩
  have measured : ∀ node ∈ graph.nodes, node.IsMeasured := fun _ => isMeasured_of_mem_nodesOf
  rcases exists_smaller measured with ⟨reduced, succeeds, merged, kept, fewer⟩
  have labels : ∀ node ∈ graph.nodes, node.label ∈ words := by
    intro node node_mem
    rcases exists_of_forall₂ located node_mem with ⟨place, _, found, _⟩
    exact List.mem_of_getElem? found
  refine ⟨labels, ⟨places, distinct, located⟩, (length_nodesOf_le inStep placed).trans few,
    ⟨deeds, dependencies, split, deed, dependency, fewDeeds.trans few, fewDependencies.trans few⟩,
    ?_, reduced, succeeds, merged, ?_, fewer⟩
  · have both : graph.edges.length = deeds.length + dependencies.length :=
      (congrArg List.length split).trans List.length_append
    omega
  · intro node node_mem
    rcases List.mem_map.mp (kept node node_mem) with ⟨original, original_mem, same⟩
    have sameLabel : original.label = node.label := congrArg Prod.fst same
    rw [← sameLabel]
    exact labels original original_mem

end KnowledgeGraph

end Texts

end SentenceGraph
